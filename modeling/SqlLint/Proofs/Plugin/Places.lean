import SqlLint.Proofs.Plugin.Loading
import SqlLint.Proofs.Regex.Matches
import SqlLint.Proofs.Script.Boundaries

/-!
# Where pattern rules report

A pattern rule finds its matches in the masked text and shows them at places of the text. Blanking
keeps bytes and lines, so the offset of a match leads to the right line, and to the right column if
it is on a boundary of the text. That is so wherever no comment covers the start of a match. Inside
of a comment a match may start at a space that stands for the second or a later byte of a character;
such an offset has no column of its own and is shown in column one of its line.
-/

namespace SqlLint

open String.Pos.Raw (IsValid)

namespace Plugin

/-- The rules that a run loads find matches that lie in the text, one after the other. -/
theorem ordered_of_loadAll {fs : FileSystem} {known : Registry} {plugins : List PluginReference}
    {rules : List PatternRule} (loaded : loadAll fs known plugins = .ok rules) :
    ∀ rule ∈ rules, ∀ text, Match.Ordered text.length (rule.find text) := by
  obtain ⟨_, manifests, _, described⟩ := loadAll_eq_ok_iff.mp loaded
  intro rule member text
  obtain ⟨entry, describes⟩ := exists_entry_of_mem described member
  obtain ⟨regex, _, same⟩ := describes.pattern
  rw [same]
  exact regex.ordered_findAll text

end Plugin

namespace PatternRule

section Offsets

variable {s : Script} {m n : Match}

theorem byteLength_eq (text : List Char) : byteLength text = (utf8 text).length := by
  have add (text : List Char) (n : Nat) :
      text.foldl (fun n c => n + c.utf8Size) n = n + (utf8 text).length := by
    induction text generalizing n with
    | nil => simp
    | cons c rest ih => rw [List.foldl_cons, ih, length_utf8_cons, Nat.add_assoc]
  rw [byteLength, add, Nat.zero_add]

theorem isValid_offset (s : Script) (m : Match) :
    IsValid (String.ofList s.masked) ⟨offset s m⟩ :=
  isValid_iff_exists_append.mpr
    ⟨_, _, (List.take_append_drop m.start s.masked).symm, byteLength_eq _⟩

/-- A match further on starts at a larger offset. -/
theorem offset_lt (later : m.start < n.start) (inside : n.start ≤ s.masked.length) :
    offset s m < offset s n := by
  rw [offset, offset, byteLength_eq, byteLength_eq]
  exact length_utf8_take_lt later inside

end Offsets

/-- Whether a finding stands at the place of a match, its start rounded down to a boundary. -/
def StandsAt (s : Script) (m : Match) (f : Finding) : Prop :=
  f.line = (s.placeAt (offset s m)).line ∧ f.column = (s.placeAt (offset s m)).column

section Findings

variable {r : PatternRule} {s : Script} {pieces : List (LexemeKind × List Char)} {m : Match}

/-- The finding that a match is. -/
def findingOf (r : PatternRule) (s : Script) (m : Match) : Finding :=
  r.toRule.finding s (r.remark s m)

theorem check_of_appliesTo (admitted : r.appliesTo s.relativePath) :
    r.toRule.check s = (r.find s.masked).map (r.findingOf s) := by
  have inspected : r.toRule.inspect s = (r.find s.masked).map (r.remark s) := if_pos admitted
  rw [Rule.check, inspected, List.map_map]
  rfl

theorem check_of_not_appliesTo (barred : r.appliesTo s.relativePath = false) :
    r.toRule.check s = [] := by
  have inspected : r.toRule.inspect s = [] := if_neg (by simp [barred])
  rw [Rule.check, inspected, List.map_nil]

theorem line_findingOf : (r.findingOf s m).line = (s.placeAt (offset s m)).line :=
  congrArg Prod.fst (s.locate_eq_placeAt (offset s m))

theorem standsAt_of_isValid (valid : IsValid s.text ⟨offset s m⟩) :
    StandsAt s m (r.findingOf s m) :=
  ⟨line_findingOf, congrArg Prod.snd (Script.locate_of_isValid valid)⟩

theorem column_of_not_isValid (inside : ¬ IsValid s.text ⟨offset s m⟩) :
    (r.findingOf s m).column = 1 :=
  congrArg Prod.snd (Script.locate_of_not_isValid inside)

/-- A match starts on a boundary of the text if no comment covers its start, or if the comments are
plain. -/
theorem isValid_offset_of_clear (h : s.Laid pieces)
    (clear : s.hides (offset s m) = false ∨ s.PlainComments) : IsValid s.text ⟨offset s m⟩ := by
  rcases clear with shown | plain
  · exact h.isValid_of_not_hides (isValid_offset s m) shown
  · exact h.isValid_of_plainComments plain (isValid_offset s m)

end Findings

/-- A pattern rule reports each match, in order, with the message and severity of the rule. The line
is that of the place of the match in the text. The column is that of the place, too, if the match
starts on a boundary, as it does wherever no comment covers its start and whenever the comments are
plain; otherwise it is one. Matches that are not empty start at increasing offsets, and if these are
boundaries, the findings stand at increasing places. -/
theorem reports_each_match {path root text : String} {level : UInt32} {s : Script}
    (r : PatternRule) (made : Script.ofText path root level text = .ok s)
    (admitted : r.appliesTo s.relativePath)
    (ordered : Match.Ordered s.masked.length (r.find s.masked)) :
    List.Forall₂ (fun m f =>
        f.file = s.path ∧ f.rule = r.id ∧ f.severity = r.severity ∧ f.message = r.message ∧
        f.line = (s.placeAt (offset s m)).line ∧
        (IsValid s.text ⟨offset s m⟩ → f.column = (s.placeAt (offset s m)).column) ∧
        (¬ IsValid s.text ⟨offset s m⟩ → f.column = 1))
      (r.find s.masked) (r.toRule.check s) ∧
    (∀ m ∈ r.find s.masked, s.hides (offset s m) = false ∨ s.PlainComments →
      IsValid s.text ⟨offset s m⟩) ∧
    ((∀ m ∈ r.find s.masked, m.start < m.stop) →
      (r.find s.masked).Pairwise (fun m n => offset s m < offset s n) ∧
      ((∀ m ∈ r.find s.masked, IsValid s.text ⟨offset s m⟩) →
        (r.toRule.check s).Pairwise fun f g =>
          f.line < g.line ∨ f.line = g.line ∧ f.column < g.column)) := by
  obtain ⟨pieces, laid⟩ := Script.exists_laid made
  rw [check_of_appliesTo admitted]
  refine ⟨?_, fun m _ clear => isValid_offset_of_clear laid clear, ?_⟩
  · rw [List.forall₂_map_right_iff, List.forall₂_same]
    intro m _
    exact ⟨rfl, rfl, rfl, rfl, line_findingOf, fun valid => (standsAt_of_isValid valid).2,
      column_of_not_isValid⟩
  · intro full
    have increasing : (r.find s.masked).Pairwise fun m n => offset s m < offset s n :=
      (ordered.pairwise_start full).imp_of_mem fun _ last later =>
        offset_lt later (ordered.start_le last)
    refine ⟨increasing, fun valid => ?_⟩
    rw [List.pairwise_map]
    refine increasing.imp_of_mem ?_
    intro m n first last later
    have precedes := Script.placeAt_precedes (valid m first) (valid n last) later
    obtain ⟨line, column⟩ := standsAt_of_isValid (r := r) (valid m first)
    obtain ⟨line', column'⟩ := standsAt_of_isValid (r := r) (valid n last)
    rwa [line, column, line', column']

/-- A rule that looks for a regular expression in all files. -/
def ofRegex (regex : Regex) : PatternRule where
  id := "r1"
  title := "m"
  category := .errorProne
  severity := .error
  find := regex.findAll
  message := "m"
  files := []

/-- A plugin with one rule that looks for the letter `a`. -/
def housed : FileSystem where
  kind _ := .file
  read _ := .ok (Plugin.manifestText ["r1"])
  walk _ := .error .notFound

theorem loadAll_housed {regex : Regex} (read : Regex.ofText? "a" = some regex) :
    Plugin.loadAll housed .empty [⟨"p", "p.toml"⟩] = .ok [ofRegex regex] := by
  have manifest : Plugin.HasManifest housed ⟨"p", "p.toml"⟩
      ⟨"p", none, [Plugin.plainEntry "r1"]⟩ := ⟨rfl, _, rfl, by decide +kernel⟩
  have describes : Plugin.Describes (Plugin.plainEntry "r1") (ofRegex regex) :=
    ⟨Plugin.isRuleId_iff.mp rfl, rfl, rfl, rfl, rfl, ⟨regex, read, rfl⟩, .head _, .nil⟩
  have fresh : Plugin.Fresh .empty [ofRegex regex] :=
    Plugin.fresh_cons.mpr ⟨Bool.false_ne_true, Plugin.fresh_nil⟩
  exact Plugin.loadAll_eq_ok_iff.mpr ⟨fresh, _, .cons manifest .nil, .cons describes .nil⟩

/-- Two matches of a loaded rule behind a comment of wide characters, the second one on the next
line. -/
theorem reports_each_match_of_twoLines : ∃ regex s,
    Plugin.loadAll housed .empty [⟨"p", "p.toml"⟩] = .ok [ofRegex regex] ∧
    Script.ofText "a.sql" "" 120 "ü/*日*/a\n a" = .ok s ∧
    ((ofRegex regex).find s.masked).map (offset s) = [9, 12] ∧
    List.Forall₂ (StandsAt s) ((ofRegex regex).find s.masked) ((ofRegex regex).toRule.check s) ∧
    ((ofRegex regex).toRule.check s).Pairwise (fun f g =>
      f.line < g.line ∨ f.line = g.line ∧ f.column < g.column) := by
  obtain ⟨regex, s, read, made, found, offsets, shown⟩ : ∃ regex s,
      Regex.ofText? "a" = some regex ∧ Script.ofText "a.sql" "" 120 "ü/*日*/a\n a" = .ok s ∧
      (ofRegex regex).find s.masked = [⟨8, 9⟩, ⟨11, 12⟩] ∧
      ((ofRegex regex).find s.masked).map (offset s) = [9, 12] ∧
      [9, 12].all (!s.hides ·) := by
    refine ⟨_, _, by cbv, by cbv, ?_, ?_, ?_⟩ <;> cbv
  have loaded := loadAll_housed read
  have ordered := Plugin.ordered_of_loadAll loaded _ (List.mem_singleton_self _)
  obtain ⟨reported, valid, increasing⟩ := reports_each_match (ofRegex regex) made rfl (ordered _)
  have clear : ∀ m ∈ (ofRegex regex).find s.masked, IsValid s.text ⟨offset s m⟩ := by
    intro m member
    have listed : offset s m ∈ [9, 12] := by
      rw [← offsets]
      exact List.mem_map_of_mem member
    exact valid m member (.inl (by simpa using List.all_eq_true.mp shown _ listed))
  have full : ∀ m ∈ (ofRegex regex).find s.masked, m.start < m.stop := by
    rw [found]
    decide
  refine ⟨regex, s, loaded, made, offsets, ?_, (increasing full).2 clear⟩
  rw [List.forall₂_iff_get] at reported ⊢
  refine ⟨reported.1, fun i first last => ?_⟩
  obtain ⟨_, _, _, _, line, column, _⟩ := reported.2 i first last
  exact ⟨line, column (clear _ (List.get_mem _ _))⟩

/-- A match can start inside of a comment character. Its finding stands on the right line, but not
in the column of any character it matches or follows. -/
theorem misplaces_match_of_wideComment : ∃ regex s, Regex.ofText? " {3}x" = some regex ∧
    Script.ofText "a.sql" "" 120 "a/*日*/x" = .ok s ∧
    (ofRegex regex).appliesTo s.relativePath ∧
    Match.Ordered s.masked.length ((ofRegex regex).find s.masked) ∧
    (ofRegex regex).toRule.check s = [⟨"a.sql", 1, 1, "r1", .error, "m"⟩] ∧
    ((ofRegex regex).find s.masked).map (fun m => s.placeAt (offset s m)) = [⟨3, 1, 4⟩] ∧
    ¬ List.Forall₂ (StandsAt s) ((ofRegex regex).find s.masked)
      ((ofRegex regex).toRule.check s) := by
  have found : ∃ regex s, Regex.ofText? " {3}x" = some regex ∧
      Script.ofText "a.sql" "" 120 "a/*日*/x" = .ok s ∧
      (ofRegex regex).find s.masked = [⟨5, 9⟩] ∧
      (ofRegex regex).toRule.check s = [⟨"a.sql", 1, 1, "r1", .error, "m"⟩] ∧
      s.placeAt (offset s ⟨5, 9⟩) = ⟨3, 1, 4⟩ := by
    refine ⟨_, _, by cbv, by cbv, ?_, ?_, ?_⟩
    · cbv
    · cbv
    · cbv
  obtain ⟨regex, s, read, made, found, reported, place⟩ := found
  refine ⟨regex, s, read, made, rfl, regex.ordered_findAll _, reported, ?_, ?_⟩
  · rw [found, List.map_singleton, place]
  · rw [found, reported]
    intro stands
    cases stands with
    | cons stands _ =>
      have := stands.2
      rw [place] at this
      cases this

end PatternRule

end SqlLint
