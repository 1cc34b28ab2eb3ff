import SqlLint.Proofs.Rules.Confinement
import SqlLint.Proofs.Script.Places

/-!
# Findings depend on the token sequence alone

Two scripts whose token sequences are alike get corresponding findings from all built-in rules but
the two that look at spelling itself. Layout, comments, what numbers, variables and string literals
say, where the file lies and the compatibility level have no influence.
-/

namespace SqlLint

/-- Whether a finding stands where the token of a script with an index begins. -/
def Finding.StandsAt (f : Finding) (s : Script) (i : Nat) : Prop :=
  ∃ t, s.tokens[i]? = some t ∧ f.line = t.start.line ∧ f.column = t.start.column

namespace Confined

variable {flags : List Token → List Flag} {tokens others : List Token}

theorem map_shown_eq (h : Confined flags) (alike : List.Forall₂ Token.Alike tokens others) :
    (flags tokens).map Flag.shown = (flags others).map Flag.shown := by
  rw [← h.canonical tokens, forall₂_alike_iff.mp alike, h.canonical others]

theorem index_eq (h : Confined flags) (alike : List.Forall₂ Token.Alike tokens others) :
    (flags tokens).map (·.site.index) = (flags others).map (·.site.index) := by
  simpa [Flag.shown, Function.comp_def] using congrArg (·.map Prod.fst) (h.map_shown_eq alike)

theorem message_eq (h : Confined flags) (alike : List.Forall₂ Token.Alike tokens others) :
    (flags tokens).map (·.message.toUpper) = (flags others).map (·.message.toUpper) := by
  simpa [Flag.shown, Function.comp_def] using congrArg (·.map Prod.snd) (h.map_shown_eq alike)

/-- The findings of a rule that flags sites stand at the tokens of those sites. -/
theorem standsAt (h : Confined flags) (d : Descriptor) (s : Script) :
    List.Forall₂ (fun (f : Finding) i => f.StandsAt s i) ((Rule.ofFlags d flags).check s)
      ((flags s.tokens).map (·.site.index)) := by
  rw [Rule.check, Rule.ofFlags, List.map_map, List.forall₂_map_left_iff,
    List.forall₂_map_right_iff, List.forall₂_same]
  intro f member
  exact ⟨f.site.token, Site.getElem?_index (h.sites s.tokens f member), rfl, rfl⟩

end Confined

theorem map_message_check (d : Descriptor) (flags : List Token → List Flag) (s : Script) :
    ((Rule.ofFlags d flags).check s).map (·.message.toUpper)
      = (flags s.tokens).map (·.message.toUpper) := by
  simp [Rule.check, Rule.ofFlags, Rule.finding, Flag.remark, Function.comp_def]

namespace Rules

/-- All built-in rules but two are confined. -/
theorem exists_confined {r : Rule} (member : r ∈ builtIn)
    (capitals : r.id ≠ "keyword-capitalization") (unicode : r.id ≠ "unicode-string") :
    ∃ flags, Confined flags ∧ r = .ofFlags r.toDescriptor flags := by
  simp only [builtIn, List.mem_cons, List.not_mem_nil, or_false] at member
  rcases member with rfl | rfl | rfl | rfl | rfl | rfl | rfl | rfl | rfl | rfl | rfl | rfl | rfl |
    rfl | rfl | rfl | rfl | rfl
  · exact ⟨_, Transaction.confined_scan, rfl⟩
  · exact ⟨_, TypeLength.confined_flags, rfl⟩
  · exact ⟨_, .flagWhere _ (by simp), rfl⟩
  · exact ⟨_, .flagWhere _ (isCallOf_canonical · _), rfl⟩
  · exact ⟨_, .flagWhere _ (by simp), rfl⟩
  · exact absurd rfl capitals
  · exact ⟨_, LinkedServer.confined_scan, rfl⟩
  · exact ⟨_, .flagWhere _ (isCallOf_canonical · _), rfl⟩
  · exact ⟨_, .flagWhere _ (by simp), rfl⟩
  · exact ⟨_, SchemaQualification.confined_flags, rfl⟩
  · exact ⟨_, .flagWhere _ (by simp [Star.startsItem_canonical, Star.inExists_canonical]), rfl⟩
  · exact ⟨_, SessionOption.confined_flags _, rfl⟩
  · exact ⟨_, SessionOption.confined_flags _, rfl⟩
  · exact ⟨_, SessionOption.confined_flags _, rfl⟩
  · exact ⟨_, SessionOption.confined_flags _, rfl⟩
  · exact ⟨_, .flagWhere _ (by simp [Option.any_map]), rfl⟩
  · exact absurd rfl unicode
  · exact ⟨_, .flagWhere _ (isCallOf_canonical · _), rfl⟩

end Rules

/-- Two scripts with token sequences that are alike get findings at the same tokens, in the same
order and with the same messages up to case, from every built-in rule that does not look at the
spelling of keywords or at the text of literals. The place of a finding tells its token. -/
theorem findings_factor_through_tokens {r : Rule} (member : r ∈ Rules.builtIn)
    (capitals : r.id ≠ "keyword-capitalization") (unicode : r.id ≠ "unicode-string")
    {path root text path' root' text' : String} {level level' : UInt32} {s s' : Script}
    (made : Script.ofText path root level text = .ok s)
    (made' : Script.ofText path' root' level' text' = .ok s')
    (alike : List.Forall₂ Token.Alike s.tokens s'.tokens) :
    ∃ indices : List Nat,
      List.Forall₂ (fun (f : Finding) i => f.StandsAt s i) (r.check s) indices ∧
      List.Forall₂ (fun (f : Finding) i => f.StandsAt s' i) (r.check s') indices ∧
      List.Forall₂ (fun f g : Finding => Ascii.sameIgnoringCase f.message g.message)
        (r.check s) (r.check s') ∧
      (∀ (f : Finding) i j, f.StandsAt s i → f.StandsAt s j → i = j) ∧
      ∀ (f : Finding) i j, f.StandsAt s' i → f.StandsAt s' j → i = j := by
  obtain ⟨flags, confined, same⟩ := Rules.exists_confined member capitals unicode
  rw [same]
  have unique {path root text : String} {level : UInt32} {s : Script}
      (made : Script.ofText path root level text = .ok s) (f : Finding) (i j : Nat) :
      f.StandsAt s i → f.StandsAt s j → i = j := by
    rintro ⟨t, first, line, column⟩ ⟨u, second, line', column'⟩
    obtain ⟨_, laid⟩ := Script.exists_laid made
    exact laid.index_eq_of_place first second (line.symm.trans line') (column.symm.trans column')
  refine ⟨_, confined.standsAt _ s, ?_, ?_, unique made, unique made'⟩
  · rw [confined.index_eq alike]
    exact confined.standsAt _ s'
  · have messages : ((Rule.ofFlags r.toDescriptor flags).check s).map (·.message.toUpper)
        = ((Rule.ofFlags r.toDescriptor flags).check s').map (·.message.toUpper) := by
      rw [map_message_check, map_message_check, confined.message_eq alike]
    rw [← List.forall₂_eq_eq_eq, List.forall₂_map_left_iff, List.forall₂_map_right_iff] at messages
    exact messages.imp fun _ _ same => Ascii.sameIgnoringCase_iff.mpr same

/-- A statement with a parameter and a literal, on one line. -/
def compactInsert : String := "INSERT Orders([o]) VALUES('a',@x)"

/-- The same statement, spelled and laid out differently, with other values. -/
def looseInsert : String := "insert -- into\n  ORDERS ( [O] ) /*\n*/ values ( 'ü''b' , @@yy )"

theorem findings_factor_through_tokens_of_insert : ∃ s s',
    Script.ofText "a.sql" "" 120 compactInsert = .ok s ∧
    Script.ofText "lib/b.sql" "lib" 150 looseInsert = .ok s' ∧
    (Rules.schemaQualify.check s).map (fun f => (f.line, f.column)) = [(1, 8)] ∧
    (Rules.schemaQualify.check s').map (fun f => (f.line, f.column)) = [(2, 3)] ∧
    ∃ indices : List Nat,
      List.Forall₂ (fun (f : Finding) i => f.StandsAt s i) (Rules.schemaQualify.check s) indices ∧
      List.Forall₂ (fun (f : Finding) i => f.StandsAt s' i) (Rules.schemaQualify.check s') indices ∧
      List.Forall₂ (fun f g : Finding => Ascii.sameIgnoringCase f.message g.message)
        (Rules.schemaQualify.check s) (Rules.schemaQualify.check s') := by
  obtain ⟨s, s', made, made', same, place, place'⟩ : ∃ s s',
      Script.ofText "a.sql" "" 120 compactInsert = .ok s ∧
      Script.ofText "lib/b.sql" "lib" 150 looseInsert = .ok s' ∧
      s.tokens.map Token.canonical = s'.tokens.map Token.canonical ∧
      (Rules.schemaQualify.check s).map (fun f => (f.line, f.column)) = [(1, 8)] ∧
      (Rules.schemaQualify.check s').map (fun f => (f.line, f.column)) = [(2, 3)] := by
    refine ⟨_, _, by cbv, by cbv, ?_, ?_, ?_⟩ <;> cbv
  have member : Rules.schemaQualify ∈ Rules.builtIn := by simp [Rules.builtIn]
  obtain ⟨indices, stand, stand', messages, _⟩ := findings_factor_through_tokens member
    (by decide) (by decide) made made' (forall₂_alike_iff.mpr same)
  exact ⟨s, s', made, made', place, place', indices, stand, stand', messages⟩

end SqlLint
