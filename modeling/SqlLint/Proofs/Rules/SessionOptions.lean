import SqlLint.Proofs.Outcome
import SqlLint.Proofs.Rules.Sites
import SqlLint.Proofs.Rules.Spelling
import SqlLint.Proofs.Script.Joining
import SqlLint.Rules.SessionOption

/-!
# Options are asked for by the front of a script

Whether an option is asked for is decided by what stands before the first statement of its sort, and
so is where. What stands behind that statement does not matter: a script that is cut off behind a
token keeps the tokens up to it, and a newline and more text only add to them. And when a script is
put behind a statement that sets the option, the words of the statement come before whatever comes
first in the script.
-/

namespace SqlLint

namespace Keyword

/-- Tokens that are the words of a sequence one by one, in any case. -/
def Spells (words : List Token) (sequence : List String) : Prop :=
  List.Forall₂ (fun t keyword => t.isKeyword keyword) words sequence

/-- Some tokens in a row are the words of a sequence. -/
def StandsIn (sequence : List String) (tokens : List Token) : Prop :=
  ∃ front words back, tokens = front ++ (words ++ back) ∧ Spells words sequence

variable {sequence : List String} {tokens words : List Token} {t : Token}

theorem Spells.exists_of_mem (spells : Spells words sequence) (member : t ∈ words) :
    ∃ keyword ∈ sequence, t.isKeyword keyword := by
  induction spells with
  | nil => cases member
  | cons first _ ih =>
      rcases List.mem_cons.mp member with rfl | later
      · exact ⟨_, List.mem_cons_self, first⟩
      · obtain ⟨keyword, inside, word⟩ := ih later
        exact ⟨keyword, List.mem_cons_of_mem _ inside, word⟩

theorem startsWith_iff : startsWith sequence tokens ↔
    ∃ words back, tokens = words ++ back ∧ Spells words sequence := by
  induction sequence generalizing tokens with
  | nil => simp [startsWith, Spells]
  | cons keyword sequence ih =>
      cases tokens with
      | nil => simp [startsWith, Spells]
      | cons t tokens =>
          rw [startsWith, Bool.and_eq_true, ih]
          constructor
          · rintro ⟨first, words, back, rfl, others⟩
            exact ⟨t :: words, back, rfl, .cons first others⟩
          · rintro ⟨words, back, split, spells⟩
            cases spells with
            | cons first others =>
                cases split
                exact ⟨first, _, _, rfl, others⟩

theorem occurs_iff (nonempty : sequence ≠ []) :
    occurs sequence tokens ↔ StandsIn sequence tokens := by
  induction tokens with
  | nil =>
      simp only [occurs, Bool.false_eq_true, false_iff]
      rintro ⟨front, words, back, none, spells⟩
      obtain ⟨-, rfl, -⟩ : front = [] ∧ words = [] ∧ back = [] := by simpa using none.symm
      exact absurd (List.forall₂_nil_left_iff.mp spells) nonempty
  | cons t tokens ih =>
      rw [occurs, List.isEmpty_eq_false_iff.mpr nonempty, Bool.not_false, Bool.true_and,
        Bool.or_eq_true, ih, startsWith_iff]
      constructor
      · rintro (⟨words, back, split, spells⟩ | ⟨front, words, back, rfl, spells⟩)
        · exact ⟨[], words, back, split, spells⟩
        · exact ⟨t :: front, words, back, rfl, spells⟩
      · rintro ⟨front, words, back, split, spells⟩
        cases front with
        | nil => exact .inl ⟨words, back, split, spells⟩
        | cons u front =>
            cases split
            exact .inr ⟨front, words, back, rfl, spells⟩

end Keyword

namespace Site

variable {p : Token → Bool} {t : Token} {front : List Token}

/-- The first token with a property is found at its site. -/
theorem find?_following (first : ∀ u ∈ front, p u = false) (found : p t)
    (before after : List Token) :
    (following before (front ++ t :: after)).find? (fun s => p s.token) =
      some ⟨front.reverse ++ before, t, after⟩ := by
  induction front generalizing before with
  | nil => simp [following, found]
  | cons u front ih =>
      obtain ⟨other, others⟩ := List.forall_mem_cons.mp first
      simp [following, other, ih others]

end Site

namespace Rules.SessionOption

/-- The options that are asked for, each with the rule that asks for it. -/
def required : List (SessionOption × Rule) :=
  [(noCount, setNoCount), (ansiNulls, setAnsi), (quotedIdentifier, setQuotedIdentifier),
    (isolationLevel, setIsolationLevel)]

/-- A trigger, a token that begins a statement of the sort, and none in front of it. -/
structure UpToTrigger (o : SessionOption) (before : List Token) (trigger : Token) : Prop where
  plain : ∀ t ∈ before, t.isAnyKeyword o.triggers = false
  triggers : trigger.isAnyKeyword o.triggers

variable {o : SessionOption} {r : Rule} {s : Script} {tokens before after : List Token}
variable {t trigger : Token}

theorem exists_ofFlags (member : (o, r) ∈ required) :
    r = .ofFlags r.toDescriptor o.flags := by
  simp only [required, List.mem_cons, Prod.mk.injEq, List.not_mem_nil, or_false] at member
  rcases member with ⟨rfl, rfl⟩ | ⟨rfl, rfl⟩ | ⟨rfl, rfl⟩ | ⟨rfl, rfl⟩ <;> rfl

theorem setting_ne_nil (member : (o, r) ∈ required) : o.setting ≠ [] := by
  have words : ∀ option ∈ required, option.1.setting ≠ [] := by decide
  exact words _ member

/-- No word that sets an option starts a statement that asks for it. -/
theorem isAnyKeyword_triggers_eq_false (member : (o, r) ∈ required) {keyword : String}
    (word : t.isKeyword keyword) (setting : keyword ∈ o.setting) :
    t.isAnyKeyword o.triggers = false := by
  have apart : ∀ option ∈ required, ∀ keyword ∈ option.1.setting,
      ∀ other ∈ option.1.triggers, Ascii.sameIgnoringCase keyword other = false := by
    decide +kernel
  exact Token.isAnyKeyword_eq_false word (apart _ member keyword setting)

theorem exists_upToTrigger (o : SessionOption) (tokens : List Token) :
    (∀ t ∈ tokens, t.isAnyKeyword o.triggers = false) ∨
      ∃ before trigger after, tokens = before ++ trigger :: after ∧
        UpToTrigger o before trigger := by
  cases first : tokens.find? (·.isAnyKeyword o.triggers) with
  | none =>
      have plain := List.find?_eq_none.mp first
      exact .inl fun t member => by simpa using plain t member
  | some trigger =>
      obtain ⟨triggers, before, after, split, plain⟩ := List.find?_eq_some_iff_append.mp first
      exact .inr ⟨before, trigger, after, split, by simpa using plain, triggers⟩

theorem flags_of_no_trigger (plain : ∀ t ∈ tokens, t.isAnyKeyword o.triggers = false) :
    o.flags tokens = [] := by
  have none : (Site.all tokens).find? (fun s => s.token.isAnyKeyword o.triggers) = none := by
    refine List.find?_eq_none.mpr fun x member => ?_
    simp [plain x.token (Site.token_mem member)]
  rw [flags, none]

/-- What is flagged is told by the tokens up to the first trigger. -/
theorem flags_of_upToTrigger (first : UpToTrigger o before trigger) (after : List Token) :
    o.flags (before ++ trigger :: after) =
      if Keyword.occurs o.setting before then []
      else [⟨⟨before.reverse, trigger, after⟩, o.message⟩] := by
  have found : (Site.all (before ++ trigger :: after)).find?
      (fun s => s.token.isAnyKeyword o.triggers) = some ⟨before.reverse, trigger, after⟩ := by
    rw [Site.all]
    simpa using Site.find?_following first.plain first.triggers [] after
  rw [flags, found]
  simp

/-- An option is not asked for where its setting comes first of all. -/
theorem flags_of_startsWith (member : (o, r) ∈ required)
    (start : Keyword.startsWith o.setting tokens) : o.flags tokens = [] := by
  rcases exists_upToTrigger o tokens with plain | ⟨before, trigger, after, rfl, first⟩
  · exact flags_of_no_trigger plain
  · obtain ⟨words, back, split, spells⟩ := Keyword.startsWith_iff.mp start
    -- The trigger is none of the words, so all of them stand before it.
    have stands : Keyword.StandsIn o.setting before := by
      rcases List.append_eq_append_iff.mp split with ⟨more, rfl, later⟩ | ⟨rest, rfl, _⟩
      · cases more with
        | nil => exact ⟨[], before, [], by simp, by simpa using spells⟩
        | cons u more =>
            obtain ⟨rfl, -⟩ := List.cons.inj later
            obtain ⟨keyword, setting, word⟩ := spells.exists_of_mem (t := trigger) (by simp)
            have plain := isAnyKeyword_triggers_eq_false member word setting
            rw [first.triggers] at plain
            cases plain
      · exact ⟨[], words, rest, rfl, spells⟩
    have found := (Keyword.occurs_iff (setting_ne_nil member)).mpr stands
    rw [flags_of_upToTrigger first, if_pos found]

theorem check_eq (member : (o, r) ∈ required) (s : Script) : r.check s =
    (o.flags s.tokens).map fun f => ⟨s.path, f.site.token.start.line, f.site.token.start.column,
      r.id, r.severity, f.message⟩ := by
  rw [exists_ofFlags member]
  exact List.map_map

theorem check_of_upToTrigger (member : (o, r) ∈ required) (first : UpToTrigger o before trigger)
    (whole : s.tokens = before ++ trigger :: after) : r.check s =
      if Keyword.occurs o.setting before then []
      else [⟨s.path, trigger.start.line, trigger.start.column, r.id, r.severity, o.message⟩] := by
  rw [check_eq member, whole, flags_of_upToTrigger first]
  split <;> rfl

/-- The statement that sets an option and says no more than that. -/
def statement (o : SessionOption) : String := " ".intercalate o.setting

theorem exists_ofText_statement (member : (o, r) ∈ required) (path root : String)
    (level : UInt32) : ∃ u, Script.ofText path root level o.statement = .ok u ∧
      Keyword.startsWith o.setting u.tokens := by
  have reads : ∀ option ∈ required, (Lexeme.cut .start option.1.statement.toList).map
      (fun lexemes => Keyword.startsWith option.1.setting (lexemes.filterMap Lexeme.token?)) =
        .ok true := by
    decide +kernel
  obtain ⟨lexemes, read, start⟩ := Except.map_eq_ok_iff.mp (reads _ member)
  rw [Script.ofText_eq_map_cut, read]
  exact ⟨_, rfl, start⟩

variable {path root text : String} {level : UInt32}

theorem path_of_ofText (made : Script.ofText path root level text = .ok s) : s.path = path := by
  obtain ⟨_, _, rfl⟩ := Script.ofText_eq_ok_iff.mp made
  rfl

/-- A script behind a statement that sets the option is not asked for it. -/
theorem exists_check_eq_nil (member : (o, r) ∈ required) {first : String} {u : Script}
    (made : Script.ofText path root level text = .ok s)
    (front : Script.ofText path root level first = .ok u)
    (start : Keyword.startsWith o.setting u.tokens) :
    ∃ t, Script.ofText path root level (Script.joined first text) = .ok t ∧ r.check t = [] := by
  obtain ⟨t, whole, tokens, _⟩ := Script.exists_joined front made
  obtain ⟨words, back, split, spells⟩ := Keyword.startsWith_iff.mp start
  refine ⟨t, whole, ?_⟩
  rw [check_eq member, flags_of_startsWith member, List.map_nil]
  rw [tokens, split, List.append_assoc]
  exact Keyword.startsWith_iff.mpr ⟨words, _, rfl, spells⟩

/-- What follows the first trigger may be replaced by a newline and any other text. -/
theorem exists_check_eq (member : (o, r) ∈ required) (first : UpToTrigger o before trigger)
    (made : Script.ofText path root level text = .ok s)
    (whole : s.tokens = before ++ trigger :: after) : ∃ front back,
    text = front ++ trigger.text ++ back ∧ front.utf8ByteSize = trigger.start.offset ∧
      ∀ other u, Script.ofText path root level other = .ok u →
        ∃ t, Script.ofText path root level (Script.joined (front ++ trigger.text) other) = .ok t ∧
          r.check t = r.check s := by
  obtain ⟨front, back, v, split, offset, kept, tokens⟩ := Script.exists_cut_behind made whole
  refine ⟨front, back, split, offset, fun other u read => ?_⟩
  obtain ⟨t, joined, more, _⟩ := Script.exists_joined kept read
  refine ⟨t, joined, ?_⟩
  rw [tokens, ← List.append_cons] at more
  rw [check_of_upToTrigger member first more, check_of_upToTrigger member first whole,
    path_of_ofText made, path_of_ofText joined]

/-- A rule that asks for an option is decided by the front of a script. It reports nothing if no
statement of its sort begins in the script. Otherwise it reports at the first such statement, and
nowhere else, just if the words that set the option do not stand in a row before it; then whatever
follows the word that begins this statement may be replaced by a newline and any other text. And
nothing is reported in a script that stands behind a line which begins by setting the option. -/
theorem decided_by_front (member : (o, r) ∈ required)
    (made : Script.ofText path root level text = .ok s) :
    (r.check s).length ≤ 1 ∧
    ((∀ t ∈ s.tokens, t.isAnyKeyword o.triggers = false) → r.check s = []) ∧
    (∀ before trigger after, s.tokens = before ++ trigger :: after →
      UpToTrigger o before trigger →
        (Keyword.StandsIn o.setting before → r.check s = []) ∧
        (¬ Keyword.StandsIn o.setting before → r.check s =
          [⟨path, trigger.start.line, trigger.start.column, r.id, r.severity, o.message⟩]) ∧
        ∃ front back, text = front ++ trigger.text ++ back ∧
          front.utf8ByteSize = trigger.start.offset ∧
          ∀ other u, Script.ofText path root level other = .ok u →
            ∃ t, Script.ofText path root level (Script.joined (front ++ trigger.text) other) =
              .ok t ∧ r.check t = r.check s) ∧
    (∀ first u, Script.ofText path root level first = .ok u →
      Keyword.startsWith o.setting u.tokens →
        ∃ t, Script.ofText path root level (Script.joined first text) = .ok t ∧ r.check t = []) ∧
    ∃ t, Script.ofText path root level (Script.joined o.statement text) = .ok t ∧
      r.check t = [] := by
  refine ⟨?_, ?_, ?_, fun first u front => exists_check_eq_nil member made front, ?_⟩
  · rw [check_eq member, List.length_map]
    rcases exists_upToTrigger o s.tokens with plain | ⟨before, trigger, after, whole, first⟩
    · simp [flags_of_no_trigger plain]
    · rw [whole, flags_of_upToTrigger first]
      split <;> simp
  · intro plain
    rw [check_eq member, flags_of_no_trigger plain, List.map_nil]
  · intro before trigger after whole first
    have reported := check_of_upToTrigger member first whole
    rw [path_of_ofText made] at reported
    have found : Keyword.occurs o.setting before ↔ Keyword.StandsIn o.setting before :=
      Keyword.occurs_iff (setting_ne_nil member)
    refine ⟨fun stands => ?_, fun missing => ?_, exists_check_eq member first made whole⟩
    · rw [reported, if_pos (found.mpr stands)]
    · rw [reported, if_neg (mt found.mp missing)]
  · obtain ⟨u, front, start⟩ := exists_ofText_statement member path root level
    exact exists_check_eq_nil member made front start

/-- An option that is begun to be set before the first data statement and set behind it. -/
def lateSetting : String := "DECLARE @é INT SET NOCOUNT\nSELECT 1 SET NOCOUNT ON UPDATE t SET x = 1"

theorem decided_by_front_of_lateSetting : ∃ s,
    Script.ofText "q.sql" "" 120 lateSetting = .ok s ∧
    setNoCount.check s = [⟨"q.sql", 2, 1, "set-nocount", .error, noCount.message⟩] ∧
    (∃ front t, front.utf8ByteSize = 28 ∧
      Script.ofText "q.sql" "" 120 (Script.joined (front ++ "SELECT") "ON SET NOCOUNT ON") = .ok t ∧
      setNoCount.check t = setNoCount.check s) ∧
    ∃ t, Script.ofText "q.sql" "" 120 (Script.joined noCount.statement lateSetting) = .ok t ∧
      setNoCount.check t = [] := by
  let trigger : Token := ⟨.word, "SELECT", ⟨28, 2, 1⟩⟩
  obtain ⟨s, made, whole, plain, triggers, missing⟩ : ∃ s,
      Script.ofText "q.sql" "" 120 lateSetting = .ok s ∧
      s.tokens = s.tokens.take 5 ++ trigger :: s.tokens.drop 6 ∧
      (∀ t ∈ s.tokens.take 5, t.isAnyKeyword noCount.triggers = false) ∧
      trigger.isAnyKeyword noCount.triggers ∧
      Keyword.occurs noCount.setting (s.tokens.take 5) = false := by
    refine ⟨_, by cbv, ?_⟩
    decide +kernel
  have read : ∃ u, Script.ofText "q.sql" "" 120 "ON SET NOCOUNT ON" = .ok u := ⟨_, by cbv⟩
  obtain ⟨u, read⟩ := read
  have member : (noCount, setNoCount) ∈ required := List.mem_cons_self
  obtain ⟨_, _, first, _, behind⟩ := decided_by_front member made
  obtain ⟨_, reported, front, back, _, offset, replaced⟩ := first _ _ _ whole ⟨plain, triggers⟩
  obtain ⟨t, read', same⟩ := replaced _ u read
  refine ⟨s, made, reported ?_, ⟨front, t, offset, read', same⟩, behind⟩
  rw [← Keyword.occurs_iff (setting_ne_nil member), missing]
  exact Bool.false_ne_true

end Rules.SessionOption
end SqlLint
