import SqlLint.Plugin.PatternRule
import SqlLint.Proofs.Script.Masking
import SqlLint.Rules.BuiltIn

/-!
# What comments say does not matter

Built-in rules look at tokens, and rules made of patterns look at the masked text. So scripts with
the same masked text get the same findings, provided that a place is shown as the same line and
column in both, which it is where comments are written in ASCII.
-/

namespace SqlLint

/-- Every built-in rule flags sites of the token sequence. -/
theorem Rules.exists_flags {r : Rule} (member : r ∈ builtIn) :
    ∃ flags, r = .ofFlags r.toDescriptor flags := by
  simp only [builtIn, List.mem_cons, List.not_mem_nil, or_false] at member
  rcases member with rfl | rfl | rfl | rfl | rfl | rfl | rfl | rfl | rfl | rfl | rfl | rfl | rfl |
    rfl | rfl | rfl | rfl | rfl <;> exact ⟨_, rfl⟩

namespace Script

variable {s s' : Script}

theorem check_ofFlags_congr (descriptor : Descriptor) (flags : List Token → List Flag)
    (path : s.path = s'.path) (tokens : s.tokens = s'.tokens) :
    (Rule.ofFlags descriptor flags).check s = (Rule.ofFlags descriptor flags).check s' := by
  simp [Rule.check, Rule.ofFlags, Rule.finding, path, tokens]

theorem check_toRule_congr (r : PatternRule) (path : s.path = s'.path)
    (relative : s.relativePath = s'.relativePath) (masked : s.masked = s'.masked)
    (located : ∀ offset, s.locate offset = s'.locate offset) :
    r.toRule.check s = r.toRule.check s' := by
  have remark : r.remark s = r.remark s' := by
    funext m
    simp [PatternRule.remark, PatternRule.offset, masked, located]
  simp [Rule.check, PatternRule.toRule, Rule.finding, path, relative, masked, remark]

theorem Laid.locate_masked {pieces : List (LexemeKind × List Char)} (h : s.Laid pieces)
    (plain : s.PlainComments) (offset : Nat) :
    s.locate offset = Position.start.locate offset s.masked :=
  Position.locate_congr offset (h.map_shape_masked plain).symm

end Script

/-- Comment text never influences findings. Masking keeps every byte in its place and yields a
script without comments that has the same tokens and is masked already. Two scripts with plain
comments and the same masked text get the same findings from every rule. -/
theorem comments_never_influence_findings {path root text : String} {level : UInt32} {s : Script}
    (made : Script.ofText path root level text = .ok s) :
    bytes (String.ofList s.masked) = s.maskedBytes ∧
    s.maskedBytes.length = (bytes text).length ∧
    (∃ s', Script.ofText path root level (String.ofList s.masked) = .ok s' ∧ s'.comments = [] ∧
      s'.tokens.map Script.outline = s.tokens.map Script.outline ∧ s'.masked = s.masked) ∧
    ∀ {text' : String} {level' : UInt32} {s' : Script},
      Script.ofText path root level' text' = .ok s' → s.masked = s'.masked →
      s.PlainComments → s'.PlainComments →
      (∀ r ∈ Rules.builtIn, r.check s = r.check s') ∧
      ∀ r : PatternRule, r.toRule.check s = r.toRule.check s' := by
  obtain ⟨masked, made_masked, noComments, outlines, again, tokens⟩ := Script.exists_masked made
  obtain ⟨_, laid⟩ := Script.exists_laid made
  obtain ⟨_, _, shown⟩ := Script.ofText_eq_ok_iff.mp made
  refine ⟨?_, ?_, ⟨masked, made_masked, noComments, outlines, again⟩, ?_⟩
  · rw [bytes_eq, String.toList_ofList, laid.maskedBytes_eq]
  · simp [Script.maskedBytes, shown]
  intro text' level' s' made' same plain plain'
  obtain ⟨masked', made_masked', _, _, _, tokens'⟩ := Script.exists_masked made'
  obtain ⟨_, laid'⟩ := Script.exists_laid made'
  obtain ⟨_, _, shown'⟩ := Script.ofText_eq_ok_iff.mp made'
  have samePath : s.path = s'.path := by rw [shown, shown']
  have sameTokens : s.tokens = s'.tokens := by
    rw [← tokens plain, ← tokens' plain']
    -- Both are the tokens of the one masked text.
    obtain ⟨_, split, laid_masked⟩ := Script.ofText_eq_ok_iff.mp made_masked
    obtain ⟨_, split', laid_masked'⟩ := Script.ofText_eq_ok_iff.mp made_masked'
    rw [← same] at split'
    obtain ⟨rfl, _⟩ := split.unique split' (.inl rfl) (.inl rfl)
    rw [laid_masked, laid_masked']
    rfl
  constructor
  · intro r member
    obtain ⟨flags, ofFlags⟩ := Rules.exists_flags member
    rw [ofFlags]
    exact Script.check_ofFlags_congr _ flags samePath sameTokens
  · intro r
    refine Script.check_toRule_congr r samePath ?_ same fun offset => ?_
    · rw [shown, shown']
    · rw [laid.locate_masked plain, laid'.locate_masked plain', same]

/-- A statement with comments on either side of a literal. -/
def remarked : String := "PRINT/*N\n*/'ü'--'b"

/-- The same statement with other comments of the same length. -/
def remarkedAnew : String := "PRINT/**\n*/'ü'/**/"

theorem comments_never_influence_findings_of_remarked : ∃ s s',
    Script.ofText "lib/a.sql" "lib" 120 remarked = .ok s ∧
    Script.ofText "lib/a.sql" "lib" 150 remarkedAnew = .ok s' ∧
    s.comments = [(5, 11), (15, 19)] ∧ s.masked = "PRINT   \n  'ü'    ".toList ∧
    (Rules.printStatement.check s).length = 1 ∧
    bytes (String.ofList s.masked) = s.maskedBytes ∧
    (∀ r ∈ Rules.builtIn, r.check s = r.check s') ∧
    ∀ r : PatternRule, r.toRule.check s = r.toRule.check s' := by
  obtain ⟨s, s', made, made', comments, masked, masked', ascii, ascii', found⟩ : ∃ s s',
      Script.ofText "lib/a.sql" "lib" 120 remarked = .ok s ∧
      Script.ofText "lib/a.sql" "lib" 150 remarkedAnew = .ok s' ∧
      s.comments = [(5, 11), (15, 19)] ∧ s.masked = "PRINT   \n  'ü'    ".toList ∧
      s'.masked = "PRINT   \n  'ü'    ".toList ∧
      (∀ l ∈ s.lexemes, l.kind.isComment → ∀ c ∈ l.text, c.utf8Size = 1) ∧
      (∀ l ∈ s'.lexemes, l.kind.isComment → ∀ c ∈ l.text, c.utf8Size = 1) ∧
      (Rules.printStatement.check s).length = 1 := by
    refine ⟨_, _, by cbv, by cbv, ?_, ?_, ?_, ?_, ?_, ?_⟩
    case refine_4 => simp [LexemeKind.isComment]; decide
    case refine_5 => simp [LexemeKind.isComment]; decide
    all_goals cbv
  obtain ⟨_, laid⟩ := Script.exists_laid made
  obtain ⟨_, laid'⟩ := Script.exists_laid made'
  obtain ⟨valid, _, _, equal⟩ := comments_never_influence_findings made
  obtain ⟨builtIn, patterns⟩ := equal made' (masked.trans masked'.symm)
    (laid.plainComments_iff.mpr ascii) (laid'.plainComments_iff.mpr ascii')
  exact ⟨s, s', made, made', comments, masked, found, valid, builtIn, patterns⟩

end SqlLint
