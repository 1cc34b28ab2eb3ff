import SqlLint.Proofs.Rules.Confinement
import SqlLint.Proofs.Rules.Reported
import SqlLint.Proofs.Script.Attachment

/-!
# Giving types the lengths they lack

The rule that asks for lengths is content with a script once `(10)` stands behind each type that it
reports. A type with a length stands no longer in front of a place for a type: what follows it now
follows a closing parenthesis. Before any other token stand the tokens that stood there, so no type
is reported that has not been reported before.
-/

namespace SqlLint.Rules.TypeLength

open Lexeme Script

variable {path root text : String} {level : UInt32} {s : Script} {marked tokens : List Token}
variable {before before' after after' : List Token} {t : Token}

/-- A length in parentheses. -/
def lengthTokens : List Token :=
  [⟨.symbol, "(", .start⟩, ⟨.number, "10", .start⟩, ⟨.symbol, ")", .start⟩]

/-- The tokens with a length behind each one that is marked. -/
def sized (marked tokens : List Token) : List Token :=
  tokens.flatMap fun t => t :: if t ∈ marked then lengthTokens else []

/-- Whether a type can stand behind tokens, nearest first. -/
def takesType (before : List Token) : Bool :=
  !before.head?.any (·.isSymbol '.') && inTypePosition ⟨before, default, []⟩

/-- Whether the first argument of a conversion can stand behind tokens and a parenthesis. -/
def converts (before : List Token) : Bool :=
  before.head?.any (·.isAnyKeyword ["CONVERT", "TRY_CONVERT"])

/-- Behind the first tokens a type is expected at most where it is behind the others. -/
structure Weaker (before' before : List Token) : Prop where
  takesType : takesType before' → takesType before
  converts : converts before' → converts before

theorem lacksLength_iff : lacksLength ⟨before, t, after⟩ ↔ t.isAnyKeyword sizedTypes ∧
    after.head?.any (·.isSymbol '(') = false ∧ takesType before := by
  have position : inTypePosition ⟨before, t, after⟩ = inTypePosition ⟨before, default, []⟩ := by
    cases before <;> rfl
  simp only [lacksLength, takesType, Site.isMember, Site.previous?, Site.isCall, Site.next?,
    position, Bool.and_eq_true, Bool.not_eq_true']
  tauto

theorem Weaker.cons (h : Weaker before' before) (t : Token) :
    Weaker (t :: before') (t :: before) where
  takesType takes := by
    simp only [TypeLength.takesType, List.head?_cons, Option.any_some, Bool.and_eq_true] at takes ⊢
    refine ⟨takes.1, ?_⟩
    have position := takes.2
    simp only [inTypePosition] at position ⊢
    by_cases named : t.kind == .variable || t.isKeyword "AS"
    · rw [if_pos named]
    · rw [if_neg named] at position ⊢
      by_cases opening : t.isSymbol '('
      · rw [if_pos opening] at position ⊢
        exact h.converts position
      · rwa [if_neg opening] at position ⊢
  converts := id

/-- Behind a length no type is expected. -/
theorem weaker_length (before' before : List Token) :
    Weaker (lengthTokens.reverse ++ before') before where
  takesType takes := by cases takes
  converts called := by cases called

theorem head?_sized (marked tokens : List Token) : (sized marked tokens).head? = tokens.head? := by
  cases tokens <;> rfl

theorem isAnyKeyword_sizedTypes_of_mem (member : t ∈ lengthTokens) :
    t.isAnyKeyword sizedTypes = false := by
  have plain : ∀ t ∈ lengthTokens, t.isAnyKeyword sizedTypes = false := by decide +kernel
  exact plain t member

/-- Where types that lack a length are marked, none lacks one once the lengths are there. -/
theorem lacksLength_eq_false_of_sized (weaker : Weaker before' before)
    (all : ∀ y ∈ Site.following before tokens, lacksLength y → y.token ∈ marked) :
    ∀ x ∈ Site.following before' (sized marked tokens), lacksLength x = false := by
  induction tokens generalizing before before' with
  | nil => exact fun _ member => nomatch member
  | cons t tokens ih =>
      obtain ⟨first, later⟩ := List.forall_mem_cons.mp all
      by_cases member : t ∈ marked
      · have whole : sized marked (t :: tokens) = t :: (lengthTokens ++ sized marked tokens) := by
          simp [sized, member]
        rw [whole]
        refine List.forall_mem_cons.mpr ⟨?_, fun x found => ?_⟩
        · by_contra lacks
          rw [Bool.not_eq_false, lacksLength_iff] at lacks
          cases lacks.2.1
        · rcases Site.token_mem_or_of_append found with inside | behind
          · simp [lacksLength, isAnyKeyword_sizedTypes_of_mem inside]
          · exact ih (weaker_length (t :: before') (t :: before)) later x behind
      · have whole : sized marked (t :: tokens) = t :: sized marked tokens := by
          simp [sized, member]
        rw [whole]
        refine List.forall_mem_cons.mpr ⟨?_, ih (weaker.cons t) later⟩
        by_contra lacks
        rw [Bool.not_eq_false, lacksLength_iff, head?_sized] at lacks
        exact member (first (lacksLength_iff.mpr ⟨lacks.1, lacks.2.1, weaker.takesType lacks.2.2⟩))

theorem flags_sized (all : ∀ y ∈ Site.all tokens, lacksLength y → y.token ∈ marked) :
    flags (sized marked tokens) = [] := by
  have same : Weaker [] [] := ⟨id, id⟩
  have none : ∀ x ∈ Site.all (sized marked tokens), lacksLength x = false :=
    lacksLength_eq_false_of_sized same all
  rw [flags, List.map_eq_nil_iff, List.filter_eq_nil_iff]
  intro x member
  rw [none x member]
  exact Bool.false_ne_true

/-- The parenthesis, the number and the parenthesis of a length. -/
def lengthPieces : List (LexemeKind × List Char) :=
  [(.token .symbol, ['(']), (.token .number, ['1', '0']), (.token .symbol, [')'])]

theorem split_lengthPieces {rest : List Char} {pieces : List (LexemeKind × List Char)}
    (split : Split rest pieces []) : Split ("(10)".toList ++ rest) (lengthPieces ++ pieces) [] := by
  have opening : Form (.token .symbol) ['('] ('1' :: '0' :: ')' :: rest) :=
    .symbol (by simp [Opens]; decide)
  have number : Form (.token .number) ['1', '0'] (')' :: rest) :=
    .number rfl (by simp [continuesWord]) (by simp [continuesWord])
  have closing : Form (.token .symbol) [')'] rest := .symbol (by simp [Opens]; decide)
  exact .cons opening (.cons number (.cons closing split))

def message (x : Site) : String :=
  s!"Expected length to be specified for type {x.token.text.toUpper}"

theorem dataTypeLength_eq : dataTypeLength =
    .filtering dataTypeLength.toDescriptor lacksLength message := rfl

/-- With `(10)` inserted right behind each type that the rule reports, a text is still a script, and
the rule reports nothing in it. The script consists of the same tokens and the lengths. -/
theorem lengths_clear (made : ofText path root level text = .ok s) (path' root' : String)
    (level' : UInt32) :
    ∃ u, ofText path' root' level'
        (s.withInserted ((dataTypeLength.reported s).map (·.stop.place)) "(10)") = .ok u ∧
      dataTypeLength.check u = [] ∧
      u.tokens.map (fun t => (t.kind, t.text)) = s.tokens.flatMap (fun t =>
        (t.kind, t.text) :: if t ∈ dataTypeLength.reported s
          then [(.symbol, "("), (.number, "10"), (.symbol, ")")] else []) ∧
      dataTypeLength.places s = (dataTypeLength.reported s).map (·.start.place) := by
  obtain ⟨_, laid⟩ := exists_laid made
  have reported (t : Token) : t ∈ dataTypeLength.reported s ↔
      ∃ x ∈ Site.all s.tokens, lacksLength x ∧ x.token = t := by
    rw [dataTypeLength_eq, Rule.mem_reported_filtering_iff laid]
  have ends (t : Token) (found : t ∈ dataTypeLength.reported s) (before : List Char)
      (form : Form (.token t.kind) t.text.toList before) (rest : List Char) :
      Form (.token t.kind) t.text.toList ("(10)".toList ++ rest) := by
    obtain ⟨x, _, lacks, rfl⟩ := (reported t).mp found
    have word : x.token.kind = .word := by
      simp only [lacksLength, Bool.and_eq_true] at lacks
      exact Token.kind_of_isAnyKeyword lacks.1.1.1
    rw [word] at form ⊢
    exact form.of_word (d := '(') rfl (by decide)
  obtain ⟨u, read, shown⟩ := exists_attached made split_lengthPieces
    (Rule.reported_subset dataTypeLength s) ends path' root' level'
  have same : u.tokens.map (fun t => (t.kind, t.text)) =
      (sized (dataTypeLength.reported s) s.tokens).map fun t => (t.kind, t.text) := by
    rw [shown, sized, List.map_flatMap]
    refine List.flatMap_congr fun t _ => ?_
    split <;> rfl
  have cleared : flags u.tokens = [] := by
    refine confined_flags.eq_nil_congr (map_canonical_eq same) (flags_sized ?_)
    exact fun y member lacks => (reported _).mpr ⟨y, member, lacks, rfl⟩
  refine ⟨u, read, ?_, shown, Rule.places_eq_map_reported laid⟩
  simp only [Rule.check, dataTypeLength, Rule.ofFlags, cleared, List.map_nil]

/-- A type behind a type, the first argument of a conversion, a member and a type at the end. -/
def unsized : String := "DECLARE @a VarChar CHAR\nCONVERT(NCHAR,t.CHAR) AS BINARY"

theorem lengths_clear_of_unsized : ∃ s u, ofText "q.sql" "" 120 unsized = .ok s ∧
    dataTypeLength.places s = [(1, 12), (1, 20), (2, 9), (2, 26)] ∧
    s.withInserted ((dataTypeLength.reported s).map (·.stop.place)) "(10)" =
      "DECLARE @a VarChar(10) CHAR(10)\nCONVERT(NCHAR(10),t.CHAR) AS BINARY(10)" ∧
    ofText "p.sql" "lib" 150
      (s.withInserted ((dataTypeLength.reported s).map (·.stop.place)) "(10)") = .ok u ∧
    dataTypeLength.check u = [] := by
  obtain ⟨s, made, found, repaired⟩ : ∃ s, ofText "q.sql" "" 120 unsized = .ok s ∧
      dataTypeLength.places s = [(1, 12), (1, 20), (2, 9), (2, 26)] ∧
      s.withInserted ((dataTypeLength.reported s).map (·.stop.place)) "(10)" =
        "DECLARE @a VarChar(10) CHAR(10)\nCONVERT(NCHAR(10),t.CHAR) AS BINARY(10)" := by
    refine ⟨_, by cbv, ?_⟩
    simp only [Rule.reported, Rule.places, Rule.check, dataTypeLength, Rule.ofFlags, flags]
    unfold lacksLength
    simp only [Token.isAnyKeyword_eq]
    decide +kernel
  obtain ⟨u, read, nothing, _⟩ := lengths_clear made "p.sql" "lib" 150
  exact ⟨s, u, made, found, repaired, read, nothing⟩

end SqlLint.Rules.TypeLength
