import SqlLint.Proofs.Rules.Qualifying
import SqlLint.Proofs.Script.Insertion

/-!
# Giving a script the schemas it lacks

The rule that asks for schemas is content with a script once `dbo.` has been inserted before each
name it reports. The script is still one, with the same tokens but for the schemas and their dots;
it refers to the same tables, by the same names apart from the schemas, and declares the same names.
-/

namespace SqlLint

/-- The parts of a name as they are compared. -/
def ObjectName.folded (n : ObjectName) : List (Option String) :=
  n.parts.map fun part => part.map Token.foldedName

namespace Rules.SchemaQualification

open Lexeme Script

variable {path root text : String} {level : UInt32} {s : Script}
variable {pieces : List (LexemeKind × List Char)} {tokens : List Token} {t : Token} {r : Reference}

/-- Where the rule objects to something in a script. -/
def places (s : Script) : List (Nat × Nat) :=
  (schemaQualify.check s).map fun f => (f.line, f.column)

/-- The text of a script with a schema inserted before each name that the rule objects to. -/
def repaired (s : Script) : String := s.withInserted (places s) " dbo."

/-- A blank, the schema and the dot behind it. -/
def schemaPieces : List (LexemeKind × List Char) :=
  [(.blank, [' ']), (.token .word, ['d', 'b', 'o']), (.token .symbol, ['.'])]

theorem split_schemaPieces {rest : List Char} (split : Split rest pieces []) :
    Split (' ' :: ['d', 'b', 'o', '.'] ++ rest) (schemaPieces ++ pieces) [] := by
  have word : Form (.token .word) ['d', 'b', 'o'] ('.' :: rest) :=
    .word rfl (by simp [OpensNational]) (by simp [continuesWord]) (by simp [continuesWord])
  have symbol : Form (.token .symbol) ['.'] rest := .symbol (by simp [Opens]; decide)
  exact .cons (.blank rfl) (.cons word (.cons symbol split))

theorem exists_token_of_mem_places {place : Nat × Nat} (member : place ∈ places s) :
    ∃ t ∈ targets s.tokens, t.start.place = place := by
  rw [places, check_eq, List.map_map] at member
  obtain ⟨x, found, rfl⟩ := List.mem_map.mp member
  exact ⟨x.token, List.mem_map_of_mem found, rfl⟩

theorem mem_of_mem_targets (target : t ∈ targets tokens) : t ∈ tokens := by
  obtain ⟨r, member, rfl, _⟩ := mem_targets_iff.mp target
  exact Site.token_mem (Reference.exists_site member).1

theorem mem_places_iff (laid : s.Laid pieces) (member : t ∈ s.tokens) :
    t.start.place ∈ places s ↔ t ∈ targets s.tokens := by
  rw [places, check_eq, List.map_map]
  constructor
  · intro place
    obtain ⟨x, found, same⟩ := List.mem_map.mp place
    have target : x.token ∈ targets s.tokens := List.mem_map_of_mem found
    rwa [← laid.token_eq_of_place (mem_of_mem_targets target) member same]
  · intro target
    obtain ⟨x, found, rfl⟩ := List.mem_map.mp target
    exact List.mem_map_of_mem found

/-- The tokens of a repaired script are those of the script with schemas before the names that the
rule objects to. -/
theorem exists_repaired (made : ofText path root level text = .ok s) (path' root' : String)
    (level' : UInt32) : ∃ u, ofText path' root' level' (repaired s) = .ok u ∧
      u.tokens.map (fun t => (t.kind, t.text)) =
        (qualify (targets s.tokens) s.tokens).map fun t => (t.kind, t.text) := by
  obtain ⟨_, laid⟩ := exists_laid made
  have begun : " dbo.".toList = ' ' :: ['d', 'b', 'o', '.'] := rfl
  have tokens (place : Nat × Nat) (member : place ∈ places s) :
      ∃ t ∈ s.tokens, t.start.place = place := by
    obtain ⟨t, target, same⟩ := exists_token_of_mem_places member
    exact ⟨t, mem_of_mem_targets target, same⟩
  obtain ⟨u, read, shown⟩ :=
    exists_inserted made begun rfl split_schemaPieces tokens path' root' level'
  refine ⟨u, read, shown.trans ?_⟩
  rw [qualify, List.map_flatMap]
  refine List.flatMap_congr fun t member => ?_
  simp only [insertion, mem_places_iff laid member]
  split <;> rfl

theorem localNames_congr {others : List Token}
    (same : tokens.map Token.canonical = others.map Token.canonical) :
    localNames tokens = localNames others := by
  rw [← localNames_map_canonical tokens, same, localNames_map_canonical]

theorem folded_canonical (member : r ∈ references tokens) :
    r.name.canonical.folded = r.name.folded := by
  have parsed := (Reference.exists_site member).2
  simp only [ObjectName.folded, ObjectName.canonical, List.map_map]
  refine List.map_congr_left fun part inside => ?_
  cases part with
  | none => rfl
  | some t =>
      have identifier := ObjectName.isIdentifier_of_mem_parts parsed inside
      exact congrArg some (Token.foldedName_canonical identifier)

/-- The names of references depend on what is compared of the tokens. -/
theorem map_folded_congr {others : List Token}
    (same : tokens.map Token.canonical = others.map Token.canonical) :
    (references tokens).map (·.name.folded) = (references others).map (·.name.folded) := by
  have canonical (tokens : List Token) : (references tokens).map (·.name.folded) =
      (references (tokens.map Token.canonical)).map (·.name.folded) := by
    rw [references_map_canonical, List.map_map]
    exact List.map_congr_left fun r member => (folded_canonical member).symm
  rw [canonical tokens, same, ← canonical]

theorem flags_eq_nil_congr {others : List Token}
    (same : tokens.map Token.canonical = others.map Token.canonical) (none : flags others = []) :
    flags tokens = [] :=
  confined_flags.eq_nil_congr same none

/-- The references that get a schema are those that the rule objects to. -/
theorem folded_qualified (distinct : tokens.Nodup) (member : r ∈ references tokens) :
    (r.qualified (targets tokens)).folded =
      if r.site ∈ reported tokens then some "dbo" :: r.name.folded else r.name.folded := by
  have named : schema.foldedName = "dbo" := by decide +kernel
  have target : r.site.token ∈ targets tokens ↔ r.site ∈ reported tokens := by
    refine ⟨fun found => ?_, fun found => List.mem_map_of_mem found⟩
    obtain ⟨x, found, same⟩ := List.mem_map.mp found
    obtain ⟨⟨r', member', rfl, _⟩, _⟩ := mem_reported_iff.mp found
    rwa [← Site.eq_of_token distinct (Reference.exists_site member').1
      (Reference.exists_site member).1 same]
  simp only [Reference.qualified, target]
  split
  · rw [ObjectName.folded, List.map_cons, Option.map_some, named]
    rfl
  · rfl

/-- With `dbo.` inserted before each name that the rule objects to, a text is still a script, and
the rule objects to nothing in it. The script consists of the same tokens and the schemas, it refers
to the same tables in the same order, with a schema where the rule asked for one, and it declares
the same names. No temporary table gets a schema. -/
theorem repair_clears (made : ofText path root level text = .ok s) (path' root' : String)
    (level' : UInt32) : ∃ u, ofText path' root' level' (repaired s) = .ok u ∧
      schemaQualify.check u = [] ∧
      u.tokens.map (fun t => (t.kind, t.text)) =
        (qualify (targets s.tokens) s.tokens).map (fun t => (t.kind, t.text)) ∧
      (references u.tokens).map (·.name.folded) = (references s.tokens).map (fun r =>
        if r.site ∈ reported s.tokens then some "dbo" :: r.name.folded else r.name.folded) ∧
      localNames u.tokens = localNames s.tokens ∧
      ∀ x ∈ reported s.tokens, x.token.name.toList.head? ≠ some '#' := by
  obtain ⟨_, laid⟩ := exists_laid made
  obtain ⟨u, read, shown⟩ := exists_repaired made path' root' level'
  have distinct := laid.nodup_tokens
  have introduced := introduced_targets distinct
  have same := map_canonical_eq shown
  refine ⟨u, read, ?_, shown, ?_, ?_, fun x found => (mem_reported_iff.mp found).2.1⟩
  · rw [check_eq, reported, flags_eq_nil_congr same (flags_qualify distinct)]
    rfl
  · have seen := congrArg (List.map fun p => p.1.folded) (map_seen_references introduced)
    rw [List.map_map, List.map_map] at seen
    rw [map_folded_congr same]
    exact seen.trans (List.map_congr_left fun r member => folded_qualified distinct member)
  · rw [localNames_congr same]
    exact localNames_qualify introduced fun _ member _ => notMem_targets_of_alias member

/-- A common table expression, a name between delimiters right behind a keyword, a temporary table
and an alias that is used before it is declared. -/
def unqualified : String :=
  "WITH c AS (SELECT 1 FROM[T]) INSERT #t\nSELECT 1 FROM c;--\nUPDATE o SET a = 1 FROM T o"

theorem repair_clears_of_unqualified : ∃ s u, ofText "q.sql" "" 120 unqualified = .ok s ∧
    places s = [(1, 25), (3, 25)] ∧
    repaired s =
      "WITH c AS (SELECT 1 FROM dbo.[T]) INSERT #t\nSELECT 1 FROM c;--\nUPDATE o SET a = 1 FROM  dbo.T o" ∧
    ofText "p.sql" "lib" 150 (repaired s) = .ok u ∧ schemaQualify.check u = [] ∧
    (references u.tokens).map (·.name.folded) = [[some "dbo", some "t"], [some "#t"], [some "c"],
      [some "o"], [some "dbo", some "t"]] ∧
    localNames u.tokens = ["c", "o"] := by
  obtain ⟨s, made, found, text, names, declared⟩ : ∃ s, ofText "q.sql" "" 120 unqualified = .ok s ∧
      places s = [(1, 25), (3, 25)] ∧
      repaired s =
        "WITH c AS (SELECT 1 FROM dbo.[T]) INSERT #t\nSELECT 1 FROM c;--\nUPDATE o SET a = 1 FROM  dbo.T o" ∧
      (references s.tokens).map (fun r =>
        if r.site ∈ reported s.tokens then some "dbo" :: r.name.folded else r.name.folded) =
        [[some "dbo", some "t"], [some "#t"], [some "c"], [some "o"], [some "dbo", some "t"]] ∧
      localNames s.tokens = ["c", "o"] := by
    refine ⟨_, by cbv, ?_⟩
    decide +kernel
  obtain ⟨u, read, nothing, _, same, kept, _⟩ := repair_clears made "p.sql" "lib" 150
  exact ⟨s, u, made, found, text, read, nothing, same.trans names, kept.trans declared⟩

end Rules.SchemaQualification
end SqlLint
