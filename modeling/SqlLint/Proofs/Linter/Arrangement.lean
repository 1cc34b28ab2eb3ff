import SqlLint.Linter
import SqlLint.Plugin.PatternRule
import SqlLint.Proofs.Sorting
import SqlLint.Rules.BuiltIn

/-!
# What the linter makes of the findings of its rules

The findings of a file are those that the configuration lets surface from each rule, in the order of
their places; where several stand at one place, they stay in the order of the rules, and those of
one rule in the order in which the rule makes them. Only one list is like that. What a configuration
says of one rule does not show in the findings of the others.
-/

namespace SqlLint

/-- Where a finding stands; places are compared by line and then by column. -/
def Finding.place (f : Finding) : ℕ ×ₗ ℕ := toLex (f.line, f.column)

theorem Finding.placedBefore_eq :
    Finding.placedBefore = fun a b => decide (a.place ≤ b.place) := by
  funext a b
  rw [Bool.eq_iff_iff, decide_eq_true_iff, place, place, Prod.Lex.toLex_le_toLex]
  simp [placedBefore]

namespace Linter

/-- Findings that surface from a rule: those of its check with nothing but the severity replaced. A
rule that is off has none. -/
inductive Surfaces (config : Configuration) (s : Script) (rule : Rule) : List Finding → Prop
  | off (off : config.activation? rule.id = some .off) : Surfaces config s rule []
  | on {severity : Severity} (set : config.activation? rule.id = some (.ofSeverity severity)) :
      Surfaces config s rule ((rule.check s).map fun f => { f with severity })
  | unset (unset : config.activation? rule.id = none) :
      Surfaces config s rule ((rule.check s).map fun f => { f with severity := rule.severity })

/-- Findings of a list of rules as the linter arranges them: sorted by place, and at each place in
the order of the rules and then in that of each rule. -/
structure Arranged (config : Configuration) (s : Script) (rules : List Rule)
    (found : List Finding) : Prop where
  sorted : found.Pairwise (·.place ≤ ·.place)
  entries : ∃ entries, List.Forall₂ (Surfaces config s) rules entries ∧
    found.Perm entries.flatten ∧
    ∀ place, found.filter (·.place = place) = entries.flatten.filter (·.place = place)

section Rules

variable {config config' : Configuration} {s : Script} {rule : Rule} {rules : List Rule}
variable {entries : List Finding} {found : List Finding}

theorem surfaces_findingsOf (config : Configuration) (s : Script) (rule : Rule) :
    Surfaces config s rule (findingsOf config s rule) := by
  rw [findingsOf, severity?]
  cases activation : config.activation? rule.id with
  | none => exact .unset activation
  | some a =>
      cases a with
      | error => exact @Surfaces.on _ _ _ .error activation
      | warning => exact @Surfaces.on _ _ _ .warning activation
      | off => exact .off activation

theorem Surfaces.eq_findingsOf (h : Surfaces config s rule entries) :
    entries = findingsOf config s rule := by
  cases h with
  | off off => simp [findingsOf, severity?, off, Activation.severity?]
  | @on severity set =>
      cases severity <;>
        simp [findingsOf, severity?, set, Activation.severity?, Activation.ofSeverity]
  | unset unset => simp [findingsOf, severity?, unset]

/-- What surfaces from a rule carries its identifier. -/
theorem rule_of_mem_findingsOf {f : Finding} (member : f ∈ findingsOf config s rule) :
    f.rule = rule.id := by
  rw [findingsOf] at member
  split at member
  · obtain ⟨_, checked, rfl⟩ := List.mem_map.mp member
    obtain ⟨_, _, rfl⟩ := List.mem_map.mp checked
    rfl
  · cases member

theorem severity?_congr (same : config'.activation? rule.id = config.activation? rule.id) :
    severity? config' rule = severity? config rule := by
  rw [severity?, severity?, same]

theorem findingsOf_congr (same : severity? config' rule = severity? config rule) :
    findingsOf config' s rule = findingsOf config s rule := by
  rw [findingsOf, findingsOf, same]

/-- What is found is told by the severities that a configuration gives to the rules. -/
theorem findings_congr
    (same : ∀ rule ∈ rules, severity? config' rule = severity? config rule) :
    findings rules config' s = findings rules config s := by
  rw [findings, findings]
  congr 1
  exact List.flatMap_congr fun rule member => findingsOf_congr (same rule member)

theorem arranged_findings (rules : List Rule) (config : Configuration) (s : Script) :
    Arranged config s rules (findings rules config s) where
  sorted := by
    rw [findings, Finding.placedBefore_eq]
    exact List.sorted_mergeSort_key _ _
  entries := by
    refine ⟨rules.map (findingsOf config s), ?_, ?_, ?_⟩
    · rw [List.forall₂_map_right_iff, List.forall₂_same]
      exact fun rule _ => surfaces_findingsOf config s rule
    · exact List.mergeSort_perm _ _
    · intro place
      rw [findings, Finding.placedBefore_eq, List.filter_key_mergeSort, List.flatMap]

/-- Only one list is arranged so. -/
theorem Arranged.eq_findings (h : Arranged config s rules found) :
    found = findings rules config s := by
  obtain ⟨entries, surface, _, atPlace⟩ := h.entries
  have surfaced : List.Forall₂ (· = ·) (rules.map (findingsOf config s)) entries :=
    List.forall₂_map_left_iff.mpr (surface.imp fun _ _ h => h.eq_findingsOf.symm)
  obtain rfl := List.forall₂_eq_eq_eq ▸ surfaced
  have arranged := arranged_findings rules config s
  refine List.eq_of_sorted_of_filter_eq h.sorted arranged.sorted ?_
  intro place
  rw [atPlace, findings, Finding.placedBefore_eq, List.filter_key_mergeSort, List.flatMap]

/-- What is said of one rule does not show in the findings of the others. -/
theorem filter_findings_congr {id : String}
    (same : ∀ rule, rule ≠ id → config'.activation? rule = config.activation? rule) :
    (findings rules config' s).filter (·.rule ≠ id) =
      (findings rules config s).filter (·.rule ≠ id) := by
  have others : ∀ rule ∈ rules, (findingsOf config' s rule).filter (·.rule ≠ id) =
      (findingsOf config s rule).filter (·.rule ≠ id) := by
    intro rule _
    by_cases other : rule.id ≠ id
    · rw [findingsOf_congr (severity?_congr (same _ other))]
    · have none (c : Configuration) : (findingsOf c s rule).filter (·.rule ≠ id) = [] := by
        rw [List.filter_eq_nil_iff]
        intro f member
        rw [rule_of_mem_findingsOf member]
        simpa using other
      rw [none, none]
  rw [findings, findings, Finding.placedBefore_eq, List.filter_mergeSort_key,
    List.filter_mergeSort_key, List.filter_flatMap, List.filter_flatMap,
    List.flatMap_congr others]

end Rules

theorem analyze_congr_severity {l : Linter} {config config' : Configuration}
    (level : config'.level = config.level)
    (same : ∀ rule ∈ l.rules, severity? config' rule = severity? config rule) (fs : FileSystem)
    (path : String) : l.analyze fs path config' = l.analyze fs path config := by
  simp only [analyze, level, findings_congr same]

/-- The findings of a file that is readable and well formed are the only list that is arranged as
the rules and the configuration demand. And with another activation of one rule there is a list too,
with the same findings of all other rules in the same order. -/
theorem analyze_arranges {fs : FileSystem} {l : Linter} {path text : String}
    {config : Configuration} {s : Script} (readable : fs.read path = .ok text)
    (wellFormed : Script.ofText path l.root config.level text = .ok s) :
    ∃ found, l.analyze fs path config = .ok found ∧ Arranged config s l.rules found ∧
      (∀ other, Arranged config s l.rules other → other = found) ∧
      ∀ (config' : Configuration) id, config'.level = config.level →
        (∀ rule, rule ≠ id → config'.activation? rule = config.activation? rule) →
        ∃ found', l.analyze fs path config' = .ok found' ∧
          found'.filter (·.rule ≠ id) = found.filter (·.rule ≠ id) := by
  have analyzed (config' : Configuration) (level : config'.level = config.level) :
      l.analyze fs path config' = .ok (findings l.rules config' s) := by
    simp only [analyze, readable, level, wellFormed]
  refine ⟨_, analyzed config rfl, arranged_findings _ _ _, fun _ h => h.eq_findings, ?_⟩
  intro config' id level same
  exact ⟨_, analyzed config' level, filter_findings_congr same⟩

/-- A script with a star and a word. -/
def starScript : FileSystem where
  kind _ := .file
  read path := if path = "a.sql" then .ok "SELECT * PRINT" else .error .notFound
  walk _ := .error .notFound

/-- A pattern rule that finds the word first and the star afterwards. -/
def wordThenStar : PatternRule where
  id := "word-then-star"
  title := "word, then star"
  category := .codeStyle
  severity := .warning
  find _ := [⟨9, 14⟩, ⟨7, 8⟩]
  message := "found"
  files := []

/-- Rules with findings at the same places, and not in the order of the places. -/
def tied : Linter :=
  .layered (.base "" [Rules.printStatement, Rules.selectStar]) [wordThenStar.toRule]

/-- Nothing said but of one rule. -/
def starsAre (a : Activation) : Configuration :=
  ⟨Dictionary.empty.insert "select-star" a, 120, [], none⟩

theorem analyze_arranges_of_tied :
    ∃ found s, tied.analyze starScript "a.sql" (starsAre .warning) = .ok found ∧
      (∀ other, Arranged (starsAre .warning) s tied.rules other → other = found) ∧
      found.map (fun f => (f.line, f.column, f.rule, f.severity)) =
        [(1, 8, "select-star", .warning), (1, 8, "word-then-star", .warning),
          (1, 10, "print-statement", .error), (1, 10, "word-then-star", .warning)] ∧
      ∃ found', tied.analyze starScript "a.sql" (starsAre .off) = .ok found' ∧
        found'.filter (·.rule ≠ "select-star") = found.filter (·.rule ≠ "select-star") := by
  obtain ⟨s, wellFormed⟩ : ∃ s, Script.ofText "a.sql" tied.root 120 "SELECT * PRINT" = .ok s :=
    ⟨_, by cbv⟩
  have readable : starScript.read "a.sql" = .ok "SELECT * PRINT" := rfl
  have level : (starsAre .warning).level = 120 := rfl
  rw [← level] at wellFormed
  obtain ⟨found, analyzed, _, unique, others⟩ := analyze_arranges readable wellFormed
  have same : ∀ rule, rule ≠ "select-star" →
      (starsAre .off).activation? rule = (starsAre .warning).activation? rule := by
    intro rule other
    simp [starsAre, Configuration.activation?, other]
  obtain ⟨found', analyzed', kept⟩ := others (starsAre .off) "select-star" rfl same
  have places : (tied.analyze starScript "a.sql" (starsAre .warning)).map
      (·.map fun f => (f.line, f.column, f.rule, f.severity)) =
        .ok [(1, 8, "select-star", .warning), (1, 8, "word-then-star", .warning),
          (1, 10, "print-statement", .error), (1, 10, "word-then-star", .warning)] := by
    cbv
  rw [analyzed] at places
  exact ⟨found, s, analyzed, unique, Except.ok.inj places, found', analyzed', kept⟩

end Linter
end SqlLint
