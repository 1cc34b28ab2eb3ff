import SqlLint.Plugin.Loading
import SqlLint.Proofs.Outcome

/-!
# The rules that entries of a manifest describe

An entry describes a rule if its identifier is well formed, its pattern is a regular expression, its
severity is one of two words and its patterns for files are all read. Otherwise it has a flaw: the
first one in that order. Making a rule of an entry succeeds exactly with the rule it describes and
fails exactly with its flaw, whatever other rules there are.
-/

namespace SqlLint.Plugin

/-- Whether a text is made of small letters, digits and hyphens, and not empty. -/
def IsIdentifier (id : String) : Prop :=
  id ≠ "" ∧ ∀ c ∈ id.toList, ('a' ≤ c ∧ c ≤ 'z') ∨ ('0' ≤ c ∧ c ≤ '9') ∨ c = '-'

/-- The severities by the words for them in a manifest. -/
def severityWords : List (String × Severity) := [("error", .error), ("warning", .warning)]

/-- Whether an entry without flaws describes a rule. -/
structure Describes (entry : RuleEntry) (rule : PatternRule) : Prop where
  identifier : IsIdentifier entry.id
  id : rule.id = entry.id
  title : rule.title = entry.title.getD entry.message
  category : rule.category = entry.category.getD .errorProne
  message : rule.message = entry.message
  pattern : ∃ regex, Regex.ofText? entry.pattern = some regex ∧ rule.find = regex.findAll
  severity : (entry.severity, rule.severity) ∈ severityWords
  files : List.Forall₂ (Glob.parse · = .ok ·) entry.files rule.files

/-- The flaw of an entry in the manifest of a plugin: the first thing that is wrong with it. -/
inductive Flaw (plugin : String) (entry : RuleEntry) : PluginError → Prop
  | identifier (malformed : ¬ IsIdentifier entry.id) :
      Flaw plugin entry (.invalidRuleId plugin entry.id)
  | pattern (identifier : IsIdentifier entry.id)
      (malformed : Regex.ofText? entry.pattern = none) :
      Flaw plugin entry (.invalidPattern plugin entry.id)
  | severity (identifier : IsIdentifier entry.id)
      (pattern : (Regex.ofText? entry.pattern).isSome)
      (unknown : entry.severity ∉ severityWords.map (·.1)) :
      Flaw plugin entry (.unknownSeverity plugin entry.id entry.severity)
  | files {before after : List String} {glob : String} {problem : GlobError}
      (identifier : IsIdentifier entry.id) (pattern : (Regex.ofText? entry.pattern).isSome)
      (severity : entry.severity ∈ severityWords.map (·.1))
      (split : entry.files = before ++ glob :: after)
      (sound : ∀ earlier ∈ before, ∃ g, Glob.parse earlier = .ok g)
      (malformed : Glob.parse glob = .error problem) :
      Flaw plugin entry (.invalidGlob plugin entry.id glob problem)

variable {plugin : String} {entry : RuleEntry} {rule : PatternRule} {e : PluginError}

theorem isRuleId_iff {id : String} : isRuleId id = true ↔ IsIdentifier id := by
  rw [isRuleId, Bool.and_eq_true, List.all_eq_true, IsIdentifier]
  apply and_congr
  · simp
  · simp [Char.isLower, Char.isDigit, Char.le_def, or_assoc]

theorem ofWord?_eq_some_iff {word : String} {severity : Severity} :
    Severity.ofWord? word = some severity ↔ (word, severity) ∈ severityWords := by
  have asked : Severity.ofWord? word =
      if word = "warning" then some .warning else if word = "error" then some .error else none := by
    simp only [Severity.ofWord?, Severity.alternatives, List.map, List.lookup, Severity.word]
    split <;> simp_all
    split <;> simp_all
  rw [asked]
  by_cases warning : word = "warning"
  · cases severity <;> simp [warning, severityWords]
  · cases severity <;> simp [warning, severityWords]

theorem ofWord?_eq_none_iff {word : String} :
    Severity.ofWord? word = none ↔ word ∉ severityWords.map (·.1) := by
  rw [Option.eq_none_iff_forall_ne_some, List.mem_map]
  constructor
  · rintro unknown ⟨⟨_, severity⟩, known, rfl⟩
    exact unknown severity (ofWord?_eq_some_iff.mpr known)
  · intro unknown severity known
    exact unknown ⟨(word, severity), ofWord?_eq_some_iff.mp known, rfl⟩

/-- The rule of an entry whose pattern, severity and patterns for files have been read. -/
def assemble (entry : RuleEntry) (regex : Regex) (severity : Severity) (files : List Glob) :
    PatternRule where
  id := entry.id
  title := entry.title.getD entry.message
  category := entry.category.getD .errorProne
  severity := severity
  find := regex.findAll
  message := entry.message
  files := files

theorem ruleOf_eq : ruleOf plugin entry =
    if isRuleId entry.id then
      match Regex.ofText? entry.pattern, Severity.ofWord? entry.severity with
      | none, _ => .error (.invalidPattern plugin entry.id)
      | some _, none => .error (.unknownSeverity plugin entry.id entry.severity)
      | some regex, some severity =>
        (entry.files.mapM (fileGlob plugin entry.id)).map (assemble entry regex severity)
    else .error (.invalidRuleId plugin entry.id) := by
  rw [ruleOf]
  cases isRuleId entry.id with
  | false => rfl
  | true =>
      cases Regex.ofText? entry.pattern with
      | none => rfl
      | some regex => cases Severity.ofWord? entry.severity <;> rfl

theorem mapM_fileGlob_eq_ok_iff {id : String} {texts : List String} {files : List Glob} :
    texts.mapM (fileGlob plugin id) = .ok files ↔
      List.Forall₂ (Glob.parse · = .ok ·) texts files := by
  rw [Except.mapM_eq_ok_iff]
  simp only [fileGlob, Except.mapError_eq_ok_iff]

theorem mapM_fileGlob_eq_error_iff {id : String} {texts : List String} :
    texts.mapM (fileGlob plugin id) = .error e ↔ ∃ before glob after problem,
      texts = before ++ glob :: after ∧ (∀ earlier ∈ before, ∃ g, Glob.parse earlier = .ok g) ∧
        Glob.parse glob = .error problem ∧ e = .invalidGlob plugin id glob problem := by
  rw [Except.mapM_eq_error_iff]
  simp only [fileGlob, Except.mapError_eq_ok_iff, Except.mapError_eq_error_iff]
  constructor
  · rintro ⟨before, glob, after, split, sound, problem, malformed, rfl⟩
    exact ⟨before, glob, after, problem, split, sound, malformed, rfl⟩
  · rintro ⟨before, glob, after, problem, split, sound, malformed, rfl⟩
    exact ⟨before, glob, after, split, sound, problem, malformed, rfl⟩

/-- A rule is made of an entry exactly if the entry describes it. -/
theorem ruleOf_eq_ok_iff : ruleOf plugin entry = .ok rule ↔ Describes entry rule := by
  rw [ruleOf_eq]
  constructor
  · intro made
    split at made
    · next valid =>
        split at made
        · cases made
        · cases made
        · next regex severity compiled known =>
            obtain ⟨files, read, rfl⟩ := Except.map_eq_ok_iff.mp made
            exact ⟨isRuleId_iff.mp valid, rfl, rfl, rfl, rfl, ⟨regex, compiled, rfl⟩,
              ofWord?_eq_some_iff.mp known, mapM_fileGlob_eq_ok_iff.mp read⟩
    · cases made
  · rintro ⟨identifier, id, title, category, message, ⟨regex, compiled, find⟩, severity, files⟩
    rw [if_pos (isRuleId_iff.mpr identifier), compiled, ofWord?_eq_some_iff.mpr severity]
    refine Except.map_eq_ok_iff.mpr ⟨_, mapM_fileGlob_eq_ok_iff.mpr files, ?_⟩
    obtain ⟨⟨_, _, _, _⟩, _, _, _⟩ := rule
    simp_all [assemble]

/-- Making a rule of an entry fails exactly with the flaw of the entry. -/
theorem ruleOf_eq_error_iff : ruleOf plugin entry = .error e ↔ Flaw plugin entry e := by
  rw [ruleOf_eq]
  constructor
  · intro unmade
    split at unmade
    · next valid =>
        have identifier := isRuleId_iff.mp valid
        split at unmade
        · next malformed =>
            cases unmade
            exact .pattern identifier malformed
        · next compiled unknown =>
            cases unmade
            exact .severity identifier (by rw [compiled]; rfl) (ofWord?_eq_none_iff.mp unknown)
        · next compiled known =>
            obtain ⟨before, glob, after, problem, split, sound, malformed, rfl⟩ :=
              mapM_fileGlob_eq_error_iff.mp (Except.map_eq_error_iff.mp unmade)
            have word := List.mem_map_of_mem (f := (·.1)) (ofWord?_eq_some_iff.mp known)
            exact .files identifier (by rw [compiled]; rfl) word split sound malformed
    · next invalid =>
        cases unmade
        exact .identifier fun identifier => invalid (isRuleId_iff.mpr identifier)
  · intro flaw
    cases flaw with
    | identifier malformed => rw [if_neg fun valid => malformed (isRuleId_iff.mp valid)]
    | pattern identifier malformed =>
        rw [if_pos (isRuleId_iff.mpr identifier), malformed]
    | severity identifier pattern unknown =>
        obtain ⟨regex, compiled⟩ := Option.isSome_iff_exists.mp pattern
        rw [if_pos (isRuleId_iff.mpr identifier), compiled, ofWord?_eq_none_iff.mpr unknown]
    | files identifier pattern severity split sound malformed =>
        obtain ⟨regex, compiled⟩ := Option.isSome_iff_exists.mp pattern
        obtain ⟨⟨_, severity⟩, known, same⟩ := List.mem_map.mp severity
        dsimp only at same
        subst same
        rw [if_pos (isRuleId_iff.mpr identifier), compiled, ofWord?_eq_some_iff.mpr known]
        refine Except.map_eq_error_iff.mpr (mapM_fileGlob_eq_error_iff.mpr ?_)
        exact ⟨_, _, _, _, split, sound, malformed, rfl⟩

theorem Describes.isIdentifier (h : Describes entry rule) : IsIdentifier rule.id := by
  rw [h.id]
  exact h.identifier

/-- Each rule of a list is described by its entry. -/
theorem exists_entry_of_mem {entries : List RuleEntry} {rules : List PatternRule}
    (described : List.Forall₂ Describes entries rules) (member : rule ∈ rules) :
    ∃ entry, Describes entry rule := by
  induction described with
  | nil => cases member
  | cons first _ ih =>
      rcases List.mem_cons.mp member with rfl | member
      · exact ⟨_, first⟩
      · exact ih member

/-- A flaw is never that an identifier is taken. -/
theorem Flaw.ne_duplicateRule (h : Flaw plugin entry e) (name id : String) :
    e ≠ .duplicateRule name id := by
  cases h <;> rintro ⟨⟩

end SqlLint.Plugin
