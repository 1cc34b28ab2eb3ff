import SqlLint.Proofs.Indexed.Tokenizing
import SqlLint.Proofs.Indexed.Transactions
import SqlLint.Run

/-!
# Analysis without faults

The whole of an analysis with the built-in rules is put together from the accesses by number: a file
is tokenized by its bytes, every active inspection goes over the tokens by index, and a fault in any
of them breaks the analysis down. There is none, whatever the text: what is computed with checked
accesses is what scripts and rules say without them.
-/

namespace SqlLint.Indexed

def builtIn : List Inspection :=
  [crossDatabaseTransaction, dataTypeLength, disallowCursors, fullText, informationSchema,
    keywordCapitalization, linkedServer, objectProperty, printStatement, schemaQualify, selectStar,
    sessionOption Rules.setAnsi.toDescriptor .ansiNulls,
    sessionOption Rules.setNoCount.toDescriptor .noCount,
    sessionOption Rules.setQuotedIdentifier.toDescriptor .quotedIdentifier,
    sessionOption Rules.setIsolationLevel.toDescriptor .isolationLevel, setVariable, unicodeString,
    upperLower]

/-- Each built-in rule is done by index without a fault. -/
theorem builtIn_agree : List.Forall₂ Inspection.Agrees builtIn Rules.builtIn := by
  exact .cons agrees_crossDatabaseTransaction <| .cons agrees_dataTypeLength <|
    .cons agrees_disallowCursors <| .cons agrees_fullText <| .cons agrees_informationSchema <|
    .cons agrees_keywordCapitalization <| .cons agrees_linkedServer <|
    .cons agrees_objectProperty <| .cons agrees_printStatement <| .cons agrees_schemaQualify <|
    .cons agrees_selectStar <| .cons (agrees_sessionOption _ .ansiNulls) <|
    .cons (agrees_sessionOption _ .noCount) <|
    .cons (agrees_sessionOption _ .quotedIdentifier) <|
    .cons (agrees_sessionOption _ .isolationLevel) <|
    .cons agrees_setVariable <| .cons agrees_unicodeString <| .cons agrees_upperLower .nil

section Findings

variable (config : Configuration) (path : String)

/-- The severity at which what an inspection remarks surfaces; none when it is not made. -/
def Inspection.severity? (i : Inspection) : Option Severity :=
  match config.activation? i.id with
  | some activation => activation.severity?
  | none => some i.severity

def Inspection.findings (tokens : List Token) (i : Inspection) : Checked (List Finding) :=
  match i.severity? config with
  | some severity => do
    return (← i.inspect tokens).map fun r => ⟨path, r.line, r.column, i.id, severity, r.message⟩
  | none => return []

def findings (tokens : List Token) : List Inspection → Checked (List Finding)
  | [] => return []
  | i :: others => do
    let found ← i.findings config path tokens
    let further ← findings tokens others
    return found ++ further

/-- What comes of looking at a text with the built-in inspections. -/
def analyzeText (text : String) : Checked (Except AnalysisError (List Finding)) := do
  match ← tokenize text with
  | .error e => return .error (.malformed path e.message)
  | .ok (tokens, _) =>
    let found ← findings config path tokens builtIn
    return .ok (found.mergeSort Finding.placedBefore)

/-- What comes of looking at the file at a path. A fault breaks the analysis down. -/
def attempt (fs : FileSystem) : Attempt :=
  match fs.read path with
  | .error e => .failed (.unreadable path e.message)
  | .ok text =>
    match analyzeText config path text with
    | .ok (.ok found) => .findings found
    | .ok (.error e) => .failed e
    | .error _ => .crashed none

variable {config path} {s : Script}

theorem Inspection.Agrees.findings_eq {i : Inspection} {r : Rule} (agrees : i.Agrees r)
    (enclosed : ∀ t ∈ s.tokens, t.Enclosed) :
    i.findings config s.path s.tokens = .ok (Linter.findingsOf config s r) := by
  obtain ⟨descriptor, inspect⟩ := agrees
  have severity : i.severity? config = Linter.severity? config r := by
    obtain ⟨_, _⟩ := i
    cases descriptor
    rfl
  rw [Inspection.findings, Linter.findingsOf, severity, inspect s enclosed, descriptor]
  cases Linter.severity? config r with
  | none => rfl
  | some severity => simp [Rule.check, Rule.finding, Function.comp_def]

theorem findings_eq {inspections : List Inspection} {rules : List Rule}
    (agree : List.Forall₂ Inspection.Agrees inspections rules)
    (enclosed : ∀ t ∈ s.tokens, t.Enclosed) : findings config s.path s.tokens inspections =
      .ok (rules.flatMap (Linter.findingsOf config s)) := by
  induction agree with
  | nil => rfl
  | cons first _ ih =>
      rw [findings, first.findings_eq enclosed, Checked.ok_bind, ih, List.flatMap_cons]
      rfl

/-- Looking at a text by its bytes and tokens by index yields the findings of the built-in rules. -/
theorem analyzeText_eq (root text : String) : analyzeText config path text =
    .ok (match Script.ofText path root config.level text with
      | .error e => .error (.malformed path e.message)
      | .ok s => .ok (Linter.findings Rules.builtIn config s)) := by
  rw [analyzeText, tokenize_eq path root config.level text, Checked.ok_bind]
  cases made : Script.ofText path root config.level text with
  | error e => rfl
  | ok s =>
      obtain ⟨_, laid⟩ := Script.exists_laid made
      obtain ⟨_, _, shown⟩ := Script.ofText_eq_ok_iff.mp made
      have path_eq : s.path = path := by rw [shown]
      have found : findings config s.path s.tokens builtIn = _ :=
        findings_eq builtIn_agree laid.enclosed
      rw [path_eq] at found
      simp only [Except.map]
      rw [found]
      rfl

theorem attempt_eq (fs : FileSystem) (root : String) : attempt config path fs =
    ((Linter.base root Rules.builtIn).analyzer fs).analyze [] path config := by
  have rules : (Linter.layered (.base root Rules.builtIn) []).rules = Rules.builtIn :=
    List.append_nil _
  rw [attempt, Linter.analyzer]
  simp only [Linter.analyze, List.map_nil, rules, Linter.root]
  cases fs.read path with
  | error e => rfl
  | ok text =>
      simp only [analyzeText_eq root]
      cases Script.ofText path root config.level text <;> rfl

end Findings

/-- **Nothing that an analysis with the built-in rules accesses is out of place.** Whatever the
text, the path, the root and the compatibility level, tokenizing by bytes comes to the tokens and
comments of the script, or to its error, without a fault. So do masking the comments, locating any
offset whatever, and each of the built-in rules. An analysis by index therefore never breaks down. -/
theorem builtIn_analysis_never_faults (path root : String) (level : UInt32) (text : String) :
    tokenize text = .ok ((Script.ofText path root level text).map fun s =>
      (s.tokens, s.comments)) ∧
    (∀ s, Script.ofText path root level text = .ok s →
      masked text s.comments = .ok (utf8 s.masked) ∧
      (∀ offset, position text.toList offset = .ok (s.locate offset)) ∧
      List.Forall₂ (fun (i : Inspection) (r : Rule) => i.toDescriptor = r.toDescriptor ∧
        i.inspect s.tokens = .ok (r.inspect s)) builtIn Rules.builtIn) ∧
    ∀ (fs : FileSystem) (config : Configuration),
      attempt config path fs =
        ((Linter.base root Rules.builtIn).analyzer fs).analyze [] path config ∧
      ∀ message, attempt config path fs ≠ .crashed message := by
  refine ⟨tokenize_eq path root level text, fun s made => ⟨masked_eq made, fun offset => ?_, ?_⟩,
    fun fs config => ⟨attempt_eq fs root, fun message crashed => ?_⟩⟩
  · obtain ⟨_, _, shown⟩ := Script.ofText_eq_ok_iff.mp made
    rw [position_eq_locate, Script.locate, shown]
  · obtain ⟨_, laid⟩ := Script.exists_laid made
    exact builtIn_agree.imp fun i r agrees => ⟨agrees.1, agrees.2 s laid.enclosed⟩
  · rw [attempt_eq fs root, Linter.analyzer] at crashed
    dsimp only at crashed
    split at crashed <;> cases crashed

/-- A script with a nested comment in front, a transaction that ends but never began, and letters
outside ASCII. -/
def crooked : String := "/*é/**/*/COMMIT SELECT TOP (1) * FROM [ü]"

theorem builtIn_analysis_never_faults_of_crooked : ∃ s,
    Script.ofText "a.sql" "" 120 crooked = .ok s ∧
    tokenize crooked = .ok (.ok (s.tokens, [(0, 10)])) ∧
    masked crooked [(0, 10)] = .ok (utf8 s.masked) ∧
    position crooked.toList 3 = .ok (1, 1) ∧
    selectStar.inspect s.tokens = .ok [⟨1, 32, "Expected column names in SELECT"⟩] := by
  obtain ⟨s, made, comments, within, stars⟩ : ∃ s,
      Script.ofText "a.sql" "" 120 crooked = .ok s ∧ s.comments = [(0, 10)] ∧
      s.locate 3 = (1, 1) ∧
      Rules.selectStar.inspect s = [⟨1, 32, "Expected column names in SELECT"⟩] :=
    ⟨_, by cbv, by cbv, by cbv, by cbv⟩
  obtain ⟨tokenized, scripts, _⟩ := builtIn_analysis_never_faults "a.sql" "" 120 crooked
  obtain ⟨blanked, located, inspected⟩ := scripts s made
  rw [made] at tokenized
  have star : selectStar.inspect s.tokens = .ok (Rules.selectStar.inspect s) :=
    (inspected.get (i := 10) (by decide) (by decide)).2
  exact ⟨s, made, comments ▸ tokenized, comments ▸ blanked, within ▸ located 3, stars ▸ star⟩

end SqlLint.Indexed
