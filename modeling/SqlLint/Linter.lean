import SqlLint.Configuration
import SqlLint.FileSystem
import SqlLint.Registry

/-!
# The linter

A linter runs its rules over one file at a time. Rules can be layered over a linter without
touching it: the rules of the layer below come first. The findings of a file are those of each
active rule, at the severity the configuration gives it, sorted by place; findings at one place
keep the order of the rules.
-/

namespace SqlLint

/-- Why a file could not be analysed. -/
inductive AnalysisError
  | unreadable (path cause : String)
  | malformed (path cause : String)
  | crashed (path message : String)
deriving DecidableEq, Repr

def AnalysisError.message : AnalysisError → String
  | .unreadable path cause => s!"failed to read {path}: {cause}"
  | .malformed path cause => s!"could not parse {path}: {cause}"
  | .crashed path message => s!"analyzer panicked on {path}: {message}"

/-- Whether a finding stands no later than another. -/
def Finding.placedBefore (a b : Finding) : Bool :=
  a.line < b.line || (a.line == b.line && a.column ≤ b.column)

/-- A linter: rules for the files below a root, and layers of further rules over it. -/
inductive Linter
  | base (root : String) (rules : List Rule)
  | layered (below : Linter) (rules : List Rule)

namespace Linter

/-- The root to which paths are relative. -/
def root : Linter → String
  | base root _ => root
  | layered below _ => below.root

/-- All rules, those of lower layers first. -/
def rules : Linter → List Rule
  | base _ rules => rules
  | layered below rules => below.rules ++ rules

def registry (l : Linter) : Registry := .ofRules l.rules

/-- The severity at which a rule's findings surface; none when the rule does not run. -/
def severity? (config : Configuration) (rule : Rule) : Option Severity :=
  match config.activation? rule.id with
  | some activation => activation.severity?
  | none => some rule.severity

/-- The findings of one rule under a configuration. -/
def findingsOf (config : Configuration) (s : Script) (rule : Rule) : List Finding :=
  match severity? config rule with
  | some severity => (rule.check s).map fun f => { f with severity }
  | none => []

/-- The findings of a list of rules in a script, sorted by place. -/
def findings (rules : List Rule) (config : Configuration) (s : Script) : List Finding :=
  (rules.flatMap (findingsOf config s)).mergeSort Finding.placedBefore

/-- The findings in the file at a path. -/
def analyze (fs : FileSystem) (l : Linter) (path : String) (config : Configuration) :
    Except AnalysisError (List Finding) :=
  match fs.read path with
  | .error e => .error (.unreadable path e.message)
  | .ok text =>
    match Script.ofText path l.root config.level text with
    | .error e => .error (.malformed path e.message)
    | .ok s => .ok (findings l.rules config s)

end Linter
end SqlLint
