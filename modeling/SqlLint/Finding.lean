/-!
# Findings

What the linter says about a script: a finding of one rule at one place, with the severity it is
surfaced at.
-/

namespace SqlLint

/-- How serious a finding is. -/
inductive Severity
  /-- Should be addressed. -/
  | warning
  /-- Must be fixed. -/
  | error
deriving DecidableEq, Repr, Inhabited

def Severity.word : Severity → String
  | .warning => "warning"
  | .error => "error"

def Severity.alternatives : List (String × Severity) :=
  [.warning, .error].map fun s => (s.word, s)

def Severity.ofWord? (word : String) : Option Severity := alternatives.lookup word

/-- The broad group a rule belongs to. -/
inductive Category
  /-- Code that is likely to behave incorrectly. -/
  | errorProne
  /-- Code that is likely to perform poorly. -/
  | performance
  /-- Formatting and naming conventions. -/
  | codeStyle
deriving DecidableEq, Repr, Inhabited

def Category.word : Category → String
  | .errorProne => "error-prone"
  | .performance => "performance"
  | .codeStyle => "code-style"

def Category.alternatives : List (String × Category) :=
  [.errorProne, .performance, .codeStyle].map fun c => (c.word, c)

def Category.ofWord? (word : String) : Option Category := alternatives.lookup word

/-- A finding of one rule in one file. -/
structure Finding where
  /-- The file, as handed to the linter. -/
  file : String
  line : Nat
  column : Nat
  rule : String
  severity : Severity
  message : String
deriving DecidableEq, Repr, Inhabited

/-- Place, severity, rule and message in one line. -/
def Finding.describe (f : Finding) : String :=
  s!"{f.file}:{f.line}:{f.column}: {f.severity.word} [{f.rule}] {f.message}"

end SqlLint
