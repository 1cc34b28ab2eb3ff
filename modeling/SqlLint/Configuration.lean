import SqlLint.Dictionary
import SqlLint.Finding
import SqlLint.Plugin.Reference

/-!
# Configurations

What a run is told: the activation of each rule, the compatibility level of the scripts, and the
plugins to load. A rule that is not named gets the activation for unlisted rules; when there is none
either, it runs at its own severity.
-/

namespace SqlLint

/-- Whether and how loudly a rule runs. -/
inductive Activation
  | error
  | warning
  | off
deriving DecidableEq, Repr, Inhabited

namespace Activation

/-- The severity at which findings surface; none when the rule does not run. -/
def severity? : Activation → Option Severity
  | .error => some .error
  | .warning => some .warning
  | .off => none

def word : Activation → String
  | .error => "error"
  | .warning => "warning"
  | .off => "off"

def alternatives : List (String × Activation) :=
  [.error, .warning, .off].map fun a => (a.word, a)

def ofWord? (word : String) : Option Activation := alternatives.lookup word

def ofSeverity : Severity → Activation
  | .error => .error
  | .warning => .warning

end Activation

/-- What a run is told. -/
structure Configuration where
  /-- The activations of the rules that are named. -/
  rules : Dictionary Activation
  level : UInt32
  /-- Plugins in the order in which they are declared. -/
  plugins : List PluginReference
  /-- The activation of all other rules, if there is one. -/
  unlisted : Option Activation
deriving DecidableEq, Inhabited

namespace Configuration

def defaultLevel : UInt32 := 120

/-- The activation of a rule; none leaves the rule at its own severity. -/
def activation? (c : Configuration) (rule : String) : Option Activation :=
  (c.rules.get? rule).or c.unlisted

/-- The named rules that run, with the severity of their findings. -/
def activeRules (c : Configuration) : List (String × Severity) :=
  c.rules.entries.filterMap fun (rule, activation) =>
    activation.severity?.map fun severity => (rule, severity)

end Configuration
end SqlLint
