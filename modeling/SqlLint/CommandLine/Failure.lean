import SqlLint.CommandLine.Codacy
import SqlLint.CommandLine.Request
import SqlLint.Discovery
import SqlLint.Run

/-!
# How a command fails

A command that is not understood fails in another way than one that cannot be carried out; the
status with which the program ends tells them apart.
-/

namespace SqlLint.CommandLine

/-- Why a command is not carried out to its end. -/
inductive Failure
  | usage (problem : UsageError)
  | codacy (problem : CodacyError)
  /-- The files below a source root cannot be found. -/
  | discovery (root : String) (problem : DiscoveryError)
  /-- No file stands where the settings file is said to be. -/
  | noSettings (path : String)
  | run (problem : RunError)
  /-- There is a settings file already. -/
  | settingsExist (path : String)
  | unwritable (path : String) (cause : AccessError)
deriving DecidableEq, Repr

namespace Failure

/-- A problem and what lies behind it, from the outside in. -/
def discoveryChain (problem : DiscoveryError) : List String :=
  [problem.message, problem.cause] ++ match problem with
    | .invalidExclude _ => []
    | .unreadable _ cause => [cause.message]

def message : Failure → String
  | .usage problem => problem.message
  | .codacy problem => problem.message
  | .discovery root problem =>
    ": ".intercalate (s!"failed to discover files under {root}" :: discoveryChain problem)
  | .noSettings path => s!"config file not found: {path}"
  | .run problem =>
    match problem.help? with
    | some help => s!"{problem.message} ({help})"
    | none => problem.message
  | .settingsExist path =>
    s!"Configuration file already exists at {path}. Use --force to overwrite."
  | .unwritable path cause => s!"failed to write {path}: {cause.message}"

/-- The status with which the program ends. -/
def status : Failure → UInt32
  | .usage _ => 2
  | _ => 1

end Failure
end SqlLint.CommandLine
