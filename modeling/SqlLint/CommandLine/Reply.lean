import SqlLint.CommandLine.Analysis
import SqlLint.Configuration.Defaults

/-!
# Replies to command lines

What the program does with a command line is a function of the words, the environment and the
files: it shows lines, may leave a file, and may fail. `Reply.ofWords` is the whole program but for
carrying the reply out.
-/

namespace SqlLint.CommandLine

/-- What the program does. -/
structure Reply where
  /-- What it shows; a newline follows each. -/
  lines : List String
  /-- A file it leaves: the path and the text. -/
  written : Option (String × String) := none
  failure : Option Failure := none
deriving DecidableEq, Repr

namespace Reply

/-- The status with which the program ends. -/
def status (r : Reply) : UInt32 := (r.failure.map Failure.status).getD 0

/-- The line that says why the program failed. -/
def complaint? (r : Reply) : Option String := r.failure.map fun f => s!"error: {f.message}"

def versionLine : String := "tsql-batch 0.3.0"

def helpLines : List String :=
  ["Concurrent T-SQL linter for batch and CI use", "",
    "Usage: tsql-batch [OPTIONS] <COMMAND>", "",
    "Commands:",
    "  analyze     Lint SQL files and report violations",
    "  list-rules  List available rules",
    "  init        Write a default .tsqllintrc to the current directory",
    "  help        Print this message or the help of the given subcommand(s)", "",
    "Options:",
    "  -v, --verbose  Enable verbose output",
    "  -h, --help     Print help",
    "  -V, --version  Print version"]

def linesOf (text : String) : List String :=
  ((text.toList.splitOn '\n').dropLast).map String.ofList

def builtInRegistry : Registry := .ofRules Rules.builtIn

/-- The directory in which a settings file is written. -/
def workingDirectory : String := "."

/-- Leaves a settings file with the defaults in a directory. -/
def ofInit (fs : FileSystem) (directory : String) (force : Bool) : Reply :=
  let path := Path.join directory SettingsSource.fileName
  if fs.exists? path && !force then { lines := [], failure := some (.settingsExist path) }
  else if fs.isDirectory path then
    { lines := [], failure := some (.unwritable path .isDirectory) }
  else {
    lines := [s!"Created {path}", "", "Next steps:",
      s!"  1. Set rules to \"error\", \"warning\" or \"off\" in {SettingsSource.fileName}",
      "  2. Run: tsql-batch analyze"]
    written := some (path, builtInRegistry.defaultSettingsText) }

def ofStop : Stop → Reply
  | .help => { lines := helpLines }
  | .version => { lines := [versionLine] }
  | .usage problem => { lines := [], failure := some (.usage problem) }

/-- A reply for which all the work is done. -/
inductive Draft
  | finished (reply : Reply)
  /-- An analysis may still tell how long its work took. -/
  | analyzed (options : AnalysisOptions) (work : AnalysisOptions.Work)

/-- The work on a command. -/
def draftOfCommand (fs : FileSystem) (environment : Environment) : Command → Draft
  | .analyze options => .analyzed options (options.work fs environment)
  | .listRules => .finished { lines := linesOf builtInRegistry.table }
  | .init force => .finished (ofInit fs workingDirectory force)

/-- The work on the words after the program's name. -/
def draft (fs : FileSystem) (environment : Environment) (words : List String) : Draft :=
  match Invocation.ofWords environment words with
  | .error stop => .finished (ofStop stop)
  | .ok invocation => draftOfCommand fs environment invocation.command

/-- The reply after work that took the time `elapsed`. -/
def Draft.reply (elapsed : Duration) : Draft → Reply
  | .finished reply => reply
  | .analyzed options work =>
    let (lines, failure) := options.conclude elapsed work
    { lines, failure }

/-- The reply to the words after the program's name; a run takes the time `elapsed`. -/
def ofWords (fs : FileSystem) (environment : Environment) (elapsed : Duration)
    (words : List String) : Reply :=
  (draft fs environment words).reply elapsed

end Reply
end SqlLint.CommandLine
