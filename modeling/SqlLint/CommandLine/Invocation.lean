import SqlLint.CommandLine.Request
import SqlLint.Machine
import SqlLint.Report

/-!
# Invocations

What the words after the program's name ask for: a command with its options. A command line that
makes no sense is a usage error. `--help` and `--version` take effect where they stand, so only a
mistake before them counts.

An option that holds one value is given at most once, and so is a switch. A path is never empty.
-/

namespace SqlLint.CommandLine

/-- What a run takes from its surroundings. -/
structure Environment where
  /-- The source root of runs that name none. -/
  sourceRoot : Option String
  /-- The directory of the user's settings. -/
  configDirectory : Option String
  home : Option String
  machine : Machine

/-- What an analysis is asked for. -/
structure AnalysisOptions where
  /-- The directory to which files are relative. -/
  sourceRoot : String
  /-- The only rules to run, as a list in one text. -/
  rules : Option String
  /-- The settings file or its directory. -/
  config : Option String
  /-- The platform's settings. -/
  codacyrc : Option String
  /-- Manifests of plugins. -/
  plugins : List String
  /-- How many files may be worked on at a time. -/
  jobs : Option Nat
  format : ReportFormat
  /-- Patterns for files that are not looked for. -/
  excludes : List String
  files : List String
deriving DecidableEq, Repr

/-- What the program is asked to do. -/
inductive Command
  | analyze (options : AnalysisOptions)
  | listRules
  /-- Write a settings file, over one that is there if `force` says so. -/
  | init (force : Bool)
deriving DecidableEq, Repr

/-- Why there is no command to carry out. -/
inductive Stop
  | help
  | version
  | usage (problem : UsageError)
deriving DecidableEq, Repr

/-- A command, and whether a log of the work on it is wanted. -/
structure Invocation where
  verbose : Bool
  command : Command
deriving DecidableEq, Repr

/-- The value of an option that was not given before. -/
def once {α : Type} (name : String) (before : Option α) (value : α) :
    Except Stop (Option α) :=
  match before with
  | none => .ok (some value)
  | some _ => .error (.usage (.repeated name))

/-- A path that is given as a value. -/
def pathValue (name value : String) : Except Stop String :=
  if value.isEmpty then .error (.usage (.invalidValue name value)) else .ok value

/-- A number that fits in 64 bits, with an optional plus sign. -/
def countValue (name value : String) : Except Stop Nat :=
  let digits := match value.toList with
    | '+' :: digits => digits
    | digits => digits
  let number := digits.foldl (fun n d => 10 * n + (d.toNat - '0'.toNat)) 0
  if !digits.isEmpty && digits.all Char.isDigit && number < 0x10000000000000000 then .ok number
  else .error (.usage (.invalidValue name value))

/-- The report format that a value names. -/
def formatValue (name : String) : String → Except Stop ReportFormat
  | "json" => .ok .json
  | "compact" => .ok .compact
  | value => .error (.usage (.invalidValue name value))

/-- Takes requests in order, each on what was asked before. -/
def takeAll {ς ν σ : Type} (take : σ → Request ς ν → Except Stop σ) (start : σ)
    (requests : Request.Sequence ς ν) : Except Stop σ :=
  requests.foldlM (fun asked request => do take asked (← request.mapError .usage)) start

/-- The switches of the program and its commands. -/
inductive Switch
  | verbose
  | help
  | version
  | force
deriving DecidableEq, Repr

namespace Switch

def name : Switch → String
  | .verbose => "verbose"
  | .help => "help"
  | .version => "version"
  | .force => "force"

def letter? : Switch → Option Char
  | .verbose => some 'v'
  | .help => some 'h'
  | .version => some 'V'
  | .force => none

/-- How switches are written. -/
def forms {ν : Type} (switches : List Switch) : List (OptionForm Switch ν) :=
  switches.map fun s => ⟨.switch s, s.name, s.letter?⟩

/-- Takes a switch besides those that are on. -/
def take (on : List Switch) : Switch → Except Stop (List Switch)
  | .help => .error .help
  | .version => .error .version
  | s => if on.contains s then .error (.usage (.repeated s.name)) else .ok (on ++ [s])

/-- Takes a request where there are nothing but switches. -/
def takeOnly (on : List Switch) : Request Switch Empty → Except Stop (List Switch)
  | .switch s => s.take on
  | .setting o _ => nomatch o
  | .operand text => .error (.usage (.unexpectedOperand text))

/-- The switches that words turn on where there are nothing but `switches`. -/
def readOnly (switches : List Switch) (words : List String) : Except Stop (List Switch) :=
  takeAll takeOnly [] (Request.ofWords (forms switches) none words)

end Switch

/-- The settings of an analysis. -/
inductive Setting
  | sourceRoot
  | rules
  | config
  | codacyrc
  | plugin
  | jobs
  | format
  | exclude
deriving DecidableEq, Repr

def Setting.name : Setting → String
  | .sourceRoot => "source-root"
  | .rules => "rules"
  | .config => "config"
  | .codacyrc => "codacyrc"
  | .plugin => "plugin"
  | .jobs => "jobs"
  | .format => "format"
  | .exclude => "exclude"

/-- The character that is short for a setting. -/
def Setting.letter? : Setting → Option Char
  | .config => some 'c'
  | .jobs => some 'j'
  | .format => some 'f'
  | .exclude => some 'e'
  | _ => none

/-- What was asked of an analysis so far. -/
structure AnalysisRequests where
  on : List Switch := []
  sourceRoot : Option String := none
  rules : Option String := none
  config : Option String := none
  codacyrc : Option String := none
  plugins : List String := []
  jobs : Option Nat := none
  format : Option ReportFormat := none
  excludes : List String := []
  files : List String := []
deriving DecidableEq, Repr

namespace AnalysisRequests

/-- How the options of an analysis are written. -/
def forms : List (OptionForm Switch Setting) :=
  Switch.forms [.verbose, .help]
    ++ [Setting.sourceRoot, .rules, .config, .codacyrc, .plugin, .jobs, .format, .exclude].map
      fun o => ⟨.setting o, o.name, o.letter?⟩

/-- Takes the value of a setting. -/
def takeSetting (r : AnalysisRequests) (o : Setting) (text : String) :
    Except Stop AnalysisRequests :=
  match o with
  | .sourceRoot => do
    return { r with sourceRoot := ← once o.name r.sourceRoot (← pathValue o.name text) }
  | .rules => do return { r with rules := ← once o.name r.rules text }
  | .config => do return { r with config := ← once o.name r.config (← pathValue o.name text) }
  | .codacyrc => do
    return { r with codacyrc := ← once o.name r.codacyrc (← pathValue o.name text) }
  | .plugin => do return { r with plugins := r.plugins ++ [← pathValue o.name text] }
  | .jobs => do return { r with jobs := ← once o.name r.jobs (← countValue o.name text) }
  | .format => do return { r with format := ← once o.name r.format (← formatValue o.name text) }
  | .exclude => return { r with excludes := r.excludes ++ [text] }

/-- Takes a request; operands are files. -/
def take (r : AnalysisRequests) : Request Switch Setting → Except Stop AnalysisRequests
  | .switch s => do return { r with on := ← s.take r.on }
  | .setting o text => r.takeSetting o text
  | .operand file => do return { r with files := r.files ++ [← pathValue "files" file] }

/-- The source root: as asked for, else as the environment says, else the working directory. -/
def sourceRootIn (r : AnalysisRequests) (environment : Environment) : Except Stop String :=
  match r.sourceRoot, environment.sourceRoot with
  | some path, _ => .ok path
  | none, some path => pathValue Setting.sourceRoot.name path
  | none, none => .ok "."

/-- The options that all requests together make. -/
def options (r : AnalysisRequests) (environment : Environment) : Except Stop AnalysisOptions := do
  return {
    sourceRoot := ← r.sourceRootIn environment
    rules := r.rules
    config := r.config
    codacyrc := r.codacyrc
    plugins := r.plugins
    jobs := r.jobs
    format := r.format.getD .json
    excludes := r.excludes
    files := r.files }

end AnalysisRequests

namespace Invocation

def commandNames : List String := ["analyze", "list-rules", "init", "help"]

/-- What the words after `help` ask for. -/
def readHelp : List String → Stop
  | [] => .help
  | [name] => if commandNames.contains name then .help else .usage (.unknownCommand name)
  | _ :: word :: _ => .usage (.unknownCommand word)

/-- The command that a word and the words after it ask for, after the switches `before`. -/
def readCommand (environment : Environment) (before : List Switch) (name : String)
    (words : List String) : Except Stop Invocation :=
  let verbose (on : List Switch) := (before ++ on).contains .verbose
  match name with
  | "analyze" => do
    let requests ← takeAll AnalysisRequests.take {}
      (Request.ofWords AnalysisRequests.forms none words)
    return ⟨verbose requests.on, .analyze (← requests.options environment)⟩
  | "list-rules" => do
    let on ← Switch.readOnly [.verbose, .help] words
    return ⟨verbose on, .listRules⟩
  | "init" => do
    let on ← Switch.readOnly [.verbose, .help, .force] words
    return ⟨verbose on, .init (on.contains .force)⟩
  | "help" => .error (readHelp words)
  | _ => .error (.usage (.unknownCommand name))

/-- What the words after the program's name ask for. -/
def ofWords (environment : Environment) (words : List String) : Except Stop Invocation := do
  let (leading, rest) := words.span fun word => (Word.ofText word).isOption
  let on ← Switch.readOnly [.verbose, .help, .version] leading
  match rest with
  | [] => .error (.usage .missingCommand)
  | name :: words => readCommand environment on name words

end Invocation
end SqlLint.CommandLine
