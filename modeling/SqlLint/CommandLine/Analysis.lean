import SqlLint.CommandLine.Failure
import SqlLint.CommandLine.Invocation
import SqlLint.CommandLine.SettingsSource
import SqlLint.Rules.BuiltIn

/-!
# Analyses from the command line

The options of an analysis and what the file system holds are turned into a plan: which files are
looked at, which rules are selected, and where the settings lie. The files are those named, else
those the platform lists, else those found below the source root. A list of rules on the command
line wins over the platform's, even when it names none.

Problems come in a fixed order: the platform's settings, then the files, then a settings file that
is named but absent, then whatever ends the run.
-/

namespace SqlLint.CommandLine

/-- What an analysis works on. -/
structure AnalysisPlan where
  /-- The only rules to run, if any are named. -/
  selected : List String
  files : List String
  settings : SettingsSource
deriving DecidableEq, Repr

namespace AnalysisOptions

/-- The names in a list that is one text: between commas, without white space around them. -/
def ruleNames (list : String) : List String :=
  let names := (list.toList.splitOn ',').map fun name => String.ofList (WhiteSpace.trim name)
  names.filter (· ≠ "")

/-- The rules that are selected. -/
def selectedRules (o : AnalysisOptions) (codacy : Option CodacySettings) : List String :=
  match o.rules with
  | some list => ruleNames list
  | none => (codacy.map CodacySettings.allowList).getD []

/-- The files that are looked at. -/
def chosenFiles (fs : FileSystem) (o : AnalysisOptions) (codacy : Option CodacySettings) :
    Except Failure (List String) :=
  if !o.files.isEmpty then .ok o.files
  else
    match codacy.bind (·.files) with
    | some files => .ok files
    | none => (Discovery.find fs o.sourceRoot o.excludes).mapError (.discovery o.sourceRoot)

/-- The platform's settings, if they are given. -/
def platform (fs : FileSystem) (o : AnalysisOptions) :
    Except Failure (Option CodacySettings) :=
  o.codacyrc.mapM fun path => (CodacySettings.load fs path).mapError .codacy

def settingsSource (fs : FileSystem) (environment : Environment) (o : AnalysisOptions) :
    SettingsSource :=
  SettingsSource.find fs o.sourceRoot o.config
    (SettingsSource.userDirectory? environment.configDirectory environment.home)

/-- What an analysis works on. -/
def plan (fs : FileSystem) (environment : Environment) (o : AnalysisOptions) :
    Except Failure AnalysisPlan := do
  let codacy ← o.platform fs
  let files ← o.chosenFiles fs codacy
  let settings := o.settingsSource fs environment
  match settings with
  | .explicit path => if !fs.isFile path then throw (.noSettings path)
  | _ => pure ()
  return ⟨o.selectedRules codacy, files, settings⟩

/-- What the run of a plan is asked for. -/
def runRequest (o : AnalysisOptions) (p : AnalysisPlan) : RunRequest where
  root := o.sourceRoot
  selected := p.selected
  settingsPath := p.settings.path?
  plugins := o.plugins.map .ofPath
  jobs := o.jobs

/-- How the lines of an analysis are written. -/
def style (o : AnalysisOptions) : ReportStyle := ⟨o.format, some o.sourceRoot⟩

/-- What is left of an analysis when its files have been worked on. -/
abbrev Work := Except Failure (Except RunError (Preparation × Progress Sink))

/-- The work of an analysis on its files. -/
def work (fs : FileSystem) (environment : Environment) (o : AnalysisOptions) : Work := do
  let plan ← o.plan fs environment
  let linter := Linter.base o.sourceRoot Rules.builtIn
  return Run.work environment.machine fs (linter.analyzer fs) (o.runRequest plan)
    (Run.writeLine o.style) .unlimited plan.files

/-- The lines an analysis reports when its work has taken the time `elapsed`, and why it fails if it
does. -/
def conclude (o : AnalysisOptions) (elapsed : Duration) : Work → List String × Option Failure
  | .error failure => ([], some failure)
  | .ok work =>
    let run := Run.conclude (Run.writeLine o.style) elapsed .unlimited work
    match run.result with
    | .ok _ => (run.report.shown, none)
    | .error problem => (run.report.shown, some (.run problem))

/-- The lines an analysis reports, and why it fails if it does. -/
def analyze (fs : FileSystem) (environment : Environment) (elapsed : Duration)
    (o : AnalysisOptions) : List String × Option Failure :=
  o.conclude elapsed (o.work fs environment)

end AnalysisOptions
end SqlLint.CommandLine
