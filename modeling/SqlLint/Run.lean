import SqlLint.Configuration.Resolution
import SqlLint.Linter
import SqlLint.Machine
import SqlLint.Plugin.Loading
import SqlLint.Report

/-!
# Runs

A run analyses a list of files and reports on them. First it resolves the configuration, has it
kept for the analysis, loads the plugins and starts its workers; a problem there ends it before any
file is looked at. Then each file has one outcome: its findings, or the reason why it could not be
analysed. Whatever goes wrong with a file concerns that file only. A record that cannot be written
ends the run. At the end, if any file was analysed, comes a summary.

What analyses files is left open: an `Analyzer` may be the linter or anything else that takes
plugin rules.
-/

namespace SqlLint

/-- What comes of looking at one file. -/
inductive Attempt
  | findings (found : List Finding)
  | failed (error : AnalysisError)
  /-- The analysis broke down, with a message if it left one. -/
  | crashed (message : Option String)
deriving DecidableEq, Repr

/-- Something that analyses files. -/
structure Analyzer where
  /-- The rules it has before plugins are loaded. -/
  registry : Registry
  /-- Looks at the file at a path, with plugin rules besides its own. -/
  analyze : List PatternRule → String → Configuration → Attempt

/-- The linter as an analyzer. -/
def Linter.analyzer (fs : FileSystem) (l : Linter) : Analyzer where
  registry := l.registry
  analyze plugins path config :=
    let rules := plugins.map PatternRule.toRule
    match (Linter.layered l rules).analyze fs path config with
    | .ok found => .findings found
    | .error e => .failed e

/-- What a run reports of one file. -/
inductive Outcome
  | analyzed (found : List Finding)
  /-- The file, as listed, could not be analysed. -/
  | failed (file cause : String)
deriving DecidableEq, Repr

namespace Outcome

def records : Outcome → List Record
  | .analyzed found => found.map .finding
  | .failed file cause => [.failure file cause]

def isAnalyzed : Outcome → Bool
  | .analyzed _ => true
  | .failed _ _ => false

end Outcome

/-- What a caller asks of a run. -/
structure RunRequest where
  /-- The directory to which the files are relative. -/
  root : String
  /-- The only rules to run; without any, nothing is said about rules. -/
  selected : List String
  /-- The settings file to use if a file stands there. -/
  settingsPath : Option String
  /-- Plugins besides those of the configuration. -/
  plugins : List PluginReference
  /-- The number of workers; without one the machine chooses it. -/
  jobs : Option Nat
deriving DecidableEq, Repr

/-- Why a run ends early. -/
inductive RunError
  | config (e : ConfigError)
  | plugin (e : PluginError)
  | render (e : RenderError)
  /-- The workers cannot be started. -/
  | workers (cause : String)
deriving DecidableEq, Repr

namespace RunError

def message : RunError → String
  | .config e => e.message
  | .plugin e => e.message
  | .render e => e.message
  | .workers cause => s!"failed to start worker pool: {cause}"

def code : RunError → String
  | .config e => e.code
  | .plugin e => e.code
  | .render e => e.code
  | .workers _ => "tsql_batch::run::worker_pool"

/-- Advice for mending the problem. -/
def help? : RunError → Option String
  | .config e => e.help?
  | .plugin e => e.help?
  | .render _ | .workers _ => none

end RunError

/-- What a run has to work with once it is prepared. -/
structure Preparation where
  config : Configuration
  rules : List PatternRule

/-- Something that takes records one at a time. A record may be refused, and a refusal may leave its
mark on the state of the report too. -/
structure Reporter (σ : Type) where
  write : σ → Record → σ × Option RenderError

/-- How far the files of a run have been worked on. -/
structure Progress (σ : Type) where
  report : σ
  /-- Number of files analysed and reported. -/
  processed : Nat
  seen : List String
  /-- The record that could not be written, if any. -/
  failure : Option RenderError

/-- How a run ends. -/
structure RunResult (σ : Type) where
  report : σ
  /-- The plugin rules and the configuration the run worked with, if it came so far. -/
  preparation : Option Preparation
  seen : List String
  /-- The summary, if there is one. -/
  result : Except RunError (Option RunSummary)

namespace Run

/-- The configuration that a run is asked to use. -/
def resolve (fs : FileSystem) (known : Registry) (request : RunRequest) :
    Except ConfigError Configuration :=
  Configuration.resolve fs request.selected request.settingsPath known.ids

def configure (machine : Machine) (fs : FileSystem) (known : Registry) (request : RunRequest) :
    Except ConfigError Configuration := do
  machine.keep (← resolve fs known request)

/-- The plugins of a run: those of its configuration, then those of its caller. -/
def plugins (request : RunRequest) (config : Configuration) : List PluginReference :=
  config.plugins ++ request.plugins

/-- Starts the workers of a run, if the machine can. -/
def startWorkers (machine : Machine) (request : RunRequest) : Except String Unit :=
  machine.start (request.jobs.getD 0)

/-- The configuration and the plugin rules of a run, once its workers are started. -/
def prepare (machine : Machine) (fs : FileSystem) (known : Registry) (request : RunRequest) :
    Except RunError Preparation := do
  let config ← (configure machine fs known request).mapError .config
  let rules ← (Plugin.loadAll fs known (plugins request config)).mapError .plugin
  (startWorkers machine request).mapError .workers
  return ⟨config, rules⟩

/-- What is said of an analysis that broke down without a message. -/
def unknownCrash : String := "unknown panic"

/-- The outcome of one file below a root. -/
def outcome (analyze : String → Configuration → Attempt) (config : Configuration)
    (root file : String) : Outcome :=
  let path := Path.join root file
  match analyze path config with
  | .findings found => .analyzed found
  | .failed e => .failed file e.message
  | .crashed message =>
    .failed file (AnalysisError.crashed path (message.getD unknownCrash)).message

variable {σ : Type}

/-- Writes records until one cannot be written. -/
def writeAll (reporter : Reporter σ) (report : σ) : List Record → σ × Option RenderError
  | [] => (report, none)
  | record :: rest =>
    match reporter.write report record with
    | (report, none) => writeAll reporter report rest
    | (report, some e) => (report, some e)

/-- Works on one file, unless a record could not be written before. -/
def advance (reporter : Reporter σ) (outcome : String → Outcome) (p : Progress σ)
    (file : String) : Progress σ :=
  if p.failure.isSome then p
  else
    let result := outcome file
    let (report, failure) := writeAll reporter p.report result.records
    let counts := failure.isNone && result.isAnalyzed
    ⟨report, if counts then p.processed + 1 else p.processed, p.seen ++ [file], failure⟩

/-- Works on all files in order. -/
def advanceAll (reporter : Reporter σ) (outcome : String → Outcome) (report : σ)
    (files : List String) : Progress σ :=
  files.foldl (advance reporter outcome) ⟨report, 0, [], none⟩

/-- Ends the report with a summary if any file was analysed. -/
def finish (reporter : Reporter σ) (elapsed : Duration) (p : Progress σ) :
    σ × Except RunError (Option RunSummary) :=
  match p.failure with
  | some e => (p.report, .error (.render e))
  | none =>
    if p.processed = 0 then (p.report, .ok none)
    else
      let summary : RunSummary := ⟨p.processed, elapsed⟩
      match reporter.write p.report summary.record with
      | (report, none) => (report, .ok (some summary))
      | (report, some e) => (report, .error (.render e))

/-- Prepares a run and works on its files, handing records to `reporter` from the state `report`
on. -/
def work (machine : Machine) (fs : FileSystem) (analyzer : Analyzer) (request : RunRequest)
    (reporter : Reporter σ) (report : σ) (files : List String) :
    Except RunError (Preparation × Progress σ) := do
  let preparation ← prepare machine fs analyzer.registry request
  let outcomeOf := outcome (analyzer.analyze preparation.rules) preparation.config request.root
  return (preparation, advanceAll reporter outcomeOf report files)

/-- Ends a run after its work; the run began with the report in the state `report` and takes the
time `elapsed`. -/
def conclude (reporter : Reporter σ) (elapsed : Duration) (report : σ) :
    Except RunError (Preparation × Progress σ) → RunResult σ
  | .error e => ⟨report, none, [], .error e⟩
  | .ok (preparation, progress) =>
    let (report, result) := finish reporter elapsed progress
    ⟨report, some preparation, progress.seen, result⟩

/-- Runs an analyzer over files. -/
def execute (machine : Machine) (fs : FileSystem) (analyzer : Analyzer) (request : RunRequest)
    (reporter : Reporter σ) (elapsed : Duration) (report : σ) (files : List String) :
    RunResult σ :=
  conclude reporter elapsed report (work machine fs analyzer request reporter report files)

/-- Writes each record to a sink; a sink stays as it is when it refuses. -/
def writeLine (style : ReportStyle) : Reporter Sink where
  write sink record :=
    match sink.put (style.line record) with
    | .ok sink => (sink, none)
    | .error e => (sink, some e)

end Run
end SqlLint
