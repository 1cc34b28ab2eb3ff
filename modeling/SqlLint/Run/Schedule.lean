import SqlLint.Run

/-!
# Concurrent runs

A run may work on several files at a time. Each file is a task: it begins by looking at the file
and then hands the records of the outcome to the reporter one by one, and between any two records
another task may move. Which task moves next is left open, whatever the number of workers, so a run
is a relation between states.

A record that is refused ends its task. From then on tasks that have not begun may be dropped, while
those under way go on; the run reports one of the refusals. What a run does that others can see is
kept as a list of events. Working on the files one after the other, as `Run.execute` does, is one
way of many.
-/

namespace SqlLint

/-- Everything that decides how a run goes, the order in which its tasks move apart. -/
structure Job (σ : Type) where
  machine : Machine
  fs : FileSystem
  analyzer : Analyzer
  request : RunRequest
  reporter : Reporter σ
  /-- The time the run takes. -/
  elapsed : Duration
  /-- The state of the report before the run. -/
  report : σ
  files : List String

namespace Job

variable {σ : Type}

/-- The configuration that the run is asked to use. -/
def resolve (job : Job σ) : Except ConfigError Configuration :=
  Run.resolve job.fs job.analyzer.registry job.request

/-- The configuration of the run: the one it is asked to use, as it was kept. -/
def configure (job : Job σ) : Except ConfigError Configuration :=
  Run.configure job.machine job.fs job.analyzer.registry job.request

def plugins (job : Job σ) (config : Configuration) : List PluginReference :=
  Run.plugins job.request config

def load (job : Job σ) (config : Configuration) : Except PluginError (List PatternRule) :=
  Plugin.loadAll job.fs job.analyzer.registry (job.plugins config)

def start (job : Job σ) : Except String Unit := Run.startWorkers job.machine job.request

/-- The configuration and the plugin rules of the run. -/
def prepare (job : Job σ) : Except RunError Preparation :=
  Run.prepare job.machine job.fs job.analyzer.registry job.request

def attempt (job : Job σ) (p : Preparation) (file : String) : Attempt :=
  job.analyzer.analyze p.rules (Path.join job.request.root file) p.config

def outcome (job : Job σ) (p : Preparation) (file : String) : Outcome :=
  Run.outcome (job.analyzer.analyze p.rules) p.config job.request.root file

/-- The run that works on the files one after the other. -/
def execute (job : Job σ) : RunResult σ :=
  Run.execute job.machine job.fs job.analyzer job.request job.reporter job.elapsed job.report
    job.files

end Job

namespace Run

/-- How far the work on one file has come. -/
inductive Task
  /-- The file has not been looked at. -/
  | waiting (file : String)
  /-- The records not yet written, and whether the file was analysed. -/
  | writing (left : List Record) (analyzed : Bool)
  | ended
deriving DecidableEq, Repr

/-- What a run does that others can see. -/
inductive Event
  /-- Plugins are loaded, whether or not that goes well. -/
  | loaded (plugins : List PluginReference)
  /-- The file of an entry of the list is looked at. -/
  | looked (entry : Nat)
  /-- The reporter gets a record, from the task of an entry or from the run itself, and may refuse
  it. -/
  | reported (source : Option Nat) (record : Record) (refusal : Option RenderError)
deriving DecidableEq, Repr

namespace Event

def record? : Event → Option Record
  | .reported _ record _ => some record
  | _ => none

/-- The record that the task of an entry hands to the reporter. -/
def recordOf? (entry : Nat) : Event → Option Record
  | .reported source record _ => if source = some entry then some record else none
  | _ => none

/-- Why the reporter refuses a record. -/
def refusal? : Event → Option RenderError
  | .reported _ _ refusal => refusal
  | _ => none

end Event

/-- The state of the work on all files. -/
structure Workload where
  tasks : List Task
  processed : Nat
  refusals : List RenderError
deriving DecidableEq, Repr

namespace Workload

def start (files : List String) : Workload := ⟨files.map .waiting, 0, []⟩

/-- The state with one task further on. -/
def withTask (w : Workload) (i : Nat) (task : Task) : Workload :=
  { w with tasks := w.tasks.set i task }

/-- The state after a task has written everything. -/
def complete (w : Workload) (i : Nat) (analyzed : Bool) : Workload :=
  { w.withTask i .ended with processed := if analyzed then w.processed + 1 else w.processed }

/-- The state after a record of a task is refused. -/
def refuse (w : Workload) (i : Nat) (e : RenderError) : Workload :=
  { w.withTask i .ended with refusals := w.refusals ++ [e] }

/-- Whether every task has ended. -/
def IsOver (w : Workload) : Prop := ∀ task ∈ w.tasks, task = .ended

/-- The summary after the work, if that took the time `elapsed`. -/
def summary (w : Workload) (elapsed : Duration) : RunSummary := ⟨w.processed, elapsed⟩

end Workload

/-- How far a run has come. -/
inductive Stage
  | resolving
  /-- The configuration is to be kept. -/
  | keeping (resolved : Configuration)
  | loading (config : Configuration)
  /-- The workers are to be started. -/
  | starting (p : Preparation)
  | working (p : Preparation) (w : Workload)
  /-- The run has returned: its summary, if there is one, or an error. -/
  | ended (result : Except RunError (Option RunSummary))

/-- A run at one moment. -/
structure State (σ : Type) where
  stage : Stage
  report : σ
  /-- What the run has done so far, in order. -/
  events : List Event

variable {σ : Type}

/-- One move of a run. While the run is working, any task that can move may be the one that does. -/
inductive Step (job : Job σ) : State σ → State σ → Prop
  | unresolved {report events e} (failed : job.resolve = .error e) :
      Step job ⟨.resolving, report, events⟩ ⟨.ended (.error (.config e)), report, events⟩
  | resolved {report events config} (done : job.resolve = .ok config) :
      Step job ⟨.resolving, report, events⟩ ⟨.keeping config, report, events⟩
  | unkept {report events resolved e} (failed : job.machine.keep resolved = .error e) :
      Step job ⟨.keeping resolved, report, events⟩ ⟨.ended (.error (.config e)), report, events⟩
  | kept {report events resolved config} (done : job.machine.keep resolved = .ok config) :
      Step job ⟨.keeping resolved, report, events⟩ ⟨.loading config, report, events⟩
  | unloadable {report events config e} (failed : job.load config = .error e) :
      Step job ⟨.loading config, report, events⟩
        ⟨.ended (.error (.plugin e)), report, events ++ [.loaded (job.plugins config)]⟩
  | loaded {report events config rules} (done : job.load config = .ok rules) :
      Step job ⟨.loading config, report, events⟩
        ⟨.starting ⟨config, rules⟩, report, events ++ [.loaded (job.plugins config)]⟩
  | unstarted {report events p cause} (failed : job.start = .error cause) :
      Step job ⟨.starting p, report, events⟩ ⟨.ended (.error (.workers cause)), report, events⟩
  | started {report events p} (done : job.start = .ok ()) :
      Step job ⟨.starting p, report, events⟩ ⟨.working p (.start job.files), report, events⟩
  | looked {report events p w i file} (waiting : w.tasks[i]? = some (.waiting file)) :
      Step job ⟨.working p w, report, events⟩
        ⟨.working p (w.withTask i
            (.writing (job.outcome p file).records (job.outcome p file).isAnalyzed)),
          report, events ++ [.looked i]⟩
  | written {report events p w i record left analyzed report'}
      (writing : w.tasks[i]? = some (.writing (record :: left) analyzed))
      (accepted : job.reporter.write report record = (report', none)) :
      Step job ⟨.working p w, report, events⟩
        ⟨.working p (w.withTask i (.writing left analyzed)), report',
          events ++ [.reported (some i) record none]⟩
  | refused {report events p w i record left analyzed report' e}
      (writing : w.tasks[i]? = some (.writing (record :: left) analyzed))
      (refused : job.reporter.write report record = (report', some e)) :
      Step job ⟨.working p w, report, events⟩
        ⟨.working p (w.refuse i e), report', events ++ [.reported (some i) record (some e)]⟩
  | completed {report events p w i analyzed}
      (writing : w.tasks[i]? = some (.writing [] analyzed)) :
      Step job ⟨.working p w, report, events⟩ ⟨.working p (w.complete i analyzed), report, events⟩
  /-- A task that has not begun may be dropped once a record was refused. -/
  | dropped {report events p w i file} (waiting : w.tasks[i]? = some (.waiting file))
      (refused : w.refusals ≠ []) :
      Step job ⟨.working p w, report, events⟩ ⟨.working p (w.withTask i .ended), report, events⟩
  /-- One of the refusals is the error of the run. -/
  | broken {report events p w e} (ended : w.IsOver) (refused : e ∈ w.refusals) :
      Step job ⟨.working p w, report, events⟩ ⟨.ended (.error (.render e)), report, events⟩
  /-- Without a file analysed there is no summary. -/
  | unsummarized {report events p w} (ended : w.IsOver) (accepted : w.refusals = [])
      (unprocessed : w.processed = 0) :
      Step job ⟨.working p w, report, events⟩ ⟨.ended (.ok none), report, events⟩
  | summarized {report events p w report' refusal} (ended : w.IsOver) (accepted : w.refusals = [])
      (processed : w.processed ≠ 0)
      (answer : job.reporter.write report (w.summary job.elapsed).record = (report', refusal)) :
      Step job ⟨.working p w, report, events⟩
        ⟨.ended (refusal.elim (.ok (some (w.summary job.elapsed))) (.error <| .render ·)), report',
          events ++ [.reported none (w.summary job.elapsed).record refusal]⟩

/-- The states that a run can come to, by any order of its moves. -/
inductive Reachable (job : Job σ) : State σ → Prop
  | start : Reachable job ⟨.resolving, job.report, []⟩
  | step {s t : State σ} (before : Reachable job s) (move : Step job s t) : Reachable job t

end Run
end SqlLint
