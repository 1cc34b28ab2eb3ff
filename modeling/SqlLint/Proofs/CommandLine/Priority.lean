import SqlLint.CommandLine.Reply
import SqlLint.Proofs.Report.Shown
import SqlLint.Proofs.Run.Footprint

/-!
# Settings of lower priority have no say

The rules of an analysis are configured by the first origin that applies: a list of rules, the
settings file that is named, the one in the source root, the one in the user's directory, or none of
them. An analysis does not even read the settings files behind that origin, so whatever stands in
them, be it malformed or no text at all, it reports the same and ends in the same way. A settings
file that is named has to be there, whether it is needed or not.
-/

namespace SqlLint

/-- Where the configuration of the rules comes from. -/
inductive Origin
  /-- A list of the only rules to run. -/
  | selection (rules : List String)
  /-- A settings file. -/
  | settings (path : String)
  /-- Nothing but the rules that are known. -/
  | known
deriving DecidableEq, Repr

/-- The configuration that an origin prescribes when some rules are known. -/
def Origin.configuration (fs : FileSystem) (known : List String) :
    Origin → Except ConfigError Configuration
  | .selection rules => .ok (.ofSelection rules known)
  | .settings path => (SettingsFile.load fs path).map (Configuration.ofSettings path · known)
  | .known => .ok (.ofKnown known)

namespace CommandLine.AnalysisOptions

section Origins

variable {fs : FileSystem} {environment : Environment} {o : AnalysisOptions} {plan : AnalysisPlan}
variable {path : String}

end Origins

section Failures

variable {fs : FileSystem} {environment : Environment} {o : AnalysisOptions} {failure : Failure}

end Failures
section Runs

variable {fs other : FileSystem} {environment : Environment} {o : AnalysisOptions}
variable {plan : AnalysisPlan} {failure : Failure}

/-- The run of a plan. -/
def job (machine : Machine) (fs : FileSystem) (elapsed : Duration) (o : AnalysisOptions)
    (plan : AnalysisPlan) : Job Sink :=
  Run.jobOf machine fs (Linter.base o.sourceRoot Rules.builtIn) (o.runRequest plan)
    (Run.writeLine o.style) elapsed .unlimited plan.files

/-- The paths whose texts an analysis may read: the platform's settings, and what its run reads. -/
inductive Reads (fs : FileSystem) (environment : Environment) (o : AnalysisOptions) :
    String → Prop
  | platform {path : String} (given : o.codacyrc = some path) : Reads fs environment o path
  | run {plan : AnalysisPlan} {path : String} (planned : o.plan fs environment = .ok plan)
      (read : Run.Reads environment.machine fs Reply.builtInRegistry (o.runRequest plan) plan.files
        path) :
      Reads fs environment o path

theorem analyze_of_plan_error (failed : o.plan fs environment = .error failure)
    (elapsed : Duration) : o.analyze fs environment elapsed = ([], some failure) := by
  rw [analyze, work, failed]
  rfl

theorem analyze_of_plan_ok (planned : o.plan fs environment = .ok plan) (elapsed : Duration) :
    o.analyze fs environment elapsed =
      ((o.job environment.machine fs elapsed plan).execute.report.shown,
        match (o.job environment.machine fs elapsed plan).execute.result with
        | .ok _ => none
        | .error problem => some (.run problem)) := by
  rw [analyze, work, planned]
  change o.conclude elapsed (.ok _) = _
  simp only [conclude, job, Run.jobOf, Job.execute, Run.execute]
  generalize Run.conclude _ _ _ _ = run
  cases run.result <;> rfl

/-- Of what an analysis shows, only the summary tells how long it took. -/
theorem exists_lines (fs : FileSystem) (environment : Environment) (o : AnalysisOptions) :
    ∃ lines processed failure, ∀ elapsed, o.analyze fs environment elapsed =
      (lines ++ Run.summaryLines o.style elapsed processed, failure) := by
  cases planned : o.plan fs environment with
  | error failure => exact ⟨[], 0, some failure, analyze_of_plan_error planned⟩
  | ok plan =>
      let anyJob := o.job environment.machine fs ⟨0, 0⟩ plan
      cases prepared : anyJob.prepare with
      | error e =>
          refine ⟨[], 0, some (.run e), fun elapsed => ?_⟩
          let job := o.job environment.machine fs elapsed plan
          have prepared' : job.prepare = .error e := prepared
          rw [analyze_of_plan_ok planned, Run.execute_of_prepare_error prepared']
          rfl
      | ok p =>
          refine ⟨(plan.files.flatMap fun file => (anyJob.outcome p file).records).map o.style.line,
            plan.files.countP fun file => (anyJob.outcome p file).isAnalyzed, none,
            fun elapsed => ?_⟩
          let job := o.job environment.machine fs elapsed plan
          have prepared' : job.prepare = .ok p := prepared
          have reporter : job.reporter = Run.writeLine o.style := rfl
          obtain ⟨shown, counted, ended⟩ := Run.execute_unlimited reporter rfl prepared'
          rw [analyze_of_plan_ok planned, shown, ended]
          rfl

section Agreement

variable (kind : other.kind = fs.kind)
include kind

end Agreement
end Runs

end CommandLine.AnalysisOptions
end SqlLint
