import SqlLint.Proofs.Run.Reachable

/-!
# Jobs that agree

A run looks at its job in few ways: it resolves the configuration and has it kept, it loads the
plugins, it starts its workers, and it looks at the files of its list. Two jobs that ask for the
same and give the same answers there cannot be told apart by a run, whatever the order of its moves:
each can come to the states that the other can come to. What a job would answer to questions that no
run asks does not matter. That a run asks about no file that is not listed is an invariant of its
tasks.
-/

namespace SqlLint

variable {σ : Type}

/-- Whether two jobs ask for the same, and give the same answers to all that a run asks. -/
structure Job.Agrees (job other : Job σ) : Prop where
  request : other.request = job.request
  reporter : other.reporter = job.reporter
  elapsed : other.elapsed = job.elapsed
  report : other.report = job.report
  files : other.files = job.files
  resolve : other.resolve = job.resolve
  keep : ∀ config, job.resolve = .ok config → other.machine.keep config = job.machine.keep config
  start : other.start = job.start
  load : ∀ config, job.configure = .ok config → other.load config = job.load config
  outcome : ∀ p, job.prepare = .ok p → ∀ file ∈ job.files, other.outcome p file = job.outcome p file

namespace Job.Agrees

variable {job other : Job σ}

theorem configure (agrees : job.Agrees other) : other.configure = job.configure := by
  rw [configure_eq, configure_eq, agrees.resolve]
  cases resolved : job.resolve with
  | error e => rfl
  | ok config => exact agrees.keep config resolved

theorem prepare (agrees : job.Agrees other) : other.prepare = job.prepare := by
  rw [prepare_eq, prepare_eq, agrees.configure, agrees.start]
  cases configured : job.configure with
  | error e => rfl
  | ok config =>
      change (do
        let rules ← (other.load config).mapError _
        _) = _
      rw [agrees.load config configured]
      rfl

theorem symm (agrees : job.Agrees other) : other.Agrees job where
  request := agrees.request.symm
  reporter := agrees.reporter.symm
  elapsed := agrees.elapsed.symm
  report := agrees.report.symm
  files := agrees.files.symm
  resolve := agrees.resolve.symm
  keep config resolved := (agrees.keep config (agrees.resolve ▸ resolved)).symm
  start := agrees.start.symm
  load config configured := (agrees.load config (agrees.configure ▸ configured)).symm
  outcome p prepared file listed :=
    (agrees.outcome p (agrees.prepare ▸ prepared) file (agrees.files ▸ listed)).symm

theorem plugins (agrees : job.Agrees other) (config : Configuration) :
    other.plugins config = job.plugins config := by
  rw [Job.plugins, Job.plugins, agrees.request]

end Job.Agrees

namespace Run

variable {job other : Job σ}

/-- Whether a task that has not begun holds the file of its entry. -/
def State.Listed (job : Job σ) (s : State σ) : Prop :=
  ∀ p w, s.stage = .working p w → ∀ (i : Nat) (file : String),
    w.tasks[i]? = some (.waiting file) → job.files[i]? = some file

theorem State.Listed.step {s t : State σ} (listed : s.Listed job) (move : Step job s t) :
    t.Listed job := by
  rintro p w working i file waiting
  -- A move of a task leaves nothing waiting at its entry.
  have moved {w : Workload} {j : Nat} {task : Task}
      (listed : ∀ (i : Nat) (file : String), w.tasks[i]? = some (.waiting file) →
        job.files[i]? = some file)
      (begun : task ≠ .waiting file) (waiting : (w.tasks.set j task)[i]? = some (.waiting file)) :
      job.files[i]? = some file := by
    rw [List.getElem?_set] at waiting
    split at waiting
    · split at waiting
      · exact absurd (Option.some.inj waiting) begun
      · cases waiting
    · exact listed i file waiting
  cases move with
  | unresolved | resolved | unkept | kept | unloadable | loaded | unstarted | broken | unsummarized
  | summarized => cases working
  | started =>
      cases working
      rw [Workload.start, List.getElem?_map] at waiting
      obtain ⟨file', entry, same⟩ := Option.map_eq_some_iff.mp waiting
      cases same
      exact entry
  | looked | written | refused | completed | dropped =>
      cases working
      exact moved (listed _ _ rfl) (by rintro ⟨⟩) waiting

theorem Reachable.listed {s : State σ} (h : Reachable job s) : s.Listed job := by
  induction h with
  | start =>
      rintro p w working
      cases working
  | step _ move ih => exact ih.step move

end Run
end SqlLint
