import SqlLint.Proofs.Configuration.Artifact
import SqlLint.Proofs.Run.Accounts

/-!
# The states a run can come to

`Consistent` says what a state of a run can look like, stage by stage: which events precede it and,
once the run is over, which of its endings goes with which result. Every reachable state is of one
of these forms, so what is true of them all is true of every run and every order of its moves.
-/

namespace SqlLint

namespace Job

variable {σ : Type} {job : Job σ} {config resolved : Configuration} {rules : List PatternRule}
variable {p : Preparation}

/-- Without rules, settings and a selection, a run has the configuration of the defaults. -/
theorem resolve_of_silent (known : job.analyzer.registry = .empty)
    (selected : job.request.selected = []) (settings : job.request.settingsPath = none) :
    job.resolve = .ok ⟨.empty, 120, [], none⟩ := by
  rw [resolve, Run.resolve, known, selected, settings,
    Configuration.resolve_of_no_file rfl (by simp)]
  rfl

theorem configure_eq : job.configure = job.resolve >>= job.machine.keep := rfl

theorem configure_of_resolve_error {e : ConfigError} (h : job.resolve = .error e) :
    job.configure = .error e := by
  rw [configure_eq, h]
  rfl

theorem configure_of_resolve_ok (h : job.resolve = .ok resolved) :
    job.configure = job.machine.keep resolved := by
  rw [configure_eq, h]
  rfl

/-- A run gets the configuration that it is asked to use, if the machine has a place for it. -/
theorem configure_eq_ok_iff : job.configure = .ok config ↔
    job.resolve = .ok config ∧ ∃ path, job.machine.place config = .ok path := by
  constructor
  · intro configured
    have resolved : job.resolve = .ok config := Configuration.resolve_of_configure configured
    rw [configure_of_resolve_ok resolved,
      config.keep_eq _ (Configuration.nodup_of_resolve resolved)] at configured
    obtain ⟨path, found, _⟩ := Except.map_eq_ok_iff.mp configured
    exact ⟨resolved, path, found⟩
  · rintro ⟨resolved, path, found⟩
    rw [configure_of_resolve_ok resolved,
      config.keep_eq _ (Configuration.nodup_of_resolve resolved), found]
    rfl

theorem prepare_eq : job.prepare = (do
    let config ← job.configure.mapError .config
    let rules ← (job.load config).mapError .plugin
    job.start.mapError .workers
    return ⟨config, rules⟩) := rfl

theorem prepare_of_configure_error {e : ConfigError} (h : job.configure = .error e) :
    job.prepare = .error (.config e) := by
  rw [prepare_eq, h]
  rfl

theorem prepare_of_configure_ok (h : job.configure = .ok config) : job.prepare = (do
    let rules ← (job.load config).mapError .plugin
    job.start.mapError .workers
    return ⟨config, rules⟩) := by
  rw [prepare_eq, h]
  rfl

theorem prepare_of_load_error {e : PluginError} (configured : job.configure = .ok config)
    (h : job.load config = .error e) : job.prepare = .error (.plugin e) := by
  rw [prepare_of_configure_ok configured, h]
  rfl

theorem prepare_of_load_ok (configured : job.configure = .ok config)
    (h : job.load config = .ok rules) :
    job.prepare = (job.start.mapError .workers).map fun _ => ⟨config, rules⟩ := by
  rw [prepare_of_configure_ok configured, h]
  cases job.start <;> rfl

/-- A run is prepared if every stage before the work on its files succeeds. -/
theorem prepare_eq_ok_iff : job.prepare = .ok p ↔ job.resolve = .ok p.config ∧
    (∃ path, job.machine.place p.config = .ok path) ∧ job.load p.config = .ok p.rules ∧
    job.start = .ok () := by
  rw [← and_assoc, ← configure_eq_ok_iff]
  constructor
  · intro prepared
    obtain ⟨config, configured, loading⟩ := Except.bind_eq_ok_iff.mp prepared
    obtain ⟨rules, loaded, starting⟩ := Except.bind_eq_ok_iff.mp loading
    obtain ⟨_, started, rfl⟩ := Except.map_eq_ok_iff.mp starting
    exact ⟨Except.mapError_eq_ok_iff.mp configured, Except.mapError_eq_ok_iff.mp loaded,
      Except.mapError_eq_ok_iff.mp started⟩
  · rintro ⟨configured, loaded, started⟩
    rw [prepare_of_load_ok configured loaded, started]
    rfl

end Job

namespace Reporter

variable {σ : Type}

/-- The state of a report after records are handed over, refused or not. -/
def after (reporter : Reporter σ) (report : σ) (records : List Record) : σ :=
  records.foldl (fun report record => (reporter.write report record).1) report

/-- A reporter that accepts every record and keeps it. -/
def keeping : Reporter (List Record) where
  write kept record := (kept ++ [record], none)

end Reporter

namespace Run

variable {σ : Type} {job : Job σ}

/-- The forms of the states of a run. -/
inductive Consistent (job : Job σ) : State σ → Prop
  | resolving {report} : Consistent job ⟨.resolving, report, []⟩
  | keeping {report config} (resolved : job.resolve = .ok config) :
      Consistent job ⟨.keeping config, report, []⟩
  | loading {report config} (configured : job.configure = .ok config) :
      Consistent job ⟨.loading config, report, []⟩
  | starting {report config rules} (configured : job.configure = .ok config)
      (loaded : job.load config = .ok rules) :
      Consistent job ⟨.starting ⟨config, rules⟩, report, [.loaded (job.plugins config)]⟩
  | working {report events p w} (prepared : job.prepare = .ok p)
      (accounts : Accounts job p w events) : Consistent job ⟨.working p w, report, events⟩
  | misconfigured {report e} (failed : job.prepare = .error (.config e)) :
      Consistent job ⟨.ended (.error (.config e)), report, []⟩
  | unloadable {report plugins e} (failed : job.prepare = .error (.plugin e)) :
      Consistent job ⟨.ended (.error (.plugin e)), report, [.loaded plugins]⟩
  | unstarted {report plugins cause} (failed : job.prepare = .error (.workers cause)) :
      Consistent job ⟨.ended (.error (.workers cause)), report, [.loaded plugins]⟩
  | broken {report events p w e} (prepared : job.prepare = .ok p)
      (accounts : Accounts job p w events) (refused : e ∈ w.refusals) :
      Consistent job ⟨.ended (.error (.render e)), report, events⟩
  | unsummarized {report events p w} (prepared : job.prepare = .ok p)
      (accounts : Accounts job p w events) (ended : w.IsOver) (accepted : w.refusals = [])
      (unprocessed : w.processed = 0) :
      Consistent job ⟨.ended (.ok none), report, events⟩
  | summarized {report events p w refusal} (prepared : job.prepare = .ok p)
      (accounts : Accounts job p w events) (ended : w.IsOver) (accepted : w.refusals = [])
      (processed : w.processed ≠ 0) :
      Consistent job
        ⟨.ended (refusal.elim (.ok (some (w.summary job.elapsed))) (.error <| .render ·)), report,
          events ++ [.reported none (w.summary job.elapsed).record refusal]⟩

theorem Consistent.step {s t : State σ} (h : Consistent job s) (move : Step job s t) :
    Consistent job t := by
  cases move with
  | unresolved failed =>
      cases h
      have unconfigured := Job.configure_of_resolve_error failed
      exact .misconfigured (Job.prepare_of_configure_error unconfigured)
  | resolved done =>
      cases h
      exact .keeping done
  | unkept failed =>
      cases h with
      | keeping resolved =>
          have unconfigured := (Job.configure_of_resolve_ok resolved).trans failed
          exact .misconfigured (Job.prepare_of_configure_error unconfigured)
  | kept done =>
      cases h with
      | keeping resolved => exact .loading ((Job.configure_of_resolve_ok resolved).trans done)
  | unloadable failed =>
      cases h with
      | loading configured => exact .unloadable (Job.prepare_of_load_error configured failed)
  | loaded done =>
      cases h with
      | loading configured => exact .starting configured done
  | unstarted failed =>
      cases h with
      | starting configured loaded =>
          refine .unstarted ?_
          rw [Job.prepare_of_load_ok configured loaded, failed]
          rfl
  | started done =>
      cases h with
      | starting configured loaded =>
          refine .working ?_ Accounts.start
          rw [Job.prepare_of_load_ok configured loaded, done]
          rfl
  | looked waiting =>
      cases h with
      | working prepared accounts => exact .working prepared (accounts.looked waiting)
  | written writing =>
      cases h with
      | working prepared accounts => exact .working prepared (accounts.written writing)
  | refused writing =>
      cases h with
      | working prepared accounts => exact .working prepared (accounts.refuse writing _)
  | completed writing =>
      cases h with
      | working prepared accounts => exact .working prepared (accounts.complete writing)
  | dropped waiting refused =>
      cases h with
      | working prepared accounts => exact .working prepared (accounts.dropped waiting refused)
  | broken _ refused =>
      cases h with
      | working prepared accounts => exact .broken prepared accounts refused
  | unsummarized ended accepted unprocessed =>
      cases h with
      | working prepared accounts =>
          exact .unsummarized prepared accounts ended accepted unprocessed
  | summarized ended accepted processed _ =>
      cases h with
      | working prepared accounts => exact .summarized prepared accounts ended accepted processed

/-- Whatever the order of its moves, a run never leaves these forms. -/
theorem Reachable.consistent {s : State σ} (h : Reachable job s) : Consistent job s := by
  induction h with
  | start => exact .resolving
  | step _ move ih => exact ih.step move

/-- A reporter that accepts everything makes no refusals. -/
theorem Reachable.refusal?_eq_none (accepting : ∀ report record,
    (job.reporter.write report record).2 = none) {s : State σ} (h : Reachable job s) :
    ∀ event ∈ s.events, event.refusal? = none := by
  have answered : ∀ {r r' : σ} {record : Record} {refusal : Option RenderError},
      job.reporter.write r record = (r', refusal) → refusal = none := by
    intro r r' record refusal answer
    rw [← accepting r record, answer]
  rw [← refusals_eq_nil_iff]
  induction h with
  | start => rfl
  | step _ move ih =>
      cases move with
      | unresolved | resolved | unkept | kept | unstarted | started | completed | dropped | broken
      | unsummarized => exact ih
      | unloadable | loaded | looked => simpa [refusals, Event.refusal?] using ih
      | written => simpa using ih
      | refused _ answer => cases answered answer
      | summarized _ _ _ answer =>
          cases answered answer
          simpa using ih

section Preparation

variable {p : Preparation} {e : RunError}

theorem reachable_of_configure_ok {config : Configuration}
    (configured : job.configure = .ok config) : Reachable job ⟨.loading config, job.report, []⟩ := by
  obtain ⟨asked, resolved, kept⟩ := Except.bind_eq_ok_iff.mp configured
  exact (Reachable.start.step (.resolved resolved)).step (.kept kept)

theorem reachable_of_configure_error {e : ConfigError} (failed : job.configure = .error e) :
    Reachable job ⟨.ended (.error (.config e)), job.report, []⟩ := by
  rcases Except.bind_eq_error_iff.mp failed with unresolved | ⟨asked, resolved, unkept⟩
  · exact Reachable.start.step (.unresolved unresolved)
  · exact (Reachable.start.step (.resolved resolved)).step (.unkept unkept)

/-- A run that is prepared comes to its work. -/
theorem reachable_of_prepare_ok (prepared : job.prepare = .ok p) :
    Reachable job
      ⟨.working p (.start job.files), job.report, [.loaded (job.plugins p.config)]⟩ := by
  obtain ⟨config, configured, loading⟩ := Except.bind_eq_ok_iff.mp prepared
  obtain ⟨rules, loaded, starting⟩ := Except.bind_eq_ok_iff.mp loading
  obtain ⟨_, started, rfl⟩ := Except.map_eq_ok_iff.mp starting
  have reached := reachable_of_configure_ok (Except.mapError_eq_ok_iff.mp configured)
  have loaded := reached.step (.loaded (Except.mapError_eq_ok_iff.mp loaded))
  exact loaded.step (.started (Except.mapError_eq_ok_iff.mp started))

/-- A run that cannot be prepared comes to its end. -/
theorem reachable_of_prepare_error (failed : job.prepare = .error e) :
    ∃ events, Reachable job ⟨.ended (.error e), job.report, events⟩ := by
  rcases Except.bind_eq_error_iff.mp failed with failed | ⟨config, configured, failed⟩
  · obtain ⟨e, unconfigured, rfl⟩ := Except.mapError_eq_error_iff.mp failed
    exact ⟨_, reachable_of_configure_error unconfigured⟩
  · have loading := reachable_of_configure_ok (Except.mapError_eq_ok_iff.mp configured)
    rcases Except.bind_eq_error_iff.mp failed with failed | ⟨rules, loaded, failed⟩
    · obtain ⟨e, unloadable, rfl⟩ := Except.mapError_eq_error_iff.mp failed
      exact ⟨_, loading.step (.unloadable unloadable)⟩
    · have starting := loading.step (.loaded (Except.mapError_eq_ok_iff.mp loaded))
      obtain ⟨cause, unstarted, rfl⟩ :=
        Except.mapError_eq_error_iff.mp (Except.map_eq_error_iff.mp failed)
      exact ⟨_, starting.step (.unstarted unstarted)⟩

end Preparation

section Sequence

theorem execute_of_prepare_error {e : RunError} (failed : job.prepare = .error e) :
    job.execute = ⟨job.report, none, [], .error e⟩ := by
  rw [Job.prepare] at failed
  rw [Job.execute, execute, work, failed]
  rfl

theorem execute_of_prepare_ok {p : Preparation} (prepared : job.prepare = .ok p) :
    job.execute =
      let progress := advanceAll job.reporter (job.outcome p) job.report job.files
      ⟨(finish job.reporter job.elapsed progress).1, some p, progress.seen,
        (finish job.reporter job.elapsed progress).2⟩ := by
  rw [Job.prepare] at prepared
  rw [Job.execute, execute, work, prepared]
  rfl

end Sequence

end Run
end SqlLint
