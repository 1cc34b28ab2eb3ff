import SqlLint.FileSystem.Tree
import SqlLint.Proofs.Run.Termination

/-!
# Fatal errors and failures of single files

The errors of a run are of two kinds that never mix. A problem with the configuration, the plugins,
the workers or the report ends the run; a problem with a file is part of what is reported of that
file. The first kind can be told from the events alone: nothing is looked at or reported before a
problem with the preparation, and nothing but a refused record breaks a run that is prepared.
-/

namespace SqlLint.Run

variable {σ : Type} {job : Job σ}

theorem Accounts.refusal?_eq_none {p : Preparation} {w : Workload} {events : List Event}
    (a : Accounts job p w events) (accepted : w.refusals = []) :
    ∀ event ∈ events, event.refusal? = none := by
  rw [← refusals_eq_nil_iff, ← a.refused]
  exact accepted

/-- With a problem in its configuration a run does nothing. -/
theorem Consistent.events_of_config_error {s : State σ} {e : ConfigError} (h : Consistent job s)
    (returned : s.stage = .ended (.error (.config e))) : s.events = [] := by
  cases h with
  | misconfigured => rfl
  | @summarized _ _ _ _ refusal => cases refusal <;> cases returned
  | _ => cases returned

/-- A run that gets no further than its plugins and its workers does nothing but load the
plugins. -/
theorem Consistent.events_of_early_error {s : State σ} {e : RunError} (h : Consistent job s)
    (returned : s.stage = .ended (.error e)) (configured : ∀ cause, e ≠ .config cause)
    (unreported : ∀ cause, e ≠ .render cause) : ∃ plugins, s.events = [.loaded plugins] := by
  cases h with
  | resolving | keeping | loading | starting | working | unsummarized => cases returned
  | unloadable | unstarted => exact ⟨_, rfl⟩
  | misconfigured =>
      cases returned
      exact absurd rfl (configured _)
  | broken =>
      cases returned
      exact absurd rfl (unreported _)
  | @summarized _ _ _ _ refusal =>
      cases refusal with
      | none => cases returned
      | some _ =>
          cases returned
          exact absurd rfl (unreported _)

/-- In a run, a record was refused only if the run returns an error of the reporter. -/
theorem Consistent.render_of_refused {s : State σ} {result : Except RunError (Option RunSummary)}
    (h : Consistent job s) (returned : s.stage = .ended result)
    (refused : ∃ event ∈ s.events, event.refusal?.isSome) : ∃ e, result = .error (.render e) := by
  obtain ⟨event, member, some⟩ := refused
  cases h with
  | resolving | keeping | loading | starting | working => cases returned
  | misconfigured => cases member
  | unloadable | unstarted =>
      rw [List.mem_singleton.mp member] at some
      cases some
  | broken =>
      cases returned
      exact ⟨_, rfl⟩
  | unsummarized _ accounts _ accepted =>
      rw [accounts.refusal?_eq_none accepted event member] at some
      cases some
  | @summarized _ _ _ _ refusal _ accounts _ accepted =>
      cases returned
      rcases List.mem_append.mp member with member | member
      · rw [accounts.refusal?_eq_none accepted event member] at some
        cases some
      · rw [List.mem_singleton.mp member] at some
        cases refusal with
        | none => cases some
        | some e => exact ⟨e, rfl⟩

/-- A summary comes last, and only after records that were accepted. -/
theorem Consistent.accepted_before_summary {s : State σ} (h : Consistent job s)
    {before after : List Event} {source : Option Nat} {files : Nat} {elapsed : Duration}
    {refusal : Option RenderError}
    (split : s.events = before ++ .reported source (.summary files elapsed) refusal :: after) :
    after = [] ∧ ∀ event ∈ before, event.refusal? = none := by
  have member : .summary files elapsed ∈ records s.events := by
    rw [split]
    simp [records, Event.record?]
  cases h with
  | resolving | keeping | loading | starting | misconfigured | unloadable | unstarted =>
      simp [records, Event.record?] at member
  | working _ accounts => exact (accounts.not_summary_mem member).elim
  | broken _ accounts => exact (accounts.not_summary_mem member).elim
  | unsummarized _ accounts => exact (accounts.not_summary_mem member).elim
  | @summarized _ work _ _ _ _ accounts _ accepted =>
      rcases List.eq_nil_or_concat after with rfl | ⟨init, last, rfl⟩
      · refine ⟨rfl, ?_⟩
        have same := List.append_inj_left' split rfl
        rw [← same]
        exact accounts.refusal?_eq_none accepted
      · rw [List.concat_eq_append, ← List.cons_append, ← List.append_assoc] at split
        have same : work = before ++ .reported source (.summary files elapsed) refusal :: init :=
          List.append_inj_left' split rfl
        have early : .summary files elapsed ∈ records work := by
          rw [same]
          simp [records, Event.record?]
        exact (accounts.not_summary_mem early).elim

/-- An error of a run is one of its preparation or of its reporter, who has refused a record. -/
theorem Consistent.cause_of_error {s : State σ} {e : RunError} (h : Consistent job s)
    (returned : s.stage = .ended (.error e)) :
    job.prepare = .error e ∨
      ∃ cause, e = .render cause ∧ ∃ event ∈ s.events, event.refusal? = some cause := by
  cases h with
  | resolving | keeping | loading | starting | working | unsummarized => cases returned
  | misconfigured failed | unloadable failed | unstarted failed =>
      cases returned
      exact .inl failed
  | broken _ accounts refused =>
      cases returned
      rw [accounts.refused] at refused
      exact .inr ⟨_, rfl, List.mem_filterMap.mp refused⟩
  | @summarized _ work _ w refusal =>
      cases refusal with
      | none => cases returned
      | some cause =>
          cases returned
          exact .inr ⟨cause, rfl, _, List.mem_append_right _ (List.mem_singleton_self _), rfl⟩

/-- Errors that end a run and failures of single files never mix, in any run and at any moment of it.

A run that returns a problem with the configuration, be it that it cannot be resolved, written down
or read again, has done nothing; one that returns a problem with the plugins has only tried to load
them, and one that returns a problem with the workers has only loaded the plugins: no file was
looked at and no record was handed over. Once a record is refused the run is bound to return an
error of the reporter, whatever the tasks under way still do, and no summary follows a refusal. Any
error a run returns comes from its preparation, in which no file is looked at, or from a refusal; so
what the analyzer makes of the files is never the reason. -/
theorem fatal_errors_and_failures_apart {s : State σ} (run : Reachable job s) :
    (∀ e, s.stage = .ended (.error (.config e)) → s.events = []) ∧
    (∀ e, s.stage = .ended (.error (.plugin e)) → ∃ plugins, s.events = [.loaded plugins]) ∧
    (∀ cause, s.stage = .ended (.error (.workers cause)) →
      ∃ plugins, s.events = [.loaded plugins]) ∧
    ((∃ event ∈ s.events, event.refusal?.isSome) →
      Returns job (fun result => ∃ e, result = .error (.render e)) s) ∧
    (∀ before after source files elapsed refusal,
      s.events = before ++ .reported source (.summary files elapsed) refusal :: after →
      after = [] ∧ ∀ event ∈ before, event.refusal? = none) ∧
    ∀ e, s.stage = .ended (.error e) →
      job.prepare = .error e ∨
        ∃ cause, e = .render cause ∧ ∃ event ∈ s.events, event.refusal? = some cause := by
  refine ⟨?_, ?_, ?_, ?_, ?_, ?_⟩
  · intro e returned
    exact run.consistent.events_of_config_error returned
  · intro e returned
    exact run.consistent.events_of_early_error returned (by rintro _ ⟨⟩) (by rintro _ ⟨⟩)
  · intro cause returned
    exact run.consistent.events_of_early_error returned (by rintro _ ⟨⟩) (by rintro _ ⟨⟩)
  · intro refused
    refine returns_of_invariant
      (fun t => Reachable job t ∧ ∃ event ∈ t.events, event.refusal?.isSome) ?_ ?_ ⟨run, refused⟩
    · rintro t u ⟨reached, event, member, some⟩ move
      exact ⟨reached.step move, event, move.events_prefix.subset member, some⟩
    · rintro t result ⟨reached, refused⟩ returned
      exact reached.consistent.render_of_refused returned refused
  · intro before after source files elapsed refusal split
    exact run.consistent.accepted_before_summary split
  · intro e returned
    exact run.consistent.cause_of_error returned

/-- A job over two files, the second of which breaks the analyzer, with a reporter that takes one
record. -/
def shortOfRoom : Job (List Record) where
  machine := .reliable "t"
  fs := FileTree.empty.fileSystem
  analyzer := {
    registry := .empty
    analyze := fun _ path _ =>
      if path = "a.sql" then
        .findings [⟨path, 1, 1, "star", .error, "one"⟩, ⟨path, 2, 1, "star", .error, "two"⟩]
      else .crashed none }
  request := ⟨"", [], none, [], none⟩
  reporter := {
    write := fun kept record =>
      if kept.isEmpty then ([record], none) else (kept, some (.unwritable "sink closed")) }
  elapsed := ⟨0, 0⟩
  report := []
  files := ["a.sql", "b.sql"]

/-- The same job on a machine without room for temporary files. -/
def shortOfPlace : Job (List Record) :=
  { shortOfRoom with
    machine := { Machine.reliable "t" with newDirectory := .error "No space left on device" } }

/-- The same job on a machine that starts no workers. -/
def shortOfWorkers : Job (List Record) :=
  { shortOfRoom with machine := { Machine.reliable "t" with start := fun _ => .error "no threads" } }

theorem fatal_errors_and_failures_apart_of_shortOfRoom :
    (∃ s : State (List Record), Reachable shortOfPlace s ∧
      s.stage = .ended (.error (.config (.unkept "" "No space left on device"))) ∧
      s.events = []) ∧
    (∃ s : State (List Record), Reachable shortOfWorkers s ∧
      s.stage = .ended (.error (.workers "no threads")) ∧
      ∃ plugins, s.events = [.loaded plugins]) ∧
    ∃ s : State (List Record), Reachable shortOfRoom s ∧
      (∃ event ∈ s.events, event.refusal?.isSome) ∧
      (∃ p w left, s.stage = .working p w ∧ w.tasks = [.writing [left] true, .ended]) ∧
      Returns shortOfRoom (fun result => ∃ e, result = .error (.render e)) s := by
  have silent (job : Job (List Record)) (known : job.analyzer.registry = .empty)
      (request : job.request = ⟨"", [], none, [], none⟩) :
      job.resolve = .ok ⟨.empty, 120, [], none⟩ :=
    Job.resolve_of_silent known (by rw [request]) (by rw [request])
  refine ⟨?_, ?_, ?_⟩
  · have unkept : shortOfPlace.machine.keep ⟨.empty, 120, [], none⟩ =
        .error (.unkept "" "No space left on device") := by decide +kernel
    have unconfigured := (Job.configure_of_resolve_ok (silent shortOfPlace rfl rfl)).trans unkept
    have run := reachable_of_configure_error unconfigured
    obtain ⟨nothing, _⟩ := fatal_errors_and_failures_apart run
    exact ⟨_, run, rfl, nothing _ rfl⟩
  · have configured : shortOfWorkers.configure = .ok ⟨.empty, 120, [], none⟩ :=
      Job.configure_eq_ok_iff.mpr ⟨silent shortOfWorkers rfl rfl, _, rfl⟩
    have unstarted : shortOfWorkers.prepare = .error (.workers "no threads") :=
      Job.prepare_of_load_ok configured rfl
    obtain ⟨events, run⟩ := reachable_of_prepare_error unstarted
    obtain ⟨_, _, onlyLoaded, _⟩ := fatal_errors_and_failures_apart run
    exact ⟨_, run, rfl, onlyLoaded _ rfl⟩
  · have prepared : shortOfRoom.prepare = .ok ⟨⟨.empty, 120, [], none⟩, []⟩ :=
      Job.prepare_eq_ok_iff.mpr ⟨silent shortOfRoom rfl rfl, ⟨_, rfl⟩, rfl, rfl⟩
    have run := reachable_of_prepare_ok prepared
      |>.step (.looked (i := 0) rfl)
      |>.step (.looked (i := 1) rfl)
      |>.step (.written (i := 0) rfl rfl)
      |>.step (.refused (i := 1) rfl rfl)
    obtain ⟨_, _, _, bound, _, _⟩ := fatal_errors_and_failures_apart run
    have refused : ∀ {events : List Event} {source : Option Nat} {record : Record}
        {e : RenderError}, ∃ event ∈ events ++ [.reported source record (some e)],
          event.refusal?.isSome :=
      ⟨_, List.mem_append_right _ (List.mem_singleton_self _), rfl⟩
    exact ⟨_, run, refused, ⟨_, _, _, rfl, rfl⟩, bound refused⟩

end SqlLint.Run
