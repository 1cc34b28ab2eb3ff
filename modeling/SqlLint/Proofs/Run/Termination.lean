import SqlLint.Proofs.Run.Reachable

/-!
# Every run returns

Each move brings a run nearer to its end: either its stage changes or the tasks have less left to
do. As long as a run has not returned, some move is possible. So a run returns however its moves are
ordered; no fairness is asked of the schedule, since no task can move forever.
-/

namespace SqlLint.Run

variable {σ : Type} {job : Job σ}

/-- However a run goes on from a state, it returns, and `P` holds of what it returns. -/
inductive Returns (job : Job σ) (P : Except RunError (Option RunSummary) → Prop) : State σ → Prop
  | ended {s : State σ} {result} (returned : s.stage = .ended result) (holds : P result) :
      Returns job P s
  | move {s : State σ} (possible : ∃ t, Step job s t)
      (next : ∀ t, Step job s t → Returns job P t) : Returns job P s

/-- The number of moves a task still has to make at most. -/
def Task.moves (outcome : String → Outcome) : Task → Nat
  | .waiting file => (outcome file).records.length + 2
  | .writing left _ => left.length + 1
  | .ended => 0

/-- What is left of a run: its stages, and the moves of its tasks while it works. -/
def Stage.remaining (job : Job σ) : Stage → Nat × Nat
  | .resolving => (5, 0)
  | .keeping _ => (4, 0)
  | .loading _ => (3, 0)
  | .starting _ => (2, 0)
  | .working p w => (1, (w.tasks.map (Task.moves (job.outcome p))).sum)
  | .ended _ => (0, 0)

theorem Step.remaining_lt {s t : State σ} (h : Step job s t) :
    Prod.Lex (· < ·) (· < ·) (t.stage.remaining job) (s.stage.remaining job) := by
  -- Only a task that moves changes the sum, and it has fewer moves to make afterwards.
  have progress : ∀ {p : Preparation} {w w' : Workload} {i : Nat} {old new : Task},
      w.tasks[i]? = some old → w'.tasks = w.tasks.set i new →
      new.moves (job.outcome p) < old.moves (job.outcome p) →
      Prod.Lex (· < ·) (· < ·) ((Stage.working p w').remaining job)
        ((Stage.working p w).remaining job) := by
    intro p w w' i old new found moved fewer
    refine Prod.Lex.right 1 ?_
    have change := sum_map_set (Task.moves (job.outcome p)) found new
    rw [moved]
    omega
  cases h with
  | unresolved | resolved | unkept | kept | unloadable | loaded | unstarted | started | broken
  | unsummarized | summarized => exact Prod.Lex.left _ _ (by decide)
  | looked waiting => exact progress waiting rfl (by simp [Task.moves])
  | written writing => exact progress writing rfl (by simp [Task.moves])
  | refused writing => exact progress writing rfl (by simp [Task.moves])
  | completed writing => exact progress writing rfl (by simp [Task.moves])
  | dropped waiting => exact progress waiting rfl (by simp [Task.moves])

/-- No run goes on forever. -/
theorem wellFounded_step (job : Job σ) : WellFounded fun t s : State σ => Step job s t :=
  Subrelation.wf (fun h => Step.remaining_lt h)
    (InvImage.wf (fun s : State σ => s.stage.remaining job)
      (Prod.lex Nat.lt_wfRel Nat.lt_wfRel).wf)

/-- A run that has not returned can move. -/
theorem exists_step (job : Job σ) (s : State σ) :
    (∃ result, s.stage = .ended result) ∨ ∃ t, Step job s t := by
  obtain ⟨stage, report, events⟩ := s
  cases stage with
  | resolving =>
      cases resolved : job.resolve with
      | error e => exact .inr ⟨_, .unresolved resolved⟩
      | ok config => exact .inr ⟨_, .resolved resolved⟩
  | keeping config =>
      cases kept : job.machine.keep config with
      | error e => exact .inr ⟨_, .unkept kept⟩
      | ok config => exact .inr ⟨_, .kept kept⟩
  | loading config =>
      cases loaded : job.load config with
      | error e => exact .inr ⟨_, .unloadable loaded⟩
      | ok rules => exact .inr ⟨_, .loaded loaded⟩
  | starting p =>
      cases started : job.start with
      | error cause => exact .inr ⟨_, .unstarted started⟩
      | ok => exact .inr ⟨_, .started started⟩
  | ended result => exact .inl ⟨result, rfl⟩
  | working p w =>
      right
      by_cases ended : w.IsOver
      · cases refused : w.refusals with
        | cons e rest => exact ⟨_, .broken ended (e := e) (by simp [refused])⟩
        | nil =>
            by_cases unprocessed : w.processed = 0
            · exact ⟨_, .unsummarized ended refused unprocessed⟩
            · exact ⟨_, .summarized ended refused unprocessed rfl⟩
      · simp only [Workload.IsOver, Classical.not_forall] at ended
        obtain ⟨task, member, unended⟩ := ended
        obtain ⟨i, found⟩ := List.getElem?_of_mem member
        cases task with
        | waiting file => exact ⟨_, .looked found⟩
        | ended => exact absurd rfl unended
        | writing left analyzed =>
            cases left with
            | nil => exact ⟨_, .completed found⟩
            | cons record left =>
                cases answer : job.reporter.write report record with
                | mk report' refusal =>
                    cases refusal with
                    | none => exact ⟨_, .written found answer⟩
                    | some e => exact ⟨_, .refused found answer⟩

/-- What every move keeps decides what a run returns. -/
theorem returns_of_invariant {P : Except RunError (Option RunSummary) → Prop}
    (invariant : State σ → Prop) (keeps : ∀ {s t}, invariant s → Step job s t → invariant t)
    (holds : ∀ {s result}, invariant s → s.stage = .ended result → P result) {s : State σ}
    (h : invariant s) : Returns job P s := by
  induction s using (wellFounded_step job).induction with
  | h s ih =>
      rcases exists_step job s with ⟨result, returned⟩ | possible
      · exact .ended returned (holds h returned)
      · exact .move possible fun t move => ih t move (keeps h move)

/-- Nothing that a run did is undone. -/
theorem Step.events_prefix {s t : State σ} (h : Step job s t) : s.events <+: t.events := by
  cases h <;> simp

end SqlLint.Run
