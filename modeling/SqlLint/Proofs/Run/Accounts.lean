import Mathlib
import SqlLint.Run.Schedule

/-!
# The accounts of a concurrent run

While a run works, its events and its tasks together account for every record: what the task of an
entry has handed over, what it still has to hand over, and, once a record was refused, what is lost.
The accounts hold at the start and every move keeps them, whichever task moves. They are all that
later statements need to know about the order of the moves.
-/

namespace SqlLint

namespace Outcome

theorem not_summary_of_mem_records {o : Outcome} {files : Nat} {elapsed : Duration} :
    .summary files elapsed ∉ o.records := by
  cases o <;> simp [records]

end Outcome

namespace Run

def records (events : List Event) : List Record := events.filterMap Event.record?

/-- The records that the task of an entry handed to the reporter, in order. -/
def recordsOf (entry : Nat) (events : List Event) : List Record :=
  events.filterMap (Event.recordOf? entry)

def refusals (events : List Event) : List RenderError := events.filterMap Event.refusal?

section

variable (events : List Event) (i : Nat)

@[simp] theorem recordsOf_append_loaded (plugins : List PluginReference) :
    recordsOf i (events ++ [.loaded plugins]) = recordsOf i events := by
  simp [recordsOf, Event.recordOf?]

@[simp] theorem recordsOf_append_looked (j : Nat) :
    recordsOf i (events ++ [.looked j]) = recordsOf i events := by
  simp [recordsOf, Event.recordOf?]

@[simp] theorem recordsOf_append_reported (record : Record) (refusal : Option RenderError) :
    recordsOf i (events ++ [.reported (some i) record refusal]) =
      recordsOf i events ++ [record] := by
  simp [recordsOf, Event.recordOf?]

theorem recordsOf_append_reported_ne {source : Option Nat} (h : source ≠ some i)
    (record : Record) (refusal : Option RenderError) :
    recordsOf i (events ++ [.reported source record refusal]) = recordsOf i events := by
  simp [recordsOf, Event.recordOf?, h]

@[simp] theorem refusals_append_looked (j : Nat) :
    refusals (events ++ [.looked j]) = refusals events := by
  simp [refusals, Event.refusal?]

@[simp] theorem refusals_append_reported (source : Option Nat) (record : Record)
    (refusal : Option RenderError) :
    refusals (events ++ [.reported source record refusal]) =
      refusals events ++ refusal.toList := by
  cases refusal <;> simp [refusals, Event.refusal?]

theorem refusals_eq_nil_iff :
    refusals events = [] ↔ ∀ event ∈ events, event.refusal? = none := by
  simp [refusals, List.filterMap_eq_nil_iff]

end

/-- Whether an event belongs to the work on one of the first `size` entries. -/
def Event.OfEntry (size : Nat) : Event → Prop
  | .loaded _ => False
  | .looked i => i < size
  | .reported source _ _ => ∃ i < size, source = some i

namespace Task

/-- The records a task has yet to hand over. -/
def left (outcome : String → Outcome) : Task → List Record
  | .waiting file => (outcome file).records
  | .writing left _ => left
  | .ended => []

/-- How much a task will add to the number of files processed. -/
def due (outcome : String → Outcome) : Task → Nat
  | .waiting file => (outcome file).isAnalyzed.toNat
  | .writing _ analyzed => analyzed.toNat
  | .ended => 0

end Task

variable {σ : Type} {job : Job σ} {p : Preparation} {w : Workload} {events : List Event}

/-- What the events tell of an entry, what its task still holds and what is lost make up the outcome
of the entry. Nothing is lost before a record is refused. -/
def Accounted (job : Job σ) (p : Preparation) (refused : Prop) (events : List Event) (i : Nat)
    (task : Task) : Prop :=
  ∀ file, job.files[i]? = some file → ∃ lost,
    recordsOf i events ++ task.left (job.outcome p) ++ lost = (job.outcome p file).records ∧
      (¬ refused → lost = [])

/-- The accounts of a run at work. -/
structure Accounts (job : Job σ) (p : Preparation) (w : Workload) (events : List Event) : Prop where
  /-- The plugins are loaded once, before any work on an entry. -/
  opening : ∃ work, events = .loaded (job.plugins p.config) :: work ∧
    ∀ event ∈ work, event.OfEntry job.files.length
  /-- There is one task for each entry. -/
  size : w.tasks.length = job.files.length
  refused : w.refusals = refusals events
  forwarded : ∀ i task, w.tasks[i]? = some task → Accounted job p (w.refusals ≠ []) events i task
  /-- What is processed and what is due are the files that can be analysed. -/
  processed : w.refusals = [] → w.processed + (w.tasks.map (Task.due (job.outcome p))).sum =
    job.files.countP fun file => (job.outcome p file).isAnalyzed

section

variable {α : Type}

theorem forall_getElem?_set {P : Nat → α → Prop} {l : List α} {i : Nat} {a : α} (new : P i a)
    (others : ∀ j b, j ≠ i → l[j]? = some b → P j b) :
    ∀ j b, (l.set i a)[j]? = some b → P j b := by
  intro j b hb
  rw [List.getElem?_set] at hb
  split at hb
  · next same =>
      subst same
      split at hb
      · cases hb
        exact new
      · cases hb
  · next other => exact others j b (Ne.symm other) hb

theorem sum_map_set (f : α → Nat) {l : List α} {i : Nat} {old : α} (h : l[i]? = some old)
    (new : α) : ((l.set i new).map f).sum + f old = (l.map f).sum + f new := by
  induction l generalizing i with
  | nil => simp at h
  | cons a rest ih =>
      cases i with
      | zero =>
          cases h
          simp only [List.set_cons_zero, List.map_cons, List.sum_cons]
          omega
      | succ i =>
          have tail := ih (i := i) (by simpa using h)
          simp only [List.set_cons_succ, List.map_cons, List.sum_cons]
          omega

end

namespace Accounts

theorem start : Accounts job p (.start job.files) [.loaded (job.plugins p.config)] := by
  refine ⟨⟨[], rfl, by simp⟩, by simp [Workload.start], rfl, ?_, ?_⟩
  · intro i task hi file hfile
    have waiting : task = .waiting file := by
      simpa [Workload.start, hfile, eq_comm] using hi
    refine ⟨[], ?_, fun _ => rfl⟩
    simp [waiting, Task.left, recordsOf, Event.recordOf?]
  · intro _
    simp only [Workload.start, List.map_map]
    induction job.files with
    | nil => rfl
    | cons file rest ih =>
        simp only [List.map_cons, List.sum_cons, List.countP_cons, Function.comp, Task.due]
          at ih ⊢
        rw [← ih]
        cases (job.outcome p file).isAnalyzed <;> simp [Nat.add_comm]

theorem lt_size (a : Accounts job p w events) {i : Nat} {task : Task}
    (h : w.tasks[i]? = some task) : i < job.files.length := by
  rw [← a.size]
  exact (List.getElem?_eq_some_iff.mp h).1

theorem opening_append (a : Accounts job p w events) {event : Event}
    (h : event.OfEntry job.files.length) :
    ∃ work, events ++ [event] = .loaded (job.plugins p.config) :: work ∧
      ∀ e ∈ work, e.OfEntry job.files.length := by
  obtain ⟨work, rfl, hwork⟩ := a.opening
  refine ⟨work ++ [event], by simp, ?_⟩
  intro e he
  rcases List.mem_append.mp he with he | he
  · exact hwork e he
  · rw [List.mem_singleton.mp he]
    exact h

/-- Looking at a file turns it into its outcome, of which everything is still left. -/
theorem looked (a : Accounts job p w events) {i : Nat} {file : String}
    (waiting : w.tasks[i]? = some (.waiting file)) :
    Accounts job p
      (w.withTask i (.writing (job.outcome p file).records (job.outcome p file).isAnalyzed))
      (events ++ [.looked i]) := by
  refine ⟨a.opening_append (a.lt_size waiting), by simp [Workload.withTask, a.size],
    by simp [Workload.withTask, a.refused], ?_, ?_⟩
  · refine forall_getElem?_set ?_ ?_
    · simpa [Accounted, Task.left, Workload.withTask] using a.forwarded i _ waiting
    · intro j task _ htask
      simpa [Accounted, Workload.withTask] using a.forwarded j task htask
  · intro h
    have total := a.processed h
    have change := sum_map_set (Task.due (job.outcome p)) waiting
      (.writing (job.outcome p file).records (job.outcome p file).isAnalyzed)
    simp only [Task.due] at change
    simp only [Workload.withTask]
    omega

theorem written (a : Accounts job p w events) {i : Nat} {record : Record} {left : List Record}
    {analyzed : Bool} (writing : w.tasks[i]? = some (.writing (record :: left) analyzed)) :
    Accounts job p (w.withTask i (.writing left analyzed))
      (events ++ [.reported (some i) record none]) := by
  refine ⟨a.opening_append ⟨i, a.lt_size writing, rfl⟩, by simp [Workload.withTask, a.size],
    by simp [Workload.withTask, a.refused], ?_, ?_⟩
  · refine forall_getElem?_set ?_ ?_
    · simpa [Accounted, Task.left, Workload.withTask] using a.forwarded i _ writing
    · intro j task hj htask
      have other : some i ≠ some j := by simpa using hj.symm
      simpa [Accounted, Workload.withTask, recordsOf_append_reported_ne _ _ other]
        using a.forwarded j task htask
  · intro h
    have total := a.processed h
    have change := sum_map_set (Task.due (job.outcome p)) writing (.writing left analyzed)
    simp only [Task.due] at change
    simp only [Workload.withTask]
    omega

/-- With a record refused, what its task held is lost. -/
theorem refuse (a : Accounts job p w events) {i : Nat} {record : Record} {left : List Record}
    {analyzed : Bool} (writing : w.tasks[i]? = some (.writing (record :: left) analyzed))
    (e : RenderError) :
    Accounts job p (w.refuse i e) (events ++ [.reported (some i) record (some e)]) := by
  refine ⟨a.opening_append ⟨i, a.lt_size writing, rfl⟩,
    by simp [Workload.refuse, Workload.withTask, a.size],
    by simp [Workload.refuse, a.refused], ?_, by simp [Workload.refuse]⟩
  refine forall_getElem?_set ?_ ?_
  · intro file hfile
    obtain ⟨lost, made, _⟩ := a.forwarded i _ writing file hfile
    refine ⟨left ++ lost, ?_, by simp [Workload.refuse]⟩
    simpa [Task.left] using made
  · intro j task hj htask file hfile
    obtain ⟨lost, made, _⟩ := a.forwarded j task htask file hfile
    have other : some i ≠ some j := by simpa using hj.symm
    refine ⟨lost, ?_, by simp [Workload.refuse]⟩
    rw [recordsOf_append_reported_ne _ _ other]
    exact made

theorem complete (a : Accounts job p w events) {i : Nat} {analyzed : Bool}
    (writing : w.tasks[i]? = some (.writing [] analyzed)) :
    Accounts job p (w.complete i analyzed) events := by
  refine ⟨a.opening, by simp [Workload.complete, Workload.withTask, a.size], a.refused, ?_, ?_⟩
  · refine forall_getElem?_set ?_ ?_
    · simpa [Accounted, Task.left, Workload.complete, Workload.withTask]
        using a.forwarded i _ writing
    · intro j task _ htask
      exact a.forwarded j task htask
  · intro h
    have total := a.processed h
    have change := sum_map_set (Task.due (job.outcome p)) writing .ended
    simp only [Task.due] at change
    simp only [Workload.complete, Workload.withTask]
    cases analyzed
    all_goals
      simp only [Bool.toNat_true, Bool.toNat_false] at change
      simp only [Bool.false_eq_true, if_true, if_false]
      omega

theorem dropped (a : Accounts job p w events) {i : Nat} {file : String}
    (waiting : w.tasks[i]? = some (.waiting file)) (refused : w.refusals ≠ []) :
    Accounts job p (w.withTask i .ended) events := by
  refine ⟨a.opening, by simp [Workload.withTask, a.size], a.refused, ?_, ?_⟩
  · refine forall_getElem?_set ?_ ?_
    · intro f hfile
      obtain ⟨lost, made, _⟩ := a.forwarded i _ waiting f hfile
      refine ⟨(job.outcome p file).records ++ lost, ?_, fun accepted => absurd refused accepted⟩
      simpa [Task.left] using made
    · intro j task _ htask
      exact a.forwarded j task htask
  · intro h
    exact absurd h refused

/-- In the accounts of a run at work there is no summary. -/
theorem not_summary_mem (a : Accounts job p w events) {files : Nat} {elapsed : Duration} :
    .summary files elapsed ∉ records events := by
  intro h
  obtain ⟨event, member, happened⟩ := List.mem_filterMap.mp h
  obtain ⟨work, rfl, entries⟩ := a.opening
  rcases List.mem_cons.mp member with rfl | member
  · cases happened
  · cases event with
    | loaded => cases happened
    | looked => cases happened
    | reported source record refusal =>
        cases happened
        obtain ⟨i, hi, rfl⟩ := entries _ member
        have htask : i < w.tasks.length := by
          rw [a.size]
          exact hi
        obtain ⟨lost, made, _⟩ := a.forwarded i _ (List.getElem?_eq_getElem htask) job.files[i]
          (List.getElem?_eq_getElem hi)
        have forwarded : .summary files elapsed ∈
            recordsOf i (.loaded (job.plugins p.config) :: work) :=
          List.mem_filterMap.mpr ⟨_, List.mem_cons_of_mem _ member, by simp [Event.recordOf?]⟩
        exact Outcome.not_summary_of_mem_records
          (made ▸ List.mem_append_left _ (List.mem_append_left _ forwarded))

end Accounts
end Run
end SqlLint
