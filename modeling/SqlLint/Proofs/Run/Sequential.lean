import SqlLint.Proofs.Run.Reachable

/-!
# The sequential run is one of the concurrent ones

`Run.execute` works on the files one after the other and stops looking at files once a record is
refused. Each of its stages is reached by moves of the relation: a file is looked at, its records
are written, its task ends; after a refusal the remaining tasks are dropped. So every statement about
all orders of moves holds of `Run.execute`, and every job has a run that comes to an end.
-/

namespace SqlLint.Run

variable {σ : Type} {job : Job σ} {p : Preparation} {done rest : List Task} {events : List Event}

private theorem getElem?_middle (task : Task) :
    (done ++ task :: rest)[done.length]? = some task := by
  simp

private theorem set_middle (old new : Task) :
    (done ++ old :: rest).set done.length new = done ++ new :: rest := by
  simp

/-- The task of one entry hands over its records as `writeAll` does. -/
theorem Reachable.writeAll {records : List Record} {analyzed : Bool} {processed : Nat} {report : σ}
    (h : Reachable job
      ⟨.working p ⟨done ++ .writing records analyzed :: rest, processed, []⟩, report, events⟩) :
    ∃ events', Reachable job
      ⟨.working p ⟨done ++ .ended :: rest,
          if (writeAll job.reporter report records).2.isNone && analyzed then processed + 1
          else processed,
          (writeAll job.reporter report records).2.toList⟩,
        (writeAll job.reporter report records).1, events'⟩ := by
  induction records generalizing report events with
  | nil =>
      have move := h.step (.completed (getElem?_middle _))
      simp only [Workload.complete, Workload.withTask, set_middle] at move
      exact ⟨events, by simpa [Run.writeAll] using move⟩
  | cons record left ih =>
      cases answer : job.reporter.write report record with
      | mk report' refusal =>
          cases refusal with
          | none =>
              have move := h.step (.written (getElem?_middle _) answer)
              simp only [Workload.withTask, set_middle] at move
              simpa only [Run.writeAll, answer] using ih move
          | some e =>
              have move := h.step (.refused (getElem?_middle _) answer)
              simp only [Workload.refuse, Workload.withTask, set_middle] at move
              exact ⟨_, by simpa [Run.writeAll, answer] using move⟩

theorem Reachable.advance {file : String} {q : Progress σ}
    (h : Reachable job
      ⟨.working p ⟨done ++ .waiting file :: rest, q.processed, q.failure.toList⟩, q.report,
        events⟩) :
    ∃ events', Reachable job
      ⟨.working p ⟨done ++ .ended :: rest,
          (advance job.reporter (job.outcome p) q file).processed,
          (advance job.reporter (job.outcome p) q file).failure.toList⟩,
        (advance job.reporter (job.outcome p) q file).report, events'⟩ := by
  cases failure : q.failure with
  | some e =>
      have move := h.step (.dropped (getElem?_middle _) (by simp [failure]))
      simp only [Workload.withTask, set_middle] at move
      exact ⟨events, by simpa [Run.advance, failure] using move⟩
  | none =>
      have move := h.step (.looked (getElem?_middle _))
      simp only [Workload.withTask, set_middle, failure, Option.toList_none] at move
      simpa [Run.advance, failure] using move.writeAll

theorem Reachable.advanceAll {files : List String} {q : Progress σ} (ended : ∀ t ∈ done, t = .ended)
    (h : Reachable job
      ⟨.working p ⟨done ++ files.map .waiting, q.processed, q.failure.toList⟩, q.report,
        events⟩) :
    ∃ tasks events', (∀ t ∈ tasks, t = .ended) ∧ Reachable job
      ⟨.working p ⟨tasks,
          (files.foldl (Run.advance job.reporter (job.outcome p)) q).processed,
          (files.foldl (Run.advance job.reporter (job.outcome p)) q).failure.toList⟩,
        (files.foldl (Run.advance job.reporter (job.outcome p)) q).report, events'⟩ := by
  induction files generalizing done q events with
  | nil => exact ⟨done, events, ended, by simpa using h⟩
  | cons file rest ih =>
      obtain ⟨events', next⟩ := h.advance
      have ended' : ∀ t ∈ done ++ [.ended], t = .ended := by
        intro t ht
        rcases List.mem_append.mp ht with ht | ht
        · exact ended t ht
        · exact List.mem_singleton.mp ht
      exact ih ended' (by simpa using next)

/-- With all files worked on, a run ends as `finish` says. -/
theorem Reachable.finish {tasks : List Task} {q : Progress σ} (ended : ∀ t ∈ tasks, t = .ended)
    (h : Reachable job
      ⟨.working p ⟨tasks, q.processed, q.failure.toList⟩, q.report, events⟩) :
    ∃ events', Reachable job
      ⟨.ended (finish job.reporter job.elapsed q).2, (finish job.reporter job.elapsed q).1,
        events'⟩ := by
  cases failure : q.failure with
  | some e =>
      have move := h.step (.broken (e := e) ended (by simp [failure]))
      exact ⟨_, by simpa [Run.finish, failure] using move⟩
  | none =>
      simp only [failure, Option.toList_none] at h
      by_cases unprocessed : q.processed = 0
      · have move := h.step (.unsummarized ended rfl unprocessed)
        exact ⟨_, by simpa [Run.finish, failure, unprocessed] using move⟩
      · cases answer :
            job.reporter.write q.report (RunSummary.mk q.processed job.elapsed).record with
        | mk report' refusal =>
            have move := h.step (.summarized ended rfl unprocessed answer)
            simp only [Run.finish, failure, unprocessed, answer, if_false]
            cases refusal with
            | none => exact ⟨_, move⟩
            | some e => exact ⟨_, move⟩

end SqlLint.Run
