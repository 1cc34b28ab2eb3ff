import SqlLint.Proofs.Report.Lines
import SqlLint.Proofs.Run.Agreement

/-!
# What a run shows on an open sink

Nothing is refused by a sink that accepts everything. So a run that is prepared comes to its end
there and shows a line for each record of each outcome, in the order of the files, and then a summary
if a file was analysed. Only the summary tells how long the run took.
-/

namespace SqlLint.Run

variable {style : ReportStyle}

/-- On an open sink a run shows the records of all outcomes. -/
theorem advanceAll_unlimited (style : ReportStyle) (outcome : String → Outcome)
    (files : List String) :
    advanceAll (writeLine style) outcome .unlimited files =
      ⟨⟨(files.flatMap fun file => (outcome file).records).map style.line, none, true⟩,
        files.countP fun file => (outcome file).isAnalyzed, files, none⟩ := by
  have onward (shown : List String) (processed : Nat) (seen : List String) :
      files.foldl (advance (writeLine style) outcome) ⟨⟨shown, none, true⟩, processed, seen, none⟩ =
        ⟨⟨shown ++ (files.flatMap fun file => (outcome file).records).map style.line, none, true⟩,
          processed + files.countP fun file => (outcome file).isAnalyzed, seen ++ files, none⟩ := by
    induction files generalizing shown processed seen with
    | nil => simp
    | cons file rest ih =>
        have step : advance (writeLine style) outcome ⟨⟨shown, none, true⟩, processed, seen, none⟩
            file = ⟨⟨shown ++ (outcome file).records.map style.line, none, true⟩,
              if (outcome file).isAnalyzed then processed + 1 else processed, seen ++ [file],
              none⟩ := by
          simp [advance, writeAll_unlimited]
        rw [List.foldl_cons, step, ih, List.countP_cons]
        cases (outcome file).isAnalyzed <;> simp [Nat.add_assoc, Nat.add_comm 1]
  have all := onward [] 0 []
  rwa [List.nil_append, List.nil_append, Nat.zero_add] at all

/-- The summary of a run, if any file was analysed. -/
def summaryLines (style : ReportStyle) (elapsed : Duration) (processed : Nat) : List String :=
  if processed = 0 then [] else [style.line (.summary processed elapsed)]

theorem finish_unlimited (shown seen : List String) (processed : Nat) (elapsed : Duration) :
    finish (writeLine style) elapsed ⟨⟨shown, none, true⟩, processed, seen, none⟩ =
      (⟨shown ++ summaryLines style elapsed processed, none, true⟩,
        .ok (if processed = 0 then none else some ⟨processed, elapsed⟩)) := by
  have written : (writeLine style).write ⟨shown, none, true⟩
        (RunSummary.mk processed elapsed).record =
      (⟨shown ++ [style.line (.summary processed elapsed)], none, true⟩, none) := rfl
  by_cases unprocessed : processed = 0
  · simp [finish, summaryLines, unprocessed]
  · simp [finish, summaryLines, unprocessed, written]

variable {job : Job Sink} {p : Preparation}

/-- A run that is prepared shows the records of its files on an open sink, and the summary. -/
theorem execute_unlimited (reporter : job.reporter = writeLine style)
    (report : job.report = .unlimited) (prepared : job.prepare = .ok p) :
    job.execute.report.shown =
        (job.files.flatMap fun file => (job.outcome p file).records).map style.line ++
          summaryLines style job.elapsed
            (job.files.countP fun file => (job.outcome p file).isAnalyzed) ∧
      ∃ counted, job.execute.result = .ok counted := by
  rw [execute_of_prepare_ok prepared, reporter, report, advanceAll_unlimited]
  dsimp only
  rw [finish_unlimited]
  exact ⟨rfl, _, rfl⟩

end SqlLint.Run
