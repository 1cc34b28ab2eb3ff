import SqlLint.Proofs.Path
import SqlLint.Proofs.Report.Lines

/-!
# The line breaks of a compact report

A compact record is written as it is, with nothing escaped. So it takes up one line just if none of
the texts it shows has a line break in it, and each line break in them begins another line. A record
in JSON is always one line, since there line breaks are escaped.
-/

namespace SqlLint

/-- The line breaks of a text. -/
def breaks (text : String) : Nat := text.toList.count '\n'

@[simp] theorem breaks_append (first second : String) :
    breaks (first ++ second) = breaks first + breaks second := by
  simp [breaks]

theorem breaks_eq_zero_iff {text : String} : breaks text = 0 ↔ '\n' ∉ text.toList :=
  List.count_eq_zero

theorem IsLine.breaks_eq_zero {text : String} (h : IsLine text) : breaks text = 0 :=
  breaks_eq_zero_iff.mpr h.not_mem

@[simp] theorem breaks_repr (n : Nat) : breaks n.repr = 0 :=
  (Json.isLine_number n).breaks_eq_zero

namespace Path

variable {c : Char} {path base rest : String}

/-- A path has the characters of its segments, and the separators between them. -/
theorem mem_ofSegments_iff (other : c ≠ '/') (segments : List String) :
    c ∈ (ofSegments segments).toList ↔ ∃ segment ∈ segments, c ∈ segment.toList := by
  rw [ofSegments]
  induction segments with
  | nil => simp
  | cons segment segments ih =>
      cases segments with
      | nil => simp
      | cons next segments =>
          rw [String.intercalate_cons_cons, String.toList_append, String.toList_append,
            List.mem_append, List.mem_append, ih]
          simp [other]

/-- What is left of a path below a base has no characters of its own but separators and dots. -/
theorem mem_of_mem_stripPrefix? (left : stripPrefix? base path = some rest)
    (member : c ∈ rest.toList) (noSeparator : c ≠ '/') (noDot : c ≠ '.') : c ∈ path.toList := by
  -- A character of some of the segments is one of the path.
  have within {segments : List String} (part : segments ⊆ (parts path).segments)
      (found : c ∈ (ofSegments segments).toList) : c ∈ path.toList := by
    obtain ⟨segment, inside, held⟩ := (mem_ofSegments_iff noSeparator segments).mp found
    rw [← ofSegments_segments path, mem_ofSegments_iff noSeparator]
    exact ⟨segment, segments_parts_subset path (part inside), held⟩
  have trimmed : Parts.trimEnd (parts path).segments ⊆ (parts path).segments := by
    intro segment inside
    rw [Parts.trimEnd, List.mem_reverse] at inside
    exact List.mem_reverse.mp ((List.dropWhile_suffix _).subset inside)
  rw [stripPrefix?] at left
  split_ifs at left
  · cases left
    rw [Parts.text] at member
    split at member
    · exact within trimmed (by simpa [noSeparator] using member)
    · split_ifs at member
      · simp [noDot] at member
      · exact within trimmed (by simpa [noSeparator, noDot] using member)
    · exact within trimmed member
  · obtain ⟨segments, passed, rfl⟩ := Option.map_eq_some_iff.mp left
    exact within (List.Subset.trans Parts.subset_of_trim (subset_of_dropNames passed)) member

theorem mem_of_mem_dropFirstSegment (member : c ∈ (dropFirstSegment path).toList) :
    c ∈ path.toList := by
  rw [dropFirstSegment] at member
  split at member
  · exact member
  · next first rest kept =>
      rw [String.toList_ofList] at member
      exact (List.dropWhile_suffix _).subset (kept ▸ List.mem_cons_of_mem _ member)

end Path

namespace ReportStyle

variable {style : ReportStyle}

theorem not_mem_displayPath {file : String} (whole : '\n' ∉ file.toList) :
    '\n' ∉ (style.displayPath file).toList := by
  intro member
  rw [displayPath] at member
  split at member
  · next left =>
      obtain ⟨root, _, left⟩ := Option.bind_eq_some_iff.mp left
      exact whole (Path.mem_of_mem_stripPrefix? left member (by decide) (by decide))
  · exact whole (Path.mem_of_mem_dropFirstSegment member)

end ReportStyle

/-- The texts a record is made of. -/
def Record.texts : Record → List String
  | .finding f => [f.file, f.rule, f.message]
  | .failure file cause => [file, cause]
  | .summary _ _ => []

/-- The texts that the compact line of a record shows. -/
def ReportStyle.texts (style : ReportStyle) : Record → List String
  | .finding f => [style.displayPath f.file, f.rule, f.message]
  | .failure file cause => [file, cause]
  | .summary _ _ => []

variable {style : ReportStyle} {sink : Sink}

theorem line_finding_compact (compact : style.format = .compact) (f : Finding) :
    style.line (.finding f) = style.displayPath f.file ++ ":" ++ toString f.line ++ ":" ++
      toString f.column ++ ": " ++ f.severity.word ++ " [" ++ f.rule ++ "] " ++ f.message := by
  rw [ReportStyle.line, compact]
  rfl

theorem line_failure_compact (compact : style.format = .compact) (file cause : String) :
    style.line (.failure file cause) = file ++ ": failure: " ++ cause := by
  rw [ReportStyle.line, compact]
  rfl

/-- The line breaks of a compact line are those of the texts it shows. -/
theorem breaks_line (compact : style.format = .compact) (r : Record) :
    breaks (style.line r) = ((style.texts r).map breaks).sum := by
  cases r with
  | finding f =>
      have severity : breaks f.severity.word = 0 := by cases f.severity <;> rfl
      have marks : breaks ":" = 0 ∧ breaks ": " = 0 ∧ breaks " [" = 0 ∧ breaks "] " = 0 := by decide
      rw [line_finding_compact compact]
      simp [ReportStyle.texts, severity, marks, Nat.add_assoc]
  | failure file cause =>
      have mark : breaks ": failure: " = 0 := by decide
      rw [line_failure_compact compact]
      simp [ReportStyle.texts, mark]
  | summary files elapsed => exact (isLine_summary files elapsed).breaks_eq_zero

/-- The texts shown have no line break if those of the record have none. -/
theorem not_mem_of_mem_texts {r : Record} (whole : ∀ text ∈ r.texts, '\n' ∉ text.toList) :
    ∀ text ∈ style.texts r, '\n' ∉ text.toList := by
  cases r with
  | finding f =>
      obtain ⟨file, others⟩ := List.forall_mem_cons.mp whole
      exact List.forall_mem_cons.mpr ⟨ReportStyle.not_mem_displayPath file, others⟩
  | failure | summary => exact whole

/-- An accepting sink gets the line of a record and a newline, in one piece. -/
theorem write_of_accepting (accepts : sink.isOpen) (flushes : sink.canFlush) (r : Record) :
    ∃ after, (Run.writeLine style).write sink r = (after, none) ∧
      after.text = sink.text ++ (style.line r ++ "\n") := by
  refine ⟨{ sink with shown := sink.shown ++ [style.line r] }, ?_, ?_⟩
  · simp [Run.writeLine, Sink.put, accepts, flushes]
  · simp [Sink.text, String.join_append]

/-- A compact record is appended to what an accepting sink shows, with a newline behind it. The
appended text has that line break and those of the texts that the record shows, so it is exactly one
line just if none of these has any; and it is one if the file, the rule, the message or the cause,
as they are handed over, have none. -/
theorem compact_line_breaks (compact : style.format = .compact) (accepts : sink.isOpen)
    (flushes : sink.canFlush) (r : Record) :
    ∃ after appended, (Run.writeLine style).write sink r = (after, none) ∧
      after.text = sink.text ++ (appended ++ "\n") ∧
      breaks (appended ++ "\n") = ((style.texts r).map breaks).sum + 1 ∧
      ('\n' ∉ appended.toList ↔ ∀ text ∈ style.texts r, '\n' ∉ text.toList) ∧
      ((∀ text ∈ r.texts, '\n' ∉ text.toList) → '\n' ∉ appended.toList) := by
  obtain ⟨after, written, shown⟩ := @write_of_accepting style sink accepts flushes r
  have oneLine : '\n' ∉ (style.line r).toList ↔ ∀ text ∈ style.texts r, '\n' ∉ text.toList := by
    rw [← breaks_eq_zero_iff, breaks_line compact, List.sum_eq_zero_iff_forall_eq_nat]
    simp [breaks_eq_zero_iff]
  refine ⟨after, style.line r, written, shown, ?_, oneLine, fun whole =>
    oneLine.mpr (not_mem_of_mem_texts whole)⟩
  rw [breaks_append, breaks_line compact]
  rfl

/-- A sink that accepts one more line. -/
def almostFull : Sink := ⟨["Linted"], some 2, true⟩

theorem compact_line_breaks_of_almostFull : ∃ after appended,
    (Run.writeLine ⟨.compact, some "/r"⟩).write almostFull (.failure "b.sql" "boom\nat 1") =
      (after, none) ∧
    after.text = "Linted\n" ++ (appended ++ "\n") ∧ breaks (appended ++ "\n") = 2 ∧
    ¬ '\n' ∉ appended.toList := by
  obtain ⟨after, appended, written, shown, count, oneLine, _⟩ :=
    @compact_line_breaks ⟨.compact, some "/r"⟩ almostFull rfl (by decide) rfl
      (.failure "b.sql" "boom\nat 1")
  refine ⟨after, appended, written, shown, count.trans (by decide), ?_⟩
  rw [oneLine]
  decide

/-- A finding with a message of two lines, as a rule of a plugin may have one. -/
def twoLineFinding : Finding := ⟨"a.sql", 1, 1, "r1", .error, "a\nb"⟩

/-- The line of a finding is torn by its message. -/
theorem compact_line_torn_of_twoLineFinding : ∃ after,
    (Run.writeLine ⟨.compact, none⟩).write .unlimited (.finding twoLineFinding) = (after, none) ∧
    after.text = "a.sql:1:1: error [r1] a\nb\n" ∧
    ¬ ∃ line, '\n' ∉ line.toList ∧ after.text = Sink.unlimited.text ++ (line ++ "\n") := by
  have shown : Sink.text ⟨["a.sql:1:1: error [r1] a\nb"], none, true⟩ =
      "a.sql:1:1: error [r1] a\nb\n" := by
    decide +kernel
  refine ⟨_, by cbv, shown, ?_⟩
  rintro ⟨line, whole, same⟩
  have counted := congrArg breaks same
  rw [shown, breaks_append, breaks_append, breaks_eq_zero_iff.mpr whole] at counted
  cases counted

end SqlLint
