import SqlLint.Proofs.Json.RoundTrip
import SqlLint.Run

/-!
# Reports in JSON as texts

A report in JSON has one line for each record, whatever the paths and messages are: a line break
inside of them is escaped, so the only ones in the text are those that end the lines. A line tells
what it is about. One that begins with a brace holds an object, and its members tell a finding from
a failure; any other line is a summary, whose words are its fields.
-/

namespace SqlLint

/-- Whether a text holds no control characters, and so stands on one line. -/
def IsLine (text : String) : Prop := ∀ c ∈ text.toList, 32 ≤ c.toNat

namespace IsLine

variable {first second separator text : String} {parts : List String}

theorem not_mem (h : IsLine text) : '\n' ∉ text.toList := by
  intro member
  exact absurd (h _ member) (by decide)

theorem append (h : IsLine first) (h' : IsLine second) : IsLine (first ++ second) := by
  intro c member
  rw [String.toList_append, List.mem_append] at member
  exact member.elim (h c) (h' c)

theorem intercalate (h : IsLine separator) (each : ∀ part ∈ parts, IsLine part) :
    IsLine (separator.intercalate parts) := by
  induction parts with
  | nil => simp [IsLine]
  | cons part rest ih =>
      rw [List.forall_mem_cons] at each
      cases rest with
      | nil => simpa using each.1
      | cons next rest =>
          rw [String.intercalate_cons_cons]
          exact (each.1.append h).append (ih each.2)

end IsLine

theorem lt_toNat_of_isDigit {c : Char} (digit : c.isDigit) : 32 < c.toNat := by
  simp only [Char.isDigit, Bool.and_eq_true, decide_eq_true_eq] at digit
  exact Nat.lt_of_lt_of_le (by decide) (UInt32.le_iff_toNat_le.mp digit.1)

theorem isDigit_of_mem_toString {n : Nat} {c : Char} (member : c ∈ (toString n).toList) :
    c.isDigit := by
  rw [Json.toString_toList] at member
  exact Json.isDigit_of_mem_toDigits member

namespace Json

theorem isLine_number (n : Nat) : IsLine (toString n) := by
  intro c member
  exact Nat.le_of_lt (lt_toNat_of_isDigit (isDigit_of_mem_toString member))

theorem isLine_quote (s : String) : IsLine (quote s) := by
  intro c member
  rw [toList_quote] at member
  simp only [List.mem_cons, List.mem_append, List.cons_append, List.not_mem_nil, or_false] at member
  rcases member with rfl | inside | rfl
  · decide
  · exact le_toNat_of_mem_escape _ inside
  · decide

mutual

/-- A value on one line is on one line. -/
theorem isLine_compact : ∀ v : Json, IsLine v.compact
  | .null => by simp [compact, IsLine]
  | .bool true => by simp [compact, IsLine]
  | .bool false => by simp [compact, IsLine]
  | .number n => isLine_number n
  | .string s => isLine_quote s
  | .array items => by
      have inside : IsLine (",".intercalate (compactItems items)) :=
        .intercalate (by simp [IsLine]) (isLine_compactItems items)
      exact (IsLine.append (by simp [IsLine]) inside).append (by simp [IsLine])
  | .object members => by
      have inside : IsLine (",".intercalate (compactMembers members)) :=
        .intercalate (by simp [IsLine]) (isLine_compactMembers members)
      exact (IsLine.append (by simp [IsLine]) inside).append (by simp [IsLine])

theorem isLine_compactItems : ∀ items, ∀ text ∈ compactItems items, IsLine text
  | [] => by simp [compactItems]
  | item :: rest => by
      rw [compactItems, List.forall_mem_cons]
      exact ⟨isLine_compact item, isLine_compactItems rest⟩

theorem isLine_compactMembers : ∀ members, ∀ text ∈ compactMembers members, IsLine text
  | [] => by simp [compactMembers]
  | (key, value) :: rest => by
      rw [compactMembers, List.forall_mem_cons]
      refine ⟨?_, isLine_compactMembers rest⟩
      exact ((isLine_quote key).append (by simp [IsLine])).append (isLine_compact value)

end

end Json

/-- A time is written with digits and a point. -/
theorem Duration.digit_or_point_of_mem_toDecimal {d : Duration} {c : Char}
    (member : c ∈ d.toDecimal.toList) : c.isDigit ∨ c = '.' := by
  have zeros (n : Nat) : ∀ c ∈ List.replicate n '0', c.isDigit := by
    intro c member
    rw [List.eq_of_mem_replicate member]
    rfl
  rw [toDecimal, Binary64.toDecimal, String.toList_ofList, form, if_pos rfl] at member
  simp only [Binary64.positional] at member
  split at member
  · simp only [List.mem_append, List.append_nil, Bool.false_eq_true, if_false] at member
    exact .inl (member.elim isDigit_of_mem_toString (zeros _ c))
  · rw [List.mem_append, List.mem_cons] at member
    rcases member with whole | rfl | part
    · have padded := List.mem_append.mp (List.mem_of_mem_take whole)
      exact .inl (padded.elim (zeros _ c) isDigit_of_mem_toString)
    · exact .inr rfl
    · have padded := List.mem_append.mp (List.mem_of_mem_drop part)
      exact .inl (padded.elim (zeros _ c) isDigit_of_mem_toString)

/-- The words of a summary. -/
def summaryWords (files : Nat) (elapsed : Duration) : List String :=
  ["Linted", toString files, "files", "in", elapsed.toDecimal, "seconds"]

theorem lt_toNat_of_mem_summaryWords {files : Nat} {elapsed : Duration} :
    ∀ word ∈ summaryWords files elapsed, ∀ c ∈ word.toList, 32 < c.toNat := by
  simp only [summaryWords, List.forall_mem_cons]
  refine ⟨by simp, ?_, by simp, by simp, ?_, by simp, by simp⟩
  · intro c member
    exact lt_toNat_of_isDigit (isDigit_of_mem_toString member)
  · intro c member
    rcases Duration.digit_or_point_of_mem_toDecimal member with digit | rfl
    · exact lt_toNat_of_isDigit digit
    · decide

/-- The pieces of a text between the places where a character stands. -/
def pieces (separator : Char) (text : String) : List String :=
  (text.split separator).toList.map (·.copy)

/-- What the line of a record tells. -/
inductive Notice
  | finding (filename : String) (line : Nat) (message rule : String)
  | failure (filename : String)
  /-- The number of files, and the time in seconds. -/
  | summary (files : Nat) (seconds : String)
deriving DecidableEq, Repr

namespace Notice

/-- What the object in a line tells, if it has the members of a record. -/
def ofJson? : Json → Option Notice
  | .object [("filename", .string filename), ("line", .number line), ("message", .string message),
      ("patternId", .string rule)] => some (.finding filename line message rule)
  | .object [("filename", .string filename), ("message", .string _)] => some (.failure filename)
  | _ => none

/-- What the words of a line tell, if it is a summary. -/
def ofWords? : List String → Option Notice
  | ["Linted", files, "files", "in", seconds, "seconds"] => files.toNat?.map (.summary · seconds)
  | _ => none

/-- What a line tells, as a reader finds out who knows nothing but the line. -/
def ofLine? (line : String) : Option Notice :=
  if line.toList.head? = some '\x7b' then (Json.ofText? line).bind ofJson?
  else ofWords? (pieces ' ' line)

/-- What a report in some style tells of a record. -/
def ofRecord (style : ReportStyle) : Record → Notice
  | .finding f => .finding (style.displayPath f.file) f.line f.message f.rule
  | .failure file _ => .failure file
  | .summary files elapsed => .summary files elapsed.toDecimal

end Notice

variable {style : ReportStyle}

theorem line_summary (files : Nat) (elapsed : Duration) :
    style.line (.summary files elapsed) = " ".intercalate (summaryWords files elapsed) := by
  apply String.toList_injective
  simp [ReportStyle.line, summaryWords, toString]

theorem line_finding (json : style.format = .json) (f : Finding) :
    style.line (.finding f) =
      (Json.object [("filename", .string (style.displayPath f.file)), ("line", .number f.line),
        ("message", .string f.message), ("patternId", .string f.rule)]).compact := by
  rw [ReportStyle.line, json]

theorem line_failure (json : style.format = .json) (file cause : String) :
    style.line (.failure file cause) =
      (Json.object [("filename", .string file),
        ("message", .string ReportStyle.failureMessage)]).compact := by
  rw [ReportStyle.line, json]

theorem isLine_summary (files : Nat) (elapsed : Duration) :
    IsLine (style.line (.summary files elapsed)) := by
  rw [line_summary]
  refine .intercalate (by simp [IsLine]) ?_
  intro word member c within
  exact Nat.le_of_lt (lt_toNat_of_mem_summaryWords word member c within)

theorem isLine_line (json : style.format = .json) (r : Record) : IsLine (style.line r) := by
  cases r with
  | finding f =>
      rw [line_finding json]
      exact Json.isLine_compact _
  | failure file cause =>
      rw [line_failure json]
      exact Json.isLine_compact _
  | summary files elapsed => exact isLine_summary files elapsed

theorem head?_compact_object (members : List (String × Json)) :
    (Json.object members).compact.toList.head? = some '\x7b' := by
  simp [Json.compact]

theorem head?_line_summary (files : Nat) (elapsed : Duration) :
    (style.line (.summary files elapsed)).toList.head? = some 'L' := by
  simp [ReportStyle.line, toString]

theorem pieces_line_summary (files : Nat) (elapsed : Duration) :
    pieces ' ' (style.line (.summary files elapsed)) = summaryWords files elapsed := by
  have noBlank : ∀ word ∈ summaryWords files elapsed, ' ' ∉ word.toList := by
    intro word member within
    exact absurd (lt_toNat_of_mem_summaryWords word member _ within) (by decide)
  have apart := String.toList_split_intercalate noBlank
  rw [line_summary]
  exact apart

/-- A line tells what its record is. -/
theorem Notice.ofLine?_line (json : style.format = .json) (r : Record) :
    ofLine? (style.line r) = some (ofRecord style r) := by
  cases r with
  | finding f =>
      rw [ofLine?, line_finding json, if_pos (head?_compact_object _), Json.ofText?_compact]
      rfl
  | failure file cause =>
      rw [ofLine?, line_failure json, if_pos (head?_compact_object _), Json.ofText?_compact]
      rfl
  | summary files elapsed =>
      rw [ofLine?, head?_line_summary, if_neg (by decide), pieces_line_summary]
      simp [ofWords?, summaryWords, ofRecord, toString]

/-- The lines of a text come apart where they end. -/
theorem pieces_join {lines : List String} (each : ∀ line ∈ lines, IsLine line) :
    pieces '\n' (String.join (lines.map (· ++ "\n"))) = lines ++ [""] := by
  have between : String.join (lines.map (· ++ "\n")) =
      (String.singleton '\n').intercalate (lines ++ [""]) := by
    clear each
    induction lines with
    | nil => rfl
    | cons line rest ih =>
        rw [List.map_cons, String.join_cons, ih, List.cons_append,
          String.intercalate_cons_of_ne_nil (by simp)]
        rfl
  have noBreak : ∀ line ∈ lines ++ [""], '\n' ∉ line.toList := by
    intro line member
    rw [List.mem_append, List.mem_singleton] at member
    rcases member with within | rfl
    · exact (each line within).not_mem
    · decide
  rw [between, pieces, String.toList_split_intercalate noBreak, if_neg (by simp)]

/-- A sink that accepts everything shows a line for each record. -/
theorem writeAll_unlimited (records : List Record) (shown : List String) :
    Run.writeAll (Run.writeLine style) ⟨shown, none, true⟩ records =
      (⟨shown ++ records.map style.line, none, true⟩, none) := by
  induction records generalizing shown with
  | nil => simp [Run.writeAll]
  | cons r rest ih =>
      have written : (Run.writeLine style).write ⟨shown, none, true⟩ r =
          (⟨shown ++ [style.line r], none, true⟩, none) := rfl
      rw [Run.writeAll, written]
      simpa using ih (shown ++ [style.line r])

/-- A report in JSON reads back. Its text comes apart at the line breaks into one line for each
record, in order, whatever characters the records hold. The line of a finding is an object with just
the four members of a finding, that of a failure is one with just the file and the fixed message,
and that of a summary does not begin with a brace; so a reader who knows nothing but the text finds
out what each record was. -/
theorem json_report_reads_back (style : ReportStyle) (json : style.format = .json)
    (records : List Record) :
    ∃ sink, Run.writeAll (Run.writeLine style) .unlimited records = (sink, none) ∧
      pieces '\n' sink.text = records.map style.line ++ [""] ∧
      (∀ f, Json.ofText? (style.line (.finding f)) =
        some (.object [("filename", .string (style.displayPath f.file)), ("line", .number f.line),
          ("message", .string f.message), ("patternId", .string f.rule)])) ∧
      (∀ file cause, Json.ofText? (style.line (.failure file cause)) =
        some (.object [("filename", .string file),
          ("message", .string ReportStyle.failureMessage)])) ∧
      (∀ files elapsed, (style.line (.summary files elapsed)).toList.head? ≠ some '\x7b') ∧
      (pieces '\n' sink.text).dropLast.map Notice.ofLine? =
        records.map fun r => some (.ofRecord style r) := by
  have written := @writeAll_unlimited style records []
  have apart : pieces '\n' (Sink.text ⟨records.map style.line, none, true⟩) =
      records.map style.line ++ [""] := by
    refine pieces_join ?_
    intro line member
    obtain ⟨r, _, rfl⟩ := List.mem_map.mp member
    exact isLine_line json r
  refine ⟨_, written, apart, ?_, ?_, ?_, ?_⟩
  · intro f
    rw [line_finding json, Json.ofText?_compact]
  · intro file cause
    rw [line_failure json, Json.ofText?_compact]
  · intro files elapsed
    rw [head?_line_summary]
    decide
  · rw [List.nil_append, apart, List.dropLast_concat, List.map_map]
    exact List.map_congr_left fun r _ => Notice.ofLine?_line json r

/-- One record of each kind, with line breaks, quotes and braces where there is room for them. -/
def crookedRecords : List Record :=
  [.finding ⟨"/r/a\n\x7b\"b\".sql", 3, 1, "x\ny", .error, "\x7b\u0000\\"⟩,
    .failure "c\n.sql" "no\n\x7b", .summary 1 ⟨0, 500000000⟩]

theorem json_report_reads_back_of_crookedRecords :
    ∃ sink, Run.writeAll (Run.writeLine ⟨.json, some "/r"⟩) .unlimited crookedRecords =
        (sink, none) ∧
      (pieces '\n' sink.text).length = 4 ∧
      (pieces '\n' sink.text).dropLast.map Notice.ofLine? =
        [some (.finding "a\n\x7b\"b\".sql" 3 "\x7b\u0000\\" "x\ny"), some (.failure "c\n.sql"),
          some (.summary 1 "0.5")] := by
  obtain ⟨sink, written, apart, _, _, _, told⟩ :=
    json_report_reads_back ⟨.json, some "/r"⟩ rfl crookedRecords
  have below : ReportStyle.displayPath ⟨.json, some "/r"⟩ "/r/a\n\x7b\"b\".sql" =
      "a\n\x7b\"b\".sql" := by
    cbv
  have half : Duration.toDecimal ⟨0, 500000000⟩ = "0.5" := by decide +kernel
  refine ⟨sink, written, by simp [apart, crookedRecords], told.trans ?_⟩
  simp [crookedRecords, Notice.ofRecord, below, half]

end SqlLint
