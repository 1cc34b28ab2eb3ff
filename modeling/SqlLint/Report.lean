import SqlLint.Finding
import SqlLint.Json
import SqlLint.Number.Binary64
import SqlLint.Path

/-!
# Reports

A report is a sequence of records, each one line: a finding, a file that could not be analysed, or
the summary of a run. JSON records are for tools, compact ones for people. Lines go to a sink that
may refuse them; a line counts only once it is flushed. File names are texts and are shown as they
are: what a report makes of a name that is no UTF-8 is left out.
-/

namespace SqlLint

structure Duration where
  seconds : Nat
  nanoseconds : Nat
deriving DecidableEq, Repr, Inhabited

/-- Spans of time are written without exponent, and whole seconds without point. -/
def Duration.form : Binary64.DecimalForm := ⟨.up, fun _ => true, false⟩

/-- The span in seconds, with the fewest digits that tell it apart. -/
def Duration.toDecimal (d : Duration) : String :=
  let total := do
    let whole ← Binary64.ofNat d.seconds
    let part ← Binary64.ofRatio d.nanoseconds 1000000000
    whole.add part
  (total.getD .zero).toDecimal form

/-- What a report speaks of. -/
inductive Record
  | finding (f : Finding)
  /-- A file, as listed, that could not be analysed, and why. -/
  | failure (file cause : String)
  /-- How many files were analysed, and in what time. -/
  | summary (files : Nat) (elapsed : Duration)
deriving DecidableEq, Repr

/-- What a run says of itself at its end: how many files were analysed, and in what time. -/
structure RunSummary where
  files : Nat
  elapsed : Duration
deriving DecidableEq, Repr

def RunSummary.record (s : RunSummary) : Record := .summary s.files s.elapsed

/-- How records are written. -/
inductive ReportFormat
  /-- One JSON object for each record. -/
  | json
  /-- Place, severity, rule and message. -/
  | compact
deriving DecidableEq, Repr, Inhabited

/-- How records become lines. -/
structure ReportStyle where
  format : ReportFormat
  /-- The directory to which the paths of findings are relative. -/
  root : Option String
deriving DecidableEq, Repr, Inhabited

namespace ReportStyle

/-- The file name shown in findings: relative to the root if the path lies below it, else without
the first segment. -/
def displayPath (s : ReportStyle) (file : String) : String :=
  match s.root.bind fun root => Path.stripPrefix? root file with
  | some relative => relative
  | none => Path.dropFirstSegment file

/-- What a JSON record says of a file that could not be analysed. -/
def failureMessage : String := "could not parse the file"

/-- The line for a record, without its newline. -/
def line (s : ReportStyle) : Record → String
  | .finding f =>
    let file := s.displayPath f.file
    match s.format with
    | .json =>
      (Json.object [("filename", .string file), ("line", .number f.line),
        ("message", .string f.message), ("patternId", .string f.rule)]).compact
    | .compact => { f with file }.describe
  | .failure file cause =>
    match s.format with
    | .json =>
      (Json.object [("filename", .string file), ("message", .string failureMessage)]).compact
    | .compact => s!"{file}: failure: {cause}"
  | .summary files elapsed => s!"Linted {files} files in {elapsed.toDecimal} seconds"

end ReportStyle

/-- Where lines go. It shows the lines that were flushed, refuses every line once `capacity` of them
are shown, and may refuse to flush. -/
structure Sink where
  shown : List String
  capacity : Option Nat
  canFlush : Bool
deriving DecidableEq, Repr

/-- Why a record is refused. -/
inductive RenderError
  | unwritable (cause : String)
  /-- The record cannot be put into a line. -/
  | unencodable (cause : String)
deriving DecidableEq, Repr

namespace RenderError

def message : RenderError → String
  | .unwritable cause => s!"failed to write report: {cause}"
  | .unencodable cause => s!"failed to encode report record: {cause}"

def code : RenderError → String
  | .unwritable _ => "tsql_batch::render::io"
  | .unencodable _ => "tsql_batch::render::encode"

end RenderError

namespace Sink

/-- A sink that accepts everything. -/
def unlimited : Sink := ⟨[], none, true⟩

/-- Whether the sink still accepts lines. -/
def isOpen (s : Sink) : Bool :=
  match s.capacity with
  | none => true
  | some n => s.shown.length < n

/-- Writes and flushes one line. -/
def put (s : Sink) (line : String) : Except RenderError Sink :=
  if !s.isOpen then .error (.unwritable "sink closed")
  else if !s.canFlush then .error (.unwritable "flush refused")
  else .ok { s with shown := s.shown ++ [line] }

/-- Everything shown, each line with its newline. -/
def text (s : Sink) : String := String.join (s.shown.map (· ++ "\n"))

end Sink
end SqlLint
