import SqlLint.Finding
import SqlLint.Json
import SqlLint.Json.Decoder

/-!
# Findings as JSON records
-/

namespace SqlLint.Finding

open Json (Document)

/-- Largest line or column. -/
def placeLimit : Nat := 0xFFFFFFFFFFFFFFFF

def fileField : Field Document String := { name := "file", decode := Document.text "path string" }
def lineField : Field Document Nat :=
  { name := "line", decode := Document.natural "usize" placeLimit }
def columnField : Field Document Nat :=
  { name := "column", decode := Document.natural "usize" placeLimit }
def ruleField : Field Document String := { name := "rule", decode := Document.text "a string" }
def severityField : Field Document Severity :=
  { name := "severity", decode := Document.word Severity.alternatives }
def messageField : Field Document String :=
  { name := "message", decode := Document.text "a string" }

def layout : Json.Layout where
  name := "Violation"
  fields := [fileField.spec, lineField.spec, columnField.spec, ruleField.spec, severityField.spec,
    messageField.spec]

def decode (d : Document) : Decoded Finding := do
  let values ← layout.values d
  return {
    file := ← fileField.get values
    line := ← lineField.get values
    column := ← columnField.get values
    rule := ← ruleField.get values
    severity := ← severityField.get values
    message := ← messageField.get values }

def toJson (f : Finding) : Json :=
  .object [("file", .string f.file), ("line", .number f.line), ("column", .number f.column),
    ("rule", .string f.rule), ("severity", .string f.severity.word),
    ("message", .string f.message)]

end SqlLint.Finding
