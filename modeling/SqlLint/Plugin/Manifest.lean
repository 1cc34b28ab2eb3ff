import SqlLint.Finding
import SqlLint.Toml.Decoder

/-!
# Plugin manifests

A manifest describes a plugin and its rules: for each rule an identifier, a regular expression and a
message, and optionally a title, a severity, a category and the files it applies to. Reading a
manifest checks its form only; whether identifiers, expressions and the like are valid is the matter
of loading it.
-/

namespace SqlLint

open Toml (Node)

/-- A rule as a manifest describes it. -/
structure RuleEntry where
  id : String
  title : Option String
  pattern : String
  message : String
  severity : String
  category : Option Category
  files : List String
deriving DecidableEq, Repr

structure Manifest where
  name : String
  description : Option String
  rules : List RuleEntry
deriving DecidableEq, Repr

namespace RuleEntry

def idField : Field Node String := { name := "id", decode := Node.text }

def titleField : Field Node (Option String) :=
  { name := "title", decode := fun n => n.text.map some, default := some none }

def patternField : Field Node String := { name := "pattern", decode := Node.text }
def messageField : Field Node String := { name := "message", decode := Node.text }

def severityField : Field Node String :=
  { name := "severity", decode := Node.text, default := some Severity.error.word }

def categoryField : Field Node (Option Category) where
  name := "category"
  decode n := (n.word Category.alternatives).map some
  default := some none

def filesField : Field Node (List String) :=
  { name := "files", decode := Node.sequence Node.text, default := some [] }

def layout : Toml.Layout where
  name := "PatternRuleDto"
  fields := [idField.spec, titleField.spec, patternField.spec, messageField.spec,
    severityField.spec, categoryField.spec, filesField.spec]

/-- Reads a rule; it has no other fields. -/
def decode (n : Node) : Decoded RuleEntry := do
  let values ← layout.values true n
  return {
    id := ← idField.get values
    title := ← titleField.get values
    pattern := ← patternField.get values
    message := ← messageField.get values
    severity := ← severityField.get values
    category := ← categoryField.get values
    files := ← filesField.get values }

end RuleEntry

namespace Manifest

def nameField : Field Node String := { name := "name", decode := Node.text }

def descriptionField : Field Node (Option String) :=
  { name := "description", decode := fun n => n.text.map some, default := some none }

def headLayout : Toml.Layout where
  name := "PluginMetaDto"
  fields := [nameField.spec, descriptionField.spec]

/-- Reads the description of a plugin; it may have other fields. -/
def decodeHead (n : Node) : Decoded (String × Option String) := do
  let values ← headLayout.values false n
  return (← nameField.get values, ← descriptionField.get values)

def headField : Field Node (String × Option String) :=
  { name := "plugin", decode := decodeHead }

def rulesField : Field Node (List RuleEntry) :=
  { name := "rule", decode := Node.sequence RuleEntry.decode, default := some [] }

def layout : Toml.Layout where
  name := "PluginManifestDto"
  fields := [headField.spec, rulesField.spec]

/-- Reads a manifest from a document; it has no other fields. -/
def decode (n : Node) : Decoded Manifest := do
  let values ← layout.values true n
  let (name, description) ← headField.get values
  return { name, description, rules := ← rulesField.get values }

def ofText (text : String) : Decoded Manifest := Toml.read decode text

end Manifest
end SqlLint
