import SqlLint.FileSystem
import SqlLint.Json.Decoder
import SqlLint.Text.Ascii

/-!
# The platform's settings

The platform that runs the linter may leave a `.codacyrc` file: the files to look at, and for each
tool the patterns that are enabled. The patterns of this tool form the list of rules to run.
-/

namespace SqlLint

open Json (Document)

/-- The settings of one tool; without patterns the tool's own configuration applies. -/
structure CodacyTool where
  name : String
  patterns : Option (List String)
deriving DecidableEq, Repr

/-- The platform's settings. -/
structure CodacySettings where
  /-- The files to look at, relative to the source root. -/
  files : Option (List String)
  tools : List CodacyTool
deriving DecidableEq, Repr

/-- Why the platform's settings cannot be had. -/
inductive CodacyError
  | unreadable (path : String) (cause : AccessError)
  | malformed (path : String) (problem : DecodeError)
deriving DecidableEq, Repr

def CodacyError.message : CodacyError → String
  | .unreadable path cause => s!"failed to read {path}: {cause.message}"
  | .malformed path problem => s!"failed to parse {path}: {problem.message}"

namespace CodacyTool

def patternIdField : Field Document String :=
  { name := "patternId", decode := Document.text "a string" }

/-- The layout of an enabled pattern. -/
def patternLayout : Json.Layout := { name := "PatternConfig", fields := [patternIdField.spec] }

def decodePattern (d : Document) : Decoded String := do
  patternIdField.get (← patternLayout.values d)

def nameField : Field Document String := { name := "name", decode := Document.text "a string" }

def patternsField : Field Document (Option (List String)) where
  name := "patterns"
  decode := Document.optional (Document.sequence decodePattern)
  default := some none

def layout : Json.Layout where
  name := "ToolConfig"
  fields := [nameField.spec, patternsField.spec]

def decode (d : Document) : Decoded CodacyTool := do
  let values ← layout.values d
  return { name := ← nameField.get values, patterns := ← patternsField.get values }

def ownName : String := "tsqllint"

end CodacyTool

namespace CodacySettings

def filesField : Field Document (Option (List String)) where
  name := "files"
  decode := Document.optional (Document.sequence (Document.text "path string"))
  default := some none

def toolsField : Field Document (List CodacyTool) where
  name := "tools"
  decode := Document.sequence CodacyTool.decode
  default := some []

def layout : Json.Layout where
  name := "CodacyConfig"
  fields := [filesField.spec, toolsField.spec]

def decode (d : Document) : Decoded CodacySettings := do
  let values ← layout.values d
  return { files := ← filesField.get values, tools := ← toolsField.get values }

def load (fs : FileSystem) (path : String) : Except CodacyError CodacySettings := do
  let text ← (fs.read path).mapError (.unreadable path)
  (Json.read decode text).mapError (.malformed path)

/-- The rules that are enabled for this tool. -/
def allowList (s : CodacySettings) : List String :=
  (s.tools.filter fun t => Ascii.sameIgnoringCase t.name CodacyTool.ownName).flatMap
    fun t => t.patterns.getD []

end CodacySettings
end SqlLint
