import SqlLint.Configuration
import SqlLint.FileSystem
import SqlLint.Json.Decoder
import SqlLint.Text.WhiteSpace

/-!
# Settings files

A settings file is a JSON object that names activations of rules, the compatibility level and
plugins. It is read strictly: whatever is wrong anywhere in it, the file says nothing. Plugins keep
the order in which they stand, since they are loaded in that order, and no two have one name.
-/

namespace SqlLint

/-- Why there is no configuration. -/
inductive ConfigError
  /-- The settings file cannot be read. -/
  | unreadable (path cause : String)
  /-- The settings are not what settings have to be. -/
  | malformed (path : String) (problem : DecodeError)
  /-- The configuration cannot be put into a text. -/
  | unencodable (cause : String)
  /-- The text of the configuration cannot be left at a path, or not be read there again. -/
  | unkept (path cause : String)
deriving DecidableEq, Repr

namespace ConfigError

def message : ConfigError → String
  | .unreadable path cause => s!"Failed to read config file {path}: {cause}"
  | .malformed path problem => s!"Failed to parse config {path}: {problem.message}"
  | .unencodable cause => s!"Failed to encode configuration: {cause}"
  | .unkept path cause => s!"Failed to persist configuration artifact at {path}: {cause}"

def code : ConfigError → String
  | .unreadable _ _ => "tsql_batch::config::io"
  | .malformed _ _ => "tsql_batch::config::parse"
  | .unencodable _ => "tsql_batch::config::encode"
  | .unkept _ _ => "tsql_batch::config::artifact"

/-- Advice for mending the problem. -/
def help? : ConfigError → Option String
  | .malformed _ _ => some "Check your config file"
  | _ => none

end ConfigError

open Json (Document)

/-- Reads activations by rule; the last one for a rule counts. -/
def Activation.decodeMap (d : Document) : Decoded (Dictionary Activation) :=
  (d.entries "a map" (Document.word alternatives)).map Dictionary.ofList

namespace PluginReference

/-- Reads plugins after those in `seen`. -/
def decodeMembers (seen : List PluginReference) :
    List (List Char × Document) → Decoded (List PluginReference)
  | [] => .ok seen
  | (rawName, value) :: rest => do
    let name ← Json.resolved rawName
    let path ← value.text "path string"
    if seen.any (·.name == name) then .error (.duplicatePlugin name)
    else decodeMembers (seen ++ [⟨name, path⟩]) rest

/-- Reads plugins from an object of names and paths. -/
def decodeMap : Document → Decoded (List PluginReference)
  | .object members ending => do
    let plugins ← decodeMembers [] members
    Document.atEnd ending
    return plugins
  | d => Json.mismatch "a map of plugin names to manifest paths" d.found

end PluginReference

/-- What a settings file says. -/
structure SettingsFile where
  rules : Dictionary Activation
  level : Option UInt32
  plugins : List PluginReference
deriving DecidableEq

namespace SettingsFile

/-- Largest compatibility level. -/
def levelLimit : Nat := 0xFFFFFFFF

def rulesField : Field Document (Dictionary Activation) :=
  { name := "rules", decode := Activation.decodeMap, default := some .empty }

def levelField : Field Document (Option Nat) where
  name := "compatibility-level"
  decode := Document.optional (Document.natural "u32" levelLimit)
  default := some none
  aliases := ["compatibilityLevel"]

def pluginsField : Field Document (List PluginReference) :=
  { name := "plugins", decode := PluginReference.decodeMap, default := some [] }

def layout : Json.Layout where
  name := "SettingsFile"
  fields := [rulesField.spec, levelField.spec, pluginsField.spec]

def decode (d : Document) : Decoded SettingsFile := do
  let values ← layout.values d
  return {
    rules := ← rulesField.get values
    level := (← levelField.get values).map Nat.toUInt32
    plugins := ← pluginsField.get values }

/-- Whether a text begins, white space apart, as an object does. -/
def looksLikeObject (text : String) : Bool :=
  (WhiteSpace.trimStart text.toList).head? == some '\x7b'

def ofText (text : String) : Decoded SettingsFile :=
  if looksLikeObject text then Json.read decode text else .error .notObject

def parse (path text : String) : Except ConfigError SettingsFile :=
  (ofText text).mapError (.malformed path)

def load (fs : FileSystem) (path : String) : Except ConfigError SettingsFile :=
  match fs.read path with
  | .error e => .error (.unreadable path e.message)
  | .ok text => parse path text

end SettingsFile
end SqlLint
