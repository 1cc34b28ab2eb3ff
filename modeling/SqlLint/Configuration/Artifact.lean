import SqlLint.Configuration.SettingsFile
import SqlLint.Json

/-!
# Configurations as texts

A configuration is written as a JSON object and can be read back from it. Members that would say
nothing are left out: no plugins, no activation for unlisted rules.
-/

namespace SqlLint.Configuration

open Json (Document)

/-- The configuration as a JSON value. -/
def toJson (c : Configuration) : Json :=
  let rules := c.rules.entries.map fun (rule, activation) =>
    (rule, Json.string activation.word)
  let plugins := c.plugins.map fun p => (p.name, Json.string p.path)
  .object (
    [("rules", .object rules), ("compatibilityLevel", .number c.level.toNat)]
    ++ (if plugins.isEmpty then [] else [("plugins", .object plugins)])
    ++ c.unlisted.toList.map fun activation => ("unlisted", .string activation.word))

/-- The text of a configuration. -/
def artifact (c : Configuration) : String := c.toJson.pretty

def rulesField : Field Document (Dictionary Activation) :=
  { name := "rules", decode := Activation.decodeMap }

def levelField : Field Document Nat :=
  { name := "compatibilityLevel", decode := Document.natural "u32" SettingsFile.levelLimit }

def pluginsField : Field Document (List PluginReference) :=
  { name := "plugins", decode := PluginReference.decodeMap, default := some [] }

def unlistedField : Field Document (Option Activation) where
  name := "unlisted"
  decode := Document.optional (Document.word Activation.alternatives)
  default := some none

def layout : Json.Layout where
  name := "ArtifactDto"
  fields := [rulesField.spec, levelField.spec, pluginsField.spec, unlistedField.spec]

def decode (d : Document) : Decoded Configuration := do
  let values ← layout.values d
  return {
    rules := ← rulesField.get values
    level := (← levelField.get values).toUInt32
    plugins := ← pluginsField.get values
    unlisted := ← unlistedField.get values }

/-- Reads the configuration that a text at a path holds. -/
def ofArtifact (path text : String) : Except ConfigError Configuration :=
  (Json.read decode text).mapError (.malformed path)

end SqlLint.Configuration
