import SqlLint.Configuration
import SqlLint.Json
import SqlLint.Registry

/-!
# The settings to begin with

A settings file that names every rule of a registry at its own severity, to be edited by hand. It
means the same as no settings at all.
-/

namespace SqlLint.Registry

/-- Settings that name every rule at its own severity. -/
def defaultSettings (r : Registry) : Json :=
  .object [
    ("compatibility-level", .number Configuration.defaultLevel.toNat),
    ("plugins", .object []),
    ("rules", .object (r.toList.map fun d => (d.id, .string d.severity.word)))]

/-- The text of the settings that name every rule at its own severity. -/
def defaultSettingsText (r : Registry) : String := r.defaultSettings.pretty ++ "\n"

end SqlLint.Registry
