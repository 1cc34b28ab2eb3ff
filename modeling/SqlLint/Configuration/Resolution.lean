import SqlLint.Configuration.SettingsFile

/-!
# Which configuration a run gets

A list of rules that the caller selects wins over everything else; then comes a settings file; with
neither, every known rule is on. Only rules that are named are looked at: with a selection every
other rule is off, with a settings file the known rules it does not name are off.
-/

namespace SqlLint.Configuration

/-- Exactly the selected rules are on. -/
def ofSelection (selected known : List String) : Configuration where
  rules := .ofList ((known ++ selected).map fun rule =>
    (rule, if selected.contains rule then Activation.error else .off))
  level := defaultLevel
  plugins := []
  unlisted := some .off

/-- The plugin with the path of its manifest taken relative to a directory, unless it is absolute.
-/
def anchored (base : String) (p : PluginReference) : PluginReference :=
  if Path.isAbsolute p.path then p else p.under base

/-- What a settings file at a path says; known rules that it does not name are off. -/
def ofSettings (path : String) (settings : SettingsFile) (known : List String) :
    Configuration where
  rules := known.foldl (fun rules rule => rules.insertIfNew rule .off) settings.rules
  level := settings.level.getD defaultLevel
  plugins := settings.plugins.map (anchored ((Path.parent? path).getD "."))
  unlisted := none

/-- All known rules are on. -/
def ofKnown (known : List String) : Configuration where
  rules := .ofList (known.map fun rule => (rule, .error))
  level := defaultLevel
  plugins := []
  unlisted := none

/-- The configuration of a run: from the selected rules if there are any, else from the settings
file at a path if a file stands there, else from the known rules alone. -/
def resolve (fs : FileSystem) (selected : List String) (settingsPath : Option String)
    (known : List String) : Except ConfigError Configuration :=
  if !selected.isEmpty then .ok (ofSelection selected known)
  else
    match settingsPath.filter fs.isFile with
    | some path => do
      let settings ← SettingsFile.load fs path
      return ofSettings path settings known
    | none => .ok (ofKnown known)

end SqlLint.Configuration
