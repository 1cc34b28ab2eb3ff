import SqlLint.Path

/-!
# Naming plugins

A plugin is named by a configuration or on the command line. Its name is used in messages only; what
is loaded is the manifest at its path.
-/

namespace SqlLint

/-- A plugin: its name and the path of its manifest. -/
structure PluginReference where
  name : String
  path : String
deriving DecidableEq, Repr, Inhabited

namespace PluginReference

/-- The plugin whose manifest lies at a path, named after the file without its extension. -/
def ofPath (path : String) : PluginReference := ⟨(Path.fileStem? path).getD path, path⟩

/-- The plugin with its path taken relative to a directory. -/
def under (base : String) (p : PluginReference) : PluginReference :=
  { p with path := Path.join base p.path }

end PluginReference
end SqlLint
