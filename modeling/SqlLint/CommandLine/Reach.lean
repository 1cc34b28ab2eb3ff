import SqlLint.CommandLine.Analysis
import SqlLint.CommandLine.Reply

/-!
# What a command looks at

The paths at which a command looks can be told beforehand only in part, for a file may name others:
the platform's settings name scripts, and a settings file names plugins. `Command.reach` tells them
as far as a snapshot of the files shows. When every path it tells is in the snapshot, nothing else
is looked at, so a program may enlarge its snapshot by it until it tells nothing new.
-/

namespace SqlLint.CommandLine

namespace AnalysisOptions

/-- The places where the settings file may lie. -/
def settingsPlaces (environment : Environment) (o : AnalysisOptions) : List String :=
  match o.config with
  | some path => [path, Path.join path SettingsSource.fileName]
  | none =>
    let user := SettingsSource.userDirectory? environment.configDirectory environment.home
    (o.sourceRoot :: user.toList).map (Path.join · SettingsSource.fileName)

/-- The manifests of the plugins that the settings name. -/
def manifests (fs : FileSystem) (plan : AnalysisPlan) : List String :=
  match Configuration.resolve fs plan.selected plan.settings.path? Reply.builtInRegistry.ids with
  | .ok config => config.plugins.map (·.path)
  | .error _ => []

/-- The paths at which an analysis looks. -/
def reach (fs : FileSystem) (environment : Environment) (o : AnalysisOptions) : List String :=
  let fixed := o.codacyrc.toList ++ o.settingsPlaces environment ++ o.plugins
  match o.plan fs environment with
  | .error _ => fixed
  | .ok plan => fixed ++ manifests fs plan ++ plan.files.map (Path.join o.sourceRoot)

/-- The directory that is searched for files. -/
def searched? (fs : FileSystem) (o : AnalysisOptions) : Option String :=
  match o.files, o.platform fs with
  | [], .ok codacy => if (codacy.bind (·.files)).isSome then none else some o.sourceRoot
  | _, _ => none

end AnalysisOptions

namespace Command

/-- The paths at which a command looks. -/
def reach (fs : FileSystem) (environment : Environment) : Command → List String
  | .analyze options => options.reach fs environment
  | .listRules => []
  | .init _ => [Path.join Reply.workingDirectory SettingsSource.fileName]

/-- The directory that a command searches for files. -/
def searched? (fs : FileSystem) : Command → Option String
  | .analyze options => options.searched? fs
  | .listRules => none
  | .init _ => none

end Command
end SqlLint.CommandLine
