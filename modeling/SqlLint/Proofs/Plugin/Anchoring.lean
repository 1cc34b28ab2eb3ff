import SqlLint.CommandLine.Analysis
import SqlLint.Proofs.Run.Footprint

/-!
# Where plugins are loaded from

The plugins that a settings file names are loaded from its directory, and they come first. The
plugins that the caller names come next. Their paths are taken as they are, not relative to the
source root, so a relative one is looked for wherever the program happens to run. The source root
has no say in what is loaded.
-/

namespace SqlLint

/-- The job with another source root. -/
def Job.withRoot {σ : Type} (job : Job σ) (root : String) : Job σ :=
  { job with request := { job.request with root } }

namespace Configuration

variable {fs : FileSystem} {selected known : List String} {settingsPath : Option String}
variable {c : Configuration}

/-- The plugins of a configuration are those that a settings file names, if one decides. -/
structure NamesPlugins (fs : FileSystem) (selected : List String) (settingsPath : Option String)
    (plugins : List PluginReference) : Prop where
  ofSelection : selected ≠ [] → plugins = []
  ofFile : selected = [] → ∀ path, settingsPath = some path → fs.isFile path →
    ∃ settings, SettingsFile.load fs path = .ok settings ∧
      List.Forall₂ (AnchoredAt ((Path.parent? path).getD ".")) settings.plugins plugins
  ofNoFile : selected = [] → (∀ path, settingsPath = some path → fs.isFile path = false) →
    plugins = []

theorem namesPlugins_of_resolve (resolved : resolve fs selected settingsPath known = .ok c) :
    NamesPlugins fs selected settingsPath c.plugins where
  ofSelection some := by
    rw [resolve_of_selected some] at resolved
    cases resolved
    rfl
  ofFile none path given file := by
    obtain ⟨settings, loaded, rfl⟩ := exists_settings_of_resolve resolved none given file
    exact ⟨settings, loaded, plugins_ofSettings known path settings⟩
  ofNoFile none absent := by
    rw [resolve_of_no_file none absent] at resolved
    cases resolved
    rfl

/-- A path is the same below any directory if it is absolute, and below no directory. -/
theorem anchoredAt_self {directory : String} {p : PluginReference}
    (fixed : Path.isAbsolute p.path ∨ directory = "") : AnchoredAt directory p p where
  name := rfl
  absolute _ := rfl
  relative relative := by
    rcases fixed with absolute | rfl
    · exact absurd absolute relative
    · rw [Path.join, if_pos (by simp)]

end Configuration

namespace Run

variable {σ : Type} {job : Job σ}

/-- A run loads the plugins of its configuration and then those of its request. -/
theorem Reachable.eq_plugins_of_loaded {s : State σ} {plugins : List PluginReference}
    (h : Reachable job s) (loaded : .loaded plugins ∈ s.events) :
    ∃ config, job.configure = .ok config ∧ plugins = config.plugins ++ job.request.plugins := by
  induction h with
  | start => cases loaded
  | step before move ih =>
      cases move with
      | unresolved | resolved | unkept | kept | unstarted | started | completed | dropped | broken
      | unsummarized => exact ih loaded
      | looked | written | refused | summarized =>
          rcases List.mem_append.mp loaded with earlier | last
          · exact ih earlier
          · cases List.mem_singleton.mp last
      | unloadable | loaded =>
          rcases List.mem_append.mp loaded with earlier | last
          · exact ih earlier
          · cases List.mem_singleton.mp last
            cases before.consistent with
            | loading configured => exact ⟨_, configured, rfl⟩

end Run

namespace Plugin

open Run

variable {σ : Type}

/-- Whenever a run loads plugins, it loads first those that its settings file names, in order, each
from the directory of that file unless its path is absolute, and then those of its caller, in order,
each at the path that the caller gives; on a command line these are the paths as written. A run that
is configured is prepared just if all of these can be loaded and its workers start. The source root
has no say in what is configured and loaded, so the path of a caller leads below it only if it is
absolute anyway, or if there is no root but the place where the program runs. -/
theorem loaded_from_where_declared (job : Job σ) :
    (∀ s plugins, Reachable job s → .loaded plugins ∈ s.events →
      ∃ own, plugins = own ++ job.request.plugins ∧
        Configuration.NamesPlugins job.fs job.request.selected job.request.settingsPath own) ∧
    (∀ config, job.configure = .ok config → job.prepare = (do
      let rules ← (loadAll job.fs job.analyzer.registry
        (config.plugins ++ job.request.plugins)).mapError .plugin
      job.start.mapError .workers
      return ⟨config, rules⟩)) ∧
    (∀ root, (job.withRoot root).prepare = job.prepare) ∧
    ((∀ p ∈ job.request.plugins, Path.isAbsolute p.path ∨ job.request.root = "") →
      List.Forall₂ (Configuration.AnchoredAt job.request.root) job.request.plugins
        job.request.plugins) ∧
    ∀ (o : CommandLine.AnalysisOptions) plan,
      (o.runRequest plan).plugins.map (·.path) = o.plugins := by
  refine ⟨?_, ?_, fun root => rfl, ?_, ?_⟩
  · intro s plugins reachable loaded
    obtain ⟨config, configured, rfl⟩ := reachable.eq_plugins_of_loaded loaded
    have resolved := Configuration.resolve_of_configure configured
    exact ⟨config.plugins, rfl, Configuration.namesPlugins_of_resolve resolved⟩
  · intro config configured
    exact Job.prepare_of_configure_ok configured
  · intro fixed
    exact List.forall₂_same.mpr fun p member => Configuration.anchoredAt_self (fixed p member)
  · intro o plan
    rw [CommandLine.AnalysisOptions.runRequest, List.map_map]
    exact List.map_id o.plugins

/-- A run whose settings file names plugins by either kind of path, and whose caller names one, too. -/
def askingForThree : Job (List Record) :=
  jobOf (.reliable "t") Configuration.nestedSettings (.base "sql" [])
    ⟨"sql", [], some "lint/.tsqllintrc", [.ofPath "x.toml"], none⟩ .keeping ⟨0, 0⟩ [] ["a.sql"]

theorem loaded_from_where_declared_of_askingForThree :
    ∃ s own, Reachable askingForThree s ∧
      s.events = [.loaded [⟨"z", "lint/z.toml"⟩, ⟨"y", "/y.toml"⟩, ⟨"x", "x.toml"⟩]] ∧
      [⟨"z", "lint/z.toml"⟩, ⟨"y", "/y.toml"⟩, ⟨"x", "x.toml"⟩] =
        own ++ askingForThree.request.plugins ∧
      List.Forall₂ (Configuration.AnchoredAt "lint") [⟨"z", "z.toml"⟩, ⟨"y", "/y.toml"⟩] own := by
  have loaded : SettingsFile.load askingForThree.fs "lint/.tsqllintrc" =
      .ok ⟨.ofList [("a", .warning), ("p", .error)], none,
        [⟨"z", "z.toml"⟩, ⟨"y", "/y.toml"⟩]⟩ := by
    cbv
  obtain ⟨config, resolved, named⟩ : ∃ config, askingForThree.resolve = .ok config ∧
      config.plugins = [⟨"z", "lint/z.toml"⟩, ⟨"y", "/y.toml"⟩] := by
    rw [Job.resolve, Run.resolve]
    refine ⟨_, (Configuration.resolve_of_file rfl rfl rfl).trans (by rw [loaded]; rfl), ?_⟩
    decide +kernel
  have configured := Job.configure_eq_ok_iff.mpr ⟨resolved, _, rfl⟩
  have missed : askingForThree.load config = .error (.notFound "z" "lint/z.toml") := by
    rw [Job.load, Job.plugins, plugins, named]
    have absent : load Configuration.nestedSettings ⟨"z", "lint/z.toml"⟩ =
        .error (.notFound "z" "lint/z.toml") := load_eq_error_iff.mpr (.absent (by decide))
    exact loadAll_eq_error_iff.mpr ⟨[], _, _, [], rfl, rfl, .defect (load_eq_error_iff.mp absent)⟩
  have run := (reachable_of_configure_ok configured).step (.unloadable missed)
  have events : askingForThree.plugins config =
      [⟨"z", "lint/z.toml"⟩, ⟨"y", "/y.toml"⟩, ⟨"x", "x.toml"⟩] := by
    rw [Job.plugins, plugins, named]
    decide +kernel
  rw [events] at run
  obtain ⟨own, order, names⟩ := (loaded_from_where_declared askingForThree).1 _ _ run
    (List.mem_singleton_self _)
  obtain ⟨settings, loaded', anchored⟩ := names.ofFile rfl _ rfl rfl
  cases loaded.symm.trans loaded'
  have directory : (Path.parent? "lint/.tsqllintrc").getD "." = "lint" := by decide +kernel
  rw [directory] at anchored
  exact ⟨_, own, run, rfl, order, anchored⟩

/-- A plugin below a source root. -/
def belowRoot : FileSystem where
  kind path := if path = "sql/lint/house.toml" then .file else .absent
  read path := if path = "sql/lint/house.toml" then .ok (manifestText ["r1"]) else .error .notFound
  walk _ := .error .notFound

/-- A run below the source root whose caller names the plugin by its path there. -/
def askingBelowRoot : Job (List Record) :=
  jobOf (.reliable "t") belowRoot (.base "sql" [])
    ⟨"sql", [], none, [.ofPath "lint/house.toml"], none⟩ .keeping ⟨0, 0⟩ [] ["a.sql"]

/-- The path of the caller is not taken relative to the source root: a run ends because nothing is
found at the path as it is given, although the plugin lies below the source root and can be loaded
from there. -/
theorem missed_below_sourceRoot :
    (∃ s, Reachable askingBelowRoot s ∧
      s.stage = .ended (.error (.plugin (.notFound "house" "lint/house.toml"))) ∧
      s.events = [.loaded [⟨"house", "lint/house.toml"⟩]]) ∧
    ¬ Configuration.AnchoredAt "sql" (.ofPath "lint/house.toml") ⟨"house", "lint/house.toml"⟩ ∧
    ∃ rules, loadAll belowRoot .empty [(PluginReference.ofPath "lint/house.toml").under "sql"] =
      .ok rules ∧ rules.map (·.id) = ["r1"] := by
  have named : PluginReference.ofPath "lint/house.toml" = ⟨"house", "lint/house.toml"⟩ := by
    decide +kernel
  refine ⟨?_, ?_, ?_⟩
  · have configured : askingBelowRoot.configure = .ok ⟨.empty, 120, [], none⟩ :=
      Job.configure_eq_ok_iff.mpr ⟨Job.resolve_of_silent rfl rfl rfl, _, rfl⟩
    have missed : (askingBelowRoot.load ⟨.empty, 120, [], none⟩).map (·.map (·.id)) =
        .error (.notFound "house" "lint/house.toml") := by decide +kernel
    have failed := Except.map_eq_error_iff.mp missed
    have run := (reachable_of_configure_ok configured).step (.unloadable failed)
    exact ⟨_, run, rfl, by rw [← named]; rfl⟩
  · rw [named]
    intro anchored
    have moved := anchored.relative (by decide +kernel)
    exact absurd moved (by decide +kernel)
  · have ids : (loadAll belowRoot .empty
        [(PluginReference.ofPath "lint/house.toml").under "sql"]).map (·.map (·.id)) =
          .ok ["r1"] := by decide +kernel
    exact Except.map_eq_ok_iff.mp ids

end Plugin
end SqlLint
