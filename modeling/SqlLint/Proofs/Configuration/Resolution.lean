import SqlLint.Configuration.Resolution
import SqlLint.Proofs.Dictionary

/-!
# What a resolved configuration says of each rule

A configuration that is resolved for a run says of every rule, known or not, what the first source
in the order of priority says: the selection, the settings file, or the known rules alone. Each
source is a dictionary together with an activation for the rules it does not hold, so it is enough
to look a rule up in the dictionary. The list of active rules is read off the same dictionary, and
every known rule is in it.
-/

namespace SqlLint.Configuration

/-- A plugin as a file in `directory` declares it: an absolute path is kept, any other one is taken
relative to the directory. -/
structure AnchoredAt (directory : String) (declared plugin : PluginReference) : Prop where
  name : plugin.name = declared.name
  absolute : Path.isAbsolute declared.path → plugin.path = declared.path
  relative : ¬ Path.isAbsolute declared.path → plugin.path = Path.join directory declared.path

section Sources

variable (selected known : List String) (path : String) (settings : SettingsFile) (rule : String)

theorem get?_rules_ofSelection : (ofSelection selected known).rules.get? rule =
    if rule ∈ known ++ selected then some (if rule ∈ selected then .error else .off) else none := by
  rw [ofSelection, Dictionary.get?_ofList_map]
  simp

theorem activation?_ofSelection : (ofSelection selected known).activation? rule =
    some (if rule ∈ selected then .error else .off) := by
  rw [activation?, get?_rules_ofSelection]
  by_cases listed : rule ∈ selected
  · simp [listed]
  · by_cases isKnown : rule ∈ known
    · simp [listed, isKnown]
    · simp [listed, isKnown, ofSelection]

theorem get?_rules_ofSettings : (ofSettings path settings known).rules.get? rule =
    (settings.rules.get? rule).or (if rule ∈ known then some .off else none) :=
  Dictionary.get?_foldl_insertIfNew _ _ _ _

theorem activation?_ofSettings : (ofSettings path settings known).activation? rule =
    (settings.rules.get? rule).or (if rule ∈ known then some .off else none) := by
  rw [activation?, get?_rules_ofSettings]
  exact Option.or_none

theorem get?_rules_ofKnown : (ofKnown known).rules.get? rule =
    if rule ∈ known then some .error else none :=
  Dictionary.get?_ofList_map _ _ _

theorem activation?_ofKnown : (ofKnown known).activation? rule =
    if rule ∈ known then some .error else none := by
  rw [activation?, get?_rules_ofKnown]
  exact Option.or_none

theorem anchoredAt_anchored (directory : String) (declared : PluginReference) :
    AnchoredAt directory declared (anchored directory declared) where
  name := by
    rw [anchored]
    split <;> rfl
  absolute := by
    intro absolute
    rw [anchored, if_pos absolute]
  relative := by
    intro relative
    rw [anchored, if_neg relative]
    rfl

theorem plugins_ofSettings : List.Forall₂ (AnchoredAt ((Path.parent? path).getD "."))
    settings.plugins (ofSettings path settings known).plugins := by
  rw [ofSettings, List.forall₂_map_right_iff, List.forall₂_same]
  intro declared _
  exact anchoredAt_anchored _ declared

end Sources

variable {fs : FileSystem} {selected known : List String} {settingsPath : Option String}
variable {c : Configuration} {rule : String}

theorem resolve_of_selected (some : selected ≠ []) :
    resolve fs selected settingsPath known = .ok (ofSelection selected known) := by
  rw [resolve, if_pos (by simpa using some)]

theorem resolve_of_file (none : selected = []) {path : String} (given : settingsPath = some path)
    (file : fs.isFile path) : resolve fs selected settingsPath known =
      (SettingsFile.load fs path).map (ofSettings path · known) := by
  subst none given
  rw [resolve, if_neg (by simp)]
  simp only [Option.filter, file, if_true]
  cases SettingsFile.load fs path <;> rfl

theorem resolve_of_no_file (none : selected = [])
    (absent : ∀ path, settingsPath = some path → fs.isFile path = false) :
    resolve fs selected settingsPath known = .ok (ofKnown known) := by
  subst none
  rw [resolve, if_neg (by simp)]
  cases settingsPath with
  | none => rfl
  | some path => simp [Option.filter, absent path rfl]

/-- A configuration is resolved unless a settings file is asked that cannot be loaded. -/
theorem exists_resolve_iff : (∃ c, resolve fs selected settingsPath known = .ok c) ↔
    (selected = [] → ∀ path, settingsPath = some path → fs.isFile path →
      ∃ settings, SettingsFile.load fs path = .ok settings) := by
  constructor
  · rintro ⟨c, resolved⟩ none path given file
    rw [resolve_of_file none given file] at resolved
    cases loaded : SettingsFile.load fs path with
    | error e =>
        rw [loaded] at resolved
        cases resolved
    | ok settings => exact ⟨settings, rfl⟩
  · intro loads
    by_cases none : selected = []
    · by_cases asked : ∃ path, settingsPath = some path ∧ fs.isFile path
      · obtain ⟨path, given, file⟩ := asked
        obtain ⟨settings, loaded⟩ := loads none path given file
        exact ⟨_, by rw [resolve_of_file none given file, loaded]; rfl⟩
      · refine ⟨_, resolve_of_no_file none ?_⟩
        intro path given
        exact Bool.eq_false_iff.mpr fun file => asked ⟨path, given, file⟩
    · exact ⟨_, resolve_of_selected none⟩

theorem exists_settings_of_resolve (resolved : resolve fs selected settingsPath known = .ok c)
    (none : selected = []) {path : String} (given : settingsPath = some path)
    (file : fs.isFile path) :
    ∃ settings, SettingsFile.load fs path = .ok settings ∧ c = ofSettings path settings known := by
  obtain ⟨settings, loaded⟩ := exists_resolve_iff.mp ⟨c, resolved⟩ none path given file
  rw [resolve_of_file none given file, loaded] at resolved
  exact ⟨settings, loaded, (Except.ok.inj resolved).symm⟩

/-- A configuration that is resolved has one of the three sources. -/
theorem source_of_resolve (resolved : resolve fs selected settingsPath known = .ok c) :
    c = ofSelection selected known ∨
      (∃ path settings, SettingsFile.load fs path = .ok settings ∧
        c = ofSettings path settings known) ∨
      c = ofKnown known := by
  by_cases none : selected = []
  · by_cases asked : ∃ path, settingsPath = some path ∧ fs.isFile path
    · obtain ⟨path, given, file⟩ := asked
      exact .inr (.inl ⟨path, exists_settings_of_resolve resolved none given file⟩)
    · rw [resolve_of_no_file none] at resolved
      · exact .inr (.inr (Except.ok.inj resolved).symm)
      · intro path given
        exact Bool.eq_false_iff.mpr fun file => asked ⟨path, given, file⟩
  · rw [resolve_of_selected none] at resolved
    exact .inl (Except.ok.inj resolved).symm

/-- Whatever its source, a configuration names every known rule. -/
theorem exists_get?_of_mem_known (resolved : resolve fs selected settingsPath known = .ok c)
    (isKnown : rule ∈ known) : ∃ activation, c.rules.get? rule = some activation := by
  rw [← Option.isSome_iff_exists]
  rcases source_of_resolve resolved with rfl | ⟨path, settings, _, rfl⟩ | rfl
  · simp [get?_rules_ofSelection, isKnown]
  · simp [get?_rules_ofSettings, isKnown]
  · simp [get?_rules_ofKnown, isKnown]

theorem mem_activeRules_iff {severity : Severity} : (rule, severity) ∈ c.activeRules ↔
    ∃ activation, c.rules.get? rule = some activation ∧ activation.severity? = some severity := by
  simp only [activeRules, List.mem_filterMap, Option.map_eq_some_iff, Prod.mk.injEq, Prod.exists]
  constructor
  · rintro ⟨_, activation, member, _, surfaces, rfl, rfl⟩
    exact ⟨activation, Dictionary.mem_entries_iff.mp member, surfaces⟩
  · rintro ⟨activation, found, surfaces⟩
    exact ⟨rule, activation, Dictionary.mem_entries_iff.mpr found, severity, surfaces, rfl, rfl⟩

theorem Activation.severity?_eq_none_iff {a : Activation} : a.severity? = none ↔ a = .off := by
  cases a <;> simp [Activation.severity?]

/-- Every rule gets the activation that the order of priority prescribes. With a selection, exactly
the selected rules are on, as errors, and every other rule is off. Without one, a settings file
decides: a rule it names is as it says, any other known rule is off, and the rest is left alone;
its plugins keep their order, with relative paths taken from its directory. Without a file, exactly
the known rules are on, as errors. Whatever the source, the list of active rules leaves out just the
known rules that are off, and gives the severities of the others. -/
theorem resolve_prescribes_activations (fs : FileSystem) (selected : List String)
    (settingsPath : Option String) (known : List String) :
    ((∃ c, resolve fs selected settingsPath known = .ok c) ↔
      (selected = [] → ∀ path, settingsPath = some path → fs.isFile path →
        ∃ settings, SettingsFile.load fs path = .ok settings)) ∧
    ∀ c, resolve fs selected settingsPath known = .ok c →
      (selected ≠ [] →
        (∀ rule, c.activation? rule = some (if rule ∈ selected then .error else .off)) ∧
        c.level = 120 ∧ c.plugins = []) ∧
      (selected = [] → ∀ path, settingsPath = some path → fs.isFile path →
        ∃ settings, SettingsFile.load fs path = .ok settings ∧
          (∀ rule, c.activation? rule =
            (settings.rules.get? rule).or (if rule ∈ known then some .off else none)) ∧
          c.level = settings.level.getD 120 ∧
          List.Forall₂ (AnchoredAt ((Path.parent? path).getD ".")) settings.plugins c.plugins) ∧
      (selected = [] → (∀ path, settingsPath = some path → fs.isFile path = false) →
        (∀ rule, c.activation? rule = if rule ∈ known then some .error else none) ∧
        c.level = 120 ∧ c.plugins = []) ∧
      ∀ rule ∈ known,
        (c.activation? rule = some .off ↔ ∀ severity, (rule, severity) ∉ c.activeRules) ∧
        ∀ severity, (rule, severity) ∈ c.activeRules ↔
          (c.activation? rule).bind Activation.severity? = some severity := by
  refine ⟨exists_resolve_iff, ?_⟩
  intro c resolved
  refine ⟨?_, ?_, ?_, ?_⟩
  · intro some
    rw [resolve_of_selected some] at resolved
    cases resolved
    exact ⟨activation?_ofSelection selected known, rfl, rfl⟩
  · intro none path given file
    obtain ⟨settings, loaded, rfl⟩ := exists_settings_of_resolve resolved none given file
    exact ⟨settings, loaded, activation?_ofSettings known path settings, rfl,
      plugins_ofSettings known path settings⟩
  · intro none absent
    rw [resolve_of_no_file none absent] at resolved
    cases resolved
    exact ⟨activation?_ofKnown known, rfl, rfl⟩
  · intro rule isKnown
    obtain ⟨activation, found⟩ := exists_get?_of_mem_known resolved isKnown
    have active : c.activation? rule = some activation := by simp [activation?, found]
    have listed : ∀ severity, (rule, severity) ∈ c.activeRules ↔
        activation.severity? = some severity := by
      intro severity
      simp [mem_activeRules_iff, found]
    refine ⟨?_, by simpa [active] using listed⟩
    rw [active, Option.some_inj, ← Activation.severity?_eq_none_iff,
      Option.eq_none_iff_forall_ne_some]
    simp only [listed]

/-- A settings file in a directory of its own that names a known rule, another rule, and a plugin by
either kind of path. -/
def nestedSettings : FileSystem where
  kind path := if path = "lint/.tsqllintrc" then .file else .absent
  read path :=
    if path = "lint/.tsqllintrc" then
      .ok ("\x7b\"rules\":\x7b\"a\":\"warning\",\"p\":\"error\"\x7d,"
        ++ "\"plugins\":\x7b\"z\":\"z.toml\",\"y\":\"/y.toml\"\x7d\x7d")
    else .error .notFound
  walk _ := .error .notFound

theorem resolve_prescribes_activations_of_nestedSettings :
    (∃ c, resolve nestedSettings [] (some "lint/.tsqllintrc") ["a", "b"] = .ok c ∧
      ["a", "b", "p", "q"].map c.activation? = [some .warning, some .off, some .error, none] ∧
      c.level = 120 ∧
      List.Forall₂ (AnchoredAt "lint") [⟨"z", "z.toml"⟩, ⟨"y", "/y.toml"⟩] c.plugins ∧
      ("a", .warning) ∈ c.activeRules ∧ ∀ severity, ("b", severity) ∉ c.activeRules) ∧
    ∃ c, resolve nestedSettings ["b"] (some "lint/.tsqllintrc") ["a", "b"] = .ok c ∧
      ["a", "b", "p"].map c.activation? = [some .off, some .error, some .off] := by
  constructor
  · obtain ⟨resolves, prescribed⟩ := resolve_prescribes_activations nestedSettings []
      (some "lint/.tsqllintrc") ["a", "b"]
    have loaded : SettingsFile.load nestedSettings "lint/.tsqllintrc" =
        .ok ⟨.ofList [("a", .warning), ("p", .error)], none,
          [⟨"z", "z.toml"⟩, ⟨"y", "/y.toml"⟩]⟩ := by
      cbv
    have loads : ∀ path, some "lint/.tsqllintrc" = some path → nestedSettings.isFile path →
        ∃ settings, SettingsFile.load nestedSettings path = .ok settings := by
      intro path given _
      cases given
      exact ⟨_, loaded⟩
    obtain ⟨c, resolved⟩ := resolves.mpr fun _ => loads
    obtain ⟨_, ofFile, _, listed⟩ := prescribed c resolved
    obtain ⟨settings, loaded', activations, level, plugins⟩ := ofFile rfl _ rfl rfl
    cases loaded.symm.trans loaded'
    have directory : (Path.parent? "lint/.tsqllintrc").getD "." = "lint" := by cbv
    rw [directory] at plugins
    have a : c.activation? "a" = some .warning := (activations "a").trans (by decide)
    have b : c.activation? "b" = some .off := (activations "b").trans (by decide)
    have p : c.activation? "p" = some .error := (activations "p").trans (by decide)
    have q : c.activation? "q" = none := (activations "q").trans (by decide)
    refine ⟨c, resolved, by simp [a, b, p, q], level, plugins, ?_, ?_⟩
    · exact ((listed "a" (by decide)).2 .warning).mpr (by rw [a]; rfl)
    · exact (listed "b" (by decide)).1.mp b
  · obtain ⟨resolves, prescribed⟩ := resolve_prescribes_activations nestedSettings ["b"]
      (some "lint/.tsqllintrc") ["a", "b"]
    obtain ⟨c, resolved⟩ := resolves.mpr fun none => by cases none
    obtain ⟨activations, _, _⟩ := (prescribed c resolved).1 (by decide)
    exact ⟨c, resolved, by simp [activations]⟩

end SqlLint.Configuration
