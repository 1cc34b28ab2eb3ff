import SqlLint.Configuration.Defaults
import SqlLint.Proofs.Configuration.Strictness
import SqlLint.Proofs.Linter.Arrangement
import SqlLint.Proofs.Registry
import SqlLint.Rules.Statement

/-!
# The settings to begin with mean the defaults

The text that names every rule of a registry at its own severity is written from descriptors, and is
read as activations under identifiers. That both say the same rests on the registry keeping each
descriptor under its own identifier. What is read is then resolved into a configuration, and this
tells a linter of each of its rules just what the linter does when it is told nothing.
-/

namespace SqlLint

namespace Activation

theorem word_ofSeverity (s : Severity) : (ofSeverity s).word = s.word := by
  cases s <;> rfl

@[simp] theorem severity?_ofSeverity (s : Severity) : (ofSeverity s).severity? = some s := by
  cases s <;> rfl

end Activation

namespace SettingsFile

open Json (Document)

/-- A text that spells an object is parsed as what the object says. -/
theorem parse_of_spells {text : String} {raw : List (List Char × Document)}
    {settings : SettingsFile} (spelled : Json.Spells text (.object raw .closed))
    (decoded : decode (.object raw .closed) = .ok settings) (path : String) :
    parse path text = .ok settings := by
  have looks : looksLikeObject text := (looksLikeObject_iff spelled).mpr ⟨raw, rfl⟩
  rw [parse, Except.mapError_eq_ok_iff, ofText, if_pos looks, Json.read_eq_ok_iff]
  exact ⟨_, spelled, decoded⟩

end SettingsFile

/-- The configuration that says nothing of any rule. -/
def Configuration.silent : Configuration where
  rules := .empty
  level := Configuration.defaultLevel
  plugins := []
  unlisted := none

namespace Registry

variable (r : Registry)

/-- Every rule of a registry at its own severity. -/
def activations : Dictionary Activation := r.descriptors.map fun d => .ofSeverity d.severity

def defaultFile : SettingsFile where
  rules := r.activations
  level := some Configuration.defaultLevel
  plugins := []

/-- What a run is told by the settings to begin with. -/
def defaultConfiguration : Configuration where
  rules := r.activations
  level := Configuration.defaultLevel
  plugins := []
  unlisted := none

theorem get?_activations (id : String) :
    r.activations.get? id = (r.get? id).map fun d => .ofSeverity d.severity :=
  r.descriptors.get?_map _ id

theorem activation?_defaultConfiguration (id : String) :
    r.defaultConfiguration.activation? id = (r.get? id).map fun d => .ofSeverity d.severity := by
  rw [Configuration.activation?, defaultConfiguration, Option.or_none, get?_activations]

variable {r}

/-- The rules as they are written are the activations as they are read. -/
theorem rules_defaultSettings (keyed : r.Keyed) :
    r.toList.map (fun d => (d.id, Json.string d.severity.word)) =
      r.activations.entries.map fun (id, a) => (id, .string a.word) := by
  rw [toList, Dictionary.values, activations, Dictionary.map, List.map_map, List.map_map]
  refine List.map_congr_left ?_
  rintro ⟨id, d⟩ member
  -- The text goes by the descriptors, the dictionary by what they stand under.
  have own : d.id = id := keyed id d (Dictionary.mem_entries_iff.mp member)
  simp [own, Activation.word_ofSeverity]

def defaultMembers (r : Registry) : List (String × Json) :=
  [(SettingsFile.levelField.name, .number Configuration.defaultLevel.toNat),
    (SettingsFile.pluginsField.name, .object (PluginReference.members [])),
    (SettingsFile.rulesField.name, r.defaultConfiguration.rulesJson)]

def defaultValues (r : Registry) : Values Json.Document :=
  r.defaultMembers.map fun (key, value) => (key, value.document)

theorem defaultSettings_eq (keyed : r.Keyed) : r.defaultSettings = .object r.defaultMembers := by
  rw [defaultSettings, rules_defaultSettings keyed]
  rfl

section Fields

open SettingsFile

theorem decode_defaultLevel :
    levelField.decode (Json.number Configuration.defaultLevel.toNat).document =
      .ok (some Configuration.defaultLevel.toNat) := by
  have small : Json.Document.natural "u32" levelLimit
      (Json.number Configuration.defaultLevel.toNat).document =
        .ok Configuration.defaultLevel.toNat :=
    Json.Document.natural_ofNat (by decide) (by decide)
  simp only [levelField, Json.document, Json.Document.optional] at small ⊢
  rw [small]
  rfl

theorem decode_noPlugins :
    pluginsField.decode (Json.object (PluginReference.members [])).document = .ok [] :=
  PluginReference.decodeMap_members List.nodup_nil

theorem decode_activations (r : Registry) :
    rulesField.decode r.defaultConfiguration.rulesJson.document = .ok r.activations :=
  r.defaultConfiguration.decode_rulesJson

theorem accepts_defaultMembers (r : Registry) : ∀ m ∈ r.defaultMembers, layout.Accepts m := by
  simp only [defaultMembers, List.forall_mem_cons, List.not_mem_nil, false_implies, implies_true,
    and_true]
  exact ⟨.of_decode rfl decode_defaultLevel, .of_decode rfl decode_noPlugins,
    .of_decode rfl r.decode_activations⟩

theorem decode_defaultSettings (keyed : r.Keyed) :
    decode r.defaultSettings.document = .ok r.defaultFile := by
  have distinct : (r.defaultMembers.map (·.1)).Nodup := by
    simp [defaultMembers, levelField, pluginsField, rulesField]
  have found : layout.values r.defaultSettings.document = .ok r.defaultValues := by
    rw [defaultSettings_eq keyed]
    exact Json.Layout.values_document r.accepts_defaultMembers distinct
  have rules : rulesField.get r.defaultValues = .ok r.activations := r.decode_activations
  have level : levelField.get r.defaultValues = .ok (some Configuration.defaultLevel.toNat) :=
    decode_defaultLevel
  have plugins : pluginsField.get r.defaultValues = .ok [] := decode_noPlugins
  simp only [decode, found, rules, level, plugins, bind, Except.bind, pure, Except.pure]
  rfl

theorem parse_defaultSettingsText (keyed : r.Keyed) (path : String) :
    parse path r.defaultSettingsText = .ok r.defaultFile := by
  have blank : Json.IsGap "\n".toList := by simp [Json.IsGap, Json.isBlank]
  have read := (Json.reads_prettyAt 0 r.defaultSettings).ofText_append_eq blank
  exact parse_of_spells (Json.ofText_eq_complete_iff.mp read) (decode_defaultSettings keyed) path

end Fields

/-- All known rules are named, so none is left to be turned off. -/
theorem ofSettings_defaultFile (r : Registry) (path : String) :
    Configuration.ofSettings path r.defaultFile r.ids = r.defaultConfiguration := by
  have rules : (Configuration.ofSettings path r.defaultFile r.ids).rules = r.activations := by
    refine Dictionary.ext_get? fun id => ?_
    rw [Configuration.get?_rules_ofSettings]
    change (r.activations.get? id).or _ = r.activations.get? id
    simp only [get?_activations, mem_ids_iff]
    cases r.get? id <;> rfl
  exact congrArg (Configuration.mk · Configuration.defaultLevel [] none) rules

theorem resolve_defaultSettingsText (keyed : r.Keyed) {fs : FileSystem} {path : String}
    (file : fs.isFile path) (contents : fs.read path = .ok r.defaultSettingsText) :
    Configuration.resolve fs [] (some path) r.ids = .ok r.defaultConfiguration := by
  rw [Configuration.resolve_of_file rfl rfl file, SettingsFile.load, contents]
  simp only [parse_defaultSettingsText keyed, Except.map, ofSettings_defaultFile]

end Registry

namespace Linter

theorem severity?_defaultConfiguration {r : Registry} {rule : Rule}
    (described : ∀ d, r.get? rule.id = some d → d.severity = rule.severity) :
    severity? r.defaultConfiguration rule = severity? .silent rule := by
  rw [severity?, r.activation?_defaultConfiguration]
  cases found : r.get? rule.id with
  | none => rfl
  | some d =>
      rw [Option.map_some]
      simp only [Activation.severity?_ofSeverity, described d found]
      rfl

end Linter

/-- The settings that a registry begins with mean its defaults, whatever was registered. The text is
accepted as a settings file and gives to each registered rule, and to no other, the activation of
its severity, with level 120 and without plugins. A run with that file, no selection and the rules
of the registry gives each of them its own severity and leaves every other rule alone. So a linter
finds in every file what it finds when it is told nothing, as long as the registry states the
severities of those of its rules that it knows. -/
theorem default_settings_mean_defaults (ds : List Descriptor) (path : String) :
    let r := Registry.ofDescriptors ds
    (∀ id, r.get? id = ds.find? (·.id = id)) ∧
    (∃ settings, SettingsFile.parse path r.defaultSettingsText = .ok settings ∧
      (∀ id, settings.rules.get? id = (r.get? id).map fun d => .ofSeverity d.severity) ∧
      settings.level = some 120 ∧ settings.plugins = []) ∧
    ∀ fs : FileSystem, fs.isFile path → fs.read path = .ok r.defaultSettingsText →
      ∃ c, Configuration.resolve fs [] (some path) r.ids = .ok c ∧
        (∀ id d, r.get? id = some d →
          (c.activation? id).bind Activation.severity? = some d.severity) ∧
        (∀ id, r.get? id = none → c.activation? id = none) ∧
        c.level = 120 ∧ c.plugins = [] ∧
        ∀ l : Linter,
          (∀ rule ∈ l.rules, ∀ d, r.get? rule.id = some d → d.severity = rule.severity) →
          ∀ fs' file, l.analyze fs' file c = l.analyze fs' file .silent := by
  intro r
  have keyed : r.Keyed := Registry.keyed_ofDescriptors ds
  refine ⟨Registry.get?_ofDescriptors ds, ?_, ?_⟩
  · exact ⟨r.defaultFile, Registry.parse_defaultSettingsText keyed path, r.get?_activations,
      rfl, rfl⟩
  · intro fs isFile contents
    refine ⟨r.defaultConfiguration, Registry.resolve_defaultSettingsText keyed isFile contents,
      ?_, ?_, rfl, rfl, ?_⟩
    · intro id d known
      simp [r.activation?_defaultConfiguration, known]
    · intro id unknown
      simp [r.activation?_defaultConfiguration, unknown]
    · intro l stated fs' file
      have level : r.defaultConfiguration.level = Configuration.silent.level := rfl
      have same : ∀ rule ∈ l.rules, Linter.severity? r.defaultConfiguration rule =
          Linter.severity? .silent rule := by
        intro rule member
        exact Linter.severity?_defaultConfiguration (stated rule member)
      exact Linter.analyze_congr_severity level same fs' file

/-- A rule whose identifier cannot stand in a string as it is, and whose findings are warnings. -/
def quotedRule : Rule := { Rules.setVariable with id := "\"set\"\t\\", severity := .warning }

/-- Descriptors of two rules, one of them a second time with another severity. -/
def quotedDescriptors : List Descriptor :=
  [quotedRule.toDescriptor, Rules.printStatement.toDescriptor,
    { quotedRule.toDescriptor with severity := .error }]

/-- The settings that their registry begins with. -/
def quotedText : String :=
  "\x7b\n  \"compatibility-level\": 120,\n  \"plugins\": \x7b\x7d,\n  \"rules\": \x7b\n"
    ++ "    \"\\\"set\\\"\\t\\\\\": \"warning\",\n"
    ++ "    \"print-statement\": \"error\"\n  \x7d\n\x7d\n"

theorem default_settings_mean_defaults_of_quoted :
    (Registry.ofDescriptors quotedDescriptors).defaultSettingsText = quotedText ∧
    (∃ settings, SettingsFile.parse "lint" quotedText = .ok settings ∧
      settings.rules.get? quotedRule.id = some .warning ∧
      settings.rules.get? "set-variable" = none) ∧
    ∃ c, Configuration.resolve (SettingsFile.onlyFile "lint" quotedText) [] (some "lint")
        (Registry.ofDescriptors quotedDescriptors).ids = .ok c ∧
      (c.activation? quotedRule.id).bind Activation.severity? = some .warning ∧
      c.activation? "set-variable" = none ∧
      ∀ fs file, (Linter.base "sql" [quotedRule, Rules.setVariable]).analyze fs file c =
        (Linter.base "sql" [quotedRule, Rules.setVariable]).analyze fs file .silent := by
  have text : (Registry.ofDescriptors quotedDescriptors).defaultSettingsText = quotedText := by
    cbv
  obtain ⟨holds, ⟨settings, parsed, rules, _, _⟩, resolves⟩ :=
    default_settings_mean_defaults quotedDescriptors "lint"
  rw [text] at parsed resolves
  have quoted : (Registry.ofDescriptors quotedDescriptors).get? quotedRule.id =
      some quotedRule.toDescriptor := (holds _).trans rfl
  have unknown : (Registry.ofDescriptors quotedDescriptors).get? "set-variable" = none :=
    (holds _).trans rfl
  obtain ⟨c, resolved, known, others, _, _, same⟩ :=
    resolves (SettingsFile.onlyFile "lint" quotedText) rfl rfl
  refine ⟨text, ⟨settings, parsed, ?_, ?_⟩, c, resolved, known _ _ quoted, others _ unknown, ?_⟩
  · rw [rules, quoted]
    rfl
  · rw [rules, unknown]
    rfl
  · refine same _ ?_
    simp only [Linter.rules, List.forall_mem_cons, List.not_mem_nil, false_implies, implies_true,
      and_true]
    constructor
    · intro d found
      cases quoted.symm.trans found
      rfl
    · intro d found
      cases unknown.symm.trans found

end SqlLint
