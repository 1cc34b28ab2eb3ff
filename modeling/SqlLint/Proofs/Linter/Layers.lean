import SqlLint.Linter
import SqlLint.Proofs.Plugin.Loading
import SqlLint.Proofs.Registry
import SqlLint.Rules.BuiltIn

/-!
# Layers of rules

A linter with layers of rules over it does what one linter with all these rules in a row does: it
finds the same in every file and describes the same rules, of several with one identifier the first.
The order of the rows is that of the layers, so what stands below is found first and described
first.

Layers of plugins are loaded one after the other, each while everything below it is known. Such a
layer adds as many descriptors as it has rules: no identifier of it is taken, neither below nor in
the layer itself.
-/

namespace SqlLint

namespace Registry

variable {known : Registry} {rules : List PatternRule}

/-- Rules with identifiers of their own are one descriptor each. -/
theorem size_plus (fresh : Plugin.Fresh known rules) :
    (known.plus rules).size = known.size + rules.length := by
  induction rules generalizing known with
  | nil => rfl
  | cons rule rest ih =>
      obtain ⟨new, others⟩ := Plugin.fresh_cons.mp fresh
      have one : (known.plus [rule]).size = known.size + 1 := by
        rw [plus, List.foldl_cons, List.foldl_nil, size_register, if_neg new]
      rw [← List.singleton_append, plus_append, ih others, one, List.length_append,
        List.length_singleton]
      omega

end Registry

namespace Linter

/-- A linter with layers of rules over it, the first one right above it. -/
def under (l : Linter) (layers : List (List Rule)) : Linter := layers.foldl .layered l

/-- Layers of pattern rules over a linter, each loaded from plugins while everything below it is
known. The files may change between two layers. -/
inductive LoadedOver : Linter → List (List PatternRule) → Prop
  | nil {l : Linter} : LoadedOver l []
  | cons {l : Linter} {fs : FileSystem} {plugins : List PluginReference}
      {rules : List PatternRule} {layers : List (List PatternRule)}
      (loaded : Plugin.loadAll fs l.registry plugins = .ok rules)
      (above : LoadedOver (l.layered (rules.map (·.toRule))) layers) :
      LoadedOver l (rules :: layers)

variable {l : Linter} {rules : List PatternRule} {layers : List (List PatternRule)}

theorem root_under (l : Linter) (layers : List (List Rule)) : (l.under layers).root = l.root := by
  induction layers generalizing l with
  | nil => rfl
  | cons rules layers ih => exact ih (l.layered rules)

theorem rules_under (l : Linter) (layers : List (List Rule)) :
    (l.under layers).rules = l.rules ++ layers.flatten := by
  induction layers generalizing l with
  | nil => exact (List.append_nil l.rules).symm
  | cons rules layers ih =>
      rw [List.flatten_cons, ← List.append_assoc]
      exact ih (l.layered rules)

/-- What a linter finds is told by its root and its rules. -/
theorem analyze_congr_rules {l l' : Linter} (root : l.root = l'.root) (rules : l.rules = l'.rules)
    (fs : FileSystem) (path : String) (config : Configuration) :
    l.analyze fs path config = l'.analyze fs path config := by
  rw [analyze, analyze, root, rules]

theorem registry_layered (l : Linter) (rules : List PatternRule) :
    (l.layered (rules.map (·.toRule))).registry = l.registry.plus rules := by
  change (l.rules ++ rules.map (·.toRule)).foldl _ Registry.empty = _
  rw [List.foldl_append, List.foldl_map]
  rfl

theorem registry_under (l : Linter) (layers : List (List PatternRule)) :
    (l.under (layers.map (·.map (·.toRule)))).registry = l.registry.plus layers.flatten := by
  have row : (l.under (layers.map (·.map (·.toRule)))).rules =
      (l.layered (layers.flatten.map (·.toRule))).rules := by
    rw [rules_under, List.map_flatten]
    rfl
  rw [← registry_layered, registry, row]
  rfl

/-- The rules of all loaded layers have identifiers of their own. Those of one layer do when it is
loaded, and they are known when the next one is. -/
theorem LoadedOver.fresh (loaded : LoadedOver l layers) :
    Plugin.Fresh l.registry layers.flatten := by
  induction loaded with
  | nil => exact Plugin.fresh_nil
  | cons loaded above ih =>
      rw [registry_layered] at ih
      rw [List.flatten_cons]
      exact Plugin.fresh_append.mpr ⟨(Plugin.loadAll_eq_ok_iff.mp loaded).1, ih⟩

/-- A linter with layers of rules over it finds and describes what the linter does that has these
rules in a row, of several rules with one identifier the first. If the layers were loaded from
plugins one after the other, each of their rules is one more descriptor, and none has an identifier
of another one or of a rule at the base. -/
theorem layers_act_as_one_row (root : String) (rules : List Rule) (layers : List (List Rule)) :
    (∀ fs path config, ((base root rules).under layers).analyze fs path config =
      (base root (rules ++ layers.flatten)).analyze fs path config) ∧
    ((base root rules).under layers).registry =
      (base root (rules ++ layers.flatten)).registry ∧
    (∀ id, ((base root rules).under layers).registry.get? id =
      ((rules ++ layers.flatten).find? (·.id = id)).map (·.toDescriptor)) ∧
    ∀ loaded : List (List PatternRule), layers = loaded.map (·.map (·.toRule)) →
      LoadedOver (base root rules) loaded →
        ((base root rules).under layers).registry.size =
          (base root rules).registry.size + (layers.map List.length).sum ∧
        (layers.flatten.map (·.id)).Nodup ∧
        ∀ rule ∈ layers.flatten, ∀ own ∈ rules, own.id ≠ rule.id := by
  have row : ((base root rules).under layers).rules = (base root (rules ++ layers.flatten)).rules :=
    rules_under (base root rules) layers
  have below : ((base root rules).under layers).root = (base root (rules ++ layers.flatten)).root :=
    root_under (base root rules) layers
  refine ⟨?_, congrArg Registry.ofRules row, ?_, ?_⟩
  · intro fs path config
    exact analyze_congr_rules below row fs path config
  · intro id
    rw [registry, row]
    exact Registry.get?_ofRules _ id
  · rintro loaded rfl above
    have fresh := above.fresh
    refine ⟨?_, ?_, ?_⟩
    · rw [registry_under, Registry.size_plus fresh, List.length_flatten]
      simp [Function.comp_def]
    · have distinct := fresh.distinct
      rw [← List.map_flatten, List.map_map]
      exact distinct
    · intro rule member own known same
      rw [← List.map_flatten] at member
      obtain ⟨pattern, inside, rfl⟩ := List.mem_map.mp member
      exact fresh.unknown pattern inside (Registry.contains_ofRules.mpr ⟨own, known, same⟩)

/-- Two manifests with rules of different identifiers. -/
def twoManifests : FileSystem where
  kind _ := .file
  read path :=
    if path = "a.toml" then .ok (Plugin.manifestText ["x-1", "y"])
    else if path = "b.toml" then .ok (Plugin.manifestText ["z"])
    else .error .notFound
  walk _ := .error .notFound

/-- Two rules with one identifier. -/
def printTwice : List Rule :=
  [Rules.printStatement, { Rules.selectStar with id := "print-statement" }]

theorem layers_act_as_one_row_of_printTwice : ∃ first second : List PatternRule,
    first.map (·.id) = ["x-1", "y"] ∧ second.map (·.id) = ["z"] ∧
    LoadedOver (base "sql" printTwice) [first, second] ∧
    let row := (base "sql" printTwice).under [first.map (·.toRule), second.map (·.toRule)]
    row.registry.size = 4 ∧
    row.registry.get? "print-statement" = some Rules.printStatement.toDescriptor ∧
    row.analyze twoManifests "sql/q.sql" ⟨.empty, 120, [], none⟩ =
      (base "sql" (printTwice ++ [first.map (·.toRule), second.map (·.toRule)].flatten)).analyze
        twoManifests "sql/q.sql" ⟨.empty, 120, [], none⟩ := by
  have firstIds : (Plugin.loadAll twoManifests (base "sql" printTwice).registry
      [⟨"a", "a.toml"⟩]).map (·.map (·.id)) = .ok ["x-1", "y"] := by
    decide +kernel
  have allIds : (Plugin.loadAll twoManifests (base "sql" printTwice).registry
      ([⟨"a", "a.toml"⟩] ++ [⟨"b", "b.toml"⟩])).map (·.map (·.id)) = .ok ["x-1", "y", "z"] := by
    decide +kernel
  obtain ⟨both, loadedBoth, namedBoth⟩ := Except.map_eq_ok_iff.mp allIds
  rw [Plugin.loadAll_append] at loadedBoth
  obtain ⟨first, loaded, rest⟩ := Except.bind_eq_ok_iff.mp loadedBoth
  obtain ⟨second, loaded', same⟩ := Except.bind_eq_ok_iff.mp rest
  obtain rfl : first ++ second = both := Except.ok.inj same
  rw [← registry_layered] at loaded'
  rw [loaded] at firstIds
  have named : first.map (·.id) = ["x-1", "y"] := Except.ok.inj firstIds
  have named' : second.map (·.id) = ["z"] := by
    rw [List.map_append, named] at namedBoth
    simpa using namedBoth
  have above : LoadedOver (base "sql" printTwice) [first, second] :=
    .cons loaded (.cons loaded' .nil)
  obtain ⟨analyzed, _, described, sizes⟩ := layers_act_as_one_row "sql" printTwice
    [first.map (·.toRule), second.map (·.toRule)]
  obtain ⟨size, _⟩ := sizes [first, second] rfl above
  refine ⟨first, second, named, named', above, ?_, ?_, analyzed _ _ _⟩
  · have one : (base "sql" printTwice).registry.size = 1 := by decide +kernel
    have two : first.length = 2 := by simpa using congrArg List.length named
    have three : second.length = 1 := by simpa using congrArg List.length named'
    rw [size, one]
    simp [two, three]
  · rw [described]
    rfl

end Linter
end SqlLint
