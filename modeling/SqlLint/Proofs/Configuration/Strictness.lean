import SqlLint.Proofs.Configuration.Artifact
import SqlLint.Proofs.Json.Fields
import SqlLint.Proofs.Json.Spelling

/-!
# Settings files are read strictly

What a settings file says is said here of its members alone: which activations, level and plugins
they give. A text is accepted just if it is one object whose members say something, and then the
settings are what they say; so a mistake anywhere in the file leaves a run without configuration.
What members say does not depend on their order, nor on that of the entries for different rules,
nor on which name of the level they use.
-/

namespace SqlLint

open Json (Document Spells)

namespace PluginReference

/-- Whether members are, one by one, the names and paths of plugins. -/
def Lists : List (String × Document) → List PluginReference → Prop :=
  List.Forall₂ fun m p => m.1 = p.name ∧ m.2.HasText p.path

variable {seen plugins : List PluginReference} {members : List (String × Document)}
variable {raw : List (List Char × Document)}

theorem Lists.names_eq (lists : Lists members plugins) :
    members.map (·.1) = plugins.map (·.name) := by
  induction lists with
  | nil => rfl
  | cons here _ ih => rw [List.map_cons, List.map_cons, here.1, ih]

/-- Plugins are read behind others just if members list them and no name comes up twice. -/
theorem decodeMembers_eq_ok_iff (distinct : (seen.map (·.name)).Nodup) :
    decodeMembers seen raw = .ok plugins ↔ ∃ members found, Document.Keyed raw members ∧
      Lists members found ∧ plugins = seen ++ found ∧ (plugins.map (·.name)).Nodup := by
  -- The plugins seen so far grow, and no name comes up twice among them.
  induction raw generalizing seen with
  | nil =>
      constructor
      · intro read
        cases read
        exact ⟨[], [], .nil, .nil, by simp, distinct⟩
      · rintro ⟨_, _, ⟨⟩, ⟨⟩, rfl, _⟩
        simp [decodeMembers]
  | cons written rest ih =>
      obtain ⟨rawName, value⟩ := written
      have taken (name : String) : (seen.any (·.name == name) = true) ↔
          name ∈ seen.map (·.name) := by
        simp
      simp only [decodeMembers, Except.bind_eq_ok_iff, Json.Document.text_eq_ok_iff, taken]
      constructor
      · rintro ⟨name, resolves, path, has, read⟩
        split_ifs at read with new
        have distinct' : ((seen ++ [PluginReference.mk name path]).map (·.name)).Nodup :=
          nodup_names_append_singleton.mpr ⟨distinct, new⟩
        obtain ⟨members, found, keyed, lists, rfl, whole⟩ := (ih distinct').mp read
        refine ⟨(name, value) :: members, ⟨name, path⟩ :: found, .cons ⟨resolves, rfl⟩ keyed,
          .cons ⟨rfl, has⟩ lists, by simp, whole⟩
      · rintro ⟨_, _, keyed, lists, same, whole⟩
        cases keyed with
        | @cons _ member _ members here keyed =>
            cases lists with
            | @cons _ p _ found listed lists =>
                obtain ⟨name, _⟩ := member
                obtain ⟨_, path⟩ := p
                obtain ⟨resolves, rfl⟩ := here
                obtain ⟨rfl, has⟩ := listed
                rw [List.append_cons] at same
                have distinct' : ((seen ++ [PluginReference.mk name path]).map (·.name)).Nodup := by
                  rw [same, List.map_append] at whole
                  exact whole.of_append_left
                refine ⟨name, resolves, path, has, ?_⟩
                rw [if_neg (nodup_names_append_singleton.mp distinct').2]
                exact (ih distinct').mpr ⟨members, found, keyed, lists, same, whole⟩

end PluginReference

namespace SettingsFile

/-- Whether a value gives activations to rules: every entry names one, and the last entry for a rule
counts. -/
def GivesRules (d : Document) (rules : Dictionary Activation) : Prop :=
  ∃ entries, d.HasMembers entries ∧
    (∀ entry ∈ entries, ∃ a : Activation, entry.2.NamesWord a.word) ∧
    ∀ rule a, rules.get? rule = some a ↔
      ∃ value, entries.reverse.lookup rule = some value ∧ value.NamesWord a.word

/-- Whether a value gives a compatibility level: an integer of 32 bits, or `null` for none. -/
inductive GivesLevel : Document → Option UInt32 → Prop
  | null : GivesLevel .null none
  | integer {d : Document} {level : UInt32} (h : d.HasNatural level.toNat) :
    GivesLevel d (some level)

/-- Whether a value gives plugins: their names and paths in order, and no name twice. -/
def GivesPlugins (d : Document) (plugins : List PluginReference) : Prop :=
  ∃ members, d.HasMembers members ∧
    PluginReference.Lists members plugins ∧ (members.map (·.1)).Nodup

/-- The values of the members with some names. -/
def under (names : List String) (members : List (String × Document)) : List Document :=
  (members.filter fun m => names.contains m.1).map (·.2)

/-- The names of the level. -/
def levelNames : List String := ["compatibility-level", "compatibilityLevel"]

/-- Whether members say what settings are. -/
structure Says (members : List (String × Document)) (settings : SettingsFile) : Prop where
  rules : Once GivesRules (some .empty) (under ["rules"] members) settings.rules
  level : Once GivesLevel (some none) (under levelNames members) settings.level
  plugins : Once GivesPlugins (some []) (under ["plugins"] members) settings.plugins

/-- Whether a text is exactly one object, with these members. -/
def HoldsObject (text : String) (members : List (String × Document)) : Prop :=
  ∃ d, Spells text d ∧ d.HasMembers members

section Values

variable {d : Document} {a : Activation} {rules : Dictionary Activation}

theorem lookup_alternatives_iff {word : String} :
    Activation.alternatives.lookup word = some a ↔ word = a.word := by
  constructor
  · intro found
    have listed := Dictionary.mem_of_lookup found
    simp only [Activation.alternatives, List.map_cons, List.map_nil, List.mem_cons,
      Prod.mk.injEq, List.not_mem_nil, or_false] at listed
    rcases listed with ⟨rfl, rfl⟩ | ⟨rfl, rfl⟩ | ⟨rfl, rfl⟩ <;> rfl
  · rintro rfl
    exact Json.Document.choice_eq_ok_iff.mp a.choice_word

theorem activation_eq_ok_iff :
    Document.word Activation.alternatives d = .ok a ↔ d.NamesWord a.word := by
  rw [Json.Document.word_eq_ok_iff]
  simp only [lookup_alternatives_iff, exists_eq_right]

theorem exists_forall₂_iff {α β : Type} {R : α → β → Prop} {l : List α} :
    (∃ l', List.Forall₂ R l l') ↔ ∀ a ∈ l, ∃ b, R a b := by
  induction l with
  | nil => simp
  | cons a l ih =>
      rw [List.forall_mem_cons, ← ih]
      constructor
      · rintro ⟨_, each⟩
        cases each with
        | cons first rest => exact ⟨⟨_, first⟩, _, rest⟩
      · rintro ⟨⟨_, first⟩, _, rest⟩
        exact ⟨_, .cons first rest⟩

/-- Lists whose entries correspond, each to one other at most, correspond under every key. -/
theorem lookup_eq_some_iff {α β : Type} {R : α → β → Prop} (unique : Relator.RightUnique R)
    {l : List (String × α)} {l' : List (String × β)}
    (each : List.Forall₂ (fun m v => m.1 = v.1 ∧ R m.2 v.2) l l') (key : String) (b : β) :
    l'.lookup key = some b ↔ ∃ a, l.lookup key = some a ∧ R a b := by
  induction each with
  | nil => simp
  | @cons m v _ _ here _ ih =>
      obtain ⟨name, a⟩ := m
      obtain ⟨_, b'⟩ := v
      obtain ⟨same, related⟩ := here
      cases same
      rw [List.lookup_cons, List.lookup_cons]
      cases key == name with
      | false => exact ih
      | true =>
          constructor
          · rintro ⟨⟩
            exact ⟨a, rfl, related⟩
          · rintro ⟨_, ⟨⟩, related'⟩
            exact congrArg some (unique related related')

theorem rightUnique_namesWord :
    Relator.RightUnique fun (value : Document) (a : Activation) => value.NamesWord a.word := by
  intro value a a' named named'
  rw [← activation_eq_ok_iff] at named named'
  exact Except.ok.inj (named.symm.trans named')

theorem decode_rules_eq_ok_iff : rulesField.decode d = .ok rules ↔ GivesRules d rules := by
  simp only [rulesField, Activation.decodeMap, Except.map_eq_ok_iff,
    Json.Document.entries_eq_ok_iff, activation_eq_ok_iff]
  have binds {entries : List (String × Document)} {values : List (String × Activation)}
      (each : List.Forall₂ (fun m v => m.1 = v.1 ∧ m.2.NamesWord v.2.word) entries values)
      (rule : String) (a : Activation) : (Dictionary.ofList values).get? rule = some a ↔
        ∃ value, entries.reverse.lookup rule = some value ∧ value.NamesWord a.word := by
    rw [Dictionary.get?_ofList]
    exact lookup_eq_some_iff rightUnique_namesWord (List.forall₂_reverse_iff.mpr each) rule a
  constructor
  · rintro ⟨values, ⟨entries, has, each⟩, rfl⟩
    refine ⟨entries, has, fun entry member => ?_, binds each⟩
    obtain ⟨v, -, named⟩ := exists_forall₂_iff.mp ⟨_, each⟩ entry member
    exact ⟨v.2, named⟩
  · rintro ⟨entries, has, named, binds'⟩
    obtain ⟨values, each⟩ : ∃ values : List (String × Activation),
        List.Forall₂ (fun m v => m.1 = v.1 ∧ m.2.NamesWord v.2.word) entries values := by
      refine exists_forall₂_iff.mpr fun entry member => ?_
      obtain ⟨a, named⟩ := named entry member
      exact ⟨(entry.1, a), rfl, named⟩
    refine ⟨values, ⟨entries, has, each⟩, Dictionary.ext_get? fun rule => Option.ext fun a => ?_⟩
    exact (binds each rule a).trans (binds' rule a).symm

theorem decode_level_eq_ok_iff {level : Option UInt32} :
    (∃ value, levelField.decode d = .ok value ∧ value.map Nat.toUInt32 = level) ↔
      GivesLevel d level := by
  have small : levelLimit < 0x10000000000000000 := by decide
  simp only [levelField, Json.Document.optional_eq_ok_iff, Json.Document.natural_eq_ok_iff small]
  constructor
  · rintro ⟨_, ⟨rfl, rfl⟩ | ⟨-, n, ⟨has, bounded⟩, rfl⟩, rfl⟩
    · exact .null
    · have within : n < 2 ^ 32 := Nat.lt_succ_of_le bounded
      refine .integer ?_
      rwa [Nat.toUInt32_eq, UInt32.toNat_ofNat_of_lt' within]
  · intro gives
    cases gives with
    | null => exact ⟨none, .inl ⟨rfl, rfl⟩, rfl⟩
    | @integer d level has =>
        have bounded : level.toNat ≤ levelLimit := Nat.le_of_lt_succ level.toNat_lt
        refine ⟨some level.toNat, .inr ⟨?_, level.toNat, ⟨has, bounded⟩, rfl⟩, ?_⟩
        · rintro rfl
          obtain ⟨_, other, _⟩ := has
          cases other
        · simp

theorem decode_plugins_eq_ok_iff {plugins : List PluginReference} :
    pluginsField.decode d = .ok plugins ↔ GivesPlugins d plugins := by
  have none : (([] : List PluginReference).map (·.name)).Nodup := List.nodup_nil
  change PluginReference.decodeMap d = .ok plugins ↔ _
  cases d with
  | object raw ending =>
      simp only [PluginReference.decodeMap, Except.bind_eq_ok_iff]
      constructor
      · rintro ⟨_, read, _, ended, ⟨⟩⟩
        obtain ⟨members, found, keyed, lists, same, distinct⟩ :=
          (PluginReference.decodeMembers_eq_ok_iff none).mp read
        rw [List.nil_append] at same
        subst same
        rw [← lists.names_eq] at distinct
        exact ⟨members, ⟨raw, by rw [Json.Document.atEnd_eq_ok_iff.mp ended], keyed⟩, lists,
          distinct⟩
      · rintro ⟨members, ⟨_, ⟨⟩, keyed⟩, lists, distinct⟩
        rw [lists.names_eq] at distinct
        have read := (PluginReference.decodeMembers_eq_ok_iff none).mpr
          ⟨members, plugins, keyed, lists, rfl, distinct⟩
        exact ⟨_, read, _, rfl, rfl⟩
  | _ =>
      constructor
      · intro read
        exact absurd read (Json.mismatch_ne_ok _ _ _)
      · rintro ⟨_, ⟨_, other, _⟩, _⟩
        cases other

end Values

section Members

variable {members : List (String × Document)} {settings : SettingsFile}
variable {raw : List (List Char × Document)}

theorem separates_layout : layout.Separates := by
  rw [Json.Layout.Separates]
  decide

theorem given_eq_under (f : FieldSpec Document) : f.given members = under f.names members := by
  rw [FieldSpec.given, under]
  refine congrArg _ (List.filter_congr fun m _ => ?_)
  rw [Bool.eq_iff_iff, FieldSpec.answersTo_iff, List.contains_iff_mem]

/-- What a level field says, in terms of its values as they are written. -/
theorem once_level_iff {given : List Document} {level : Option UInt32} :
    (∃ value, Once (levelField.decode · = .ok ·) levelField.default given value ∧
      value.map Nat.toUInt32 = level) ↔ Once GivesLevel (some none) given level := by
  constructor
  · rintro ⟨value, once, rfl⟩
    cases once with
    | absent same =>
        cases same
        exact .absent rfl
    | given decoded => exact .given (decode_level_eq_ok_iff.mp ⟨value, decoded, rfl⟩)
  · intro once
    cases once with
    | absent same =>
        cases same
        exact ⟨none, .absent rfl, rfl⟩
    | given gives =>
        obtain ⟨value, decoded, same⟩ := decode_level_eq_ok_iff.mpr gives
        exact ⟨value, .given decoded, same⟩

theorem says_iff : Says members settings ↔
    Once (rulesField.decode · = .ok ·) rulesField.default (rulesField.spec.given members)
      settings.rules ∧
    (∃ value, Once (levelField.decode · = .ok ·) levelField.default (levelField.spec.given members)
      value ∧ value.map Nat.toUInt32 = settings.level) ∧
    Once (pluginsField.decode · = .ok ·) pluginsField.default (pluginsField.spec.given members)
      settings.plugins := by
  simp only [decode_rules_eq_ok_iff, once_level_iff, decode_plugins_eq_ok_iff, given_eq_under]
  exact ⟨fun says' => ⟨says'.rules, says'.level, says'.plugins⟩,
    fun ⟨rules, level, plugins⟩ => ⟨rules, level, plugins⟩⟩

/-- Settings are decoded from an object just if its members say them. -/
theorem decode_object_eq_ok_iff (complete : Document.haveCompleteValues raw) :
    decode (.object raw .closed) = .ok settings ↔
      ∃ members, Document.Keyed raw members ∧ Says members settings := by
  have rulesKnown : rulesField.spec ∈ layout.fields := by simp [layout]
  have levelKnown : levelField.spec ∈ layout.fields := by simp [layout]
  have pluginsKnown : pluginsField.spec ∈ layout.fields := by simp [layout]
  simp only [decode, Except.bind_eq_ok_iff,
    Json.Layout.values_object_eq_ok_iff separates_layout complete]
  constructor
  · rintro ⟨_, ⟨members, keyed, rfl, admits⟩, rules, gotRules, level, gotLevel, plugins, gotPlugins,
      same⟩
    cases same
    rw [Field.get_named_eq_ok_iff separates_layout rulesKnown (admits _ rulesKnown)] at gotRules
    rw [Field.get_named_eq_ok_iff separates_layout levelKnown (admits _ levelKnown)] at gotLevel
    rw [Field.get_named_eq_ok_iff separates_layout pluginsKnown (admits _ pluginsKnown)]
      at gotPlugins
    exact ⟨members, keyed, says_iff.mpr ⟨gotRules, ⟨level, gotLevel, rfl⟩, gotPlugins⟩⟩
  · rintro ⟨members, keyed, saying⟩
    obtain ⟨rules, ⟨level, given, same⟩, plugins⟩ := says_iff.mp saying
    have admits : ∀ f ∈ layout.fields, f.Admits (f.given members) := by
      simp only [layout, List.forall_mem_cons, List.not_mem_nil, false_implies, implies_true,
        and_true]
      exact ⟨Field.admits_spec_iff.mpr ⟨_, rules⟩, Field.admits_spec_iff.mpr ⟨_, given⟩,
        Field.admits_spec_iff.mpr ⟨_, plugins⟩⟩
    rw [← Field.get_named_eq_ok_iff separates_layout rulesKnown (admits _ rulesKnown)] at rules
    rw [← Field.get_named_eq_ok_iff separates_layout levelKnown (admits _ levelKnown)] at given
    rw [← Field.get_named_eq_ok_iff separates_layout pluginsKnown (admits _ pluginsKnown)]
      at plugins
    refine ⟨_, ⟨members, keyed, rfl, admits⟩, _, rules, _, given, _, plugins, ?_⟩
    rw [same]
    rfl

end Members

section Texts

variable {text : String} {d : Document} {settings : SettingsFile}

theorem looksLikeObject_iff (spelled : Spells text d) :
    looksLikeObject text ↔ ∃ raw, d = .object raw .closed := by
  rw [looksLikeObject, beq_iff_eq, spelled.head?_trimStart_iff]

/-- A text is accepted just if it is one object whose members say settings. -/
theorem ofText_eq_ok_iff : ofText text = .ok settings ↔
    ∃ members, HoldsObject text members ∧ Says members settings := by
  rw [ofText]
  constructor
  · intro accepted
    split_ifs at accepted with looks
    obtain ⟨d, spelled, decoded⟩ := Json.read_eq_ok_iff.mp accepted
    obtain ⟨raw, rfl⟩ := (looksLikeObject_iff spelled).mp looks
    obtain ⟨members, keyed, saying⟩ := (decode_object_eq_ok_iff spelled.complete).mp decoded
    exact ⟨members, ⟨_, spelled, raw, rfl, keyed⟩, saying⟩
  · rintro ⟨members, ⟨_, spelled, raw, rfl, keyed⟩, saying⟩
    rw [if_pos ((looksLikeObject_iff spelled).mpr ⟨raw, rfl⟩), Json.read_eq_ok_iff]
    exact ⟨_, spelled, (decode_object_eq_ok_iff spelled.complete).mpr ⟨members, keyed, saying⟩⟩

theorem HoldsObject.unique {members members' : List (String × Document)}
    (holds : HoldsObject text members) (holds' : HoldsObject text members') :
    members = members' := by
  obtain ⟨d, spelled, has⟩ := holds
  obtain ⟨d', spelled', has'⟩ := holds'
  rw [spelled.unique spelled'] at has
  exact has.unique has'

end Texts

/-- Settings files that differ only in what does not matter: the order of their members, the order
of the entries for different rules, and the name of the level. -/
inductive Rearranged : List (String × Document) → List (String × Document) → Prop
  | members {members members' : List (String × Document)} (h : members.Perm members') :
    Rearranged members members'
  | entries {before after : List (String × Document)} {d d' : Document}
    {entries entries' : List (String × Document)} (has : d.HasMembers entries)
    (has' : d'.HasMembers entries')
    (kept : ∀ rule, entries.filter (·.1 == rule) = entries'.filter (·.1 == rule)) :
    Rearranged (before ++ ("rules", d) :: after) (before ++ ("rules", d') :: after)
  | level {before after : List (String × Document)} {d : Document} :
    Rearranged (before ++ ("compatibility-level", d) :: after)
      (before ++ ("compatibilityLevel", d) :: after)

section Rearranged

variable {members members' before after entries entries' : List (String × Document)}
variable {names : List String} {key : String} {d d' : Document} {settings : SettingsFile}

theorem under_named (named : key ∈ names) : under names (before ++ (key, d) :: after) =
    under names before ++ d :: under names after := by
  have kept : names.contains (key, d).1 := List.contains_iff_mem.mpr named
  simp only [under, List.filter_append, List.filter_cons, kept, if_true, List.map_append,
    List.map_cons]

theorem under_unnamed (unnamed : key ∉ names) :
    under names (before ++ (key, d) :: after) = under names before ++ under names after := by
  have passed : ¬ names.contains (key, d).1 := fun named => unnamed (List.contains_iff_mem.mp named)
  simp only [under, List.filter_append, List.filter_cons, if_neg passed, List.map_append]

theorem GivesRules.of_kept {rules : Dictionary Activation} (has : d.HasMembers entries)
    (has' : d'.HasMembers entries')
    (kept : ∀ rule, entries.filter (·.1 == rule) = entries'.filter (·.1 == rule))
    (gives : GivesRules d rules) : GivesRules d' rules := by
  obtain ⟨_, has₁, named, binds⟩ := gives
  obtain rfl := has.unique has₁
  refine ⟨entries', has', fun entry member => ?_, fun rule a => ?_⟩
  · have within : entry ∈ entries'.filter (·.1 == entry.1) :=
      List.mem_filter.mpr ⟨member, beq_self_eq_true _⟩
    rw [← kept] at within
    exact named entry (List.mem_filter.mp within).1
  · have last : entries.reverse.lookup rule = entries'.reverse.lookup rule := by
      rw [Json.Layout.lookup_eq_head?_filter, Json.Layout.lookup_eq_head?_filter,
        List.filter_reverse, List.filter_reverse, kept]
    rw [binds, last]

theorem once_perm {α : Type} {Denotes : Document → α → Prop} {default : Option α}
    {given given' : List Document} {a : α} (same : given.Perm given')
    (once : Once Denotes default given a) : Once Denotes default given' a := by
  cases once with
  | absent h =>
      rw [List.nil_perm.mp same]
      exact .absent h
  | @given d _ h =>
      obtain rfl : [d] = given' := List.singleton_perm.mp same
      exact .given h

theorem once_replace {α : Type} {Denotes : Document → α → Prop} {default : Option α}
    {first last : List Document} {a : α} (replaces : Denotes d a → Denotes d' a)
    (once : Once Denotes default (first ++ d :: last) a) :
    Once Denotes default (first ++ d' :: last) a := by
  generalize whole : first ++ d :: last = given at once
  cases once with
  | absent => simp at whole
  | given h =>
      obtain ⟨rfl, rfl, rfl⟩ : first = [] ∧ d = _ ∧ last = [] := by
        simpa [List.append_eq_singleton_iff] using whole
      exact .given (replaces h)

theorem says_def : Says members settings ↔
    Once GivesRules (some .empty) (under ["rules"] members) settings.rules ∧
    Once GivesLevel (some none) (under levelNames members) settings.level ∧
    Once GivesPlugins (some []) (under ["plugins"] members) settings.plugins :=
  ⟨fun saying => ⟨saying.rules, saying.level, saying.plugins⟩,
    fun ⟨rules, level, plugins⟩ => ⟨rules, level, plugins⟩⟩

theorem says_congr_of_rearranged (rearranged : Rearranged members members') :
    Says members settings ↔ Says members' settings := by
  rw [says_def, says_def]
  cases rearranged with
  | members same =>
      have under_perm (names : List String) : (under names members).Perm (under names members') :=
        (same.filter _).map _
      have once_iff {α : Type} {Denotes : Document → α → Prop} {default : Option α} {a : α}
          (names : List String) : Once Denotes default (under names members) a ↔
            Once Denotes default (under names members') a :=
        ⟨once_perm (under_perm names), once_perm (under_perm names).symm⟩
      exact and_congr (once_iff _) (and_congr (once_iff _) (once_iff _))
  | entries has has' kept =>
      have kept' := fun rule => (kept rule).symm
      rw [under_named (List.mem_singleton_self _), under_named (List.mem_singleton_self _)]
      simp only [under_unnamed (show "rules" ∉ levelNames by decide),
        under_unnamed (show "rules" ∉ ["plugins"] by decide)]
      refine and_congr_left fun _ => ⟨?_, ?_⟩
      · exact once_replace (.of_kept has has' kept)
      · exact once_replace (.of_kept has' has kept')
  | level =>
      simp only [under_named (show "compatibility-level" ∈ levelNames by decide),
        under_named (show "compatibilityLevel" ∈ levelNames by decide),
        under_unnamed (show "compatibility-level" ∉ ["rules"] by decide),
        under_unnamed (show "compatibilityLevel" ∉ ["rules"] by decide),
        under_unnamed (show "compatibility-level" ∉ ["plugins"] by decide),
        under_unnamed (show "compatibilityLevel" ∉ ["plugins"] by decide)]

theorem says_congr (rearranged : Relation.EqvGen Rearranged members members') :
    Says members settings ↔ Says members' settings := by
  induction rearranged with
  | rel _ _ step => exact says_congr_of_rearranged step
  | refl => exact .rfl
  | symm _ _ _ ih => exact ih.symm
  | trans _ _ _ _ _ ih ih' => exact ih.trans ih'

end Rearranged

/-- A flaw that a settings file is refused for, wherever it stands. -/
inductive Defective (text : String) : Prop
  | noObject (h : ∀ members, ¬ HoldsObject text members)
  | rules {members : List (String × Document)} (holds : HoldsObject text members) {d : Document}
    (given : ("rules", d) ∈ members) (h : ∀ entries, ¬ d.HasMembers entries)
  | activation {members : List (String × Document)} (holds : HoldsObject text members)
    {d : Document} (given : ("rules", d) ∈ members) {entries : List (String × Document)}
    (has : d.HasMembers entries) {entry : String × Document} (within : entry ∈ entries)
    (h : ∀ a : Activation, ¬ entry.2.NamesWord a.word)
  | level {members : List (String × Document)} (holds : HoldsObject text members) {name : String}
    (named : name ∈ levelNames) {d : Document} (given : (name, d) ∈ members)
    (h : d ≠ .null ∧ ∀ n < 2 ^ 32, ¬ d.HasNatural n)
  | levels {members : List (String × Document)} (holds : HoldsObject text members)
    (h : 1 < (under levelNames members).length)
  | plugins {members : List (String × Document)} (holds : HoldsObject text members) {d : Document}
    (given : ("plugins", d) ∈ members) (h : ∀ entries, ¬ d.HasMembers entries)
  | plugin {members : List (String × Document)} (holds : HoldsObject text members) {d : Document}
    (given : ("plugins", d) ∈ members) {entries : List (String × Document)}
    (has : d.HasMembers entries) {entry : String × Document} (within : entry ∈ entries)
    (h : ∀ path, ¬ entry.2.HasText path)
  | pluginNames {members : List (String × Document)} (holds : HoldsObject text members)
    {d : Document} (given : ("plugins", d) ∈ members) {entries : List (String × Document)}
    (has : d.HasMembers entries) (h : ¬ (entries.map (·.1)).Nodup)

section Defective

variable {text : String} {members : List (String × Document)} {settings : SettingsFile}

theorem denotes_of_once {α : Type} {Denotes : Document → α → Prop} {default : Option α}
    {names : List String} {name : String} {d : Document} {a : α} (named : name ∈ names)
    (given : (name, d) ∈ members) (once : Once Denotes default (under names members) a) :
    Denotes d a := by
  have within : d ∈ under names members :=
    List.mem_map.mpr ⟨_, List.mem_filter.mpr ⟨given, List.contains_iff_mem.mpr named⟩, rfl⟩
  generalize under names members = values at once within
  cases once with
  | absent => cases within
  | given h => rwa [List.mem_singleton.mp within]

theorem not_says_of_defective (defective : Defective text) (holds : HoldsObject text members) :
    ¬ Says members settings := by
  intro saying
  cases defective with
  | noObject h => exact h members holds
  | rules holds' given h =>
      obtain rfl := holds.unique holds'
      obtain ⟨entries, has, _⟩ := denotes_of_once (by decide) given saying.rules
      exact h entries has
  | activation holds' given has within h =>
      obtain rfl := holds.unique holds'
      obtain ⟨entries, has', named, _⟩ := denotes_of_once (by decide) given saying.rules
      obtain rfl := has.unique has'
      obtain ⟨a, named⟩ := named _ within
      exact h a named
  | level holds' named given h =>
      obtain rfl := holds.unique holds'
      have gives := denotes_of_once named given saying.level
      generalize settings.level = level at gives
      cases gives with
      | null => exact h.1 rfl
      | integer has => exact h.2 _ (UInt32.toNat_lt _) has
  | levels holds' h =>
      obtain rfl := holds.unique holds'
      have once := saying.level
      generalize under levelNames members = values at once h
      cases once <;> simp at h
  | plugins holds' given h =>
      obtain rfl := holds.unique holds'
      obtain ⟨entries, has, _⟩ := denotes_of_once (by decide) given saying.plugins
      exact h entries has
  | plugin holds' given has within h =>
      obtain rfl := holds.unique holds'
      obtain ⟨entries, has', lists, _⟩ := denotes_of_once (by decide) given saying.plugins
      obtain rfl := has.unique has'
      obtain ⟨p, -, path⟩ := exists_forall₂_iff.mp ⟨_, lists⟩ _ within
      exact h p.path path
  | pluginNames holds' given has h =>
      obtain rfl := holds.unique holds'
      obtain ⟨entries, has', _, distinct⟩ := denotes_of_once (by decide) given saying.plugins
      obtain rfl := has.unique has'
      exact h distinct

end Defective

section Strict

variable {path text : String} {settings : SettingsFile}

theorem parse_eq_ok_iff : parse path text = .ok settings ↔
    ∃ members, HoldsObject text members ∧ Says members settings := by
  rw [parse, Except.mapError_eq_ok_iff, ofText_eq_ok_iff]

theorem exists_problem_of_defective (defective : Defective text) (path : String) :
    ∃ problem, parse path text = .error (.malformed path problem) := by
  cases parsed : ofText text with
  | error problem => exact ⟨problem, by rw [parse, parsed]; rfl⟩
  | ok settings =>
      obtain ⟨members, holds, saying⟩ := ofText_eq_ok_iff.mp parsed
      exact absurd saying (not_says_of_defective defective holds)

theorem resolve_of_parse_error {fs : FileSystem} {e : ConfigError} (file : fs.isFile path)
    (contents : fs.read path = .ok text) (refused : parse path text = .error e)
    (known : List String) : Configuration.resolve fs [] (some path) known = .error e := by
  rw [Configuration.resolve_of_file rfl rfl file, load, contents]
  simp only [refused]
  rfl

/-- Settings are read strictly. A text is accepted just if it is one object, each of its members for
settings is given once and gives what it has to, and then the settings are what the members say:
the last activation for each rule, the level under either of its names, and the plugins in order.
A text with any flaw, wherever it stands, is refused, and a run with that file and without a
selection gets no configuration. What is accepted does not depend on the order of the members, that
of the entries for different rules, or the name used for the level. -/
theorem settings_are_read_strictly (path text : String) :
    (∀ settings, parse path text = .ok settings ↔
      ∃ members, HoldsObject text members ∧ Says members settings) ∧
    (Defective text → ∃ problem, parse path text = .error (.malformed path problem) ∧
      ∀ fs known, fs.isFile path → fs.read path = .ok text →
        Configuration.resolve fs [] (some path) known = .error (.malformed path problem)) ∧
    ∀ text' members members', HoldsObject text members → HoldsObject text' members' →
      Relation.EqvGen Rearranged members members' →
        ∀ settings, parse path text = .ok settings ↔ parse path text' = .ok settings := by
  refine ⟨fun settings => parse_eq_ok_iff, ?_, ?_⟩
  · intro defective
    obtain ⟨problem, refused⟩ := exists_problem_of_defective defective path
    exact ⟨problem, refused, fun fs known file contents =>
      resolve_of_parse_error file contents refused known⟩
  · intro text' members members' holds holds' rearranged settings
    have said {text : String} {members : List (String × Document)}
        (holds : HoldsObject text members) :
        parse path text = .ok settings ↔ Says members settings := by
      rw [parse_eq_ok_iff]
      constructor
      · rintro ⟨_, again, saying⟩
        rwa [holds.unique again]
      · exact fun saying => ⟨members, holds, saying⟩
    rw [said holds, said holds', says_congr rearranged]

end Strict

/-- Activations in which a rule comes up twice, and words are spelled in unusual ways. -/
def sampleRules : Document :=
  .object [("x".toList, .string "off".toList),
    ("y".toList, .object [("error".toList, .null)] .closed),
    ("x".toList, .string "\\u0077arning".toList)] .closed

/-- The same with the entries for the two rules in another order. -/
def sampleRulesRearranged : Document :=
  .object [("y".toList, .object [("error".toList, .null)] .closed),
    ("x".toList, .string "off".toList), ("x".toList, .string "\\u0077arning".toList)] .closed

/-- Plugins in an order that is not that of their names. -/
def samplePlugins : Document :=
  .object [("z".toList, .string "z.toml".toList), ("a".toList, .string "/a.toml".toList)] .closed

def sampleLevel : Document := .number ⟨false, ['1', '3', '0'], [], none⟩

/-- The members of a settings file. -/
def sample : List (String × Document) :=
  [("compatibilityLevel", sampleLevel), ("rules", sampleRules), ("plugins", samplePlugins)]

/-- What they say. -/
def sampleSettings : SettingsFile where
  rules := .ofList [("x", .warning), ("y", .error)]
  level := some 130
  plugins := [⟨"z", "z.toml"⟩, ⟨"a", "/a.toml"⟩]

/-- The members as they are written in a text. -/
def written (members : List (String × Document)) : List (List Char × Document) :=
  members.map fun m => (m.1.toList, m.2)

theorem holdsObject_of_read {text : String} {members : List (String × Document)}
    (read : Json.Reading.ofText text = .complete (.object (written members) .closed))
    (plain : ∀ m ∈ members, Json.resolved m.1.toList = .ok m.1) : HoldsObject text members := by
  refine ⟨_, Json.ofText_eq_complete_iff.mp read, _, rfl, ?_⟩
  rw [written, Document.Keyed, List.forall₂_map_left_iff, List.forall₂_same]
  exact fun m member => ⟨plain m member, rfl⟩

/-- A file system with one file. -/
def onlyFile (path text : String) : FileSystem where
  kind p := if p = path then .file else .absent
  read p := if p = path then .ok text else .error .notFound
  walk _ := .error .notFound

theorem says_sample : Says sample sampleSettings where
  rules := .given (decode_rules_eq_ok_iff.mp (by cbv))
  level := .given (.integer ⟨_, rfl, by decide⟩)
  plugins := .given (decode_plugins_eq_ok_iff.mp (by cbv))

/-- The members of `sample` in another order, those of its rules too, and the level by its other
name. -/
def sampleRearranged : List (String × Document) :=
  [("rules", sampleRulesRearranged), ("plugins", samplePlugins),
    ("compatibility-level", sampleLevel)]

theorem rearranged_sample : Relation.EqvGen Rearranged sample sampleRearranged := by
  have keyed {raw : List (List Char × Document)} {rules : List (String × Document)}
      (same : raw.map (fun m => (Json.resolved m.1, m.2)) = rules.map fun m => (.ok m.1, m.2)) :
      Document.Keyed raw rules := by
    rw [← List.forall₂_eq_eq_eq, List.forall₂_map_left_iff, List.forall₂_map_right_iff] at same
    exact same.imp fun _ _ here => Prod.mk.inj here
  have has : sampleRules.HasMembers [("x", .string "off".toList),
      ("y", .object [("error".toList, .null)] .closed), ("x", .string "\\u0077arning".toList)] :=
    ⟨_, rfl, keyed (by cbv)⟩
  have has' : sampleRulesRearranged.HasMembers [("y", .object [("error".toList, .null)] .closed),
      ("x", .string "off".toList), ("x", .string "\\u0077arning".toList)] :=
    ⟨_, rfl, keyed (by cbv)⟩
  have kept (rule : String) : List.filter (·.1 == rule) [("x", Document.string "off".toList),
      ("y", .object [("error".toList, .null)] .closed), ("x", .string "\\u0077arning".toList)] =
      List.filter (·.1 == rule) [("y", Document.object [("error".toList, .null)] .closed),
        ("x", .string "off".toList), ("x", .string "\\u0077arning".toList)] := by
    by_cases x : rule = "x"
    · subst x
      rfl
    · have other : ("x" == rule) = false := by simpa using Ne.symm x
      simp [List.filter_cons, other]
  have respelled : Relation.EqvGen Rearranged sample
      [("compatibility-level", sampleLevel), ("rules", sampleRules), ("plugins", samplePlugins)] :=
    .symm _ _ (.rel _ _ (@Rearranged.level [] _ _))
  have swapped : Rearranged
      [("compatibility-level", sampleLevel), ("rules", sampleRules), ("plugins", samplePlugins)]
      ([("compatibility-level", sampleLevel)] ++
        [("rules", sampleRulesRearranged), ("plugins", samplePlugins)]) :=
    @Rearranged.entries [_] _ _ _ _ _ has has' kept
  exact respelled.trans _ _ _ (.trans _ _ _ (.rel _ _ swapped)
    (.rel _ _ (.members List.perm_append_comm)))

def sampleText : String :=
  "\x7b\"compatibilityLevel\":130,\"rules\":\x7b\"x\":\"off\",\"y\":\x7b\"error\":null\x7d,"
    ++ "\"x\":\"\\u0077arning\"\x7d,\"plugins\":\x7b\"z\":\"z.toml\",\"a\":\"/a.toml\"\x7d\x7d"

def sampleRearrangedText : String :=
  " \x7b\"rules\":\x7b\"y\":\x7b\"error\":null\x7d,\"x\":\"off\",\"x\":\"\\u0077arning\"\x7d,"
    ++ "\"plugins\":\x7b\"z\":\"z.toml\",\"a\":\"/a.toml\"\x7d,\"compatibility-level\": 130\x7d\n"

/-- Settings with a level that is one too large, behind rules that are as they have to be. -/
def flawed : List (String × Document) :=
  [("rules", sampleRules),
    ("compatibility-level", .number ⟨false, "4294967296".toList, [], none⟩)]

def flawedText : String :=
  "\x7b\"rules\":\x7b\"x\":\"off\",\"y\":\x7b\"error\":null\x7d,\"x\":\"\\u0077arning\"\x7d,"
    ++ "\"compatibility-level\":4294967296\x7d"

theorem settings_are_read_strictly_of_sample :
    parse "lint" sampleText = .ok sampleSettings ∧
    parse "lint" sampleRearrangedText = .ok sampleSettings ∧
    ∃ problem, Configuration.resolve (onlyFile "lint" flawedText) [] (some "lint") ["x"] =
      .error (.malformed "lint" problem) := by
  obtain ⟨accepts, -, rearranges⟩ := settings_are_read_strictly "lint" sampleText
  obtain ⟨-, refuses, -⟩ := settings_are_read_strictly "lint" flawedText
  have holds : HoldsObject sampleText sample := holdsObject_of_read (by cbv) (by decide)
  have holds' : HoldsObject sampleRearrangedText sampleRearranged :=
    holdsObject_of_read (by cbv) (by decide)
  have holdsFlawed : HoldsObject flawedText flawed := holdsObject_of_read (by cbv) (by decide)
  have accepted := (accepts _).mpr ⟨sample, holds, says_sample⟩
  have large : ∀ n < 2 ^ 32, ¬ Document.HasNatural
      (.number ⟨false, "4294967296".toList, [], none⟩) n := by
    rintro n below ⟨digits, same, rfl⟩
    cases same
    exact absurd below (by decide)
  refine ⟨accepted, ?_, ?_⟩
  · exact (rearranges _ _ _ holds holds' rearranged_sample _).mp accepted
  · obtain ⟨problem, -, refused⟩ := refuses (.level holdsFlawed (List.mem_cons_self)
      (List.mem_cons_of_mem _ List.mem_cons_self) ⟨by simp, large⟩)
    exact ⟨problem, refused _ _ rfl rfl⟩

end SettingsFile

end SqlLint
