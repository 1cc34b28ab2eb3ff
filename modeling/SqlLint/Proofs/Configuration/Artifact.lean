import SqlLint.Proofs.Configuration.Resolution
import SqlLint.Proofs.Json.Record
import SqlLint.Proofs.Outcome
import SqlLint.Run

/-!
# Written configurations read back

A configuration is written down for the analysis to read it. The text determines the configuration,
and reading it gives the configuration back, unless two plugins have one name: a name that comes up
again is refused. Settings files are read with the same check, so a configuration that is resolved
never has such a name, and the analysis works with the configuration that was resolved.
-/

namespace SqlLint

theorem Activation.choice_word (a : Activation) :
    Json.Document.choice Activation.alternatives a.word = .ok a := by
  cases a <;> rfl

namespace PluginReference

/-- The members of an object that names plugins. -/
def members (plugins : List PluginReference) : List (String × Json) :=
  plugins.map fun p => (p.name, .string p.path)

variable {seen before after plugins : List PluginReference} {p : PluginReference}

theorem members_injective : Function.Injective members := by
  refine List.map_injective_iff.mpr ?_
  rintro ⟨name, path⟩ ⟨name', path'⟩ same
  simpa using same

theorem nodup_names_append_singleton : ((seen ++ [p]).map (·.name)).Nodup ↔
    (seen.map (·.name)).Nodup ∧ p.name ∉ seen.map (·.name) := by
  rw [List.map_append, List.map_singleton, ← List.concat_eq_append, List.nodup_concat, and_comm]

theorem decodeMembers_cons (rest : List (List Char × Json.Document)) :
    decodeMembers seen ((Json.escape p.name.toList, (Json.string p.path).document) :: rest) =
      if p.name ∈ seen.map (·.name) then .error (.duplicatePlugin p.name)
      else decodeMembers (seen ++ [p]) rest := by
  have taken : (seen.any (·.name == p.name) = true) ↔ p.name ∈ seen.map (·.name) := by
    simp
  simp only [decodeMembers, Json.resolved_escape, Json.text_document, bind, Except.bind, taken]

theorem decodeMembers_members_append (rest : List (List Char × Json.Document))
    (distinct : ((seen ++ plugins).map (·.name)).Nodup) :
    decodeMembers seen (Json.memberDocuments (members plugins) ++ rest) =
      decodeMembers (seen ++ plugins) rest := by
  induction plugins generalizing seen with
  | nil => simp [members, Json.memberDocuments]
  | cons p plugins ih =>
      have new : p.name ∉ seen.map (·.name) := by
        intro taken
        rw [List.map_append, List.nodup_append] at distinct
        exact distinct.2.2 _ taken _ (by simp) rfl
      rw [members, List.map_cons, Json.memberDocuments, List.cons_append, decodeMembers_cons,
        if_neg new]
      have here := @ih (seen ++ [p]) (by simpa using distinct)
      rw [List.append_assoc, List.singleton_append] at here
      exact here

theorem decodeMap_members (distinct : (plugins.map (·.name)).Nodup) :
    decodeMap (Json.object (members plugins)).document = .ok plugins := by
  have all : decodeMembers [] (Json.memberDocuments (members plugins) ++ []) = _ :=
    decodeMembers_members_append [] distinct
  rw [List.append_nil] at all
  simp only [Json.document, decodeMap, all]
  rfl

/-- A name that comes up again is found out. -/
theorem decodeMap_members_error (distinct : (before.map (·.name)).Nodup)
    (taken : p.name ∈ before.map (·.name)) :
    decodeMap (Json.object (members (before ++ p :: after))).document =
      .error (.duplicatePlugin p.name) := by
  have scanned : decodeMembers [] (Json.memberDocuments (members before) ++ _) = _ :=
    decodeMembers_members_append (Json.memberDocuments (members (p :: after))) distinct
  rw [← Json.memberDocuments_append, List.nil_append] at scanned
  have whole : members (before ++ p :: after) = members before ++ members (p :: after) :=
    List.map_append
  simp only [Json.document, decodeMap, whole, scanned]
  rw [members, List.map_cons, Json.memberDocuments, decodeMembers_cons, if_pos taken]
  rfl

/-- Where a name comes up for the first time again. -/
theorem exists_first_repeat (repeated : ¬ (plugins.map (·.name)).Nodup) :
    ∃ before p after, plugins = before ++ p :: after ∧ (before.map (·.name)).Nodup ∧
      p.name ∈ before.map (·.name) := by
  induction plugins using List.reverseRecOn with
  | nil => exact absurd List.nodup_nil repeated
  | append_singleton before p ih =>
      by_cases distinct : (before.map (·.name)).Nodup
      · refine ⟨before, p, [], rfl, distinct, ?_⟩
        by_contra new
        exact repeated (nodup_names_append_singleton.mpr ⟨distinct, new⟩)
      · obtain ⟨first, q, after, rfl, distinct, taken⟩ := ih distinct
        exact ⟨first, q, after ++ [p], by simp, distinct, taken⟩

/-- Plugins that are read have names of their own. -/
theorem nodup_of_decodeMembers {members : List (List Char × Json.Document)}
    (distinct : (seen.map (·.name)).Nodup) (decoded : decodeMembers seen members = .ok plugins) :
    (plugins.map (·.name)).Nodup := by
  induction members generalizing seen with
  | nil =>
      cases decoded
      exact distinct
  | cons member rest ih =>
      obtain ⟨rawName, value⟩ := member
      obtain ⟨name, _, decoded⟩ := Except.bind_eq_ok_iff.mp decoded
      obtain ⟨path, _, decoded⟩ := Except.bind_eq_ok_iff.mp decoded
      split at decoded
      · cases decoded
      · next new =>
          refine ih (nodup_names_append_singleton.mpr ⟨distinct, ?_⟩) decoded
          simpa using new

theorem nodup_of_decodeMap {d : Json.Document} (decoded : decodeMap d = .ok plugins) :
    (plugins.map (·.name)).Nodup := by
  cases d with
  | object members ending =>
      obtain ⟨found, read, decoded⟩ := Except.bind_eq_ok_iff.mp decoded
      obtain ⟨_, _, same⟩ := Except.bind_eq_ok_iff.mp decoded
      cases same
      have none : (([] : List PluginReference).map (·.name)).Nodup := List.nodup_nil
      exact nodup_of_decodeMembers none read
  | _ =>
      obtain ⟨_, _, mismatched⟩ := Except.bind_eq_ok_iff.mp decoded
      cases mismatched

end PluginReference

namespace Configuration

variable (c : Configuration)

def rulesJson : Json := .object (c.rules.entries.map fun (rule, a) => (rule, .string a.word))

def firstMembers : List (String × Json) :=
  [(rulesField.name, c.rulesJson), (levelField.name, .number c.level.toNat)]

/-- The member that names plugins, if there are any. -/
def pluginMembers : List (String × Json) :=
  if (PluginReference.members c.plugins).isEmpty then []
  else [(pluginsField.name, .object (PluginReference.members c.plugins))]

/-- The member for unlisted rules, if they have an activation. -/
def unlistedMembers : List (String × Json) :=
  c.unlisted.toList.map fun a => (unlistedField.name, .string a.word)

theorem toJson_eq : c.toJson = .object (c.firstMembers ++ c.pluginMembers ++ c.unlistedMembers) :=
  rfl

theorem decode_rulesJson : rulesField.decode c.rulesJson.document = .ok c.rules := by
  have back (a : Activation) :
      Json.Document.word Activation.alternatives (Json.string a.word).document = .ok a := by
    rw [Json.word_document, a.choice_word]
  have entries := Json.entries_document "a map" back c.rules.entries
  simp only [rulesField, Activation.decodeMap]
  rw [rulesJson, entries]
  simp [Except.map]

theorem decode_level :
    levelField.decode (Json.number c.level.toNat).document = .ok c.level.toNat := by
  have below : c.level.toNat < 0x100000000 := c.level.toNat_lt
  refine Json.Document.natural_ofNat (Nat.lt_trans below (by decide)) ?_
  exact Nat.le_of_lt_succ below

theorem decode_plugins (distinct : (c.plugins.map (·.name)).Nodup) :
    pluginsField.decode (Json.object (PluginReference.members c.plugins)).document =
      .ok c.plugins :=
  PluginReference.decodeMap_members distinct

theorem decode_unlisted (a : Activation) :
    unlistedField.decode (Json.string a.word).document = .ok (some a) := by
  cases a <;> rfl

def members : List (String × Json) := c.firstMembers ++ c.pluginMembers ++ c.unlistedMembers

theorem nodup_members : (c.members.map (·.1)).Nodup := by
  obtain ⟨rules, level, plugins, unlisted⟩ := c
  cases plugins <;> cases unlisted <;>
    simp [members, firstMembers, pluginMembers, unlistedMembers, PluginReference.members,
      rulesField, levelField, pluginsField, unlistedField]

theorem accepts_firstMembers : ∀ member ∈ c.firstMembers, layout.Accepts member := by
  simp only [firstMembers, List.forall_mem_cons, List.not_mem_nil, false_implies, implies_true,
    and_true]
  exact ⟨.of_decode rfl c.decode_rulesJson, .of_decode rfl c.decode_level⟩

theorem accepts_members (distinct : (c.plugins.map (·.name)).Nodup) :
    ∀ member ∈ c.members, layout.Accepts member := by
  intro member within
  simp only [members, List.mem_append] at within
  rcases within with (first | plugin) | unlisted
  · exact c.accepts_firstMembers member first
  · rw [pluginMembers] at plugin
    split at plugin
    · cases plugin
    · rw [List.mem_singleton.mp plugin]
      exact .of_decode rfl (c.decode_plugins distinct)
  · obtain ⟨a, _, rfl⟩ := List.mem_map.mp unlisted
    exact .of_decode rfl (decode_unlisted a)

def values : Values Json.Document := c.members.map fun (key, value) => (key, value.document)

theorem get_rules : rulesField.get c.values = .ok c.rules := c.decode_rulesJson

theorem get_level : levelField.get c.values = .ok c.level.toNat := c.decode_level

theorem get_plugins (distinct : (c.plugins.map (·.name)).Nodup) :
    pluginsField.get c.values = .ok c.plugins := by
  obtain ⟨rules, level, plugins, unlisted⟩ := c
  cases plugins with
  | nil => cases unlisted <;> rfl
  | cons p rest => exact decode_plugins _ distinct

theorem get_unlisted : unlistedField.get c.values = .ok c.unlisted := by
  obtain ⟨rules, level, plugins, unlisted⟩ := c
  cases unlisted with
  | none => cases plugins <;> rfl
  | some a => cases plugins <;> exact decode_unlisted a

/-- A written configuration reads back. -/
theorem decode_toJson (distinct : (c.plugins.map (·.name)).Nodup) :
    decode c.toJson.document = .ok c := by
  have found : layout.values c.toJson.document = .ok c.values :=
    Json.Layout.values_document (c.accepts_members distinct) c.nodup_members
  simp only [decode, found, get_rules, get_level, c.get_plugins distinct, get_unlisted, bind,
    Except.bind, pure, Except.pure, Nat.toUInt32_eq, UInt32.ofNat_toNat]

/-- A plugin whose name is taken is the problem of a written configuration. -/
theorem decode_toJson_error {before after : List PluginReference} {p : PluginReference}
    (split : c.plugins = before ++ p :: after) (distinct : (before.map (·.name)).Nodup)
    (taken : p.name ∈ before.map (·.name)) :
    decode c.toJson.document = .error (.duplicatePlugin p.name) := by
  have refused : pluginsField.decode (Json.object (PluginReference.members c.plugins)).document =
      .error (.duplicatePlugin p.name) := by
    rw [split]
    exact PluginReference.decodeMap_members_error distinct taken
  have some : PluginReference.members c.plugins ≠ [] := by simp [PluginReference.members, split]
  have written : c.toJson = .object (c.firstMembers ++
      (pluginsField.name, .object (PluginReference.members c.plugins)) :: c.unlistedMembers) := by
    rw [toJson_eq, pluginMembers, List.isEmpty_eq_false_iff.mpr some]
    simp
  have found : layout.values c.toJson.document = .error (.duplicatePlugin p.name) := by
    rw [written]
    have keys : ["rules", "compatibilityLevel", "plugins"].Nodup := by decide
    exact Json.Layout.values_document_error c.accepts_firstMembers keys rfl refused
  simp only [decode, found, bind, Except.bind]

theorem ofArtifact_artifact (path : String) (distinct : (c.plugins.map (·.name)).Nodup) :
    ofArtifact path c.artifact = .ok c := by
  rw [ofArtifact, artifact, Json.read_pretty, c.decode_toJson distinct]
  rfl

theorem ofArtifact_artifact_error (path : String) (repeated : ¬ (c.plugins.map (·.name)).Nodup) :
    ∃ before p after, c.plugins = before ++ p :: after ∧ (before.map (·.name)).Nodup ∧
      p.name ∈ before.map (·.name) ∧
      ofArtifact path c.artifact = .error (.malformed path (.duplicatePlugin p.name)) := by
  obtain ⟨before, p, after, split, distinct, taken⟩ :=
    PluginReference.exists_first_repeat repeated
  refine ⟨before, p, after, split, distinct, taken, ?_⟩
  rw [ofArtifact, artifact, Json.read_pretty, c.decode_toJson_error split distinct taken]
  rfl

theorem lookup_plugins : c.members.lookup pluginsField.name =
    if c.plugins = [] then none else some (.object (PluginReference.members c.plugins)) := by
  obtain ⟨rules, level, plugins, unlisted⟩ := c
  cases plugins with
  | nil => cases unlisted <;> rfl
  | cons p rest => rfl

/-- The text of a configuration determines it. -/
theorem artifact_injective : Function.Injective artifact := by
  intro c c' same
  have written : c.members = c'.members := Json.object.inj (Json.pretty_injective same)
  have found : c.values = c'.values := by rw [values, values, written]
  have rules := c.get_rules.symm.trans (found ▸ c'.get_rules)
  have level := c.get_level.symm.trans (found ▸ c'.get_level)
  have unlisted := c.get_unlisted.symm.trans (found ▸ c'.get_unlisted)
  have plugins : c.plugins = c'.plugins := by
    have named := c.lookup_plugins.symm.trans (written ▸ c'.lookup_plugins)
    split_ifs at named with none none' none'
    · rw [none, none']
    · exact PluginReference.members_injective (Json.object.inj (Option.some.inj named))
  obtain ⟨_, _, _, _⟩ := c
  obtain ⟨_, _, _, _⟩ := c'
  simp_all [UInt32.toNat_inj]

theorem nodup_of_decode {d : Json.Document} {settings : SettingsFile}
    (decoded : SettingsFile.decode d = .ok settings) : (settings.plugins.map (·.name)).Nodup := by
  obtain ⟨values, _, decoded⟩ := Except.bind_eq_ok_iff.mp decoded
  obtain ⟨_, _, decoded⟩ := Except.bind_eq_ok_iff.mp decoded
  obtain ⟨_, _, decoded⟩ := Except.bind_eq_ok_iff.mp decoded
  obtain ⟨plugins, given, same⟩ := Except.bind_eq_ok_iff.mp decoded
  cases same
  rw [Field.get] at given
  split at given
  · exact PluginReference.nodup_of_decodeMap given
  · next default =>
      cases default
      cases given
      exact List.nodup_nil
  · cases given

/-- A settings file has no two plugins of one name. -/
theorem nodup_of_load {fs : FileSystem} {path : String} {settings : SettingsFile}
    (loaded : SettingsFile.load fs path = .ok settings) :
    (settings.plugins.map (·.name)).Nodup := by
  rw [SettingsFile.load] at loaded
  split at loaded
  · cases loaded
  · have parsed := Except.mapError_eq_ok_iff.mp loaded
    rw [SettingsFile.ofText] at parsed
    split at parsed
    · obtain ⟨_, decoded, exactly⟩ := Except.bind_eq_ok_iff.mp parsed
      split at exactly
      · cases exactly
        exact nodup_of_decode decoded
      · cases exactly
    · cases parsed

variable {fs : FileSystem} {selected known : List String} {settingsPath : Option String}

theorem name_anchored (directory : String) (p : PluginReference) :
    (anchored directory p).name = p.name :=
  (anchoredAt_anchored directory p).name

variable {c} in
/-- A configuration that is resolved has no two plugins of one name, whatever its source. -/
theorem nodup_of_resolve (resolved : resolve fs selected settingsPath known = .ok c) :
    (c.plugins.map (·.name)).Nodup := by
  rcases source_of_resolve resolved with rfl | ⟨path, settings, loaded, rfl⟩ | rfl
  · exact List.nodup_nil
  · simpa [ofSettings, Function.comp_def, name_anchored] using nodup_of_load loaded
  · exact List.nodup_nil

/-- A machine that has a place for a configuration gives it back as it was. -/
theorem keep_eq (machine : Machine) (distinct : (c.plugins.map (·.name)).Nodup) :
    machine.keep c = (machine.place c).map fun _ => c := by
  rw [Machine.keep]
  cases machine.place c with
  | error e => rfl
  | ok path => exact c.ofArtifact_artifact path distinct

section

variable (machine : Machine) (fs : FileSystem) (known : Registry) (request : RunRequest)

/-- The analysis gets the configuration that was resolved, if the machine has a place for it. -/
theorem configure_eq : Run.configure machine fs known request = (do
    let c ← resolve fs request.selected request.settingsPath known.ids
    (machine.place c).map fun _ => c) := by
  rw [Run.configure, Run.resolve]
  cases resolved : resolve fs request.selected request.settingsPath known.ids with
  | error e => rfl
  | ok c => exact c.keep_eq machine (nodup_of_resolve resolved)

variable {machine fs known request} {p : Preparation} {c : Configuration}

theorem resolve_of_configure (configured : Run.configure machine fs known request = .ok c) :
    resolve fs request.selected request.settingsPath known.ids = .ok c := by
  rw [configure_eq] at configured
  obtain ⟨c', resolved, placed⟩ := Except.bind_eq_ok_iff.mp configured
  obtain ⟨_, _, rfl⟩ := Except.map_eq_ok_iff.mp placed
  exact resolved

theorem resolve_of_prepare (prepared : Run.prepare machine fs known request = .ok p) :
    resolve fs request.selected request.settingsPath known.ids = .ok p.config := by
  obtain ⟨c, configured, loading⟩ := Except.bind_eq_ok_iff.mp prepared
  obtain ⟨rules, _, starting⟩ := Except.bind_eq_ok_iff.mp loading
  obtain ⟨_, _, rfl⟩ := Except.map_eq_ok_iff.mp starting
  apply resolve_of_configure
  exact Except.mapError_eq_ok_iff.mp configured

end

/-- A written configuration reads back as it was, with its plugins in order, exactly if its plugins
have names of their own; otherwise it is refused for the first name that comes up again. Every
configuration that is resolved has such plugins, so that the analysis works with the configuration
that was resolved whenever the machine has a place to keep it. And no two configurations have one
text. -/
theorem artifact_reads_back :
    (∀ (c : Configuration) path,
      ofArtifact path c.artifact = .ok c ↔ (c.plugins.map (·.name)).Nodup) ∧
    (∀ (c : Configuration) path, ¬ (c.plugins.map (·.name)).Nodup →
      ∃ before p after, c.plugins = before ++ p :: after ∧ (before.map (·.name)).Nodup ∧
        p.name ∈ before.map (·.name) ∧
        ofArtifact path c.artifact = .error (.malformed path (.duplicatePlugin p.name))) ∧
    (∀ fs selected settingsPath known c, resolve fs selected settingsPath known = .ok c →
      (c.plugins.map (·.name)).Nodup) ∧
    (∀ machine fs known request, Run.configure machine fs known request = (do
      let c ← resolve fs request.selected request.settingsPath known.ids
      (machine.place c).map fun _ => c)) ∧
    (∀ machine fs known request p, Run.prepare machine fs known request = .ok p →
      resolve fs request.selected request.settingsPath known.ids = .ok p.config) ∧
    ∀ c c', artifact c = artifact c' → c = c' := by
  refine ⟨?_, fun c path => c.ofArtifact_artifact_error path, fun _ _ _ _ _ => nodup_of_resolve,
    configure_eq, fun _ _ _ _ _ => resolve_of_prepare,
    fun _ _ same => artifact_injective same⟩
  intro c path
  refine ⟨?_, c.ofArtifact_artifact path⟩
  intro back
  by_contra repeated
  obtain ⟨_, _, _, _, _, _, refused⟩ := c.ofArtifact_artifact_error path repeated
  cases back.symm.trans refused

/-- A configuration with characters that a text has to escape, and the plugins in an order that is
not that of their names. -/
def escaping : Configuration where
  rules := .ofList [("select-star", .warning), ("\"quoted\"\n", .off)]
  level := 0xFFFFFFFF
  plugins := [⟨"z\t", "C:\\z.toml"⟩, ⟨"a\u0001", "/a b.toml"⟩]
  unlisted := some .off

/-- The same with a name that comes up twice. -/
def repeating : Configuration :=
  { escaping with plugins := escaping.plugins ++ [⟨"z\t", "other.toml"⟩, ⟨"y", "y.toml"⟩] }

theorem artifact_reads_back_of_escaping :
    ofArtifact "c" escaping.artifact = .ok escaping ∧
    ofArtifact "c" repeating.artifact = .error (.malformed "c" (.duplicatePlugin "z\t")) ∧
    (∃ c, resolve nestedSettings [] (some "lint/.tsqllintrc") ["a"] = .ok c ∧
      (c.plugins.map (·.name)).Nodup) ∧
    (∃ p, Run.prepare (.reliable "t") nestedSettings .empty ⟨"", ["b"], none, [], none⟩ = .ok p ∧
      resolve nestedSettings ["b"] none [] = .ok p.config) ∧
    escaping = ⟨.ofList [("\"quoted\"\n", .off), ("select-star", .warning)], 0xFFFFFFFF,
      [⟨"z\t", "C:\\z.toml"⟩, ⟨"a\u0001", "/a b.toml"⟩], some .off⟩ := by
  obtain ⟨back, refused, distinct, configured, prepared, injective⟩ := artifact_reads_back
  refine ⟨(back escaping "c").mpr (by decide), ?_, ?_, ?_, ?_⟩
  · obtain ⟨before, p, after, split, _, taken, refusal⟩ := refused repeating "c" (by decide)
    have twice : 2 ≤ (repeating.plugins.map (·.name)).count p.name := by
      rw [split, List.map_append, List.map_cons, List.count_append, List.count_cons_self]
      have once := List.count_pos_iff.mpr taken
      omega
    have named : ∀ name ∈ repeating.plugins.map (·.name),
        2 ≤ (repeating.plugins.map (·.name)).count name → name = "z\t" := by
      decide
    rw [named p.name (List.count_pos_iff.mp (by omega)) twice] at refusal
    exact refusal
  · have loaded : SettingsFile.load nestedSettings "lint/.tsqllintrc" =
        .ok ⟨.ofList [("a", .warning), ("p", .error)], none,
          [⟨"z", "z.toml"⟩, ⟨"y", "/y.toml"⟩]⟩ := by
      cbv
    have resolves : ∃ c, resolve nestedSettings [] (some "lint/.tsqllintrc") ["a"] = .ok c := by
      rw [resolve_of_file rfl rfl rfl, loaded]
      exact ⟨_, rfl⟩
    obtain ⟨c, resolved⟩ := resolves
    exact ⟨c, resolved, distinct _ _ _ _ _ resolved⟩
  · have ready : Run.prepare (.reliable "t") nestedSettings .empty ⟨"", ["b"], none, [], none⟩ =
        .ok ⟨ofSelection ["b"] [], []⟩ := by
      rw [Run.prepare, configured, resolve_of_selected (by decide)]
      rfl
    exact ⟨_, ready, prepared _ _ _ _ _ ready⟩
  · refine injective _ _ (congrArg Json.pretty ?_)
    cbv

end Configuration

end SqlLint
