import SqlLint.Proofs.Dictionary
import SqlLint.Proofs.Plugin.Entries

/-!
# Plugins are loaded one after the other, all or none

What a plugin meets when its turn comes are the identifiers that are known and those of the plugins
before it. So loading one list of plugins after another is loading the second one with the rules of
the first registered, and everything else follows for one plugin at a time: either all of them are
sound and the rules have identifiers of their own, or the first plugin that is not decides how
loading fails.
-/

namespace SqlLint

/-- A registry with rules of plugins added to it. -/
def Registry.plus (known : Registry) (rules : List PatternRule) : Registry :=
  rules.foldl (fun known rule => known.register rule.toDescriptor) known

namespace Registry

variable {known : Registry} {id : String}

theorem contains_register (known : Registry) (d : Descriptor) (id : String) :
    (known.register d).contains id ↔ known.contains id ∨ id = d.id := by
  simp only [contains, register, Dictionary.contains, Dictionary.get?_insertIfNew]
  by_cases same : id = d.id <;> simp [same]

theorem contains_plus {rules : List PatternRule} :
    (known.plus rules).contains id ↔ known.contains id ∨ id ∈ rules.map (·.id) := by
  induction rules generalizing known with
  | nil => simp [plus]
  | cons rule rest ih =>
      rw [plus, List.foldl_cons, ← plus, ih, contains_register, List.map_cons, List.mem_cons,
        or_assoc]

theorem plus_append (first second : List PatternRule) :
    known.plus (first ++ second) = (known.plus first).plus second :=
  List.foldl_append

end Registry

namespace Plugin

/-- Rules with identifiers of their own, none of them known. -/
structure Fresh (known : Registry) (rules : List PatternRule) : Prop where
  distinct : (rules.map (·.id)).Nodup
  unknown : ∀ rule ∈ rules, ¬ known.contains rule.id

/-- The first rule of a list whose identifier is known, or that of a rule before it. -/
def FirstTaken (known : Registry) (rules : List PatternRule) (rule : PatternRule) : Prop :=
  ∃ before after, rules = before ++ rule :: after ∧ Fresh known before ∧
    (known.contains rule.id ∨ rule.id ∈ before.map (·.id))

/-- Makes sure that rules of a plugin have identifiers of their own. -/
def accept (known : Registry) (plugin : String) (rules : List PatternRule) :
    Except PluginError Unit :=
  (claim known plugin [] rules).map fun _ => ()

section Claims

variable {known known' : Registry} {seen seen' taken : List String} {plugin : String}
variable {rule : PatternRule} {rules first second : List PatternRule} {e : PluginError}

theorem fresh_nil : Fresh known [] := ⟨List.nodup_nil, by simp⟩

theorem fresh_append : Fresh known (first ++ second) ↔
    Fresh known first ∧ Fresh (known.plus first) second := by
  constructor
  · rintro ⟨distinct, unknown⟩
    rw [List.map_append, List.nodup_append] at distinct
    obtain ⟨here, there, apart⟩ := distinct
    rw [List.forall_mem_append] at unknown
    refine ⟨⟨here, unknown.1⟩, there, ?_⟩
    intro rule member taken
    rcases Registry.contains_plus.mp taken with isKnown | before
    · exact unknown.2 rule member isKnown
    · exact apart _ before _ (List.mem_map_of_mem member) rfl
  · rintro ⟨⟨here, unknown⟩, there, unknown'⟩
    refine ⟨?_, List.forall_mem_append.mpr ⟨unknown, ?_⟩⟩
    · rw [List.map_append, List.nodup_append]
      refine ⟨here, there, ?_⟩
      rintro id before _ after rfl
      obtain ⟨rule, member, rfl⟩ := List.mem_map.mp after
      exact unknown' rule member (Registry.contains_plus.mpr (.inr before))
    · intro rule member isKnown
      exact unknown' rule member (Registry.contains_plus.mpr (.inl isKnown))

theorem fresh_cons : Fresh known (rule :: rules) ↔
    ¬ known.contains rule.id ∧ Fresh (known.plus [rule]) rules := by
  have single : Fresh known [rule] ↔ ¬ known.contains rule.id :=
    ⟨fun h => h.unknown rule (List.mem_singleton_self rule),
      fun new => ⟨List.nodup_singleton _, by simpa using new⟩⟩
  rw [← List.singleton_append, fresh_append, single]

/-- Claims depend only on which identifiers are taken. -/
theorem claim_congr (rules : List PatternRule)
    (same : ∀ id, known.contains id ∨ id ∈ seen ↔ known'.contains id ∨ id ∈ seen') :
    (claim known plugin seen rules).map (fun _ => ()) =
      (claim known' plugin seen' rules).map fun _ => () := by
  induction rules generalizing seen seen' with
  | nil => rfl
  | cons rule rest ih =>
      have taken := same rule.id
      simp only [claim, Bool.or_eq_true, List.contains_iff_mem, taken]
      split
      · rfl
      · refine ih fun id => ?_
        rw [List.mem_append, ← or_assoc, same, or_assoc, List.mem_append]

theorem eq_append_of_claim (claimed : claim known plugin seen rules = .ok taken) :
    taken = seen ++ rules.map (·.id) := by
  induction rules generalizing seen with
  | nil =>
      cases claimed
      simp
  | cons rule rest ih =>
      rw [claim] at claimed
      split at claimed
      · cases claimed
      · simpa using ih claimed

theorem accept_cons : accept known plugin (rule :: rules) =
    if known.contains rule.id then .error (.duplicateRule plugin rule.id)
    else accept (known.plus [rule]) plugin rules := by
  simp only [accept, claim, List.contains_nil, Bool.or_false]
  split
  · rfl
  · -- The identifier counts as claimed on one side and as known on the other.
    refine claim_congr rules fun id => ?_
    simp [Registry.contains_plus]

theorem accept_eq_ok_iff : accept known plugin rules = .ok () ↔ Fresh known rules := by
  induction rules generalizing known with
  | nil => exact iff_of_true rfl fresh_nil
  | cons rule rest ih =>
      rw [accept_cons, fresh_cons, ← ih]
      split
      · next isKnown => simp [isKnown]
      · next new => simp [new]

theorem firstTaken_cons {other : PatternRule} : FirstTaken known (rule :: rules) other ↔
    known.contains rule.id ∧ other = rule ∨
      ¬ known.contains rule.id ∧ FirstTaken (known.plus [rule]) rules other := by
  have grown (before : List PatternRule) : (known.plus [rule]).contains other.id ∨
      other.id ∈ before.map (·.id) ↔
        known.contains other.id ∨ other.id ∈ (rule :: before).map (·.id) := by
    simp [Registry.contains_plus, or_assoc]
  constructor
  · rintro ⟨before, after, split, fresh, taken⟩
    cases before with
    | nil =>
        cases split
        exact .inl ⟨taken.resolve_right (by simp), rfl⟩
    | cons first before =>
        cases split
        obtain ⟨new, fresh⟩ := fresh_cons.mp fresh
        exact .inr ⟨new, before, after, rfl, fresh, (grown before).mpr taken⟩
  · rintro (⟨isKnown, rfl⟩ | ⟨new, before, after, rfl, fresh, taken⟩)
    · exact ⟨[], rules, rfl, fresh_nil, .inl isKnown⟩
    · exact ⟨rule :: before, after, rfl, fresh_cons.mpr ⟨new, fresh⟩, (grown before).mp taken⟩

theorem accept_eq_error_iff : accept known plugin rules = .error e ↔
    ∃ rule, FirstTaken known rules rule ∧ e = .duplicateRule plugin rule.id := by
  induction rules generalizing known with
  | nil =>
      refine iff_of_false ?_ ?_
      · rintro ⟨⟩
      · rintro ⟨_, ⟨_, _, split, _⟩, _⟩
        simp at split
  | cons rule rest ih =>
      rw [accept_cons]
      simp only [firstTaken_cons]
      split
      · next isKnown => simp [isKnown, eq_comm]
      · next new => simp [new, ih]

end Claims

section Lists

variable {fs : FileSystem} {known known' : Registry} {seen seen' : List String}
variable {p : PluginReference} {plugins : List PluginReference}

theorem loadAfter_cons : loadAfter fs known seen (p :: plugins) = do
    let own ← load fs p
    (claim known p.name seen own).map fun _ => ()
    let others ← loadAfter fs known (seen ++ own.map (·.id)) plugins
    return own ++ others := by
  rw [loadAfter]
  congr 1
  funext own
  cases claimed : claim known p.name seen own with
  | error e => rfl
  | ok taken =>
      obtain rfl := eq_append_of_claim claimed
      rfl

/-- Loading depends only on which identifiers are taken. -/
theorem loadAfter_congr (plugins : List PluginReference)
    (same : ∀ id, known.contains id ∨ id ∈ seen ↔ known'.contains id ∨ id ∈ seen') :
    loadAfter fs known seen plugins = loadAfter fs known' seen' plugins := by
  induction plugins generalizing seen seen' with
  | nil => rfl
  | cons p rest ih =>
      rw [loadAfter_cons, loadAfter_cons]
      congr 1
      funext own
      rw [claim_congr own same]
      congr 1
      funext _
      rw [ih]
      intro id
      rw [List.mem_append, ← or_assoc, same, or_assoc, List.mem_append]

/-- The first plugin of a list is loaded, and then the others when its rules are known too. -/
theorem loadAll_cons : loadAll fs known (p :: plugins) = do
    let own ← load fs p
    accept known p.name own
    let others ← loadAll fs (known.plus own) plugins
    return own ++ others := by
  rw [loadAll, loadAfter_cons]
  congr 1
  funext own
  congr 1
  funext _
  rw [loadAll, loadAfter_congr plugins]
  intro id
  simp [Registry.contains_plus]

/-- Loading one list of plugins after another is loading the second one with the rules of the first
registered. -/
theorem loadAll_append (first second : List PluginReference) :
    loadAll fs known (first ++ second) = do
      let rules ← loadAll fs known first
      let others ← loadAll fs (known.plus rules) second
      return rules ++ others := by
  induction first generalizing known with
  | nil =>
      change loadAll fs known second = loadAll fs known second >>= fun others => .ok ([] ++ others)
      cases loadAll fs known second <;> rfl
  | cons p rest ih =>
      simp only [List.cons_append, loadAll_cons, ih, bind_assoc, pure_bind, Registry.plus_append,
        List.append_assoc]

end Lists

/-- The manifest of a plugin as it is read from the file at its path. -/
structure HasManifest (fs : FileSystem) (p : PluginReference) (m : Manifest) : Prop where
  file : fs.isFile p.path
  text : ∃ text, fs.read p.path = .ok text ∧ Manifest.ofText text = .ok m

/-- What is wrong with a plugin by itself: there is no manifest, or an entry of it has a flaw while
all entries before it describe rules. -/
inductive Defect (fs : FileSystem) (p : PluginReference) : PluginError → Prop
  | absent (absent : ¬ fs.isFile p.path) : Defect fs p (.notFound p.name p.path)
  | unreadable {cause : AccessError} (file : fs.isFile p.path)
      (unreadable : fs.read p.path = .error cause) :
      Defect fs p (.unreadable p.name p.path cause.message)
  | malformed {text : String} {problem : DecodeError} (file : fs.isFile p.path)
      (readable : fs.read p.path = .ok text) (malformed : Manifest.ofText text = .error problem) :
      Defect fs p (.malformed p.name problem)
  | rule {m : Manifest} {before after : List RuleEntry} {entry : RuleEntry} {e : PluginError}
      (manifest : HasManifest fs p m) (split : m.rules = before ++ entry :: after)
      (sound : ∀ earlier ∈ before, ∃ rule, Describes earlier rule)
      (flaw : Flaw p.name entry e) : Defect fs p e

section Manifests

variable {fs : FileSystem} {p : PluginReference} {own : List PatternRule} {e : PluginError}

theorem load_eq : load fs p =
    if fs.isFile p.path then do
      let text ← (fs.read p.path).mapError fun e => .unreadable p.name p.path e.message
      let manifest ← (Manifest.ofText text).mapError (.malformed p.name)
      manifest.rules.mapM (ruleOf p.name)
    else .error (.notFound p.name p.path) := by
  rw [load]
  cases fs.isFile p.path <;> rfl

/-- A plugin is loaded if each entry of its manifest describes a rule. -/
theorem load_eq_ok_iff : load fs p = .ok own ↔
    ∃ m, HasManifest fs p m ∧ List.Forall₂ Describes m.rules own := by
  have described {entries : List RuleEntry} :
      List.Forall₂ (ruleOf p.name · = .ok ·) entries own ↔ List.Forall₂ Describes entries own := by
    simp only [ruleOf_eq_ok_iff]
  rw [load_eq]
  constructor
  · intro loaded
    split at loaded
    · next file =>
        obtain ⟨text, readable, loaded⟩ := Except.bind_eq_ok_iff.mp loaded
        obtain ⟨m, wellFormed, made⟩ := Except.bind_eq_ok_iff.mp loaded
        exact ⟨m, ⟨file, text, Except.mapError_eq_ok_iff.mp readable,
          Except.mapError_eq_ok_iff.mp wellFormed⟩, described.mp (Except.mapM_eq_ok_iff.mp made)⟩
    · cases loaded
  · rintro ⟨m, ⟨file, text, readable, wellFormed⟩, made⟩
    rw [if_pos file, readable]
    change (Manifest.ofText text).mapError _ >>= _ = _
    rw [wellFormed]
    exact Except.mapM_eq_ok_iff.mpr (described.mpr made)

/-- Loading a plugin fails exactly with what is wrong with it. -/
theorem load_eq_error_iff : load fs p = .error e ↔ Defect fs p e := by
  rw [load_eq]
  constructor
  · intro failed
    split at failed
    · next file =>
        rcases Except.bind_eq_error_iff.mp failed with unread | ⟨text, readable, failed⟩
        · obtain ⟨cause, unreadable, rfl⟩ := Except.mapError_eq_error_iff.mp unread
          exact .unreadable file unreadable
        · have readable := Except.mapError_eq_ok_iff.mp readable
          rcases Except.bind_eq_error_iff.mp failed with unparsed | ⟨m, parsed, failed⟩
          · obtain ⟨problem, malformed, rfl⟩ := Except.mapError_eq_error_iff.mp unparsed
            exact .malformed file readable malformed
          · have wellFormed := Except.mapError_eq_ok_iff.mp parsed
            obtain ⟨before, entry, after, split, sound, unmade⟩ :=
              Except.mapM_eq_error_iff.mp failed
            simp only [ruleOf_eq_ok_iff] at sound
            exact .rule ⟨file, text, readable, wellFormed⟩ split sound
              (ruleOf_eq_error_iff.mp unmade)
    · next absent =>
        cases failed
        exact .absent absent
  · intro defect
    cases defect with
    | absent absent => rw [if_neg absent]
    | unreadable file unreadable =>
        rw [if_pos file, unreadable]
        rfl
    | malformed file readable malformed =>
        rw [if_pos file, readable]
        change (Manifest.ofText _).mapError _ >>= _ = _
        rw [malformed]
        rfl
    | rule manifest split sound flaw =>
        obtain ⟨file, text, readable, wellFormed⟩ := manifest
        rw [if_pos file, readable]
        change (Manifest.ofText text).mapError _ >>= _ = _
        rw [wellFormed]
        refine Except.mapM_eq_error_iff.mpr ⟨_, _, _, split, ?_, ruleOf_eq_error_iff.mpr flaw⟩
        intro earlier member
        obtain ⟨rule, describes⟩ := sound earlier member
        exact ⟨rule, ruleOf_eq_ok_iff.mpr describes⟩

theorem Defect.ne_duplicateRule (h : Defect fs p e) (name id : String) :
    e ≠ .duplicateRule name id := by
  cases h with
  | rule _ _ _ flaw => exact flaw.ne_duplicateRule name id
  | _ => rintro ⟨⟩

end Manifests

/-- Why a plugin cannot be loaded when some rules are known: because of itself, or, if it is sound,
because of the first of its rules whose identifier is taken. -/
inductive Offence (fs : FileSystem) (known : Registry) (p : PluginReference) : PluginError → Prop
  | defect {e : PluginError} (defect : Defect fs p e) : Offence fs known p e
  | taken {m : Manifest} {own : List PatternRule} {rule : PatternRule}
      (manifest : HasManifest fs p m) (sound : List.Forall₂ Describes m.rules own)
      (taken : FirstTaken known own rule) : Offence fs known p (.duplicateRule p.name rule.id)

section Runs

variable {fs : FileSystem} {known : Registry} {p : PluginReference}
variable {plugins : List PluginReference} {rules : List PatternRule} {e : PluginError}

theorem loadAll_singleton_eq_error_iff :
    loadAll fs known [p] = .error e ↔ Offence fs known p e := by
  rw [loadAll_cons, Except.bind_eq_error_iff]
  constructor
  · rintro (failed | ⟨own, sound, refused⟩)
    · exact .defect (load_eq_error_iff.mp failed)
    · rcases Except.bind_eq_error_iff.mp refused with refused | ⟨_, _, refused⟩
      · obtain ⟨m, manifest, described⟩ := load_eq_ok_iff.mp sound
        obtain ⟨rule, taken, rfl⟩ := accept_eq_error_iff.mp refused
        exact .taken manifest described taken
      · cases refused
  · rintro (defect | ⟨manifest, described, taken⟩)
    · exact .inl (load_eq_error_iff.mpr defect)
    · have sound := load_eq_ok_iff.mpr ⟨_, manifest, described⟩
      refine .inr ⟨_, sound, Except.bind_eq_error_iff.mpr (.inl ?_)⟩
      exact accept_eq_error_iff.mpr ⟨_, taken, rfl⟩

/-- Loading fails for the first plugin that cannot be loaded after those before it, and in the way
in which that one fails. -/
theorem loadAll_eq_error_iff : loadAll fs known plugins = .error e ↔
    ∃ before p after rules, plugins = before ++ p :: after ∧ loadAll fs known before = .ok rules ∧
      Offence fs (known.plus rules) p e := by
  induction plugins generalizing known with
  | nil =>
      refine iff_of_false ?_ ?_
      · rintro ⟨⟩
      · rintro ⟨_, _, _, _, split, _⟩
        simp at split
  | cons p rest ih =>
      rw [← List.singleton_append, loadAll_append, Except.bind_eq_error_iff]
      constructor
      · rintro (here | ⟨own, sound, failed⟩)
        · exact ⟨[], p, rest, [], rfl, rfl, loadAll_singleton_eq_error_iff.mp here⟩
        · rcases Except.bind_eq_error_iff.mp failed with later | ⟨_, _, failed⟩
          · obtain ⟨before, q, after, rules, rfl, loaded, offence⟩ := ih.mp later
            refine ⟨p :: before, q, after, own ++ rules, rfl, ?_, ?_⟩
            · rw [← List.singleton_append, loadAll_append, sound]
              change loadAll fs (known.plus own) before >>= _ = _
              rw [loaded]
              rfl
            · rwa [Registry.plus_append]
          · cases failed
      · rintro ⟨before, q, after, rules, split, loaded, offence⟩
        cases before with
        | nil =>
            cases split
            cases loaded
            exact .inl (loadAll_singleton_eq_error_iff.mpr offence)
        | cons first before =>
            cases split
            rw [← List.singleton_append, loadAll_append] at loaded
            obtain ⟨own, sound, others_loaded⟩ := Except.bind_eq_ok_iff.mp loaded
            obtain ⟨others, rest_loaded, same⟩ := Except.bind_eq_ok_iff.mp others_loaded
            cases same
            rw [Registry.plus_append] at offence
            have later := ih.mpr ⟨before, q, after, others, rfl, rest_loaded, offence⟩
            exact .inr ⟨own, sound, Except.bind_eq_error_iff.mpr (.inl later)⟩

theorem loadAll_cons_eq_ok_iff : loadAll fs known (p :: plugins) = .ok rules ↔
    ∃ own others, load fs p = .ok own ∧ accept known p.name own = .ok () ∧
      loadAll fs (known.plus own) plugins = .ok others ∧ rules = own ++ others := by
  simp only [loadAll_cons, Except.bind_eq_ok_iff]
  constructor
  · rintro ⟨own, sound, _, accepted, others, later, same⟩
    exact ⟨own, others, sound, accepted, later, (Except.ok.inj same).symm⟩
  · rintro ⟨own, others, sound, accepted, later, rfl⟩
    exact ⟨own, sound, (), accepted, others, later, rfl⟩

/-- Loading succeeds exactly with the rules that the entries of all manifests describe, in order, if
these have identifiers of their own. -/
theorem loadAll_eq_ok_iff : loadAll fs known plugins = .ok rules ↔
    Fresh known rules ∧ ∃ manifests, List.Forall₂ (HasManifest fs) plugins manifests ∧
      List.Forall₂ Describes (manifests.flatMap (·.rules)) rules := by
  induction plugins generalizing known rules with
  | nil =>
      constructor
      · rintro ⟨⟩
        exact ⟨fresh_nil, [], .nil, .nil⟩
      · rintro ⟨_, manifests, read, described⟩
        cases read
        cases described
        rfl
  | cons p rest ih =>
      rw [loadAll_cons_eq_ok_iff]
      constructor
      · rintro ⟨own, others, sound, accepted, later, rfl⟩
        obtain ⟨m, manifest, described⟩ := load_eq_ok_iff.mp sound
        obtain ⟨fresh, manifests, read, others_described⟩ := ih.mp later
        refine ⟨fresh_append.mpr ⟨accept_eq_ok_iff.mp accepted, fresh⟩, m :: manifests,
          .cons manifest read, ?_⟩
        exact List.rel_append described others_described
      · rintro ⟨fresh, manifests, read, described⟩
        cases read with
        | @cons _ m _ manifests manifest read =>
            -- The rules of the first plugin are as many as the entries of its manifest.
            rw [← List.take_append_drop m.rules.length rules] at fresh ⊢
            obtain ⟨own, others⟩ := fresh_append.mp fresh
            refine ⟨_, _, load_eq_ok_iff.mpr ⟨m, manifest, ?_⟩, accept_eq_ok_iff.mpr own,
              ih.mpr ⟨others, manifests, read, ?_⟩, rfl⟩
            · have front := List.forall₂_take m.rules.length described
              rwa [List.flatMap_cons, List.take_left] at front
            · have back := List.forall₂_drop m.rules.length described
              rwa [List.flatMap_cons, List.drop_left] at back

/-- The rules that are loaded have well formed identifiers. -/
theorem isIdentifier_of_loadAll (loaded : loadAll fs known plugins = .ok rules) :
    ∀ rule ∈ rules, IsIdentifier rule.id := by
  obtain ⟨_, manifests, _, described⟩ := loadAll_eq_ok_iff.mp loaded
  intro rule member
  obtain ⟨entry, describes⟩ := exists_entry_of_mem described member
  exact describes.isIdentifier

end Runs

/-- Plugins are loaded one after the other, all or none. Loading one list after another is loading
the second with the rules of the first registered. Loading succeeds exactly if all entries of all
manifests describe rules and their identifiers, which then are well formed, can be told apart from
each other and from the known ones; the rules are those the entries describe, in order. It fails for
the first plugin that cannot be loaded, and what is wrong with that plugin by itself, be it the
manifest or the first flaw of an entry, comes before any identifier that is taken. -/
theorem loading_is_all_or_none (fs : FileSystem) (known : Registry) :
    (∀ first second, loadAll fs known (first ++ second) = do
      let rules ← loadAll fs known first
      let others ← loadAll fs (known.plus rules) second
      return rules ++ others) ∧
    (∀ plugins rules, loadAll fs known plugins = .ok rules ↔
      Fresh known rules ∧ ∃ manifests, List.Forall₂ (HasManifest fs) plugins manifests ∧
        List.Forall₂ Describes (manifests.flatMap (·.rules)) rules) ∧
    (∀ plugins rules, loadAll fs known plugins = .ok rules → ∀ rule ∈ rules, IsIdentifier rule.id) ∧
    (∀ plugins e, loadAll fs known plugins = .error e ↔
      ∃ before p after rules, plugins = before ++ p :: after ∧
        loadAll fs known before = .ok rules ∧ Offence fs (known.plus rules) p e) ∧
    ∀ p e, Defect fs p e → (∀ others, loadAll fs others [p] = .error e) ∧
      ∀ name id, e ≠ .duplicateRule name id := by
  refine ⟨loadAll_append, fun _ _ => loadAll_eq_ok_iff, fun _ _ => isIdentifier_of_loadAll,
    fun _ _ => loadAll_eq_error_iff, ?_⟩
  intro p e defect
  refine ⟨fun others => ?_, defect.ne_duplicateRule⟩
  exact loadAll_singleton_eq_error_iff.mpr (.defect defect)

/-- An entry of a manifest that gives nothing but what an entry has to give. -/
def plainEntry (id : String) : RuleEntry := ⟨id, none, "a", "m", "error", none, []⟩

/-- The text of a manifest with such entries of given identifiers. -/
def manifestText (ids : List String) : String :=
  "[plugin]\nname = \"p\"\n" ++ String.join (ids.map fun id =>
    "[[rule]]\nid = \"" ++ id ++ "\"\npattern = \"a\"\nmessage = \"m\"\n")

/-- The text of a manifest with a plain entry and another one. -/
def withPlain (text : String) : String := manifestText ["x-1"] ++ "[[rule]]\n" ++ text

/-- Six plugins: one that is sound, one with an identifier of the first, and four with an identifier
of the first and an entry that has a flaw. -/
def shelf : FileSystem where
  kind _ := .file
  read path :=
    if path = "a.toml" then .ok (manifestText ["x-1", "y"])
    else if path = "b.toml" then .ok (manifestText ["z", "y"])
    else if path = "c.toml" then .ok (withPlain "id = \"X\"\npattern = \"a\"\nmessage = \"m\"\n")
    else if path = "d.toml" then .ok (withPlain "id = \"w\"\npattern = \"(\"\nmessage = \"m\"\n")
    else if path = "e.toml" then
      .ok (withPlain "id = \"w\"\npattern = \"a\"\nmessage = \"m\"\nseverity = \"off\"\n")
    else if path = "f.toml" then
      .ok (withPlain "id = \"w\"\npattern = \"a\"\nmessage = \"m\"\nfiles = [\"*\", \"a**\"]\n")
    else .error .notFound
  walk _ := .error .notFound

/-- Whatever is known, the flaws of the last four plugins are reported, although the rule before
them has an identifier that is taken. -/
theorem loading_is_all_or_none_of_shelf :
    (∃ rules, loadAll shelf .empty [⟨"a", "a.toml"⟩] = .ok rules ∧
      rules.map (·.id) = ["x-1", "y"] ∧ Fresh .empty rules ∧
      loadAll shelf .empty ([⟨"a", "a.toml"⟩] ++ [⟨"b", "b.toml"⟩]) = do
        let others ← loadAll shelf (Registry.empty.plus rules) [⟨"b", "b.toml"⟩]
        return rules ++ others) ∧
    (∃ before p after rules,
      [⟨"a", "a.toml"⟩, ⟨"b", "b.toml"⟩] = before ++ p :: after ∧
        loadAll shelf .empty before = .ok rules ∧
        Offence shelf (Registry.empty.plus rules) p (.duplicateRule "b" "y")) ∧
    ∀ others,
      loadAll shelf others [⟨"c", "c.toml"⟩] = .error (.invalidRuleId "c" "X") ∧
      loadAll shelf others [⟨"d", "d.toml"⟩] = .error (.invalidPattern "d" "w") ∧
      loadAll shelf others [⟨"e", "e.toml"⟩] = .error (.unknownSeverity "e" "w" "off") ∧
      loadAll shelf others [⟨"f", "f.toml"⟩] =
        .error (.invalidGlob "f" "w" "a**" ⟨0, .components⟩) := by
  obtain ⟨appended, sound, _, failed, defects⟩ := loading_is_all_or_none shelf .empty
  have ids : (loadAll shelf .empty [⟨"a", "a.toml"⟩]).map (·.map (·.id)) = .ok ["x-1", "y"] := by
    decide +kernel
  obtain ⟨rules, loaded, named⟩ := Except.map_eq_ok_iff.mp ids
  have refused : (loadAll shelf .empty [⟨"a", "a.toml"⟩, ⟨"b", "b.toml"⟩]).map
      (·.map (·.id)) = .error (.duplicateRule "b" "y") := by
    decide +kernel
  refine ⟨⟨rules, loaded, named, ((sound _ _).mp loaded).1, ?_⟩,
    (failed _ _).mp (Except.map_eq_error_iff.mp refused), fun others => ?_⟩
  · rw [appended, loaded]
    exact pure_bind rules _
  · have made : (ruleOf "" (plainEntry "x-1")).map (·.id) = .ok "x-1" := by decide +kernel
    obtain ⟨plain, made, _⟩ := Except.map_eq_ok_iff.mp made
    have reported {p : PluginReference} {e : PluginError} (entry : RuleEntry)
        (manifest : HasManifest shelf p ⟨"p", none, [plainEntry "x-1", entry]⟩)
        (unmade : (ruleOf p.name entry).map (·.id) = .error e) :
        loadAll shelf others [p] = .error e := by
      have flaw := ruleOf_eq_error_iff.mp (Except.map_eq_error_iff.mp unmade)
      have split : [plainEntry "x-1", entry] = [plainEntry "x-1"] ++ entry :: [] := rfl
      refine (defects p e (.rule manifest split ?_ flaw)).1 others
      intro earlier member
      rw [List.mem_singleton.mp member]
      exact ⟨plain, ruleOf_eq_ok_iff.mp made⟩
    refine ⟨?_, ?_, ?_, ?_⟩
    · exact reported (plainEntry "X") ⟨rfl, _, rfl, by decide +kernel⟩ (by decide +kernel)
    · exact reported { plainEntry "w" with pattern := "(" } ⟨rfl, _, rfl, by decide +kernel⟩
        (by decide +kernel)
    · exact reported { plainEntry "w" with severity := "off" } ⟨rfl, _, rfl, by decide +kernel⟩
        (by decide +kernel)
    · exact reported { plainEntry "w" with files := ["*", "a**"] }
        ⟨rfl, _, rfl, by decide +kernel⟩ (by decide +kernel)

end Plugin
end SqlLint
