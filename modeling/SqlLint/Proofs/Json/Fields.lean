import SqlLint.Proofs.Json.Denotation

/-!
# What a record has to hold

A record is read in two steps, but what it has to hold can be said of its members alone: each field
is given at most once, under any of its names, a field without default is given, and what is given
is a value for the field. Members under other names do not matter. The order of the members matters
only to which problem is found first, and so not to whether there is one.
-/

namespace SqlLint

open Json (Document)
open Json.Document (Keyed)

/-- The keys that stand for a field. -/
def FieldSpec.names (f : FieldSpec Document) : List String := f.name :: f.aliases

theorem FieldSpec.answersTo_iff {f : FieldSpec Document} {key : String} :
    f.answersTo key ↔ key ∈ f.names := by
  rw [FieldSpec.answersTo, FieldSpec.names, Bool.or_eq_true, beq_iff_eq, List.contains_iff_mem,
    List.mem_cons]
  exact or_congr_left eq_comm

/-- The values that members give for a field, under any of its names. -/
def FieldSpec.given (f : FieldSpec Document) (members : List (String × Document)) : List Document :=
  (members.filter fun m => f.answersTo m.1).map (·.2)

/-- Whether a field may have these values: one that is accepted, or none if it can do without. -/
def FieldSpec.Admits (f : FieldSpec Document) : List Document → Prop
  | [] => f.isRequired = false
  | [d] => f.check d = .ok ()
  | _ => False

/-- What the values given for a field say: the default when there is none, and else what the only
one says. -/
inductive Once {α : Type} (Denotes : Document → α → Prop) (default : Option α) :
    List Document → α → Prop
  | absent {a : α} (h : default = some a) : Once Denotes default [] a
  | given {d : Document} {a : α} (h : Denotes d a) : Once Denotes default [d] a

namespace Json.Layout

/-- The values that members give, by the names of the fields. -/
def named (l : Json.Layout) (members : List (String × Document)) : Values Document :=
  members.filterMap fun m => (l.field? m.1).map fun f => (f.name, m.2)

/-- Whether no key stands for two fields of a layout. -/
def Separates (l : Json.Layout) : Prop := (l.fields.flatMap FieldSpec.names).Nodup

variable {l : Json.Layout} {seen seen' values : Values Document}
variable {raw rest : List (List Char × Document)} {members : List (String × Document)}

theorem scanMembers_cons_eq_ok_iff {rawKey : List Char} {d : Document} (complete : d.isComplete) :
    l.scanMembers seen ((rawKey, d) :: rest) = .ok seen' ↔ ∃ key, resolved rawKey = .ok key ∧
      (l.field? key = none ∧ l.scanMembers seen rest = .ok seen' ∨
        ∃ f, l.field? key = some f ∧ seen.lookup f.name = none ∧ f.check d = .ok () ∧
          l.scanMembers (seen ++ [(f.name, d)]) rest = .ok seen') := by
  rw [scanMembers, Except.bind_eq_ok_iff]
  refine exists_congr fun key => and_congr_right fun _ => ?_
  cases found : l.field? key with
  | none => simp [complete]
  | some f =>
      simp only [reduceCtorEq, false_and, false_or, Option.some.injEq, exists_eq_left']
      cases seen.lookup f.name with
      | some => simp
      | none =>
          simp only [Option.isSome_none, Bool.false_eq_true, if_false, true_and,
            Except.bind_eq_ok_iff]
          constructor
          · rintro ⟨_, checked, done⟩
            exact ⟨checked, done⟩
          · rintro ⟨checked, done⟩
            exact ⟨(), checked, done⟩

theorem lookup_eq_none_iff_not_mem {name : String} :
    seen.lookup name = none ↔ name ∉ seen.map (·.1) := by
  rw [List.lookup_eq_none_iff, List.mem_map]
  constructor
  · rintro other ⟨entry, member, rfl⟩
    simpa using other entry member
  · intro other entry member
    have apart : name ≠ entry.1 := fun same => other ⟨entry, member, same.symm⟩
    simpa using apart

theorem nodup_append_singleton_iff {name : String} {d : Document} :
    ((seen ++ [(name, d)]).map (·.1)).Nodup ↔
      (seen.map (·.1)).Nodup ∧ seen.lookup name = none := by
  rw [lookup_eq_none_iff_not_mem, List.map_append, List.map_singleton, ← List.concat_eq_append,
    List.nodup_concat, and_comm]

theorem named_cons_of_none {m : String × Document} (other : l.field? m.1 = none) :
    l.named (m :: members) = l.named members := by
  simp [named, other]

theorem named_cons_of_some {m : String × Document} {f : FieldSpec Document}
    (found : l.field? m.1 = some f) :
    l.named (m :: members) = (f.name, m.2) :: l.named members := by
  simp [named, found]

/-- The members of a record are looked through without a problem just if they have keys, give no
field twice, and give values that are accepted. -/
theorem scanMembers_eq_ok_iff (complete : Document.haveCompleteValues raw)
    (distinct : (seen.map (·.1)).Nodup) : l.scanMembers seen raw = .ok seen' ↔
      ∃ members, Keyed raw members ∧ seen' = seen ++ l.named members ∧ (seen'.map (·.1)).Nodup ∧
        ∀ m ∈ members, ∀ f, l.field? m.1 = some f → f.check m.2 = .ok () := by
  -- The values seen so far grow, and no name comes up twice among them.
  induction raw generalizing seen with
  | nil =>
      constructor
      · intro done
        cases done
        exact ⟨[], .nil, by simp [named], distinct, by simp⟩
      · rintro ⟨_, keyed, rfl, _, _⟩
        cases keyed
        simp [scanMembers, named]
  | cons written rest ih =>
      obtain ⟨rawKey, d⟩ := written
      rw [Document.haveCompleteValues, Bool.and_eq_true] at complete
      rw [scanMembers_cons_eq_ok_iff complete.1]
      constructor
      · rintro ⟨key, read, ⟨other, done⟩ | ⟨f, found, new, checked, done⟩⟩
        · obtain ⟨members, keyed, rfl, distinct', checks⟩ := (ih complete.2 distinct).mp done
          refine ⟨(key, d) :: members, .cons ⟨read, rfl⟩ keyed, ?_, distinct', ?_⟩
          · rw [named_cons_of_none other]
          · simpa [other] using checks
        · have distinct₁ : ((seen ++ [(f.name, d)]).map (·.1)).Nodup :=
            nodup_append_singleton_iff.mpr ⟨distinct, new⟩
          obtain ⟨members, keyed, rfl, distinct', checks⟩ := (ih complete.2 distinct₁).mp done
          refine ⟨(key, d) :: members, .cons ⟨read, rfl⟩ keyed, ?_, distinct', ?_⟩
          · rw [named_cons_of_some found, List.append_assoc, List.singleton_append]
          · rw [List.forall_mem_cons]
            refine ⟨?_, checks⟩
            intro g found'
            cases found.symm.trans found'
            exact checked
      · rintro ⟨members, keyed, whole, distinct', checks⟩
        cases keyed with
        | @cons _ member _ members here keyed =>
            obtain ⟨key, _⟩ := member
            obtain ⟨read, same⟩ := here
            cases same
            rw [List.forall_mem_cons] at checks
            refine ⟨key, read, ?_⟩
            cases found : l.field? key with
            | none =>
                rw [named_cons_of_none found] at whole
                have others := (ih complete.2 distinct).mpr
                  ⟨members, keyed, whole, distinct', checks.2⟩
                exact .inl ⟨rfl, others⟩
            | some f =>
                rw [named_cons_of_some found, List.append_cons] at whole
                have distinct₁ : ((seen ++ [(f.name, d)]).map (·.1)).Nodup := by
                  rw [whole, List.map_append] at distinct'
                  exact distinct'.of_append_left
                have others := (ih complete.2 distinct₁).mpr
                  ⟨members, keyed, whole, distinct', checks.2⟩
                have new := (nodup_append_singleton_iff.mp distinct₁).2
                exact .inr ⟨f, rfl, new, checks.1 f found, others⟩

section Separate

variable {f g : FieldSpec Document} {key : String}

theorem answersTo_name (f : FieldSpec Document) : f.answersTo f.name :=
  FieldSpec.answersTo_iff.mpr List.mem_cons_self

theorem field?_eq_some_iff (separate : l.Separates) :
    l.field? key = some f ↔ f ∈ l.fields ∧ f.answersTo key := by
  constructor
  · intro found
    have answers := List.find?_some found
    exact ⟨List.mem_of_find?_eq_some found, answers⟩
  · rintro ⟨member, answers⟩
    obtain ⟨before, after, split⟩ := List.append_of_mem member
    refine List.find?_eq_some_iff_append.mpr ⟨answers, before, after, split, ?_⟩
    intro g earlier
    have apart := (List.nodup_flatMap.mp separate).2
    rw [split, List.pairwise_append] at apart
    have disjoint : g.names.Disjoint f.names := apart.2.2 g earlier f List.mem_cons_self
    rw [Bool.not_eq_true', Bool.eq_false_iff]
    intro answers'
    exact disjoint (FieldSpec.answersTo_iff.mp answers') (FieldSpec.answersTo_iff.mp answers)

theorem eq_of_name_eq (separate : l.Separates) (hf : f ∈ l.fields) (hg : g ∈ l.fields)
    (same : g.name = f.name) : g = f := by
  have first := (field?_eq_some_iff separate).mpr ⟨hf, answersTo_name f⟩
  have second := (field?_eq_some_iff separate).mpr ⟨hg, answersTo_name g⟩
  rw [same] at second
  exact Option.some.inj (second.symm.trans first)

/-- The values by the name of a field are those that its names give. -/
theorem filter_named (separate : l.Separates) (hf : f ∈ l.fields) :
    ((l.named members).filter (·.1 == f.name)).map (·.2) = f.given members := by
  induction members with
  | nil => rfl
  | cons m members ih =>
      simp only [named, FieldSpec.given] at ih ⊢
      cases found : l.field? m.1 with
      | none =>
          have other : f.answersTo m.1 = false := by
            by_contra answers
            rw [(field?_eq_some_iff separate).mpr ⟨hf, by simpa using answers⟩] at found
            cases found
          simpa [found, other] using ih
      | some g =>
          obtain ⟨hg, answers⟩ := (field?_eq_some_iff separate).mp found
          by_cases same : g = f
          · subst same
            simpa [found, answers] using ih
          · have apart : g.name ≠ f.name := fun named => same (eq_of_name_eq separate hf hg named)
            have other : f.answersTo m.1 = false := by
              by_contra answers'
              rw [(field?_eq_some_iff separate).mpr ⟨hf, by simpa using answers'⟩] at found
              exact same (Option.some.inj found).symm
            simpa [found, other, apart] using ih

theorem lookup_eq_head?_filter (values : Values Document) (name : String) :
    values.lookup name = ((values.filter (·.1 == name)).map (·.2)).head? := by
  induction values with
  | nil => rfl
  | cons entry values ih =>
      obtain ⟨other, d⟩ := entry
      by_cases same : other = name
      · simp [same]
      · have apart : (name == other) = false := beq_eq_false_iff_ne.mpr (Ne.symm same)
        rw [List.lookup_cons, apart, List.filter_cons_of_neg (by simpa using same)]
        exact ih

theorem lookup_named (separate : l.Separates) (hf : f ∈ l.fields) :
    (l.named members).lookup f.name = (f.given members).head? := by
  rw [lookup_eq_head?_filter, filter_named separate hf]

/-- No name comes up twice among the values just if no field is given twice. -/
theorem nodup_named_iff (separate : l.Separates) :
    ((l.named members).map (·.1)).Nodup ↔ ∀ f ∈ l.fields, (f.given members).length ≤ 1 := by
  have counted (name : String) : ((l.named members).map (·.1)).count name =
      (((l.named members).filter (·.1 == name)).map (·.2)).length := by
    rw [List.count, List.countP_map, List.countP_eq_length_filter, List.length_map]
    rfl
  rw [List.nodup_iff_count_le_one]
  constructor
  · intro once f hf
    rw [← filter_named separate hf, ← counted]
    exact once f.name
  · intro once name
    by_cases given : name ∈ (l.named members).map (·.1)
    · obtain ⟨entry, member, rfl⟩ := List.mem_map.mp given
      obtain ⟨m, -, answered⟩ := List.mem_filterMap.mp member
      obtain ⟨f, found, rfl⟩ := Option.map_eq_some_iff.mp answered
      have hf := ((field?_eq_some_iff separate).mp found).1
      rw [counted, filter_named separate hf]
      exact once f hf
    · rw [List.count_eq_zero_of_not_mem given]
      exact Nat.zero_le 1

theorem complete_named_eq_ok_iff (separate : l.Separates) :
    l.complete (l.named members) = .ok values ↔
      values = l.named members ∧ ∀ f ∈ l.fields, f.isRequired → f.given members ≠ [] := by
  have missing : ∀ f ∈ l.fields, ((l.named members).lookup f.name).isNone ↔
      f.given members = [] := by
    intro f hf
    rw [lookup_named separate hf, Option.isNone_iff_eq_none, List.head?_eq_none_iff]
  rw [Layout.complete]
  split
  · next f lacking =>
      have hf := List.mem_of_find?_eq_some lacking
      have lacks := List.find?_some lacking
      rw [Bool.and_eq_true, missing f hf] at lacks
      constructor
      · intro refused
        cases refused
      · rintro ⟨-, all⟩
        exact absurd lacks.2 (all f hf lacks.1)
  · next none =>
      rw [List.find?_eq_none] at none
      have all : ∀ f ∈ l.fields, f.isRequired → f.given members ≠ [] := by
        intro f hf required empty
        exact none f hf (by rw [Bool.and_eq_true, missing f hf]; exact ⟨required, empty⟩)
      constructor
      · intro same
        exact ⟨(Except.ok.inj same).symm, all⟩
      · rintro ⟨rfl, -⟩
        rfl

theorem admits_iff {given : List Document} : f.Admits given ↔
    given.length ≤ 1 ∧ (∀ d ∈ given, f.check d = .ok ()) ∧ (f.isRequired → given ≠ []) := by
  rcases given with _ | ⟨d, _ | ⟨d', given⟩⟩ <;> simp [FieldSpec.Admits]

/-- A record is found in an object just if the members give every field as often and with such
values as it admits. -/
theorem values_object_eq_ok_iff (separate : l.Separates)
    (complete : Document.haveCompleteValues raw) : l.values (.object raw .closed) = .ok values ↔
      ∃ members, Keyed raw members ∧ values = l.named members ∧
        ∀ f ∈ l.fields, f.Admits (f.given members) := by
  have checked (members : List (String × Document)) :
      (∀ m ∈ members, ∀ f, l.field? m.1 = some f → f.check m.2 = .ok ()) ↔
      ∀ f ∈ l.fields, ∀ d ∈ f.given members, f.check d = .ok () := by
    simp only [field?_eq_some_iff separate, FieldSpec.given, List.mem_map, List.mem_filter]
    constructor
    · rintro checks f hf d ⟨m, ⟨member, answers⟩, rfl⟩
      exact checks m member f ⟨hf, answers⟩
    · rintro checks m member f ⟨hf, answers⟩
      exact checks f hf m.2 ⟨m, ⟨member, answers⟩, rfl⟩
  have none : (([] : Values Document).map (·.1)).Nodup := List.nodup_nil
  simp only [Json.Layout.values, Except.bind_eq_ok_iff, scanMembers_eq_ok_iff complete none,
    List.nil_append, admits_iff]
  constructor
  · rintro ⟨_, ⟨members, keyed, rfl, once, checks⟩, _, _, whole⟩
    obtain ⟨rfl, required⟩ := (complete_named_eq_ok_iff separate).mp whole
    refine ⟨members, keyed, rfl, fun f hf => ⟨?_, ?_, required f hf⟩⟩
    · exact (nodup_named_iff separate).mp once f hf
    · exact (checked members).mp checks f hf
  · rintro ⟨members, keyed, rfl, admits⟩
    have once := (nodup_named_iff separate).mpr fun f hf => (admits f hf).1
    have checks := (checked members).mpr fun f hf => (admits f hf).2.1
    have whole := (complete_named_eq_ok_iff separate).mpr ⟨rfl, fun f hf => (admits f hf).2.2⟩
    exact ⟨_, ⟨members, keyed, rfl, once, checks⟩, _, rfl, whole⟩

end Separate

end Json.Layout

section Fields

variable {α : Type} {f : Field Document α} {l : Json.Layout}
variable {members : List (String × Document)} {given : List Document} {a : α}

/-- A field admits what says a value of it. -/
theorem Field.admits_spec_iff :
    f.spec.Admits given ↔ ∃ a, Once (f.decode · = .ok ·) f.default given a := by
  constructor
  · intro admits
    match given, admits with
    | [], optional =>
        obtain ⟨a, default⟩ := Option.isSome_iff_exists.mp (Option.isNone_eq_false_iff.mp optional)
        exact ⟨a, .absent default⟩
    | [d], checked =>
        obtain ⟨a, decoded, -⟩ := Except.map_eq_ok_iff.mp checked
        exact ⟨a, .given decoded⟩
  · rintro ⟨a, once⟩
    cases once with
    | absent default => simp [FieldSpec.Admits, Field.spec, default]
    | given decoded => exact Except.map_eq_ok_iff.mpr ⟨a, decoded, rfl⟩

/-- What is read of a field is what its values say. -/
theorem Field.get_named_eq_ok_iff (separate : l.Separates) (known : f.spec ∈ l.fields)
    (admits : f.spec.Admits (f.spec.given members)) : f.get (l.named members) = .ok a ↔
      Once (f.decode · = .ok ·) f.default (f.spec.given members) a := by
  have found : (l.named members).lookup f.name = (f.spec.given members).head? :=
    Json.Layout.lookup_named separate known
  rw [Field.get, found]
  match f.spec.given members, admits with
  | [], optional =>
      obtain ⟨value, default⟩ :=
        Option.isSome_iff_exists.mp (Option.isNone_eq_false_iff.mp optional)
      rw [default]
      constructor
      · intro same
        cases same
        exact .absent rfl
      · intro once
        cases once with
        | absent same => exact congrArg Except.ok (Option.some.inj same)
  | [d], _ =>
      constructor
      · intro decoded
        exact .given decoded
      · intro once
        cases once with
        | given decoded => exact decoded

end Fields

end SqlLint
