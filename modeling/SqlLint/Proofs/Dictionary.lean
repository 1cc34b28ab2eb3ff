import Mathlib
import SqlLint.Dictionary

/-!
# What dictionaries hold

Dictionaries that are built up by insertions, seen through `get?`. Since the keys of a dictionary
increase, its list of entries and `get?` say the same.
-/

namespace SqlLint.Dictionary

variable {α : Type} {d : Dictionary α} {key : String} {value : α}

theorem mem_of_lookup {entries : List (String × α)} (h : entries.lookup key = some value) :
    (key, value) ∈ entries := by
  obtain ⟨before, after, rfl, _⟩ := List.lookup_eq_some_iff.mp h
  simp

/-- An entry of a dictionary is what its key is bound to. -/
theorem mem_entries_iff : (key, value) ∈ d.entries ↔ d.get? key = some value := by
  constructor
  · intro member
    obtain ⟨before, after, split⟩ := List.append_of_mem member
    have ordered := d.sorted
    rw [split, List.pairwise_append] at ordered
    refine List.lookup_eq_some_iff.mpr ⟨before, after, split, ?_⟩
    intro entry inside
    have below : entry.1 < key := ordered.2.2 entry inside (key, value) (by simp)
    have other : key ≠ entry.1 := by
      intro same
      exact String.lt_irrefl key (same ▸ below)
    simpa using other
  · exact mem_of_lookup

/-- Dictionaries that bind all keys alike are equal. -/
theorem ext_get? {e : Dictionary α} (same : ∀ key, d.get? key = e.get? key) : d = e := by
  have irrefl : Std.Irrefl fun a b : String × α => a.1 < b.1 := ⟨fun a => String.lt_irrefl a.1⟩
  have antisymm : Std.Antisymm fun a b : String × α => a.1 < b.1 :=
    ⟨fun _ _ below above => absurd above (String.lt_asymm below)⟩
  refine ext_entries (d.sorted.eq_of_mem_iff e.sorted fun entry => ?_)
  rw [mem_entries_iff, mem_entries_iff, same]

/-- The dictionary of a list of bindings binds a key as the last one in the list does. -/
theorem get?_ofList (bindings : List (String × α)) (key : String) :
    (ofList bindings).get? key = bindings.reverse.lookup key := by
  induction bindings using List.reverseRecOn with
  | nil => rfl
  | append_singleton bindings b ih =>
      rw [ofList] at ih ⊢
      rw [List.foldl_append, List.foldl_cons, List.foldl_nil, get?_insert, ih, List.reverse_append,
        List.reverse_singleton, List.singleton_append, List.lookup_cons]
      by_cases same : key = b.1
      · simp [same]
      · rw [if_neg same, beq_eq_false_iff_ne.mpr same]

/-- A dictionary that binds keys by a function holds just these keys, repeated or not. -/
theorem get?_ofList_map (f : String → α) (keys : List String) (key : String) :
    (ofList (keys.map fun k => (k, f k))).get? key
      = if key ∈ keys then some (f key) else none := by
  have inserted : ∀ (keys : List String) (d : Dictionary α),
      ((keys.map fun k => (k, f k)).foldl (fun d b => d.insert b.1 b.2) d).get? key
        = if key ∈ keys then some (f key) else d.get? key := by
    intro keys
    induction keys with
    | nil => simp
    | cons k keys ih =>
        intro d
        rw [List.map_cons, List.foldl_cons, ih, get?_insert]
        by_cases later : key ∈ keys
        · simp [later]
        · by_cases same : key = k
          · simp [same]
          · simp [later, same]
  exact inserted keys empty

theorem get?_insertIfNew (d : Dictionary α) (key : String) (value : α) (other : String) :
    (d.insertIfNew key value).get? other
      = (d.get? other).or (if other = key then some value else none) := by
  rw [insertIfNew, contains]
  by_cases bound : (d.get? key).isSome
  · obtain ⟨old, found⟩ := Option.isSome_iff_exists.mp bound
    rw [if_pos bound]
    by_cases same : other = key
    · simp [same, found]
    · simp [same]
  · rw [if_neg bound, get?_insert]
    by_cases same : other = key
    · simp [same, Option.not_isSome_iff_eq_none.mp bound]
    · simp [same]

/-- Keys that are filled in take the value only where nothing is bound. -/
theorem get?_foldl_insertIfNew (value : α) (keys : List String) (d : Dictionary α) (key : String) :
    (keys.foldl (fun d k => d.insertIfNew k value) d).get? key
      = (d.get? key).or (if key ∈ keys then some value else none) := by
  induction keys generalizing d with
  | nil => simp
  | cons k keys ih =>
      rw [List.foldl_cons, ih, get?_insertIfNew, Option.or_assoc]
      congr 1
      by_cases same : key = k
      · simp [same]
      · simp [same]

/-- A binding under a new key is one more entry. -/
theorem length_insertSorted {entries : List (String × α)} (new : entries.lookup key = none) :
    (insertSorted key value entries).length = entries.length + 1 := by
  induction entries with
  | nil => rfl
  | cons entry rest ih =>
      rw [List.lookup_eq_none_iff] at new
      obtain ⟨other, others⟩ := List.forall_mem_cons.mp new
      rw [insertSorted]
      split
      case isTrue => rfl
      case isFalse above =>
        split
        case isTrue =>
          rw [List.length_cons, ih (List.lookup_eq_none_iff.mpr others), List.length_cons]
        case isFalse below =>
          have same : key = entry.1 :=
            String.le_antisymm (String.not_lt.mp below) (String.not_lt.mp above)
          exact absurd same (by simpa using other)

theorem size_insertIfNew (d : Dictionary α) (key : String) (value : α) :
    (d.insertIfNew key value).size = if d.contains key then d.size else d.size + 1 := by
  rw [insertIfNew]
  split
  case isTrue => rfl
  case isFalse new =>
    apply length_insertSorted
    exact Option.not_isSome_iff_eq_none.mp new

theorem insertSorted_of_last {entries : List (String × α)} (last : ∀ e ∈ entries, e.1 < key) :
    insertSorted key value entries = entries ++ [(key, value)] := by
  induction entries with
  | nil => rfl
  | cons entry rest ih =>
      have before : entry.1 < key := last entry List.mem_cons_self
      rw [insertSorted, if_neg (String.lt_asymm before), if_pos before,
        ih fun e member => last e (List.mem_cons_of_mem entry member)]
      rfl

/-- Bindings in increasing order are appended as they stand. -/
theorem entries_foldl_insert {bindings : List (String × α)} (d : Dictionary α)
    (sorted : (d.entries ++ bindings).Pairwise fun a b => a.1 < b.1) :
    (bindings.foldl (fun d b => d.insert b.1 b.2) d).entries = d.entries ++ bindings := by
  induction bindings generalizing d with
  | nil => simp
  | cons b rest ih =>
      have appended : (d.insert b.1 b.2).entries = d.entries ++ [b] := by
        refine insertSorted_of_last fun e member => ?_
        exact (List.pairwise_append.mp sorted).2.2 e member b List.mem_cons_self
      rw [List.foldl_cons, ih, appended, List.append_assoc, List.singleton_append]
      rwa [appended, List.append_assoc]

/-- A dictionary is the dictionary of its entries. -/
@[simp] theorem ofList_entries (d : Dictionary α) : ofList d.entries = d :=
  ext_entries (entries_foldl_insert empty d.sorted)

theorem mem_keys_iff : key ∈ d.keys ↔ (d.get? key).isSome := by
  rw [keys, List.mem_map, Option.isSome_iff_exists]
  constructor
  · rintro ⟨entry, member, rfl⟩
    exact ⟨entry.2, mem_entries_iff.mp member⟩
  · rintro ⟨value, bound⟩
    exact ⟨(key, value), mem_entries_iff.mpr bound, rfl⟩

/-- The dictionary with every value replaced, each by what a function makes of it. -/
def map {β : Type} (f : α → β) (d : Dictionary α) : Dictionary β where
  entries := d.entries.map fun e => (e.1, f e.2)
  sorted := List.pairwise_map.mpr d.sorted

theorem get?_map {β : Type} (f : α → β) (d : Dictionary α) (key : String) :
    (d.map f).get? key = (d.get? key).map f := by
  have looked : ∀ entries : List (String × α),
      (entries.map fun e => (e.1, f e.2)).lookup key = (entries.lookup key).map f := by
    intro entries
    induction entries with
    | nil => rfl
    | cons e rest ih =>
        rw [List.map_cons, List.lookup_cons, List.lookup_cons, ih]
        cases key == e.1 <;> rfl
  exact looked d.entries

end SqlLint.Dictionary
