/-!
# Dictionaries

A finite map from texts to values, kept as a list in strictly increasing order of the keys. Texts
are ordered by their characters, which for UTF-8 is the order of their bytes. The order makes the
list a canonical form: dictionaries with the same entries are equal, and listing one is
deterministic. `get?` is the view of a dictionary; every operation is characterised by it.
-/

namespace SqlLint

/-- A finite map from texts to values, sorted by key. -/
structure Dictionary (α : Type) where
  entries : List (String × α)
  sorted : entries.Pairwise fun a b => a.1 < b.1

namespace Dictionary

variable {α : Type}

/-- The list with `key` bound to `value`, in the place the order gives it. -/
def insertSorted (key : String) (value : α) : List (String × α) → List (String × α)
  | [] => [(key, value)]
  | entry :: rest =>
    if key < entry.1 then (key, value) :: entry :: rest
    else if entry.1 < key then entry :: insertSorted key value rest
    else (key, value) :: rest

theorem fst_mem_insertSorted {key : String} {value : α} {entries : List (String × α)}
    {e : String × α} (h : e ∈ insertSorted key value entries) :
    e = (key, value) ∨ e ∈ entries := by
  induction entries with
  | nil => simpa [insertSorted] using h
  | cons entry rest ih =>
    unfold insertSorted at h
    split at h
    · simpa using h
    · split at h
      · rcases List.mem_cons.1 h with rfl | h
        · simp
        · rcases ih h with h | h <;> simp [h]
      · rcases List.mem_cons.1 h with h | h <;> simp [h]

theorem pairwise_insertSorted (key : String) (value : α) {entries : List (String × α)}
    (h : entries.Pairwise fun a b => a.1 < b.1) :
    (insertSorted key value entries).Pairwise fun a b => a.1 < b.1 := by
  induction entries with
  | nil => simp [insertSorted]
  | cons entry rest ih =>
    rw [List.pairwise_cons] at h
    unfold insertSorted
    split
    · next hlt =>
      refine List.pairwise_cons.2 ⟨fun e he => ?_, List.pairwise_cons.2 h⟩
      rcases List.mem_cons.1 he with rfl | he
      · exact hlt
      · exact String.lt_trans hlt (h.1 e he)
    · next hnlt =>
      split
      · next hgt =>
        refine List.pairwise_cons.2 ⟨fun e he => ?_, ih h.2⟩
        rcases fst_mem_insertSorted he with rfl | he
        · exact hgt
        · exact h.1 e he
      · next hngt =>
        have heq : key = entry.1 :=
          String.le_antisymm (String.not_lt.1 hngt) (String.not_lt.1 hnlt)
        refine List.pairwise_cons.2 ⟨fun e he => ?_, h.2⟩
        exact heq ▸ h.1 e he

def empty : Dictionary α := ⟨[], .nil⟩

instance : EmptyCollection (Dictionary α) := ⟨empty⟩
instance : Inhabited (Dictionary α) := ⟨empty⟩

/-- Binds `key` to `value`, in place of what it was bound to. -/
def insert (d : Dictionary α) (key : String) (value : α) : Dictionary α :=
  ⟨insertSorted key value d.entries, pairwise_insertSorted key value d.sorted⟩

def get? (d : Dictionary α) (key : String) : Option α :=
  d.entries.lookup key

def contains (d : Dictionary α) (key : String) : Bool :=
  (d.get? key).isSome

/-- Binds `key` to `value` unless it is bound already. -/
def insertIfNew (d : Dictionary α) (key : String) (value : α) : Dictionary α :=
  if d.contains key then d else d.insert key value

/-- The dictionary of a list of bindings; of two for one key the later one counts. -/
def ofList (bindings : List (String × α)) : Dictionary α :=
  bindings.foldl (fun d b => d.insert b.1 b.2) empty

def keys (d : Dictionary α) : List String := d.entries.map (·.1)

def values (d : Dictionary α) : List α := d.entries.map (·.2)

def size (d : Dictionary α) : Nat := d.entries.length

/-- Dictionaries with the same entries are equal. -/
theorem ext_entries {d e : Dictionary α} (h : d.entries = e.entries) : d = e := by
  cases d; cases e; cases h; rfl

instance [DecidableEq α] : DecidableEq (Dictionary α) := fun d e =>
  if h : d.entries = e.entries then .isTrue (ext_entries h)
  else .isFalse fun hd => h (hd ▸ rfl)

theorem lookup_insertSorted (key : String) (value : α) (other : String)
    (entries : List (String × α)) :
    (insertSorted key value entries).lookup other
      = if other = key then some value else entries.lookup other := by
  induction entries with
  | nil =>
    by_cases h : other = key
    · simp [insertSorted, h]
    · simp [insertSorted, List.lookup_cons, beq_eq_false_iff_ne.2 h, h]
  | cons entry rest ih =>
    unfold insertSorted
    split
    · by_cases h : other = key
      · simp [h]
      · simp [List.lookup_cons, beq_eq_false_iff_ne.2 h, h]
    · split
      · next hgt =>
        rw [List.lookup_cons, ih, List.lookup_cons]
        by_cases h : other = key
        · have hne : key ≠ entry.1 := fun he => String.lt_irrefl _ (he ▸ hgt)
          simp [h, beq_eq_false_iff_ne.2 hne]
        · simp [h]
      · next hnlt hngt =>
        have heq : key = entry.1 :=
          String.le_antisymm (String.not_lt.1 hngt) (String.not_lt.1 hnlt)
        by_cases h : other = key
        · simp [h]
        · have hne : other ≠ entry.1 := heq ▸ h
          rw [List.lookup_cons, List.lookup_cons, beq_eq_false_iff_ne.2 h,
            beq_eq_false_iff_ne.2 hne, if_neg h]

@[simp] theorem get?_insert (d : Dictionary α) (key : String) (value : α) (other : String) :
    (d.insert key value).get? other = if other = key then some value else d.get? other :=
  lookup_insertSorted key value other d.entries

@[simp] theorem get?_empty (key : String) : (empty : Dictionary α).get? key = none := rfl

end Dictionary
end SqlLint
