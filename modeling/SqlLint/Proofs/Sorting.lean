import Mathlib

/-!
# Sorting by a key

A sort is stable if entries with one key keep their order. A list that is in the order of its keys
is determined by its entries with each key, so there is just one stable sort, and picking out some
of the entries may come before sorting or after it.
-/

namespace List

variable {α κ : Type} [LinearOrder κ] {key : α → κ} {l l' : List α}

theorem filter_key_cons_self (a : α) (l : List α) :
    (a :: l).filter (key · = key a) = a :: l.filter (key · = key a) :=
  filter_cons_of_pos (by simp)

/-- The first key of a sorted list is no greater than the keys that another list has, if the two
have the same entries with each key. -/
theorem key_le_of_filter_eq {a b : α} (sorted : (a :: l).Pairwise (key · ≤ key ·))
    (same : ∀ k, (a :: l).filter (key · = k) = (b :: l').filter (key · = k)) : key a ≤ key b := by
  have member : b ∈ (a :: l).filter (key · = key b) := by
    rw [same, filter_key_cons_self]
    exact mem_cons_self
  rcases mem_cons.mp (mem_filter.mp member).1 with rfl | later
  · exact le_rfl
  · exact rel_of_pairwise_cons sorted later

/-- Sorted lists with the same entries for each key are equal. -/
theorem eq_of_sorted_of_filter_eq (sorted : l.Pairwise (key · ≤ key ·))
    (sorted' : l'.Pairwise (key · ≤ key ·))
    (same : ∀ k, l.filter (key · = k) = l'.filter (key · = k)) : l = l' := by
  induction l generalizing l' with
  | nil =>
      cases l' with
      | nil => rfl
      | cons b l' =>
          have none := same (key b)
          rw [filter_key_cons_self] at none
          cases none
  | cons a l ih =>
      cases l' with
      | nil =>
          have none := same (key a)
          rw [filter_key_cons_self] at none
          cases none
      | cons b l' =>
          -- Both have the least key of all, so each is the first entry with that key in its list.
          have first : key a = key b := le_antisymm (key_le_of_filter_eq sorted same)
            (key_le_of_filter_eq sorted' fun k => (same k).symm)
          have here := same (key a)
          rw [filter_key_cons_self, first, filter_key_cons_self, cons.injEq] at here
          obtain ⟨rfl, here⟩ := here
          have tails : ∀ k, l.filter (key · = k) = l'.filter (key · = k) := by
            intro k
            by_cases ties : key a = k
            · rw [← ties, here]
            · simpa [ties] using same k
          rw [ih sorted.of_cons sorted'.of_cons tails]

section MergeSort

variable (key l)

theorem key_le_trans (a b c : α) (below : decide (key a ≤ key b)) (above : decide (key b ≤ key c)) :
    decide (key a ≤ key c) :=
  decide_eq_true ((of_decide_eq_true below).trans (of_decide_eq_true above))

theorem key_le_total (a b : α) : decide (key a ≤ key b) || decide (key b ≤ key a) := by
  simpa using le_total (key a) (key b)

theorem sorted_mergeSort_key :
    (l.mergeSort fun a b => decide (key a ≤ key b)).Pairwise (key · ≤ key ·) :=
  (pairwise_mergeSort (key_le_trans key) (key_le_total key) l).imp of_decide_eq_true

/-- Entries with one key keep their order. -/
theorem filter_key_mergeSort (k : κ) :
    (l.mergeSort fun a b => decide (key a ≤ key b)).filter (key · = k) =
      l.filter (key · = k) := by
  have ties : (l.filter (key · = k)).Pairwise fun a b => decide (key a ≤ key b) := by
    refine pairwise_of_forall_mem_list ?_
    intro a within b within'
    simp only [mem_filter, decide_eq_true_eq] at within within'
    simp [within.2, within'.2]
  have kept := (sublist_mergeSort (key_le_trans key) (key_le_total key) ties
    filter_sublist).filter (key · = k)
  simp only [filter_filter, Bool.and_self] at kept
  exact (kept.eq_of_length ((mergeSort_perm l _).filter _).length_eq.symm).symm

/-- Picking out entries commutes with sorting. -/
theorem filter_mergeSort_key (p : α → Bool) :
    (l.mergeSort fun a b => decide (key a ≤ key b)).filter p =
      (l.filter p).mergeSort fun a b => decide (key a ≤ key b) := by
  refine eq_of_sorted_of_filter_eq ((sorted_mergeSort_key key l).filter p)
    (sorted_mergeSort_key key _) ?_
  intro k
  rw [filter_key_mergeSort, filter_comm, filter_key_mergeSort, filter_comm]

end MergeSort

end List
