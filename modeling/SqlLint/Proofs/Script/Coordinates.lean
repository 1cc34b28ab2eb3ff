import SqlLint.Proofs.Indexed.Places
import SqlLint.Proofs.Script.Boundaries

/-!
# Line and column of a boundary

On the boundaries of a text, line and column say what they seem to say: how many newlines stand
before the offset, and how many characters stand between it and the last of these. They increase with
the offset, so they tell the boundary, and what is sorted by line and column is sorted by offset. The
table of line starts increases too, so the line of an offset can be looked for in any way that finds
where the starts go beyond the offset.
-/

namespace SqlLint

open String.Pos.Raw (IsValid)

namespace Indexed

variable {i : Nat} {bytes : List UInt8}

theorem lt_of_mem_startsAfter {start : Nat} (member : start ∈ startsAfter i bytes) : i < start := by
  induction bytes generalizing i with
  | nil => cases member
  | cons b bytes ih =>
      rw [startsAfter] at member
      split at member
      · rcases List.mem_cons.mp member with rfl | later
        · exact Nat.lt_succ_self i
        · exact Nat.lt_of_succ_lt (ih later)
      · exact Nat.lt_of_succ_lt (ih member)

theorem pairwise_startsAfter (i : Nat) (bytes : List UInt8) :
    (startsAfter i bytes).Pairwise (· < ·) := by
  induction bytes generalizing i with
  | nil => exact .nil
  | cons b bytes ih =>
      rw [startsAfter]
      split
      · exact .cons (fun _ later => lt_of_mem_startsAfter later) (ih _)
      · exact ih _

theorem pairwise_lineStarts (text : List Char) : (lineStarts text).Pairwise (· < ·) :=
  .cons (fun _ later => lt_of_mem_startsAfter later) (pairwise_startsAfter 0 _)

end Indexed

namespace Script

variable {s : Script} {i j : Nat}

/-- Two boundaries are in the order of their lines and columns. -/
theorem lt_iff_locate_lt_locate (first : IsValid s.text ⟨i⟩) (second : IsValid s.text ⟨j⟩) :
    i < j ↔ toLex (s.locate i) < toLex (s.locate j) := by
  have increasing {i j : Nat} (first : IsValid s.text ⟨i⟩) (second : IsValid s.text ⟨j⟩)
      (later : i < j) : toLex (s.locate i) < toLex (s.locate j) := by
    rw [locate_of_isValid first, locate_of_isValid second, Prod.Lex.toLex_lt_toLex]
    exact placeAt_precedes first second later
  constructor
  · exact increasing first second
  · intro below
    by_contra notLater
    rcases Nat.eq_or_lt_of_le (Nat.le_of_not_lt notLater) with rfl | earlier
    · exact lt_irrefl _ below
    · exact lt_asymm below (increasing second first earlier)

theorem le_iff_locate_le_locate (first : IsValid s.text ⟨i⟩) (second : IsValid s.text ⟨j⟩) :
    i ≤ j ↔ toLex (s.locate i) ≤ toLex (s.locate j) := by
  rw [← not_lt, ← not_lt, lt_iff_locate_lt_locate second first]

/-- Boundaries that are shown alike are the same. -/
theorem eq_of_locate_eq (first : IsValid s.text ⟨i⟩) (second : IsValid s.text ⟨j⟩)
    (same : s.locate i = s.locate j) : i = j := by
  have same : toLex (s.locate i) = toLex (s.locate j) := congrArg toLex same
  apply Nat.le_antisymm
  · exact (le_iff_locate_le_locate first second).mpr same.le
  · exact (le_iff_locate_le_locate second first).mpr same.ge

/-- What a boundary is shown as: the lines before it are ended, and the one it is on is not. -/
theorem exists_locate_eq (valid : IsValid s.text ⟨i⟩) :
    ∃ lines line after, s.text.toList = lines ++ line ++ after ∧
      (utf8 (lines ++ line)).length = i ∧ '\n' ∉ line ∧
      (lines = [] ∨ lines.getLast? = some '\n') ∧
      s.locate i = (1 + (lines ++ line).count '\n', 1 + line.length) := by
  rw [← String.ofList_toList (s := s.text), isValid_iff_exists_append] at valid
  obtain ⟨before, after, split, rfl⟩ := valid
  obtain ⟨lines, line, rfl, inside, ended⟩ := Indexed.exists_lines before
  refine ⟨lines, line, after, split, rfl, inside, ?_, ?_⟩
  · rcases ended with none | ⟨front, rfl⟩
    · exact .inl none
    · exact .inr List.getLast?_concat
  · have shown := Indexed.position_append (lines ++ line) after
    rw [← split, Indexed.position_eq_locate, Indexed.lineAfter_append inside,
      Indexed.columnAfter_append inside ended] at shown
    rw [locate, Except.ok.inj shown, List.count_append, List.count_eq_zero_of_not_mem inside,
      Nat.add_zero, Nat.add_comm 1, Nat.add_comm 1]

/-- Line and column of a boundary are one more than the number of newlines before it and one more
than the number of characters behind the last of these, also when the line is looked up in the table
of line starts, which increases. Boundaries are ordered by line and column as by offset. So line and
column tell the boundary, and sorting by them is sorting by offset, ties included. -/
theorem line_and_column_tell_boundaries (s : Script) :
    (∀ o, IsValid s.text ⟨o⟩ →
      (∃ lines line after, s.text.toList = lines ++ line ++ after ∧
        (utf8 (lines ++ line)).length = o ∧ '\n' ∉ line ∧
        (lines = [] ∨ lines.getLast? = some '\n') ∧
        s.locate o = (1 + (lines ++ line).count '\n', 1 + line.length)) ∧
      Indexed.position s.text.toList o = .ok (s.locate o)) ∧
    (Indexed.lineStarts s.text.toList).Pairwise (· < ·) ∧
    (∀ i j, IsValid s.text ⟨i⟩ → IsValid s.text ⟨j⟩ →
      (i < j ↔ toLex (s.locate i) < toLex (s.locate j))) ∧
    {o | IsValid s.text ⟨o⟩}.InjOn s.locate ∧
    ∀ (α : Type) (items : List α) (offset : α → Nat) (place : α → ℕ ×ₗ ℕ),
      (∀ a ∈ items, IsValid s.text ⟨offset a⟩ ∧ place a = toLex (s.locate (offset a))) →
      items.mergeSort (fun a b => place a ≤ place b) =
        items.mergeSort fun a b => offset a ≤ offset b := by
  refine ⟨?_, Indexed.pairwise_lineStarts _, ?_, ?_, ?_⟩
  · intro o valid
    exact ⟨exists_locate_eq valid, Indexed.position_eq_locate s.text.toList o⟩
  · intro i j first second
    exact lt_iff_locate_lt_locate first second
  · intro i first j second same
    exact eq_of_locate_eq first second same
  · intro α items offset place placed
    have alike : ∀ a ∈ items, ∀ b ∈ items,
        decide (place a ≤ place b) = decide (offset a ≤ offset b) := by
      intro a first b second
      obtain ⟨valid, shown⟩ := placed a first
      obtain ⟨valid', shown'⟩ := placed b second
      rw [shown, shown', decide_eq_decide]
      exact (le_iff_locate_le_locate valid valid').symm
    simpa using List.map_mergeSort (f := id) alike

/-- A text with wide characters, an empty line and a newline at its end. -/
def wideLines : String := "é\n\n日b\n"

theorem line_and_column_tell_boundaries_of_wideLines : ∃ s,
    ofText "a.sql" "" 120 wideLines = .ok s ∧
    [0, 2, 3, 4, 7, 8, 9].map s.locate =
      [(1, 1), (1, 2), (2, 1), (3, 1), (3, 2), (3, 3), (4, 1)] ∧
    toLex (s.locate 2) < toLex (s.locate 3) ∧
    [9, 2, 7, 0].mergeSort (fun i j => toLex (s.locate i) ≤ toLex (s.locate j)) =
      [9, 2, 7, 0].mergeSort (fun i j => i ≤ j) := by
  obtain ⟨s, made, text, shown⟩ : ∃ s, ofText "a.sql" "" 120 wideLines = .ok s ∧
      s.text = wideLines ∧ [0, 2, 3, 4, 7, 8, 9].map s.locate =
        [(1, 1), (1, 2), (2, 1), (3, 1), (3, 2), (3, 3), (4, 1)] :=
    ⟨_, by cbv, rfl, by decide +kernel⟩
  have valid : ∀ o ∈ [0, 2, 3, 7, 9], IsValid s.text ⟨o⟩ := by
    rw [text]
    decide +kernel
  obtain ⟨_, _, ordered, _, sorted⟩ := line_and_column_tell_boundaries s
  refine ⟨s, made, shown, ?_, ?_⟩
  · exact (ordered 2 3 (valid 2 (by decide)) (valid 3 (by decide))).mp (by decide)
  · apply sorted Nat [9, 2, 7, 0] id fun i => toLex (s.locate i)
    intro i member
    exact ⟨valid i (by revert i; decide), rfl⟩

end Script
end SqlLint
