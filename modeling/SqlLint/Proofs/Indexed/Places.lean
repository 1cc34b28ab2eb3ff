import SqlLint.Proofs.Indexed.Source

/-!
# Places found by offset

The table of line starts leads to the same line and column as reading the text from its front,
whatever the offset: on a boundary of two characters, inside of a character, or past the end.
-/

namespace SqlLint.Indexed

section Newlines

variable {c : Char} {text : List Char} {i offset : Nat} {bytes others : List UInt8}

theorem newline_mem_utf8_iff : '\n'.toUInt8 ∈ utf8 [c] ↔ c = '\n' := by
  rw [mem_utf8_iff (by decide), ← Char.toNat_inj]
  rfl

theorem count_utf8 (text : List Char) : (utf8 text).count '\n'.toUInt8 = text.count '\n' := by
  induction text with
  | nil => rfl
  | cons c text ih =>
      rw [utf8_cons, List.count_append, ih, List.count_cons, Nat.add_comm]
      congr 1
      by_cases newline : c = '\n'
      · subst newline
        rfl
      · have : '\n'.toUInt8 ∉ utf8 [c] := mt newline_mem_utf8_iff.mp newline
        simp [List.count_eq_zero_of_not_mem this, newline]

theorem startsAfter_append : startsAfter i (bytes ++ others) =
    startsAfter i bytes ++ startsAfter (i + bytes.length) others := by
  induction bytes generalizing i with
  | nil => rfl
  | cons b bytes ih =>
      rw [List.cons_append, startsAfter, startsAfter, ih, List.length_cons, Nat.add_right_comm,
        Nat.add_assoc]
      split <;> rfl

theorem length_startsAfter : (startsAfter i bytes).length = bytes.count '\n'.toUInt8 := by
  induction bytes generalizing i with
  | nil => rfl
  | cons b bytes ih =>
      rw [startsAfter, List.count_cons]
      split
      case isTrue newline => simp [ih, newline]
      case isFalse other => simp [ih, other]

/-- The starts up to an offset belong to the newlines before it. -/
theorem length_takeWhile_startsAfter :
    ((startsAfter i bytes).takeWhile (· ≤ offset)).length =
      (bytes.take (offset - i)).count '\n'.toUInt8 := by
  induction bytes generalizing i with
  | nil => simp [startsAfter]
  | cons b bytes ih =>
      by_cases later : i + 1 ≤ offset
      · have before : offset - i = offset - (i + 1) + 1 := by omega
        rw [before, List.take_succ_cons, List.count_cons, startsAfter]
        split
        case isTrue newline => simp [ih, newline, later]
        case isFalse other => simp [ih, other]
      · have before : offset - i = 0 ∧ offset - (i + 1) = 0 := by omega
        rw [before.1, List.take_zero, startsAfter]
        split
        case isTrue => simp [later]
        case isFalse => simp [ih, before.2]

theorem length_takeWhile_lineStarts :
    ((lineStarts text).takeWhile (· ≤ offset)).length =
      ((utf8 text).take offset).count '\n'.toUInt8 + 1 := by
  simp [lineStarts, length_takeWhile_startsAfter]

end Newlines

section Lines

variable {before after lines line text : List Char} {offset : Nat}

/-- What precedes a place: lines that are ended, and the beginning of one that is not. -/
theorem exists_lines (before : List Char) : ∃ lines line, before = lines ++ line ∧
    '\n' ∉ line ∧ (lines = [] ∨ ∃ front, lines = front ++ ['\n']) := by
  induction before using List.reverseRecOn with
  | nil => exact ⟨[], [], rfl, List.not_mem_nil, .inl rfl⟩
  | append_singleton before c ih =>
      by_cases newline : c = '\n'
      · subst newline
        exact ⟨before ++ ['\n'], [], by simp, List.not_mem_nil, .inr ⟨before, rfl⟩⟩
      · obtain ⟨lines, line, rfl, inside, ended⟩ := ih
        exact ⟨lines, line ++ [c], by simp, by simp [inside, Ne.symm newline], ended⟩

theorem lineAfter_append (inside : '\n' ∉ line) :
    lineAfter (lines ++ line) = lines.count '\n' + 1 := by
  simp [lineAfter, List.count_eq_zero_of_not_mem inside]

theorem columnAfter_append (inside : '\n' ∉ line)
    (ended : lines = [] ∨ ∃ front, lines = front ++ ['\n']) :
    columnAfter (lines ++ line) = line.length + 1 := by
  have all : ∀ c ∈ line.reverse, (decide (c ≠ '\n')) = true := by
    intro c member
    rw [decide_eq_true_eq]
    rintro rfl
    exact inside (List.mem_reverse.mp member)
  rw [columnAfter, List.reverse_append, List.takeWhile_append_of_pos all]
  obtain rfl | ⟨front, rfl⟩ := ended <;> simp

/-- The table tells where the line behind the lines that are ended begins. -/
theorem item_lineStarts (ended : lines = [] ∨ ∃ front, lines = front ++ ['\n']) :
    item (lineStarts (lines ++ after)) (lines.count '\n') = .ok (utf8 lines).length := by
  obtain rfl | ⟨front, rfl⟩ := ended
  · rfl
  · have first : startsAfter (utf8 front).length ('\n'.toUInt8 :: utf8 after)
        = ((utf8 front).length + 1) :: startsAfter ((utf8 front).length + 1) (utf8 after) := by
      rw [startsAfter, if_pos rfl]
    have starts : lineStarts (front ++ ['\n'] ++ after) =
        (0 :: startsAfter 0 (utf8 front)) ++ ((utf8 front).length + 1) ::
          startsAfter ((utf8 front).length + 1) (utf8 after) := by
      rw [lineStarts, List.append_assoc, utf8_append, startsAfter_append, Nat.zero_add,
        List.singleton_append, utf8_cons, ← first]
      rfl
    have index : (front ++ ['\n']).count '\n' = (0 :: startsAfter 0 (utf8 front)).length := by
      rw [List.length_cons, length_startsAfter, count_utf8]
      simp
    rw [starts, index, item_append_length, utf8_append, List.length_append]
    rfl

/-- On a boundary of two characters the table leads to the line and column of what follows. -/
theorem position_append (before after : List Char) :
    position (before ++ after) (utf8 before).length =
      .ok (lineAfter before, columnAfter before) := by
  obtain ⟨lines, line, rfl, inside, ended⟩ := exists_lines before
  have count : ((utf8 (lines ++ line ++ after)).take (utf8 (lines ++ line)).length).count
      '\n'.toUInt8 = lines.count '\n' := by
    rw [utf8_append (lines ++ line), List.take_left, count_utf8, List.count_append,
      List.count_eq_zero_of_not_mem inside, Nat.add_zero]
  have cut : slice (lines ++ line ++ after) (utf8 lines).length (utf8 (lines ++ line)).length
      = .ok line := by
    rw [List.append_assoc]
    exact slice_append rfl rfl
  rw [position, length_takeWhile_lineStarts, count, Nat.add_sub_cancel]
  have start : item (lineStarts (lines ++ line ++ after)) (lines.count '\n')
      = .ok (utf8 lines).length := by
    rw [List.append_assoc]
    exact item_lineStarts ended
  rw [start]
  simp only [Checked.ok_bind, Checked.pure_eq_ok, columnFrom, cut, lineAfter_append inside,
    columnAfter_append inside ended, Nat.le_add_left, max_eq_left]

/-- Elsewhere the table leads to column one of the line that the newlines before tell. -/
theorem position_of_not_boundary (off : ∀ rest, dropBytes offset text ≠ .ok rest) :
    position text offset = .ok (((utf8 text).take offset).count '\n'.toUInt8 + 1, 1) := by
  obtain ⟨start, found⟩ : ∃ start, item (lineStarts text)
      (((utf8 text).take offset).count '\n'.toUInt8) = .ok start := by
    have inside : ((utf8 text).take offset).count '\n'.toUInt8 < (lineStarts text).length := by
      rw [lineStarts, List.length_cons, length_startsAfter, Nat.lt_succ_iff]
      exact (List.take_sublist _ _).count_le _
    exact ⟨_, item_eq_ok_iff.mpr (List.getElem?_eq_getElem inside)⟩
  have column (start : Nat) : columnFrom text start offset = 1 := by
    rw [columnFrom]
    cases cut : slice text start offset with
    | error _ => rfl
    | ok middle =>
        obtain ⟨before, after, rfl, _, stop⟩ := exists_of_slice_eq_ok cut
        refine absurd ?_ (off after)
        rw [stop, ← List.append_assoc, dropBytes_append]
  rw [position, length_takeWhile_lineStarts, Nat.add_sub_cancel, found]
  simp only [Checked.ok_bind, Checked.pure_eq_ok, column, Nat.le_add_left, max_eq_left]

theorem dropBytes_append_add (before rest : List Char) (n : Nat) :
    dropBytes ((utf8 before).length + n) (before ++ rest) = dropBytes n rest := by
  induction before with
  | nil => simp
  | cons c before ih =>
      have := c.utf8Size_pos
      rw [length_utf8_cons, List.cons_append, dropBytes, if_neg (by omega), if_pos (by omega), ← ih]
      congr 1
      omega

/-- An offset behind the text is shown in column one of the last line. -/
theorem position_behind (before : List Char) {n : Nat} (behind : 0 < n) :
    position (before ++ []) ((utf8 before).length + n) = .ok (lineAfter before, 1) := by
  rw [position_of_not_boundary]
  · rw [List.append_nil, List.take_of_length_le (Nat.le_add_right _ _), count_utf8]
    rfl
  · intro rest
    rw [dropBytes_append_add, dropBytes, if_neg behind.ne']
    rintro ⟨⟩

/-- An offset inside of a character is shown in column one of the line of the character. -/
theorem position_inside (before rest : List Char) {c : Char} {n : Nat} (behind : 0 < n)
    (inside : n < c.utf8Size) : position (before ++ c :: rest) ((utf8 before).length + n) =
      .ok (lineAfter before, 1) := by
  have noNewline : ((utf8 [c]).take n).count '\n'.toUInt8 = 0 := by
    refine List.count_eq_zero_of_not_mem fun member => ?_
    have newline := newline_mem_utf8_iff.mp (List.mem_of_mem_take member)
    subst newline
    have : '\n'.utf8Size = 1 := rfl
    omega
  have front : (utf8 (before ++ c :: rest)).take ((utf8 before).length + n) =
      utf8 before ++ (utf8 [c]).take n := by
    rw [utf8_append, utf8_cons, List.take_length_add_append, List.take_append_of_le_length]
    rw [length_utf8_singleton]
    exact inside.le
  rw [position_of_not_boundary]
  · rw [front, List.count_append, noNewline, count_utf8]
    rfl
  · intro others
    rw [dropBytes_append_add, dropBytes, if_neg behind.ne', if_neg (Nat.not_le.mpr inside)]
    rintro ⟨⟩

/-- The table of line starts leads to the place that reading from the front comes to. -/
theorem position_eq_locate_advanceAll (before rest : List Char)
    (later : (utf8 before).length ≤ offset) :
    position (before ++ rest) offset =
      .ok ((Position.start.advanceAll before).locate offset rest) := by
  have offsetHere : (Position.start.advanceAll before).offset = (utf8 before).length := by
    simp [Position.start]
  induction rest generalizing before with
  | nil =>
      rw [Position.locate, offsetHere, Position.line_advanceAll_start,
        Position.column_advanceAll_start]
      split
      case isTrue same => rw [same, position_append]
      case isFalse other =>
        obtain ⟨n, rfl⟩ := Nat.exists_eq_add_of_le later
        exact position_behind before (by omega)
  | cons c rest ih =>
      rw [Position.locate, offsetHere, Position.line_advanceAll_start,
        Position.column_advanceAll_start]
      split
      case isTrue same => rw [same, position_append]
      case isFalse other =>
        split
        case isTrue within =>
          obtain ⟨n, rfl⟩ := Nat.exists_eq_add_of_le later
          exact position_inside before rest (by omega) (by omega)
        case isFalse beyond =>
          have next := ih (before ++ [c]) (by simp; omega) (by simp [Position.start])
          rw [List.append_assoc, List.singleton_append, Position.advanceAll_append] at next
          exact next

theorem position_eq_locate (text : List Char) (offset : Nat) :
    position text offset = .ok (Position.start.locate offset text) :=
  position_eq_locate_advanceAll [] text (Nat.zero_le _)

end Lines

end SqlLint.Indexed
