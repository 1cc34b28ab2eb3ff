import SqlLint.Proofs.Script.Masking

/-!
# Offsets and the characters around them

An offset in bytes is on a boundary if it lies between two characters, or at either end of the text.
The place of an offset is that of the last boundary up to it. Line and column are shown for every
offset; the line is that of the place, and so is the column on a boundary, while the inside of a
character has none but column one.

A boundary of the masked text is one of the text unless it was made by blanking: only a comment
character of several bytes, blanked to as many spaces, leaves boundaries where it had none.
-/

namespace SqlLint

section Characters

variable {offset i : Nat} {before after front text : List Char}

/-- The characters of a text that end at an offset or before it. -/
def upTo (offset : Nat) : List Char → List Char
  | [] => []
  | c :: rest => if c.utf8Size ≤ offset then c :: upTo (offset - c.utf8Size) rest else []

theorem upTo_of_le {c : Char} (fits : c.utf8Size ≤ offset) (rest : List Char) :
    upTo offset (c :: rest) = c :: upTo (offset - c.utf8Size) rest :=
  if_pos fits

theorem upTo_of_lt {c : Char} (long : offset < c.utf8Size) (rest : List Char) :
    upTo offset (c :: rest) = [] :=
  if_neg (Nat.not_le_of_lt long)

/-- An offset is rounded down: of the beginnings of a text that do not run past it, the characters
up to it are the longest. -/
theorem isPrefix_upTo_iff :
    front <+: upTo offset text ↔ front <+: text ∧ (utf8 front).length ≤ offset := by
  induction text generalizing front offset with
  | nil =>
      rw [upTo, List.prefix_nil]
      constructor
      · rintro rfl
        simp
      · exact And.left
  | cons c rest ih =>
      cases front with
      | nil => simp
      | cons d front =>
          rw [upTo, List.cons_prefix_cons, length_utf8_cons]
          split
          case isTrue fits =>
            rw [List.cons_prefix_cons, ih]
            constructor
            · rintro ⟨rfl, inside, short⟩
              exact ⟨⟨rfl, inside⟩, by omega⟩
            · rintro ⟨⟨rfl, inside⟩, short⟩
              exact ⟨rfl, inside, by omega⟩
          case isFalse long =>
            simp only [List.prefix_nil, List.cons_ne_nil, false_iff, not_and]
            rintro ⟨rfl, _⟩
            omega

theorem upTo_isPrefix (offset : Nat) (text : List Char) : upTo offset text <+: text :=
  (isPrefix_upTo_iff.mp (List.prefix_refl _)).1

theorem length_utf8_upTo_le (offset : Nat) (text : List Char) :
    (utf8 (upTo offset text)).length ≤ offset :=
  (isPrefix_upTo_iff.mp (List.prefix_refl _)).2

@[simp] theorem upTo_append (before after : List Char) :
    upTo (utf8 before).length (before ++ after) = before := by
  have short := isPrefix_upTo_iff.mpr ⟨List.prefix_append before after, Nat.le_refl _⟩
  obtain ⟨more, split⟩ := short
  have bound := length_utf8_upTo_le (utf8 before).length (before ++ after)
  have none : more = [] := by
    by_contra some
    have := length_utf8_pos some
    rw [← split, utf8_append, List.length_append] at bound
    omega
  rw [← split, none, List.append_nil]

/-- What is read up to a later offset goes on from what is read up to an earlier one. -/
theorem upTo_isPrefix_upTo {earlier later : Nat} (ordered : earlier ≤ later) (text : List Char) :
    upTo earlier text <+: upTo later text :=
  isPrefix_upTo_iff.mpr
    ⟨upTo_isPrefix earlier text, (length_utf8_upTo_le earlier text).trans ordered⟩

theorem length_utf8_take_le {j : Nat} (ordered : i ≤ j) (text : List Char) :
    (utf8 (text.take i)).length ≤ (utf8 (text.take j)).length := by
  have front : text.take i <+: text.take j := List.take_prefix_take_left ordered
  obtain ⟨more, split⟩ := front
  rw [← split, utf8_append, List.length_append]
  exact Nat.le_add_right _ _

theorem length_utf8_take_lt {j : Nat} (ordered : i < j) (inside : j ≤ text.length) :
    (utf8 (text.take i)).length < (utf8 (text.take j)).length := by
  refine lt_of_lt_of_le ?_ (length_utf8_take_le ordered text)
  rw [List.take_add_one, List.getElem?_eq_getElem (by omega), utf8_append, List.length_append,
    Option.toList_some, length_utf8_singleton]
  exact Nat.lt_add_of_pos_right (Char.utf8Size_pos _)

theorem isValid_iff_exists_append : String.Pos.Raw.IsValid (String.ofList text) ⟨i⟩ ↔
    ∃ before after, text = before ++ after ∧ i = (utf8 before).length := by
  constructor
  · rw [String.Pos.Raw.isValid_iff_exists_append]
    rintro ⟨before, after, split, place⟩
    refine ⟨before.toList, after.toList, ?_, ?_⟩
    · rw [← String.toList_append, ← split, String.toList_ofList]
    · rw [length_utf8, String.ofList_toList]
      exact congrArg String.Pos.Raw.byteIdx place
  · rintro ⟨before, after, split, place⟩
    exact Lexeme.isValid_of_append split place

/-- An offset is on a boundary if the characters up to it reach it. -/
theorem isValid_iff_length_upTo : String.Pos.Raw.IsValid (String.ofList text) ⟨i⟩ ↔
    (utf8 (upTo i text)).length = i := by
  rw [isValid_iff_exists_append]
  constructor
  · rintro ⟨before, after, rfl, rfl⟩
    rw [upTo_append]
  · intro reached
    obtain ⟨after, split⟩ := upTo_isPrefix i text
    exact ⟨_, after, split.symm, reached.symm⟩

end Characters

section Bytes

variable {s : String} {i : Nat} {b : UInt8}

theorem isUTF8FirstByte_of_ascii (ascii : b.toNat < 128) : b.IsUTF8FirstByte := by
  refine .inl (UInt8.toNat_inj.mp ?_)
  rw [UInt8.toNat_and]
  refine (Nat.and_two_pow b.toNat 7).trans ?_
  rw [Nat.testBit_lt_two_pow ascii]
  rfl

/-- An offset is on a boundary if the text ends there, or a character begins with the byte there. -/
theorem isValid_iff_firstByte : String.Pos.Raw.IsValid s ⟨i⟩ ↔
    i = (bytes s).length ∨ ∃ b, (bytes s)[i]? = some b ∧ b.IsUTF8FirstByte := by
  have length : (bytes s).length = s.utf8ByteSize := String.size_toByteArray
  rw [String.Pos.Raw.isValid_iff_isUTF8FirstByte, String.Pos.Raw.ext_iff,
    String.byteIdx_rawEndPos, length]
  refine or_congr_right ?_
  constructor
  · rintro ⟨inside, first⟩
    have below : i < (bytes s).length := by
      rw [length]
      exact String.Pos.Raw.lt_iff.mp inside
    exact ⟨_, List.getElem?_eq_getElem below, first⟩
  · rintro ⟨b, found, first⟩
    obtain ⟨below, rfl⟩ := List.getElem?_eq_some_iff.mp found
    rw [length] at below
    exact ⟨String.Pos.Raw.lt_iff.mpr below, first⟩

end Bytes

namespace Position

variable {p q : Position} {text : List Char}

/-- What is shown for an offset: the line of the last boundary up to it, and, if it is on that
boundary, the column. -/
theorem locate_eq (p : Position) (n : Nat) (text : List Char) :
    p.locate (p.offset + n) text = ((p.advanceAll (upTo n text)).line,
      if (p.advanceAll (upTo n text)).offset = p.offset + n then
        (p.advanceAll (upTo n text)).column else 1) := by
  have unread (p : Position) (n : Nat) :
      (if p.offset + n = p.offset then (p.line, p.column) else (p.line, 1)) =
        (p.line, if p.offset = p.offset + n then p.column else 1) := by
    by_cases here : n = 0 <;> simp [here]
  induction text generalizing p n with
  | nil => exact unread p n
  | cons c rest ih =>
      have := c.utf8Size_pos
      rcases Nat.lt_or_ge n c.utf8Size with long | fits
      · rw [locate, upTo_of_lt long, Position.advanceAll_nil, if_pos (Nat.add_lt_add_left long _)]
        exact unread p n
      · have next := ih (p.advance c) (n - c.utf8Size)
        have same : (p.advance c).offset + (n - c.utf8Size) = p.offset + n := by
          rw [offset_advance]
          omega
        rw [same] at next
        rw [locate, if_neg (by omega), if_neg (by omega), next, upTo_of_le fits, advanceAll_cons]

end Position

namespace Script

open String.Pos.Raw (IsValid)

variable {s : Script} {pieces : List (LexemeKind × List Char)} {i j : Nat}

/-- The place of an offset in a script: that of the last boundary up to it. -/
def placeAt (s : Script) (offset : Nat) : Position :=
  Position.start.advanceAll (upTo offset s.text.toList)

/-- An offset has a place of its own if it is on a boundary. -/
theorem offset_placeAt_eq_iff : (s.placeAt i).offset = i ↔ IsValid s.text ⟨i⟩ := by
  have reached : IsValid (String.ofList s.text.toList) ⟨i⟩ ↔ _ := isValid_iff_length_upTo
  rw [String.ofList_toList] at reached
  rw [reached, placeAt, Position.offset_advanceAll, Position.start, Nat.zero_add]

theorem locate_eq_placeAt (s : Script) (i : Nat) : s.locate i =
    ((s.placeAt i).line, if (s.placeAt i).offset = i then (s.placeAt i).column else 1) := by
  have shown := Position.start.locate_eq i s.text.toList
  have atStart : Position.start.offset + i = i := Nat.zero_add i
  rwa [atStart] at shown

theorem locate_of_isValid (valid : IsValid s.text ⟨i⟩) :
    s.locate i = ((s.placeAt i).line, (s.placeAt i).column) := by
  rw [locate_eq_placeAt, if_pos (offset_placeAt_eq_iff.mpr valid)]

theorem locate_of_not_isValid (inside : ¬ IsValid s.text ⟨i⟩) :
    s.locate i = ((s.placeAt i).line, 1) := by
  rw [locate_eq_placeAt, if_neg (mt offset_placeAt_eq_iff.mp inside)]

/-- Of two boundaries the one further on in the text has the later place. -/
theorem placeAt_precedes (first : IsValid s.text ⟨i⟩) (second : IsValid s.text ⟨j⟩)
    (later : i < j) : (s.placeAt i).Precedes (s.placeAt j) := by
  obtain ⟨more, split⟩ := upTo_isPrefix_upTo (Nat.le_of_lt later) s.text.toList
  have some : more ≠ [] := by
    rintro rfl
    rw [List.append_nil] at split
    have same : (s.placeAt i).offset = (s.placeAt j).offset := by rw [placeAt, placeAt, split]
    rw [offset_placeAt_eq_iff.mpr first, offset_placeAt_eq_iff.mpr second] at same
    omega
  rw [placeAt, placeAt, ← split, Position.advanceAll_append]
  exact Position.precedes_advanceAll some

/-- A boundary of the masked text is one of the text, except inside of a comment character of
several bytes. -/
theorem Laid.isValid_of_isValid_masked (h : s.Laid pieces)
    (valid : IsValid (String.ofList s.masked) ⟨i⟩)
    (plain : s.hides i → ∀ b, (bytes s.text)[i]? = some b → b.toNat < 128) :
    IsValid s.text ⟨i⟩ := by
  rw [isValid_iff_firstByte, bytes_eq, String.toList_ofList, ← h.maskedBytes_eq, maskedBytes,
    List.length_mapIdx] at valid
  rw [isValid_iff_firstByte]
  refine valid.imp_right ?_
  rintro ⟨b, found, first⟩
  rw [List.getElem?_mapIdx] at found
  obtain ⟨b', here, masked⟩ := Option.map_eq_some_iff.mp found
  refine ⟨b', here, ?_⟩
  cases hidden : s.hides i with
  | true => exact isUTF8FirstByte_of_ascii (plain hidden b' here)
  | false =>
      rw [hidden, if_neg Bool.false_ne_true] at masked
      rwa [masked]

/-- A boundary of the masked text is one of the text if no comment covers the byte there. -/
theorem Laid.isValid_of_not_hides (h : s.Laid pieces)
    (valid : IsValid (String.ofList s.masked) ⟨i⟩) (shown : s.hides i = false) :
    IsValid s.text ⟨i⟩ := by
  refine h.isValid_of_isValid_masked valid fun hidden => ?_
  rw [shown] at hidden
  cases hidden

/-- A boundary of the masked text is one of the text if the comments are plain. -/
theorem Laid.isValid_of_plainComments (h : s.Laid pieces) (plain : s.PlainComments)
    (valid : IsValid (String.ofList s.masked) ⟨i⟩) : IsValid s.text ⟨i⟩ := by
  refine h.isValid_of_isValid_masked valid fun hidden b found => ?_
  obtain ⟨range, comment, covers⟩ := List.any_eq_true.mp hidden
  obtain ⟨low, high⟩ : range.1 ≤ i ∧ i < range.2 := by simpa using covers
  obtain ⟨inside, rfl⟩ := List.getElem?_eq_some_iff.mp found
  refine plain range comment _ ?_
  rw [slice, List.extract_eq_take_drop, List.mem_iff_getElem?]
  refine ⟨i - range.1, ?_⟩
  rw [List.getElem?_take_of_lt (by omega), List.getElem?_drop,
    show range.1 + (i - range.1) = i by omega, List.getElem?_eq_getElem inside]

end Script
end SqlLint
