import SqlLint.Proofs.Script.Cut

/-!
# The ranges of lexemes

Every lexeme of a text covers a range of its bytes. The ranges follow each other without a gap, the
first begins with the text and the last ends with it, so every byte belongs to one lexeme and a
range holds the bytes of the lexeme's characters.
-/

namespace SqlLint

def bytes (text : String) : List UInt8 := text.toByteArray.data.toList

/-- The bytes of a run of characters in UTF-8. -/
def utf8 (text : List Char) : List UInt8 := text.flatMap String.utf8EncodeChar

@[simp] theorem utf8_append (first second : List Char) :
    utf8 (first ++ second) = utf8 first ++ utf8 second := by
  simp [utf8]

theorem bytes_eq (text : String) : bytes text = utf8 text.toList := by
  rw [bytes, ← String.utf8Encode_toList]
  simp [utf8, List.utf8Encode]

theorem length_utf8 (text : List Char) :
    (utf8 text).length = (String.ofList text).utf8ByteSize := by
  have encoded := bytes_eq (String.ofList text)
  rw [String.toList_ofList] at encoded
  rw [← encoded, ← String.size_toByteArray]
  rfl

theorem length_utf8_pos {text : List Char} (h : text ≠ []) : 0 < (utf8 text).length := by
  obtain ⟨c, rest, rfl⟩ := List.exists_cons_of_ne_nil h
  have := c.utf8Size_pos
  simp [utf8]
  omega

@[simp] theorem Position.offset_advanceAll (p : Position) (text : List Char) :
    (p.advanceAll text).offset = p.offset + (utf8 text).length := by
  induction text generalizing p with
  | nil => simp [utf8]
  | cons c text ih => simp [ih, utf8, Nat.add_assoc]

namespace Lexeme

/-- The bytes a lexeme covers: where it begins and where it ends. -/
def range (l : Lexeme) : Nat × Nat := (l.start.offset, (l.start.advanceAll l.text).offset)

variable {p : Position} {pieces : List (LexemeKind × List Char)} {l : Lexeme}

theorem mem_placed (h : l ∈ placed p pieces) : ∃ before after,
    pieces = before ++ (l.kind, l.text) :: after ∧
      l.start = p.advanceAll (before.flatMap (·.2)) := by
  induction pieces generalizing p with
  | nil => cases h
  | cons piece pieces ih =>
      rcases List.mem_cons.mp h with rfl | h
      · exact ⟨[], pieces, rfl, rfl⟩
      · obtain ⟨before, after, rfl, start⟩ := ih h
        exact ⟨piece :: before, after, rfl, by simp [start, Position.advanceAll_append]⟩

/-- Lexemes that are placed one after the other do not overlap. -/
theorem pairwise_placed (p : Position) (pieces : List (LexemeKind × List Char)) :
    (placed p pieces).Pairwise fun a b => a.range.2 ≤ b.range.1 := by
  induction pieces generalizing p with
  | nil => exact .nil
  | cons piece pieces ih =>
      refine .cons ?_ (ih _)
      intro l member
      obtain ⟨before, after, _, start⟩ := mem_placed member
      simp [range, start]

/-- Lexemes that are placed one after the other leave no gap. -/
theorem exists_covering {i : Nat} (low : p.offset ≤ i)
    (high : i < (p.advanceAll (pieces.flatMap (·.2))).offset) :
    ∃ l ∈ placed p pieces, l.range.1 ≤ i ∧ i < l.range.2 := by
  induction pieces generalizing p with
  | nil =>
      simp at high
      omega
  | cons piece pieces ih =>
      by_cases inside : i < (p.advanceAll piece.2).offset
      · exact ⟨_, List.mem_cons_self, low, inside⟩
      · rw [List.flatMap_cons, Position.advanceAll_append] at high
        obtain ⟨l, member, covering⟩ := ih (Nat.le_of_not_lt inside) high
        exact ⟨l, List.mem_cons_of_mem _ member, covering⟩

theorem flatMap_utf8_placed (p : Position) (pieces : List (LexemeKind × List Char)) :
    (placed p pieces).flatMap (fun l => utf8 l.text) = utf8 (pieces.flatMap (·.2)) := by
  induction pieces generalizing p with
  | nil => rfl
  | cons piece pieces ih => simp [placed, ih]

/-- The bytes in the range of a lexeme are those of its characters. -/
theorem extract_range (h : l ∈ placed .start pieces) :
    (utf8 (pieces.flatMap (·.2))).extract l.range.1 l.range.2 = utf8 l.text := by
  obtain ⟨before, after, rfl, start⟩ := mem_placed h
  simp [range, start, Position.start]

theorem isValid_of_append {before after text : List Char} (split : text = before ++ after)
    {offset : Nat} (same : offset = (utf8 before).length) :
    String.Pos.Raw.IsValid (String.ofList text) ⟨offset⟩ := by
  rw [String.Pos.Raw.isValid_iff_exists_append]
  refine ⟨String.ofList before, String.ofList after, ?_, ?_⟩
  · rw [split, String.ofList_append]
  · rw [String.Pos.Raw.ext_iff, same, length_utf8]
    rfl

/-- A range begins and ends between two characters. -/
theorem isValid_range (h : l ∈ placed .start pieces) :
    String.Pos.Raw.IsValid (String.ofList (pieces.flatMap (·.2))) ⟨l.range.1⟩ ∧
      String.Pos.Raw.IsValid (String.ofList (pieces.flatMap (·.2))) ⟨l.range.2⟩ := by
  obtain ⟨before, after, rfl, start⟩ := mem_placed h
  generalize whole : (before ++ (l.kind, l.text) :: after).flatMap (·.2) = text
  have first : text = before.flatMap (·.2) ++ (l.text ++ after.flatMap (·.2)) := by
    simp [← whole]
  have last : text = (before.flatMap (·.2) ++ l.text) ++ after.flatMap (·.2) := by
    simp [← whole]
  constructor
  · exact isValid_of_append first (by simp [range, start, Position.start])
  · exact isValid_of_append last (by simp [range, start, Position.start])

end Lexeme
end SqlLint
