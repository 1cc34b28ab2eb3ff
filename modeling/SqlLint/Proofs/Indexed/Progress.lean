import SqlLint.Proofs.Indexed.Tokenizing
import SqlLint.Proofs.Script.Boundaries

/-!
# Tokenizing loses nothing and comes to its end

Reading bytes at a boundary of a text ends at a later boundary, so tokenizing by bytes moves on with
every scan and never stands still. What it yields tiles the text.
-/

namespace SqlLint

open String.Pos.Raw (IsValid)

namespace Indexed

variable {before rest : List Char} {c : Char} {kind : LexemeKind} {stop : Nat}

/-- What is read at a boundary begins with the character there. -/
theorem exists_of_readAt
    (read : readAt (before ++ c :: rest) (utf8 before).length = .ok (.ok (kind, stop))) :
    ∃ body after, rest = body ++ after ∧ stop = (utf8 (before ++ c :: body)).length := by
  rw [readAt_append] at read
  have found := Except.ok.inj read
  cases scanned : Lexeme.scan c rest with
  | error construct =>
      rw [scanned] at found
      cases found
  | ok result =>
      obtain ⟨kind', n⟩ := result
      rw [scanned] at found
      cases found
      exact ⟨rest.take n, rest.drop n, (List.take_append_drop n rest).symm, rfl⟩

/-- Every reading at a boundary moves on to a later one. -/
theorem lt_of_readAt {text : String} {i : Nat} (valid : IsValid text ⟨i⟩)
    (read : readAt text.toList i = .ok (.ok (kind, stop))) : i < stop ∧ IsValid text ⟨stop⟩ := by
  rw [← String.ofList_toList (s := text)] at valid
  obtain ⟨before, rest, split, rfl⟩ := isValid_iff_exists_append.mp valid
  rw [split] at read
  cases rest with
  | nil =>
      have outside : item (utf8 (before ++ [])) (utf8 before).length = .error .outOfRange := by
        simp [item]
      rw [readAt, outside] at read
      cases read
  | cons c rest =>
      obtain ⟨body, after, rfl, rfl⟩ := exists_of_readAt read
      constructor
      · exact length_lt_of_cons before c body
      · rw [← String.ofList_toList (s := text), split]
        exact isValid_iff_exists_append.mpr ⟨before ++ c :: body, after, by simp, rfl⟩

end Indexed

namespace Script

variable {s : Script}

/-- Tokenizing loses nothing: a script is tiled by its tokens, its comments and blanks. On the way,
every scan stays inside the text and moves on to a later boundary of it, so that tokenizing comes to
its end on every text. -/
theorem tiled_of_ofText {path root text : String} {level : UInt32}
    (h : ofText path root level text = .ok s) :
    s.text = text ∧ s.Tiled ∧
      (∀ c tail kind n, Lexeme.scan c tail = .ok (kind, n) → n ≤ tail.length) ∧
      (∀ (other : String) i kind stop, IsValid other ⟨i⟩ →
        Indexed.readAt other.toList i = .ok (.ok (kind, stop)) → i < stop ∧ IsValid other ⟨stop⟩) ∧
      ∀ other, ∃ result, Indexed.tokenize other = .ok result := by
  obtain ⟨pieces, split, made⟩ := ofText_eq_ok_iff.mp h
  have laid : s.Laid pieces := by
    subst made
    exact ⟨split, rfl⟩
  refine ⟨by rw [made], laid.tiled, ?_, ?_, ?_⟩
  · intro c tail kind n found
    exact Lexeme.le_length_of_scan found
  · intro other i kind stop valid read
    exact Indexed.lt_of_readAt valid read
  · intro other
    exact ⟨_, Indexed.tokenize_eq path root level other⟩

/-- A word, a comment that holds another one, and a quoted name with a bracket in it, among
characters of one and of two bytes. -/
def accented : String := "é/*/**/ü*/\n[ä]]ö] --x"

theorem tiled_of_ofText_of_accented : ∃ s, ofText "a.sql" "" 150 accented = .ok s ∧
    s.tokens.map Token.span = [(0, 2), (13, 21)] ∧ s.comments = [(2, 12), (22, 25)] ∧
      s.Tiled := by
  obtain ⟨s, made, spans, comments⟩ : ∃ s, ofText "a.sql" "" 150 accented = .ok s ∧
      s.tokens.map Token.span = [(0, 2), (13, 21)] ∧ s.comments = [(2, 12), (22, 25)] := by
    refine ⟨_, by cbv, ?_, ?_⟩ <;> cbv
  obtain ⟨_, tiled, _⟩ := tiled_of_ofText made
  exact ⟨s, made, spans, comments, tiled⟩

end Script
end SqlLint
