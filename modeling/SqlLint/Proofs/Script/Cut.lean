import SqlLint.Proofs.Script.Scan

/-!
# Cutting follows the split

Cutting a text places the pieces of its split one after the other. Where a text begins with pieces
of the grammar, cutting takes them off its front whatever follows; and every text begins with pieces
up to its end or up to a construct that is never closed. Both outcomes of a cut are thereby known,
and a text has no second split.

Places are told by what precedes them: the newlines count the lines, and the characters after the
last one the columns.
-/

namespace SqlLint

section Places

/-- The line, counted from one, of what comes after `before`. -/
def lineAfter (before : List Char) : Nat := before.count '\n' + 1

/-- The column, counted from one, of what comes after `before`. -/
def columnAfter (before : List Char) : Nat := (before.reverse.takeWhile (· ≠ '\n')).length + 1

variable (before : List Char)

theorem Position.line_advanceAll_start :
    (Position.start.advanceAll before).line = lineAfter before := by
  induction before using List.reverseRecOn with
  | nil => rfl
  | append_singleton before c ih =>
      rw [Position.advanceAll_append, Position.advanceAll_cons, Position.advanceAll_nil,
        Position.advance]
      split
      case isTrue newline => simp [ih, lineAfter, newline]
      case isFalse other => simp [ih, lineAfter, other]

theorem Position.column_advanceAll_start :
    (Position.start.advanceAll before).column = columnAfter before := by
  induction before using List.reverseRecOn with
  | nil => rfl
  | append_singleton before c ih =>
      rw [Position.advanceAll_append, Position.advanceAll_cons, Position.advanceAll_nil,
        Position.advance]
      split
      case isTrue newline => simp [columnAfter, newline]
      case isFalse other => simp [ih, columnAfter, other]

end Places

namespace Lexeme

/-- Pieces of a text as lexemes, the first of which starts at `p`. -/
def placed (p : Position) : List (LexemeKind × List Char) → List Lexeme
  | [] => []
  | (kind, text) :: pieces => ⟨kind, text, p⟩ :: placed (p.advanceAll text) pieces

@[simp] theorem map_placed (p : Position) (pieces : List (LexemeKind × List Char)) :
    (placed p pieces).map (fun l => (l.kind, l.text)) = pieces := by
  induction pieces generalizing p with
  | nil => rfl
  | cons piece pieces ih => simp [placed, ih]

variable {p : Position} {text left : List Char} {pieces : List (LexemeKind × List Char)}

/-- Cutting takes the pieces of a split off the front, whatever is left. -/
theorem cut_of_split (h : Split text pieces left) :
    cut p text =
      (cut (p.advanceAll (pieces.flatMap (·.2))) left).map (placed p pieces ++ ·) := by
  induction h generalizing p with
  | @nil left =>
      show cut p left = (cut p left).map id
      rw [Except.map_id]
      rfl
  | @cons kind piece rest pieces left form _ ih =>
      obtain ⟨c, body, rfl⟩ := List.exists_cons_of_ne_nil form.ne_nil
      rw [List.cons_append, cut, scan_of_form form]
      simp only [List.take_left, List.drop_left, ih, List.flatMap_cons,
        Position.advanceAll_append]
      cases cut ((p.advanceAll (c :: body)).advanceAll (pieces.flatMap (·.2))) left with
      | error e => rfl
      | ok others => rfl

theorem cut_eq_ok_of_split (h : Split text pieces []) : cut p text = .ok (placed p pieces) := by
  rw [cut_of_split h, cut]
  simp [Except.map]

/-- The characters before the delimiter that opens a construct at the front of `text`. -/
def marker (construct : Unclosed) (text : List Char) : List Char :=
  match construct with
  | .string true => text.take 1
  | _ => []

theorem cut_of_neverClosed {construct : Unclosed} (h : NeverClosed construct left) :
    cut p left =
      .error ⟨construct, (p.advanceAll (marker construct left)).line,
        (p.advanceAll (marker construct left)).column⟩ := by
  obtain ⟨c, rest, rfl⟩ := List.exists_cons_of_ne_nil h.ne_nil
  rw [cut, scan_of_neverClosed h]
  cases construct with
  | string national => cases national <;> rfl
  | bracket | doubleQuote | blockComment => rfl

/-- Every text is split up to its end or up to a construct that is never closed. -/
theorem exists_split (text : List Char) : ∃ pieces left, Split text pieces left ∧
    (left = [] ∨ ∃ construct, NeverClosed construct left) := by
  induction n : text.length using Nat.strongRecOn generalizing text with
  | ind n ih =>
      subst n
      cases text with
      | nil => exact ⟨[], [], .nil, .inl rfl⟩
      | cons c text =>
          cases found : scan c text with
          | error construct =>
              exact ⟨[], c :: text, .nil, .inr ⟨construct, scan_eq_error_iff.mp found⟩⟩
          | ok found' =>
              obtain ⟨body, rest, rfl, _, form⟩ := scan_eq_ok_iff.mp found
              have shorter : rest.length < (c :: (body ++ rest)).length := by
                simp only [List.length_cons, List.length_append]
                omega
              obtain ⟨pieces, left, others, ends⟩ := ih _ shorter rest rfl
              exact ⟨_, left, .cons form others, ends⟩

theorem Form.unique {kind kind' : LexemeKind} {piece piece' rest rest' : List Char}
    (form : Form kind piece rest) (form' : Form kind' piece' rest')
    (same : piece ++ rest = piece' ++ rest') : kind = kind' ∧ piece = piece' ∧ rest = rest' := by
  obtain ⟨c, body, rfl⟩ := List.exists_cons_of_ne_nil form.ne_nil
  obtain ⟨c', body', rfl⟩ := List.exists_cons_of_ne_nil form'.ne_nil
  obtain ⟨rfl, tails⟩ : c = c' ∧ body ++ rest = body' ++ rest' := by simpa using same
  have scanned := scan_of_form form
  rw [tails, scan_of_form form'] at scanned
  simp only [Except.ok.injEq, Prod.mk.injEq] at scanned
  obtain ⟨rfl, rfl⟩ := List.append_inj tails scanned.2.symm
  exact ⟨scanned.1.symm, rfl, rfl⟩

/-- What is never closed does not begin with a lexeme. -/
theorem NeverClosed.not_form {construct : Unclosed} {kind : LexemeKind} {piece rest : List Char}
    (h : NeverClosed construct (piece ++ rest)) : ¬ Form kind piece rest := by
  intro form
  obtain ⟨c, body, rfl⟩ := List.exists_cons_of_ne_nil form.ne_nil
  have failed : scan c (body ++ rest) = .error construct := scan_of_neverClosed h
  rw [scan_of_form form] at failed
  cases failed

theorem NeverClosed.unique {construct construct' : Unclosed} (h : NeverClosed construct text)
    (h' : NeverClosed construct' text) : construct = construct' := by
  obtain ⟨c, rest, rfl⟩ := List.exists_cons_of_ne_nil h.ne_nil
  have failed := scan_of_neverClosed h
  rw [scan_of_neverClosed h'] at failed
  cases failed
  rfl

/-- A text is split up to its end, or up to a construct that is never closed, in one way only. -/
theorem Split.unique {pieces' : List (LexemeKind × List Char)} {left' : List Char}
    (h : Split text pieces left) (h' : Split text pieces' left')
    (ends : left = [] ∨ ∃ construct, NeverClosed construct left)
    (ends' : left' = [] ∨ ∃ construct, NeverClosed construct left') :
    pieces = pieces' ∧ left = left' := by
  have noForm {kind : LexemeKind} {piece rest : List Char}
      (ends : piece ++ rest = [] ∨ ∃ construct, NeverClosed construct (piece ++ rest)) :
      ¬ Form kind piece rest := by
    intro form
    rcases ends with empty | ⟨construct, unclosed⟩
    · exact form.ne_nil (List.append_eq_nil_iff.mp empty).1
    · exact unclosed.not_form form
  induction h generalizing pieces' with
  | nil =>
      cases h' with
      | nil => exact ⟨rfl, rfl⟩
      | cons form _ => exact (noForm ends form).elim
  | @cons kind piece rest pieces left form _ ih =>
      generalize whole : piece ++ rest = text at h'
      cases h' with
      | nil =>
          subst whole
          exact (noForm ends' form).elim
      | cons form' others' =>
          obtain ⟨rfl, rfl, rfl⟩ := form.unique form' whole
          obtain ⟨rfl, rfl⟩ := ih others' ends
          exact ⟨rfl, rfl⟩

theorem cut_eq_ok_iff {lexemes : List Lexeme} :
    cut p text = .ok lexemes ↔ ∃ pieces, Split text pieces [] ∧ lexemes = placed p pieces := by
  constructor
  · intro done
    obtain ⟨pieces, left, split, rfl | ⟨construct, unclosed⟩⟩ := exists_split text
    · rw [cut_eq_ok_of_split split] at done
      cases done
      exact ⟨pieces, split, rfl⟩
    · rw [cut_of_split split, cut_of_neverClosed unclosed] at done
      cases done
  · rintro ⟨pieces, split, rfl⟩
    exact cut_eq_ok_of_split split

end Lexeme

open Lexeme in
theorem Script.ofText_eq_ok_iff {path root text : String} {level : UInt32} {s : Script} :
    ofText path root level text = .ok s ↔ ∃ pieces, Split text.toList pieces [] ∧
      s = ⟨path, (Path.stripPrefix? root path).getD path, text, level, placed .start pieces⟩ := by
  rw [ofText]
  constructor
  · intro done
    cases cutting : cut .start text.toList with
    | error e =>
        rw [cutting] at done
        cases done
    | ok lexemes =>
        rw [cutting] at done
        cases done
        obtain ⟨pieces, split, rfl⟩ := cut_eq_ok_iff.mp cutting
        exact ⟨pieces, split, rfl⟩
  · rintro ⟨pieces, split, rfl⟩
    rw [cut_eq_ok_of_split split]
    rfl

end SqlLint
