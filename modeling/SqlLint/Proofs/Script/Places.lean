import SqlLint.Proofs.Script.Tiling

/-!
# Places increase

Reading on moves to a later place, on the same line or a later one. So the lexemes of a script begin
at places that increase, and no two of its tokens begin at one place.
-/

namespace SqlLint

/-- Whether a place is on an earlier line than another one, or further left on the same line. -/
def Position.Precedes (p q : Position) : Prop :=
  p.line < q.line ∨ p.line = q.line ∧ p.column < q.column

namespace Position

variable {p q r : Position} {text : List Char}

theorem Precedes.trans (first : p.Precedes q) (second : q.Precedes r) : p.Precedes r := by
  unfold Precedes at *
  omega

theorem precedes_advance (p : Position) (c : Char) : p.Precedes (p.advance c) := by
  rw [Precedes, advance]
  split
  · exact .inl (Nat.lt_succ_self _)
  · exact .inr ⟨rfl, Nat.lt_succ_self _⟩

theorem precedes_advanceAll (nonempty : text ≠ []) : p.Precedes (p.advanceAll text) := by
  obtain ⟨c, rest, rfl⟩ := List.exists_cons_of_ne_nil nonempty
  clear nonempty
  induction rest generalizing p c with
  | nil => exact p.precedes_advance c
  | cons d rest ih => exact (p.precedes_advance c).trans (ih d)

end Position

namespace Script

open Lexeme

variable {s : Script} {pieces : List (LexemeKind × List Char)}

theorem exists_laid {path root text : String} {level : UInt32}
    (h : ofText path root level text = .ok s) : ∃ pieces, s.Laid pieces := by
  obtain ⟨pieces, split, rfl⟩ := ofText_eq_ok_iff.mp h
  exact ⟨pieces, split, rfl⟩

theorem Laid.pairwise_start (h : s.Laid pieces) :
    s.lexemes.Pairwise fun a b => a.start.Precedes b.start := by
  have placed_start : ∀ {text : List Char} {pieces : List (LexemeKind × List Char)} (p : Position),
      Split text pieces [] → (placed p pieces).Pairwise fun a b => a.start.Precedes b.start := by
    intro text pieces
    induction pieces generalizing text with
    | nil => exact fun _ _ => .nil
    | cons piece pieces ih =>
        rintro p (_ | ⟨form, others⟩)
        refine .cons ?_ (ih _ others)
        intro l member
        obtain ⟨before, after, _, start⟩ := mem_placed member
        rw [start, ← Position.advanceAll_append]
        exact Position.precedes_advanceAll (by simp [form.ne_nil])
  rw [h.lexemes]
  exact placed_start .start h.split

/-- The tokens of a script begin at increasing places. -/
theorem Laid.pairwise_tokens (h : s.Laid pieces) :
    s.tokens.Pairwise fun t u => t.start.Precedes u.start := by
  rw [tokens, List.pairwise_filterMap]
  refine h.pairwise_start.imp ?_
  intro a b ordered t ht u hu
  obtain ⟨_, _, rfl⟩ := exists_of_token? ht
  obtain ⟨_, _, rfl⟩ := exists_of_token? hu
  exact ordered

/-- A place tells the token that begins there. -/
theorem Laid.index_eq_of_place {t u : Token} {i j : Nat} (h : s.Laid pieces)
    (first : s.tokens[i]? = some t) (second : s.tokens[j]? = some u)
    (line : t.start.line = u.start.line) (column : t.start.column = u.start.column) : i = j := by
  obtain ⟨hi, rfl⟩ := List.getElem?_eq_some_iff.mp first
  obtain ⟨hj, rfl⟩ := List.getElem?_eq_some_iff.mp second
  have ordered := List.pairwise_iff_getElem.mp h.pairwise_tokens
  rcases Nat.lt_trichotomy i j with below | same | above
  · have := ordered i j hi hj below
    unfold Position.Precedes at this
    omega
  · exact same
  · have := ordered j i hj hi above
    unfold Position.Precedes at this
    omega

end Script
end SqlLint
