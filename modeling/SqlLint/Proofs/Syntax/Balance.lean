import SqlLint.Proofs.Rules.Spelling

/-!
# Balanced parentheses

How far a token sequence rises is the number of parentheses it opens less the number it closes. A
sequence is balanced if it rises by nothing and no end of it rises at all: then every parenthesis in
it has its partner. The search for the partner of a closing parenthesis goes backwards and keeps the
number of parentheses to be opened yet; it passes over a sequence no end of which rises that far, and
comes out as far down as the sequence rises. So it passes over a balanced one unchanged.
-/

namespace SqlLint.Parenthesis

variable {t opening closing : Token} {tokens inner before rest : List Token} {depth outer : Nat}

/-- The number of parentheses opened in a token sequence less the number of those closed. -/
def rise (tokens : List Token) : Int :=
  tokens.countP (·.isSymbol '(') - tokens.countP (·.isSymbol ')')

@[simp] theorem rise_nil : rise [] = 0 := rfl

theorem rise_cons_of_opening (opens : t.isSymbol '(') : rise (t :: tokens) = rise tokens + 1 := by
  have other : t.isSymbol ')' = false := Token.isSymbol_eq_false opens (by decide)
  simp only [rise, List.countP_cons, opens, other]
  simp
  omega

theorem rise_cons_of_closing (closes : t.isSymbol ')') : rise (t :: tokens) = rise tokens - 1 := by
  have other : t.isSymbol '(' = false := Token.isSymbol_eq_false closes (by decide)
  simp only [rise, List.countP_cons, closes, other]
  simp
  omega

theorem rise_cons_of_plain (opens : t.isSymbol '(' = false) (closes : t.isSymbol ')' = false) :
    rise (t :: tokens) = rise tokens := by
  simp [rise, opens, closes]

/-- Every parenthesis of the token sequence has its partner in it. -/
structure Balanced (tokens : List Token) : Prop where
  rise : rise tokens = 0
  rise_suffix : ∀ rest, rest <:+ tokens → Parenthesis.rise rest ≤ 0

theorem balanced_iff :
    Balanced tokens ↔ rise tokens = 0 ∧ ∀ rest ∈ tokens.tails, rise rest ≤ 0 := by
  simp only [List.mem_tails]
  exact ⟨fun ⟨whole, ends⟩ => ⟨whole, ends⟩, fun ⟨whole, ends⟩ => ⟨whole, ends⟩⟩

instance : DecidablePred Balanced := fun _ => decidable_of_iff _ balanced_iff.symm

/-- Going backwards from `depth` open parentheses, the search passes over a token sequence in which
it never gets to the partner it looks for. -/
theorem openFrom?_append (inside : ∀ rest, rest <:+ inner → rise rest < depth)
    (left : (outer : Int) = depth - rise inner) :
    openFrom? depth (inner.reverse ++ before) = openFrom? outer before := by
  induction inner generalizing outer before with
  | nil =>
      obtain rfl : outer = depth := by simpa using left
      rfl
  | cons t inner ih =>
      have ends : ∀ rest, rest <:+ inner → rise rest < depth :=
        fun rest suffix => inside rest (suffix.trans (List.suffix_cons t inner))
      have shallow := ends inner (List.suffix_refl inner)
      have deep := inside (t :: inner) (List.suffix_refl _)
      obtain ⟨middle, reached⟩ := Int.eq_ofNat_of_zero_le (a := depth - rise inner) (by omega)
      rw [List.reverse_cons, List.append_assoc, List.singleton_append, ih ends reached.symm]
      cases closes : t.isSymbol ')' with
      | true =>
          rw [rise_cons_of_closing closes] at left
          obtain rfl : outer = middle + 1 := by omega
          simp [openFrom?, closes]
      | false =>
          cases opens : t.isSymbol '(' with
          | true =>
              rw [rise_cons_of_opening opens] at left deep
              obtain ⟨further, rfl⟩ : ∃ further, middle = further + 2 := ⟨middle - 2, by omega⟩
              obtain rfl : outer = further + 1 := by omega
              simp [openFrom?, closes, opens]
          | false =>
              rw [rise_cons_of_plain opens closes] at left
              obtain rfl : outer = middle := by omega
              simp [openFrom?, closes, opens]

/-- The partner of a closing parenthesis is the opening one before a balanced sequence. -/
theorem matchingOpen?_group (opens : opening.isSymbol '(') (closes : closing.isSymbol ')')
    (inside : Balanced inner) (before : List Token) :
    matchingOpen? (closing :: (inner.reverse ++ opening :: before)) = some before := by
  have passed : openFrom? 1 (inner.reverse ++ opening :: before) = openFrom? 1 (opening :: before) :=
    openFrom?_append (fun rest suffix => by have := inside.rise_suffix rest suffix; omega)
      (by simp [inside.rise])
  have other : opening.isSymbol ')' = false := Token.isSymbol_eq_false opens (by decide)
  simp [matchingOpen?, openFrom?, closes, passed, opens, other]

end SqlLint.Parenthesis
