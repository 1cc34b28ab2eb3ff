import Mathlib

/-!
# Computations that may fail

What it means that a computation made of steps succeeds or fails: it succeeds if every step does,
and it fails with the first step that does.
-/

namespace Except

variable {ε ε' α β : Type} {x : Except ε α} {f : α → Except ε β} {b : β} {e : ε}

theorem bind_eq_ok_iff : x >>= f = .ok b ↔ ∃ a, x = .ok a ∧ f a = .ok b := by
  cases x <;> simp [bind, Except.bind]

theorem bind_eq_error_iff :
    x >>= f = .error e ↔ x = .error e ∨ ∃ a, x = .ok a ∧ f a = .error e := by
  cases x <;> simp [bind, Except.bind]

theorem map_eq_ok_iff {g : α → β} : x.map g = .ok b ↔ ∃ a, x = .ok a ∧ g a = b := by
  cases x <;> simp [Except.map]

theorem map_eq_error_iff {g : α → β} : x.map g = .error e ↔ x = .error e := by
  cases x <;> simp [Except.map]

theorem mapError_eq_ok_iff {g : ε → ε'} {a : α} : x.mapError g = .ok a ↔ x = .ok a := by
  cases x <;> simp [Except.mapError]

theorem mapError_eq_error_iff {g : ε → ε'} {e : ε'} :
    x.mapError g = .error e ↔ ∃ e', x = .error e' ∧ g e' = e := by
  cases x <;> simp [Except.mapError]

section List

variable {l : List α} {bs : List β}

/-- A function succeeds on a list if it does on every entry. -/
theorem mapM_eq_ok_iff : l.mapM f = .ok bs ↔ List.Forall₂ (f · = .ok ·) l bs := by
  induction l generalizing bs with
  | nil =>
      rw [List.mapM_nil, List.forall₂_nil_left_iff]
      exact ⟨fun same => (Except.ok.inj same).symm, fun same => congrArg _ same.symm⟩
  | cons a l ih =>
      rw [List.mapM_cons, bind_eq_ok_iff, List.forall₂_cons_left_iff]
      constructor
      · rintro ⟨b, first, rest⟩
        obtain ⟨bs', others, same⟩ := bind_eq_ok_iff.mp rest
        cases same
        exact ⟨b, bs', first, ih.mp others, rfl⟩
      · rintro ⟨b, bs', first, others, rfl⟩
        exact ⟨b, first, bind_eq_ok_iff.mpr ⟨bs', ih.mpr others, rfl⟩⟩

/-- A function fails on a list as it does on the first entry on which it fails. -/
theorem mapM_eq_error_iff : l.mapM f = .error e ↔ ∃ before a after, l = before ++ a :: after ∧
    (∀ x ∈ before, ∃ b, f x = .ok b) ∧ f a = .error e := by
  induction l with
  | nil => simp [pure, Except.pure]
  | cons a l ih =>
      rw [List.mapM_cons, bind_eq_error_iff]
      constructor
      · rintro (here | ⟨b, first, rest⟩)
        · exact ⟨[], a, l, rfl, by simp, here⟩
        · rcases bind_eq_error_iff.mp rest with later | ⟨_, _, same⟩
          · obtain ⟨before, x, after, rfl, sound, fails⟩ := ih.mp later
            exact ⟨a :: before, x, after, rfl, List.forall_mem_cons.mpr ⟨⟨b, first⟩, sound⟩, fails⟩
          · cases same
      · rintro ⟨before, x, after, split, sound, fails⟩
        cases before with
        | nil =>
            cases split
            exact .inl fails
        | cons y before =>
            cases split
            obtain ⟨⟨b, first⟩, sound⟩ := List.forall_mem_cons.mp sound
            have later := ih.mpr ⟨before, x, after, rfl, sound, fails⟩
            exact .inr ⟨b, first, bind_eq_error_iff.mpr (.inl later)⟩

end List

end Except
