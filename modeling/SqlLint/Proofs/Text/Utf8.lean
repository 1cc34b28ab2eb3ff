import SqlLint.Proofs.Script.Ranges

/-!
# The bytes of characters

A character of ASCII is encoded as one byte, its code. All bytes of any other character are outside
of ASCII, so a byte of ASCII in a text always stands for itself.
-/

namespace SqlLint

@[simp] theorem utf8_nil : utf8 [] = [] := rfl

theorem utf8_cons (c : Char) (text : List Char) : utf8 (c :: text) = utf8 [c] ++ utf8 text :=
  utf8_append [c] text

@[simp] theorem length_utf8_singleton (c : Char) : (utf8 [c]).length = c.utf8Size := by
  simp [utf8]

@[simp] theorem length_utf8_cons (c : Char) (text : List Char) :
    (utf8 (c :: text)).length = c.utf8Size + (utf8 text).length := by
  rw [utf8_cons, List.length_append, length_utf8_singleton]

variable {c : Char} {b : UInt8}

theorem toNat_toUInt8 (ascii : c.toNat < 128) : c.toUInt8.toNat = c.toNat := by
  rw [← Char.toUInt8_val, UInt32.toNat_toUInt8]
  exact Nat.mod_eq_of_lt (Nat.lt_trans ascii (by decide))

theorem utf8_of_ascii (ascii : c.toNat < 128) : utf8 [c] = [c.toUInt8] := by
  have low : c.val.toNat ≤ 127 := Nat.le_of_lt_succ ascii
  simp only [utf8, List.flatMap_cons, List.flatMap_nil, String.utf8EncodeChar, low, if_true]
  rfl

theorem toNat_ofNat_add {n m : Nat} (below : n + m < 256) :
    (UInt8.ofNat (n + m)).toNat = n + m := by
  simpa using Nat.mod_eq_of_lt below

/-- The bytes of a character outside of ASCII are outside of ASCII. -/
theorem le_of_mem_utf8 (wide : 128 ≤ c.toNat) (member : b ∈ utf8 [c]) : 128 ≤ b.toNat := by
  have high : ¬ c.val.toNat ≤ 127 := Nat.not_le_of_lt wide
  simp only [utf8, List.flatMap_cons, List.flatMap_nil, List.append_nil, String.utf8EncodeChar,
    high, if_false] at member
  split at member
  · simp only [List.mem_cons, List.not_mem_nil, or_false] at member
    rcases member with rfl | rfl <;> rw [toNat_ofNat_add] <;> omega
  · split at member
    · simp only [List.mem_cons, List.not_mem_nil, or_false] at member
      rcases member with rfl | rfl | rfl <;> rw [toNat_ofNat_add] <;> omega
    · simp only [List.mem_cons, List.not_mem_nil, or_false] at member
      rcases member with rfl | rfl | rfl | rfl <;> rw [toNat_ofNat_add] <;> omega

/-- A character is encoded as one byte if and only if all its bytes are in ASCII. -/
theorem utf8Size_eq_one_iff : c.utf8Size = 1 ↔ ∀ b ∈ utf8 [c], b.toNat < 128 := by
  constructor
  · intro single b member
    have low : c.toNat ≤ 127 := Char.utf8Size_eq_one_iff.mp single
    rw [utf8_of_ascii (Nat.lt_succ_of_le low), List.mem_singleton] at member
    rw [member, toNat_toUInt8 (Nat.lt_succ_of_le low)]
    exact Nat.lt_succ_of_le low
  · intro ascii
    have nonempty : utf8 [c] ≠ [] := by
      rw [← List.length_pos_iff, length_utf8_singleton]
      exact c.utf8Size_pos
    obtain ⟨b, member⟩ := List.exists_mem_of_ne_nil _ nonempty
    have low : c.toNat < 128 := by
      by_contra wide
      have := ascii b member
      have := le_of_mem_utf8 (Nat.le_of_not_lt wide) member
      omega
    rw [← length_utf8_singleton, utf8_of_ascii low]
    rfl

/-- A byte of ASCII stands for itself. -/
theorem mem_utf8_iff (ascii : b.toNat < 128) : b ∈ utf8 [c] ↔ c.toNat = b.toNat := by
  by_cases low : c.toNat < 128
  · rw [utf8_of_ascii low, List.mem_singleton, ← UInt8.toNat_inj, toNat_toUInt8 low]
    exact eq_comm
  · constructor
    · intro member
      have := le_of_mem_utf8 (Nat.le_of_not_lt low) member
      omega
    · omega

end SqlLint
