import Mathlib
import SqlLint.Json.Decoder

/-!
# Natural numbers in JSON texts

A natural number is written with its decimal digits, no zero in front, so the scan of a number takes
all of them and stops where they end. Its value is the number again; below the bound of 64 bits it
is read as an integer.
-/

namespace SqlLint.Json

/-- A natural number as it is written. -/
def NumberText.ofNat (n : Nat) : NumberText := ⟨false, Nat.toDigits 10 n, [], none⟩

/-- Whether a text cannot continue a number. -/
def Detached (text : List Char) : Prop :=
  ∀ c ∈ text.head?, c.isDigit = false ∧ c ≠ '.' ∧ c ≠ 'e' ∧ c ≠ 'E'

@[simp] theorem detached_nil : Detached [] := by
  intro c head
  cases head

theorem detached_cons {c : Char} (digit : c.isDigit = false) (point : c ≠ '.') (e : c ≠ 'e')
    (E : c ≠ 'E') (rest : List Char) : Detached (c :: rest) := by
  rintro _ ⟨⟩
  exact ⟨digit, point, e, E⟩

variable {n : Nat} {rest : List Char}

theorem isDigit_of_mem_toDigits {c : Char} (member : c ∈ Nat.toDigits 10 n) : c.isDigit = true :=
  Nat.isDigit_of_mem_toDigits (by decide) (by decide) member

theorem toString_toList (n : Nat) : (toString n).toList = Nat.toDigits 10 n := by
  rw [Nat.toString_eq_ofList_toDigits, String.toList_ofList]

theorem eq_zero_of_digitChar (small : n < 10) : n.digitChar = '0' → n = 0 := by
  revert n
  decide

/-- No zero stands in front of other digits. -/
theorem eq_zero_of_head?_toDigits (zero : (Nat.toDigits 10 n).head? = some '0') : n = 0 := by
  induction n using Nat.strongRecOn with
  | ind n ih =>
      rw [Nat.toDigits_eq_if (by decide)] at zero
      split at zero
      · next small => exact eq_zero_of_digitChar small (Option.some.inj zero)
      · next large =>
          -- The digits in front of the last one are those of the tenth part.
          rw [List.head?_append_of_ne_nil _ Nat.toDigits_ne_nil] at zero
          have := ih (n / 10) (by omega) zero
          omega

theorem digits_toDigits (detached : Detached rest) :
    digits (Nat.toDigits 10 n ++ rest) = (Nat.toDigits 10 n, rest) := by
  have stops : ∀ c ∈ rest.head?, ¬ c.isDigit = true := by
    intro c head
    simp [(detached c head).1]
  simp only [digits, Prod.mk.injEq]
  constructor
  · rw [List.takeWhile_append_of_pos fun _ => isDigit_of_mem_toDigits]
    cases rest with
    | nil => simp
    | cons c rest => simp [stops c rfl]
  · rw [List.dropWhile_append_of_pos fun _ => isDigit_of_mem_toDigits]
    cases rest with
    | nil => simp
    | cons c rest => simp [stops c rfl]

theorem scanFraction_of_detached (detached : Detached rest) :
    scanFraction rest = some ([], rest) := by
  cases rest with
  | nil => rfl
  | cons c rest => simp [scanFraction, (detached c rfl).2.1]

theorem scanExponent_of_detached (detached : Detached rest) :
    scanExponent rest = some (none, rest) := by
  cases rest with
  | nil => rfl
  | cons c rest => simp [scanExponent, (detached c rfl).2.2]

/-- The scan of a number takes all its digits. -/
theorem scanNumber_toDigits (detached : Detached rest) :
    scanNumber false (Nat.toDigits 10 n ++ rest) = some (.ofNat n, rest) := by
  have whole : ((Nat.toDigits 10 n).isEmpty ||
      ((Nat.toDigits 10 n).head? == some '0' && (Nat.toDigits 10 n).length > 1)) = false := by
    rw [List.isEmpty_eq_false_iff.mpr Nat.toDigits_ne_nil, Bool.false_or, Bool.and_eq_false_imp]
    intro zero
    obtain rfl : n = 0 := eq_zero_of_head?_toDigits (by simpa using zero)
    rfl
  simp [scanNumber, digits_toDigits detached, whole, scanFraction_of_detached detached,
    scanExponent_of_detached detached, NumberText.ofNat]

@[simp] theorem decimalValue_toDigits : decimalValue (Nat.toDigits 10 n) = n :=
  Nat.ofDigitChars_ten_toDigits

namespace NumberText

@[simp] theorem isWhole_ofNat : (ofNat n).isWhole = true := rfl

theorem value?_ofNat (small : n < 0x10000000000000000) :
    (ofNat n).value? = some (.integer n) := by
  have value : decimalValue (ofNat n).whole = n := decimalValue_toDigits
  simp only [value?, value, isWhole_ofNat, small]
  rfl

end NumberText

/-- A natural number within the bound of its place reads back. -/
theorem Document.natural_ofNat {wanted : String} {most : Nat} (small : n < 0x10000000000000000)
    (within : n ≤ most) : Document.natural wanted most (.number (.ofNat n)) = .ok n := by
  simp only [Document.natural, NumberText.number, NumberText.value?_ofNat small]
  simp only [bind, Except.bind, Int.natCast_nonneg, Int.ofNat_le, within, and_self, if_true,
    Int.toNat_natCast]

end SqlLint.Json
