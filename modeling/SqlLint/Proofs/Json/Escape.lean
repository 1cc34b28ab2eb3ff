import Mathlib
import SqlLint.Json
import SqlLint.Json.Decoder

/-!
# Escapes in strings

What is written between the quotes of a string reads back as the text it was written for: the scan
for the closing quote goes past every escape, and resolving the escapes gives the text. A character
is written in one of three ways, so each fact about escapes has three cases.
-/

namespace SqlLint.Json

/-- The ways in which a character is written inside a string. -/
inductive WrittenAs (c : Char) : List Char → Prop
  | letter {l : Char} (stands : simpleEscape? l = some c) : WrittenAs c ['\\', l]
  | control (low : c.toNat < 32) :
      WrittenAs c ['\\', 'u', '0', '0', hexDigit (c.toNat / 16), hexDigit (c.toNat % 16)]
  | plain (quote : c ≠ '"') (backslash : c ≠ '\\') (visible : 32 ≤ c.toNat) : WrittenAs c [c]

theorem writtenAs_escapeChar (c : Char) : WrittenAs c (escapeChar c) := by
  unfold escapeChar
  split_ifs with quote backslash backspace formFeed newline carriage tab low
  · exact .letter (congrArg some quote.symm)
  · exact .letter (congrArg some backslash.symm)
  · exact .letter (congrArg some backspace.symm)
  · exact .letter (congrArg some formFeed.symm)
  · exact .letter (congrArg some newline.symm)
  · exact .letter (congrArg some carriage.symm)
  · exact .letter (congrArg some tab.symm)
  · exact .control low
  · exact .plain quote backslash (Nat.le_of_not_lt low)

theorem hexValue?_hexDigit {n : Nat} (digit : n < 16) : hexValue? (hexDigit n) = some n := by
  revert n
  decide

theorem le_toNat_hexDigit {n : Nat} (digit : n < 16) : 32 ≤ (hexDigit n).toNat := by
  revert n
  decide

/-- The digits that are written for a control character give its number back. -/
theorem codeUnit?_control {n : Nat} (low : n < 32) :
    codeUnit? '0' '0' (hexDigit (n / 16)) (hexDigit (n % 16)) = some n := by
  have zero : hexValue? '0' = some 0 := rfl
  have high := hexValue?_hexDigit (show n / 16 < 16 by omega)
  have rest := hexValue?_hexDigit (show n % 16 < 16 by omega)
  simp only [codeUnit?, zero, high, rest, Option.bind_eq_bind, Option.bind_some, Option.pure_def,
    Option.some.injEq]
  omega

namespace WrittenAs

variable {c : Char} {written : List Char}

theorem ne_u {l : Char} (stands : simpleEscape? l = some c) : l ≠ 'u' := by
  rintro rfl
  cases stands

/-- The scan for the closing quote goes past a written character. -/
theorem scanString_append (h : WrittenAs c written) (rest : List Char) :
    scanString (written ++ rest) =
      (scanString rest).map fun (raw, after) => (written ++ raw, after) := by
  cases h with
  | letter stands => simp [scanString, ne_u stands, stands]
  | control low => simp [scanString, codeUnit?_control low]
  | plain quote backslash visible => simp [scanString, backslash, Nat.not_lt.mpr visible]

/-- A written character reads back. -/
theorem unescape_append (h : WrittenAs c written) (rest : List Char) :
    unescape (written ++ rest) = (unescape rest).map (c :: ·) := by
  cases h with
  | letter stands => simp [unescape, ne_u stands, stands]
  | control low =>
      have noSurrogate : ¬ (0xDC00 ≤ c.toNat ∧ c.toNat ≤ 0xDFFF) := by omega
      have noLead : ¬ (0xD800 ≤ c.toNat ∧ c.toNat ≤ 0xDBFF) := by omega
      simp [unescape, codeUnit?_control low, noSurrogate, noLead]
  | plain quote backslash visible => simp [unescape, backslash]

/-- What is written holds no control characters. -/
theorem le_toNat (h : WrittenAs c written) : ∀ d ∈ written, 32 ≤ d.toNat := by
  intro d member
  cases h with
  | letter stands =>
      rcases List.mem_pair.mp member with rfl | rfl
      · decide
      · revert stands
        simp only [simpleEscape?]
        split <;> simp
  | control low =>
      simp only [List.mem_cons, List.not_mem_nil, or_false] at member
      rcases member with rfl | rfl | rfl | rfl | rfl | rfl
      case inr.inr.inr.inr.inl => exact le_toNat_hexDigit (by omega)
      case inr.inr.inr.inr.inr => exact le_toNat_hexDigit (by omega)
      all_goals decide
  | plain _ _ visible => exact List.mem_singleton.mp member ▸ visible

end WrittenAs

variable (text : List Char)

@[simp] theorem escape_nil : escape [] = [] := rfl

@[simp] theorem escape_cons (c : Char) : escape (c :: text) = escapeChar c ++ escape text := rfl

/-- The scan of a string ends at the quote behind the written text. -/
@[simp] theorem scanString_escape (rest : List Char) :
    scanString (escape text ++ '"' :: rest) = some (escape text, rest) := by
  induction text with
  | nil => simp [scanString]
  | cons c text ih =>
      rw [escape_cons, List.append_assoc, (writtenAs_escapeChar c).scanString_append, ih]
      rfl

/-- A written text reads back. -/
@[simp] theorem unescape_escape : unescape (escape text) = some text := by
  induction text with
  | nil => rfl
  | cons c text ih =>
      rw [escape_cons, (writtenAs_escapeChar c).unescape_append, ih, Option.map_some]

@[simp] theorem resolved_escape (s : String) : resolved (escape s.toList) = .ok s := by
  simp [resolved]

theorem le_toNat_of_mem_escape {d : Char} (member : d ∈ escape text) : 32 ≤ d.toNat := by
  obtain ⟨c, _, written⟩ := List.mem_flatMap.mp member
  exact (writtenAs_escapeChar c).le_toNat d written

theorem toList_quote (s : String) : (quote s).toList = '"' :: escape s.toList ++ ['"'] := by
  simp [quote]

end SqlLint.Json
