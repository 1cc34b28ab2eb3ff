import SqlLint.Json.Number

/-!
# The tokens of JSON texts

A text is cut into tokens from left to right. Strings keep their escapes: whether an escape stands
for a character is asked only where the string is read, so a string in a place that nobody reads may
hold an unpaired surrogate. What is no token at all ends the sequence with `bad`.
-/

namespace SqlLint.Json

/-- A token of a JSON text. -/
inductive Token
  | openArray
  | closeArray
  | openObject
  | closeObject
  | colon
  | comma
  | null
  | bool (value : Bool)
  | number (text : NumberText)
  /-- The characters between the quotes, escapes included. -/
  | string (raw : List Char)
  /-- No token starts here. -/
  | bad
deriving DecidableEq, Repr

/-- Blanks between tokens. -/
def isBlank (c : Char) : Bool := c = ' ' || c = '\t' || c = '\n' || c = '\r'

def hexValue? (c : Char) : Option Nat :=
  if '0' ≤ c ∧ c ≤ '9' then some (c.toNat - 48)
  else if 'a' ≤ c ∧ c ≤ 'f' then some (c.toNat - 87)
  else if 'A' ≤ c ∧ c ≤ 'F' then some (c.toNat - 55)
  else none

/-- The code unit that four hexadecimal digits write. -/
def codeUnit? (a b c d : Char) : Option Nat := do
  return ((← hexValue? a) * 16 + (← hexValue? b)) * 256 + (← hexValue? c) * 16 + (← hexValue? d)

/-- The character that a letter after a backslash stands for. -/
def simpleEscape? : Char → Option Char
  | '"' => some '"'
  | '\\' => some '\\'
  | '/' => some '/'
  | 'b' => some '\x08'
  | 'f' => some '\x0c'
  | 'n' => some '\n'
  | 'r' => some '\r'
  | 't' => some '\t'
  | _ => none

/-- The characters up to the closing quote, escapes included, and the text after it. -/
def scanString : List Char → Option (List Char × List Char)
  | [] => none
  | '"' :: rest => some ([], rest)
  | '\\' :: 'u' :: a :: b :: c :: d :: rest =>
    if (codeUnit? a b c d).isSome then
      (scanString rest).map fun (raw, after) => ('\\' :: 'u' :: a :: b :: c :: d :: raw, after)
    else none
  | '\\' :: c :: rest =>
    if (simpleEscape? c).isSome then
      (scanString rest).map fun (raw, after) => ('\\' :: c :: raw, after)
    else none
  | c :: rest =>
    if c.toNat < 32 || c = '\\' then none
    else (scanString rest).map fun (raw, after) => (c :: raw, after)

theorem scanString_length {cs raw rest : List Char} (h : scanString cs = some (raw, rest)) :
    rest.length < cs.length := by
  fun_induction scanString cs generalizing raw with
  | case1 => simp at h
  | case2 => simp only [Option.some.injEq, Prod.mk.injEq] at h; simp [h.2]
  | case3 _ _ _ _ tail _ ih =>
    obtain ⟨⟨r, t⟩, hr, he⟩ := Option.map_eq_some_iff.1 h
    obtain ⟨-, rfl⟩ := Prod.mk.injEq .. ▸ he
    have := ih hr
    simp only [List.length_cons]; omega
  | case4 => simp at h
  | case5 _ tail _ _ ih =>
    obtain ⟨⟨r, t⟩, hr, he⟩ := Option.map_eq_some_iff.1 h
    obtain ⟨-, rfl⟩ := Prod.mk.injEq .. ▸ he
    have := ih hr
    simp only [List.length_cons]; omega
  | case6 => simp at h
  | case7 => simp at h
  | case8 _ tail _ _ _ _ ih =>
    obtain ⟨⟨r, t⟩, hr, he⟩ := Option.map_eq_some_iff.1 h
    obtain ⟨-, rfl⟩ := Prod.mk.injEq .. ▸ he
    have := ih hr
    simp only [List.length_cons]; omega

/-- The text of a string whose escapes are resolved; none when it holds an unpaired surrogate. -/
def unescape : List Char → Option (List Char)
  | [] => some []
  | '\\' :: 'u' :: a :: b :: c :: d :: rest =>
    match codeUnit? a b c d with
    | none => none
    | some unit =>
      if 0xDC00 ≤ unit ∧ unit ≤ 0xDFFF then none
      else if 0xD800 ≤ unit ∧ unit ≤ 0xDBFF then
        match rest with
        | '\\' :: 'u' :: e :: f :: g :: h :: rest' =>
          match codeUnit? e f g h with
          | none => none
          | some low =>
            if 0xDC00 ≤ low ∧ low ≤ 0xDFFF then
              (unescape rest').map
                (Char.ofNat (0x10000 + (unit - 0xD800) * 0x400 + (low - 0xDC00)) :: ·)
            else none
        | _ => none
      else (unescape rest).map (Char.ofNat unit :: ·)
  | '\\' :: c :: rest =>
    match simpleEscape? c with
    | some plain => (unescape rest).map (plain :: ·)
    | none => none
  | c :: rest => (unescape rest).map (c :: ·)

def digits (cs : List Char) : List Char × List Char :=
  (cs.takeWhile Char.isDigit, cs.dropWhile Char.isDigit)

theorem digits_length (cs : List Char) :
    (digits cs).1.length + (digits cs).2.length = cs.length := by
  rw [← List.length_append]
  exact congrArg List.length (List.takeWhile_append_dropWhile)

/-- Whether a minus sign starts a text, and the text after a sign of either kind. -/
def sign : List Char → Bool × List Char
  | '+' :: rest => (false, rest)
  | '-' :: rest => (true, rest)
  | rest => (false, rest)

theorem sign_length (cs : List Char) : (sign cs).2.length ≤ cs.length := by
  unfold sign; split <;> simp

/-- The exponent at the start of a text, if there is one, and the rest; none when it lacks digits.
-/
def scanExponent : List Char → Option (Option (Bool × List Char) × List Char)
  | c :: rest =>
    if c = 'e' ∨ c = 'E' then
      let (isNegative, unsigned) := sign rest
      let (power, after) := digits unsigned
      if power.isEmpty then none else some (some (isNegative, power), after)
    else some (none, c :: rest)
  | [] => some (none, [])

/-- The digits after a point at the start of a text, if there is one, and the rest; none when a
point stands without digits. -/
def scanFraction : List Char → Option (List Char × List Char)
  | '.' :: rest =>
    let (places, rest) := digits rest
    if places.isEmpty then none else some (places, rest)
  | rest => some ([], rest)

/-- The number at the start of a text, its sign apart, and the rest. A zero in front of other digits
is refused. -/
def scanNumber (negative : Bool) (cs : List Char) : Option (NumberText × List Char) := do
  let (whole, rest) := digits cs
  if whole.isEmpty || (whole.head? == some '0' && whole.length > 1) then none
  else
    let (fraction, rest) ← scanFraction rest
    let (exponent, rest) ← scanExponent rest
    return (⟨negative, whole, fraction, exponent⟩, rest)

theorem scanExponent_length {cs rest : List Char} {e : Option (Bool × List Char)}
    (h : scanExponent cs = some (e, rest)) : rest.length ≤ cs.length := by
  unfold scanExponent at h
  split at h
  · next c tail =>
    split at h
    · simp only at h
      split at h
      · simp at h
      · simp only [Option.some.injEq, Prod.mk.injEq] at h
        have := digits_length (sign tail).2
        have := sign_length tail
        rw [← h.2, List.length_cons]; omega
    · simp only [Option.some.injEq, Prod.mk.injEq] at h
      exact h.2 ▸ Nat.le_refl _
  · simp only [Option.some.injEq, Prod.mk.injEq] at h
    exact h.2 ▸ Nat.le_refl _

theorem scanFraction_length {cs rest places : List Char}
    (h : scanFraction cs = some (places, rest)) : rest.length ≤ cs.length := by
  unfold scanFraction at h
  split at h
  · next tail =>
    simp only at h
    split at h
    · simp at h
    · simp only [Option.some.injEq, Prod.mk.injEq] at h
      have := digits_length tail
      rw [← h.2, List.length_cons]; omega
  · simp only [Option.some.injEq, Prod.mk.injEq] at h
    exact h.2 ▸ Nat.le_refl _

theorem scanNumber_length {negative : Bool} {cs rest : List Char} {n : NumberText}
    (h : scanNumber negative cs = some (n, rest)) : rest.length < cs.length := by
  unfold scanNumber at h
  simp only [Option.bind_eq_bind] at h
  split at h
  · simp at h
  · next hne =>
    obtain ⟨⟨fraction, rest₁⟩, h₁, h⟩ := Option.bind_eq_some_iff.1 h
    obtain ⟨⟨exponent, rest₂⟩, h₂, h⟩ := Option.bind_eq_some_iff.1 h
    simp only [Option.pure_def, Option.some.injEq, Prod.mk.injEq] at h
    have l₁ := scanFraction_length h₁
    have l₂ := scanExponent_length h₂
    have l := digits_length cs
    have hpos : 0 < (digits cs).1.length := by
      cases hd : (digits cs).1 with
      | nil => simp [hd] at hne
      | cons => simp
    rw [← h.2]
    simp only at l₁ l₂
    omega

/-- What is left of a text after `word`, if it starts with it. -/
def afterWord? (word text : List Char) : Option (List Char) :=
  if word.isPrefixOf text then some (text.drop word.length) else none

namespace Token

/-- The token at the start of a text that has no blank there, and the rest. -/
def scan : List Char → Option (Token × List Char)
  | [] => none
  | '[' :: rest => some (.openArray, rest)
  | ']' :: rest => some (.closeArray, rest)
  | '\x7b' :: rest => some (.openObject, rest)
  | '\x7d' :: rest => some (.closeObject, rest)
  | ':' :: rest => some (.colon, rest)
  | ',' :: rest => some (.comma, rest)
  | '"' :: rest => (scanString rest).map fun (raw, rest) => (.string raw, rest)
  | '-' :: rest => (scanNumber true rest).map fun (n, rest) => (.number n, rest)
  | 'n' :: rest => (afterWord? ['u', 'l', 'l'] rest).map (.null, ·)
  | 't' :: rest => (afterWord? ['r', 'u', 'e'] rest).map (.bool true, ·)
  | 'f' :: rest => (afterWord? ['a', 'l', 's', 'e'] rest).map (.bool false, ·)
  | c :: rest =>
    if c.isDigit then (scanNumber false (c :: rest)).map fun (n, rest) => (.number n, rest)
    else none

theorem scan_length {cs rest : List Char} {token : Token} (h : scan cs = some (token, rest)) :
    rest.length < cs.length := by
  have word : ∀ {w tail : List Char} {t : Token},
      (afterWord? w tail).map (t, ·) = some (token, rest) → rest.length ≤ tail.length := by
    intro w tail t h
    obtain ⟨after, ha, he⟩ := Option.map_eq_some_iff.1 h
    unfold afterWord? at ha
    split at ha
    · simp only [Option.some.injEq] at ha
      simp only [Prod.mk.injEq] at he
      rw [← he.2, ← ha, List.length_drop]; omega
    · simp at ha
  unfold scan at h
  split at h
  case h_8 =>
    obtain ⟨⟨raw, after⟩, ha, he⟩ := Option.map_eq_some_iff.1 h
    have := scanString_length ha
    simp only [Prod.mk.injEq] at he
    rw [← he.2, List.length_cons]; omega
  case h_9 =>
    obtain ⟨⟨n, after⟩, ha, he⟩ := Option.map_eq_some_iff.1 h
    have := scanNumber_length ha
    simp only [Prod.mk.injEq] at he
    rw [← he.2, List.length_cons]; omega
  case h_10 => have := word h; simp only [List.length_cons]; omega
  case h_11 => have := word h; simp only [List.length_cons]; omega
  case h_12 => have := word h; simp only [List.length_cons]; omega
  case h_13 =>
    split at h
    · obtain ⟨⟨n, after⟩, ha, he⟩ := Option.map_eq_some_iff.1 h
      have := scanNumber_length ha
      simp only [Prod.mk.injEq] at he
      rw [← he.2]; exact this
    · simp at h
  all_goals
    simp only [Option.some.injEq, Prod.mk.injEq, reduceCtorEq] at h
    try (rw [← h.2]; simp)

/-- The tokens of a text, as far as it consists of tokens. -/
def cut (cs : List Char) : List Token :=
  match _hcs : cs.dropWhile isBlank with
  | [] => []
  | c :: tail =>
    match _h : scan (c :: tail) with
    | none => [.bad]
    | some (token, rest) => token :: cut rest
termination_by cs.length
decreasing_by
  have := scan_length _h
  have := (List.dropWhile_suffix isBlank (l := cs)).length_le
  rw [_hcs] at this
  omega

def ofText (text : String) : List Token := cut text.toList

end Token
end SqlLint.Json
