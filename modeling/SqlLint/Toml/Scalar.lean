import SqlLint.Json.Number
import SqlLint.Toml.Node

/-!
# Scalars of TOML documents

Strings of the four kinds, numbers, dates and times. Each reader takes a scalar from the front of a
text and gives it with the rest of the text, or refuses.
-/

namespace SqlLint.Toml

/-- A reader takes something from the front of a text. -/
abbrev Reader (α : Type) := List Char → Option (α × List Char)

/-- Blanks inside a line. -/
def isBlank (c : Char) : Bool := c = ' ' || c = '\t'

def skipBlanks (cs : List Char) : List Char := cs.dropWhile isBlank

/-- The text after a line break, if one is at its start. -/
def afterBreak? : List Char → Option (List Char)
  | '\n' :: rest => some rest
  | '\r' :: '\n' :: rest => some rest
  | _ => none

/-- Characters that stand for themselves in a comment. -/
def isPlain (c : Char) : Bool := c = '\t' || (32 ≤ c.toNat && c.toNat ≠ 127)

/-- Characters that stand for themselves between quotes. -/
def isBasic (c : Char) : Bool := isPlain c && c ≠ '"' && c ≠ '\\'

/-- Characters that stand for themselves between apostrophes. -/
def isLiteral (c : Char) : Bool := isPlain c && c ≠ '\''

def hexValue? (c : Char) : Option Nat :=
  if c.isDigit then some (c.toNat - 48)
  else if 'a' ≤ c ∧ c ≤ 'f' then some (c.toNat - 87)
  else if 'A' ≤ c ∧ c ≤ 'F' then some (c.toNat - 55)
  else none

/-- The character whose code `count` hexadecimal digits write, after what is read already. -/
def codePoint (code : Nat) : Nat → Reader Char
  | 0, cs =>
    if code < 0xD800 ∨ (0xDFFF < code ∧ code < 0x110000) then some (Char.ofNat code, cs) else none
  | _ + 1, [] => none
  | count + 1, c :: rest => do codePoint (16 * code + (← hexValue? c)) count rest

/-- The character that the text after a backslash stands for. -/
def escaped : Reader Char
  | 'b' :: rest => some ('\x08', rest)
  | 'f' :: rest => some ('\x0c', rest)
  | 'n' :: rest => some ('\n', rest)
  | 'r' :: rest => some ('\r', rest)
  | 't' :: rest => some ('\t', rest)
  | '"' :: rest => some ('"', rest)
  | '\\' :: rest => some ('\\', rest)
  | 'u' :: rest => codePoint 0 4 rest
  | 'U' :: rest => codePoint 0 8 rest
  | _ => none

/-- The characters of a string in quotes, after the opening one; `steps` bounds their number. -/
def basicChars : Nat → Reader (List Char)
  | 0, _ => none
  | _ + 1, [] => none
  | steps + 1, c :: rest =>
    if c = '"' then some ([], rest)
    else if c = '\\' then do
      let (d, rest) ← escaped rest
      let (more, rest) ← basicChars steps rest
      return (d :: more, rest)
    else if isBasic c then do
      let (more, rest) ← basicChars steps rest
      return (c :: more, rest)
    else none

/-- A text without blanks and line breaks at its start; `steps` bounds their number. -/
def skipLines : Nat → List Char → List Char
  | 0, cs => cs
  | steps + 1, cs =>
    let cs := skipBlanks cs
    match afterBreak? cs with
    | some rest => skipLines steps rest
    | none => cs

/-- How many quotes end a string of several lines that is met `count` quotes in a row: the last
three close it, and up to two before them belong to it. None when they do not close it. -/
def closing? (count : Nat) : Option Nat :=
  if count < 3 then none else some (min count 5)

/-- The characters of a string of several lines, after the opening quotes. `quote` is the quote that
closes it and `plain` tells the characters that stand for themselves; `hasEscapes` says whether a
backslash does not. `steps` bounds the number of characters. -/
def longChars (quote : Char) (plain : Char → Bool) (hasEscapes : Bool) : Nat → Reader (List Char)
  | 0, _ => none
  | _ + 1, [] => none
  | steps + 1, c :: rest =>
    let again (front : List Char) (rest : List Char) : Option (List Char × List Char) := do
      let (more, rest) ← longChars quote plain hasEscapes steps rest
      return (front ++ more, rest)
    if c = quote then
      let count := 1 + (rest.takeWhile (· = quote)).length
      match closing? count with
      | some used => some (List.replicate (used - 3) quote, (c :: rest).drop used)
      | none => again (List.replicate count quote) ((c :: rest).drop count)
    else if c = '\\' ∧ hasEscapes then
      match afterBreak? (skipBlanks rest) with
      | some after => again [] (skipLines after.length after)
      | none => do
        let (d, after) ← escaped rest
        again [d] after
    else
      match afterBreak? (c :: rest) with
      | some after => again ['\n'] after
      | none => if plain c then again [c] rest else none

def dropBreak (cs : List Char) : List Char := (afterBreak? cs).getD cs

def shortString : Reader String
  | '"' :: rest => do
    let (cs, rest) ← basicChars (rest.length + 1) rest
    return (String.ofList cs, rest)
  | '\'' :: rest =>
    match rest.dropWhile isLiteral with
    | '\'' :: after => some (String.ofList (rest.takeWhile isLiteral), after)
    | _ => none
  | _ => none

def string : Reader String
  | '"' :: '"' :: '"' :: rest => do
    let (cs, rest) ← longChars '"' isBasic true (rest.length + 1) (dropBreak rest)
    return (String.ofList cs, rest)
  | '\'' :: '\'' :: '\'' :: rest => do
    let (cs, rest) ← longChars '\'' isLiteral false (rest.length + 1) (dropBreak rest)
    return (String.ofList cs, rest)
  | cs => shortString cs

/-- Digits with single underscores between them; a digit comes first. -/
def digitRun (isDigit : Char → Bool) : Reader (List Char)
  | [] => none
  | c :: rest => if isDigit c then more c rest else none
where
  /-- The digits from `c` on. -/
  more (c : Char) : Reader (List Char)
    | '_' :: d :: rest =>
      if isDigit d then (more d rest).map fun (ds, rest) => (c :: ds, rest) else none
    | d :: rest =>
      if isDigit d then (more d rest).map fun (ds, rest) => (c :: ds, rest)
      else if d = '_' then none
      else some ([c], d :: rest)
    | [] => some ([c], [])

/-- Whether a minus sign stands at the start, and the text after a sign. -/
def sign : List Char → Bool × List Char
  | '-' :: rest => (true, rest)
  | '+' :: rest => (false, rest)
  | rest => (false, rest)

/-- Decimal digits without a zero in front of others. -/
def wholePart : Reader (List Char)
  | '0' :: rest => some (['0'], rest)
  | rest => digitRun Char.isDigit rest

def fractionPart : Reader (List Char)
  | '.' :: rest => digitRun Char.isDigit rest
  | rest => some ([], rest)

def exponentPart : Reader (Option Int)
  | c :: rest =>
    if c = 'e' ∨ c = 'E' then do
      let (negative, rest) := sign rest
      let (digits, rest) ← digitRun Char.isDigit rest
      let n : Int := Json.decimalValue digits
      return (some (if negative then -n else n), rest)
    else some (none, c :: rest)
  | [] => some (none, [])

/-- The double precision number nearest to a decimal; none when it is too large. -/
def nearest? (digits : List Char) (power : Int) : Option Binary64 :=
  let n := Json.decimalValue digits
  let magnitude : Int := digits.length + power
  if n = 0 ∨ magnitude < -400 then some .zero
  else if magnitude > digits.length + 400 then none
  else if power ≥ 0 then Binary64.ofRatio (n * Nat.pow 10 power.toNat) 1
  else Binary64.ofRatio n (Nat.pow 10 (-power).toNat)

def integer? (n : Int) : Option Node :=
  if -0x8000000000000000 ≤ n ∧ n < 0x8000000000000000 then some (.integer n) else none

/-- The value of digits in a base. -/
def valueIn (base : Nat) (digits : List Char) : Nat :=
  digits.foldl (fun n c => base * n + (hexValue? c).getD 0) 0

/-- An integer in another base than ten, after its mark. -/
def integerIn (base : Nat) : Reader Node := fun cs => do
  let (digits, rest) ← digitRun (fun c => (hexValue? c).any (· < base)) cs
  return (← integer? (valueIn base digits), rest)

/-- A number after its sign. -/
def unsignedNumber (negative : Bool) : Reader Node
  | 'i' :: 'n' :: 'f' :: rest => some (.notFinite (if negative then "-inf" else "inf"), rest)
  | 'n' :: 'a' :: 'n' :: rest => some (.notFinite "NaN", rest)
  | cs => do
    let (whole, rest) ← wholePart cs
    let (fraction, rest) ← fractionPart rest
    let (exponent, rest) ← exponentPart rest
    if fraction.isEmpty && exponent.isNone then
      let n : Int := Json.decimalValue whole
      return (← integer? (if negative then -n else n), rest)
    else
      match nearest? (whole ++ fraction) (exponent.getD 0 - fraction.length) with
      | some x => return (.real negative x, rest)
      | none => if negative then return (.notFinite "-inf", rest) else none

def number : Reader Node
  | '0' :: 'x' :: rest => integerIn 16 rest
  | '0' :: 'o' :: rest => integerIn 8 rest
  | '0' :: 'b' :: rest => integerIn 2 rest
  | cs =>
    let (negative, rest) := sign cs
    unsignedNumber negative rest

/-- The number that two digits at the start write, if it lies between bounds. -/
def twoDigits (least most : Nat) : Reader Nat
  | a :: b :: rest =>
    let n := Json.decimalValue [a, b]
    if a.isDigit && b.isDigit && least ≤ n && n ≤ most then some (n, rest) else none
  | _ => none

/-- The text after a character that has to be at its start. -/
def after (c : Char) : List Char → Option (List Char)
  | d :: rest => if c = d then some rest else none
  | [] => none

def daysOf (year month : Nat) : Nat :=
  if month = 2 then
    if year % 4 = 0 ∧ (year % 100 ≠ 0 ∨ year % 400 = 0) then 29 else 28
  else if [4, 6, 9, 11].contains month then 30
  else 31

/-- The text after a date at its start. -/
def afterDate? (cs : List Char) : Option (List Char) := do
  let digits := cs.take 4
  if digits.length = 4 ∧ digits.all Char.isDigit then
    let (month, rest) ← twoDigits 1 12 (← after '-' (cs.drop 4))
    let (day, rest) ← twoDigits 1 31 (← after '-' rest)
    if day ≤ daysOf (Json.decimalValue digits) month then some rest else none
  else none

/-- The text after a time of day at its start. -/
def afterTime? (cs : List Char) : Option (List Char) := do
  let (_, rest) ← twoDigits 0 23 cs
  let (_, rest) ← twoDigits 0 59 (← after ':' rest)
  let (_, rest) ← twoDigits 0 60 (← after ':' rest)
  match rest with
  | '.' :: fraction =>
    if fraction.head?.any Char.isDigit then some (fraction.dropWhile Char.isDigit) else none
  | rest => some rest

/-- The text after a distance from universal time, if there is one. -/
def afterOffset? : List Char → Option (List Char)
  | 'Z' :: rest => some rest
  | 'z' :: rest => some rest
  | c :: rest =>
    if c = '+' ∨ c = '-' then do
      let (_, rest) ← twoDigits 0 23 rest
      let (_, rest) ← twoDigits 0 59 (← after ':' rest)
      return rest
    else some (c :: rest)
  | [] => some []

/-- A date, a time, or both. -/
def moment : Reader Node := fun cs =>
  match afterDate? cs with
  | some (c :: rest) =>
    if c = 'T' ∨ c = 't' ∨ c = ' ' then
      match afterTime? rest with
      | some rest => do return (.moment, ← afterOffset? rest)
      | none => some (.moment, c :: rest)
    else some (.moment, c :: rest)
  | some [] => some (.moment, [])
  | none => (afterTime? cs).map fun rest => (.moment, rest)

/-- Whether a scalar that is not a string starts with a character, other than a word. -/
def startsNumber (c : Char) : Bool := c.isDigit || c = '+' || c = '-' || c = 'i' || c = 'n'

def scalar : Reader Node
  | '"' :: rest => (string ('"' :: rest)).map fun (s, rest) => (.string s, rest)
  | '\'' :: rest => (string ('\'' :: rest)).map fun (s, rest) => (.string s, rest)
  | 't' :: 'r' :: 'u' :: 'e' :: rest => some (.bool true, rest)
  | 'f' :: 'a' :: 'l' :: 's' :: 'e' :: rest => some (.bool false, rest)
  | cs => if cs.head?.any startsNumber then (moment cs).or (number cs) else none

end SqlLint.Toml
