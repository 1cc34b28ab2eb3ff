import SqlLint.Number.Binary64

/-!
# The numbers of JSON texts

A number is kept as it is written until its value is asked for. Integers of 64 bits are exact. Any
other number is a double precision number: the first digits that fit into 64 bits, scaled by a power
of ten, with one rounding for each of the two.
-/

namespace SqlLint.Json

/-- A number as it is written. -/
structure NumberText where
  negative : Bool
  /-- The digits before the point. -/
  whole : List Char
  /-- The digits after the point; none when there is no point. -/
  fraction : List Char
  /-- Whether the exponent is negative, and its digits. -/
  exponent : Option (Bool × List Char)
deriving DecidableEq, Repr

/-- The value of a number. -/
inductive Number
  | integer (value : Int)
  | real (negative : Bool) (magnitude : Binary64)
deriving DecidableEq, Repr

def digitValue (c : Char) : Nat := c.toNat - 48

def decimalValue (digits : List Char) : Nat :=
  digits.foldl (fun n c => 10 * n + digitValue c) 0

/-- Appends digits to a number as long as the result fits into 64 bits; the second part is what is
left. -/
def appendFitting (n : Nat) : List Char → Nat × List Char
  | [] => (n, [])
  | c :: rest =>
    let next := 10 * n + digitValue c
    if next < 0x10000000000000000 then appendFitting next rest else (n, c :: rest)

def powerOfTen (n : Nat) : Binary64 := (Binary64.ofNat (Nat.pow 10 n)).getD .zero

def scaleByTen (x : Binary64) (power : Int) : Option Binary64 :=
  if x.mantissa = 0 then some .zero
  else if power > 308 then none
  else if power ≥ 0 then x.mul (powerOfTen power.toNat)
  else
    let places := (-power).toNat
    if places ≤ 308 then x.div (powerOfTen places)
    else if places ≤ 616 then do (← x.div (powerOfTen 308)).div (powerOfTen (places - 308))
    else some .zero

namespace NumberText

/-- The largest exponent that is told apart from larger ones. -/
def exponentLimit : Nat := 0x7FFFFFFF

/-- The magnitude of a number that is no 64-bit integer; none when it is too large. -/
def magnitude? (t : NumberText) : Option Binary64 :=
  let (head, dropped) := appendFitting 0 t.whole
  let (significand, left) := appendFitting head t.fraction
  let power : Int := (dropped.length : Int) - (t.fraction.length - left.length : Nat)
  do
    let x ← Binary64.ofNat significand
    match t.exponent with
    | none => scaleByTen x power
    | some (isNegative, digits) =>
      let e := decimalValue digits
      if e > exponentLimit then
        if significand ≠ 0 && !isNegative then none else some .zero
      else scaleByTen x (if isNegative then power - e else power + e)

/-- Whether a number has neither fraction nor exponent. -/
def isWhole (t : NumberText) : Bool := t.fraction.isEmpty && t.exponent.isNone

/-- The value of a number; none when it is too large. -/
def value? (t : NumberText) : Option Number :=
  let n := decimalValue t.whole
  if t.isWhole && !t.negative && n < 0x10000000000000000 then some (.integer n)
  else if t.isWhole && t.negative && 0 < n && n ≤ 0x8000000000000000 then some (.integer (-n))
  else t.magnitude?.map (.real t.negative)

end NumberText
end SqlLint.Json
