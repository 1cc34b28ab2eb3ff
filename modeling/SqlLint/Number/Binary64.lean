/-!
# Double precision numbers

Nonnegative floating point numbers of 53 bits, as exact integers times powers of two. `ofRatio`
rounds a quotient to the nearest number, an exact tie to the even one; arithmetic is exact
arithmetic followed by rounding. `shortest` finds the fewest decimal digits that read back as the
same number, and among those the nearest; a form of decimal notation says which way a tie between
digits goes and when an exponent is written.
-/

namespace SqlLint

/-- The number `mantissa * 2 ^ exponent`. -/
structure Binary64 where
  mantissa : Nat
  exponent : Int
deriving DecidableEq, Repr, Inhabited

namespace Binary64

/-- The highest of the 53 bits of a mantissa. -/
def leadingBit : Nat := 0x10000000000000

def zero : Binary64 := ⟨0, -1074⟩

def scaled (num den : Nat) (exponent : Int) : Nat × Nat :=
  if exponent ≥ 0 then (num <<< exponent.toNat, den) else (num, den <<< (-exponent).toNat)

/-- Which way an exact tie goes. -/
inductive Tie
  | toEven
  | up
deriving DecidableEq, Repr

/-- The integer nearest to a quotient. -/
def roundDiv (tie : Tie) (num den : Nat) : Nat :=
  let q := num / den
  let r := num % den
  if 2 * r < den then q
  else if 2 * r > den then q + 1
  else if tie = .toEven ∧ q % 2 = 0 then q
  else q + 1

/-- The exponent at which a positive quotient has 53 bits before the point, or the least one. -/
def exponentOf (num den : Nat) : Int :=
  let guess : Int := (Nat.log2 num : Int) - (Nat.log2 den : Int) - 52
  let (n, d) := scaled num den (-guess)
  let exact := if n / d < leadingBit then guess - 1 else guess
  max exact (-1074)

/-- The number nearest to a quotient; none when it is too large. -/
def ofRatio (num den : Nat) : Option Binary64 :=
  if num = 0 then some zero
  else
    let e := exponentOf num den
    let (n, d) := scaled num den (-e)
    let m := roundDiv .toEven n d
    let result : Binary64 := if m = 2 * leadingBit then ⟨leadingBit, e + 1⟩ else ⟨m, e⟩
    if result.exponent > 971 then none else some result

def ofNat (n : Nat) : Option Binary64 := ofRatio n 1

def ratio (x : Binary64) : Nat × Nat := scaled x.mantissa 1 x.exponent

/-- The sum, rounded. -/
def add (x y : Binary64) : Option Binary64 :=
  let (a, b) := x.ratio
  let (c, d) := y.ratio
  ofRatio (a * d + c * b) (b * d)

/-- The product, rounded. -/
def mul (x y : Binary64) : Option Binary64 :=
  let (a, b) := x.ratio
  let (c, d) := y.ratio
  ofRatio (a * c) (b * d)

/-- The quotient, rounded; the divisor is not zero. -/
def div (x y : Binary64) : Option Binary64 :=
  let (a, b) := x.ratio
  let (c, d) := y.ratio
  ofRatio (a * d) (b * c)

/-- Whether a decimal `digits * 10 ^ power` lies among the reals that round to a number, given as
the quotients `low / den` and `high / den` of their bounds. -/
def within (low high den : Nat) (closed : Bool) (digits : Nat) (power : Int) : Bool :=
  let (c, scale) :=
    if power ≥ 0 then (digits * Nat.pow 10 power.toNat * den, 1)
    else (digits * den, Nat.pow 10 (-power).toNat)
  if closed then low * scale ≤ c && c ≤ high * scale else low * scale < c && c < high * scale

/-- The first decimal, trying ever finer grids from `power` down, that reads back as the number with
value `num / den` and bounds `low / den`, `high / den`. -/
def firstHit (tie : Tie) (num low high den : Nat) (closed : Bool) : Nat → Int → Nat × Int
  | 0, power => (0, power)
  | grids + 1, power =>
    let (n, d) :=
      if power ≥ 0 then (num, den * Nat.pow 10 power.toNat)
      else (num * Nat.pow 10 (-power).toNat, den)
    let lower := n / d
    let nearest := roundDiv tie n d
    let other := if nearest = lower then lower + 1 else lower
    if within low high den closed nearest power then (nearest, power)
    else if within low high den closed other power then (other, power)
    else firstHit tie num low high den closed grids (power - 1)

/-- The fewest decimal digits that read back as the number, as an integer and the power of ten it is
multiplied by. -/
def shortest (x : Binary64) (tie : Tie) : Nat × Int :=
  if x.mantissa = 0 then (0, 0)
  else
    let below := if x.mantissa = leadingBit ∧ x.exponent > -1074 then 1 else 2
    let (num, den) := scaled (4 * x.mantissa) 1 (x.exponent - 2)
    let (low, _) := scaled (4 * x.mantissa - below) 1 (x.exponent - 2)
    let (high, _) := scaled (4 * x.mantissa + 2) 1 (x.exponent - 2)
    let power : Int := ((x.mantissa.log2 : Int) + x.exponent) * 30103 / 100000 + 1
    firstHit tie num low high den (x.mantissa % 2 = 0) 20 power

/-- How numbers are written in decimal notation. -/
structure DecimalForm where
  /-- Which of two nearest decimals is taken. -/
  tie : Tie
  /-- Whether a number whose first digit stands for this power of ten is written without exponent.
  -/
  isPositional : Int → Bool
  /-- Whether an integer without exponent gets a point and a zero. -/
  isPointed : Bool

/-- Digits times a power of ten without exponent. -/
def positional (isPointed : Bool) (digits : List Char) (power : Int) : List Char :=
  if power ≥ 0 then
    digits ++ List.replicate power.toNat '0' ++ if isPointed then ['.', '0'] else []
  else
    let places := (-power).toNat
    let padded := List.replicate (places + 1 - digits.length) '0' ++ digits
    padded.take (padded.length - places) ++ '.' :: padded.drop (padded.length - places)

/-- Digits with a point after the first one, and the power of ten of the first one as exponent. -/
def scientific (digits : List Char) (exponent : Int) : List Char :=
  let mantissa := match digits with
    | first :: second :: rest => first :: '.' :: second :: rest
    | digits => digits
  let sign := if exponent < 0 then '-' else '+'
  mantissa ++ 'e' :: sign :: (toString exponent.natAbs).toList

/-- The shortest decimal of a number. -/
def toDecimal (x : Binary64) (form : DecimalForm) : String :=
  let (n, power) := x.shortest form.tie
  let digits := (toString n).toList
  let exponent := power + digits.length - 1
  String.ofList (if form.isPositional exponent then positional form.isPointed digits power
    else scientific digits exponent)

end Binary64
end SqlLint
