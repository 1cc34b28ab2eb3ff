/-!
# Sets of characters

A set of characters is a list of ranges of code points, in increasing order, that neither overlap
nor touch; so equal sets have equal lists. Surrogates are no characters and belong to no set.
-/

namespace SqlLint

/-- A range of code points, both ends included. -/
structure CodeRange where
  low : Nat
  high : Nat
deriving DecidableEq, Repr, Inhabited

/-- A set of characters as separate ranges in increasing order. -/
structure CharSet where
  ranges : List CodeRange
deriving DecidableEq, Repr, Inhabited

namespace CharSet

def empty : CharSet := ⟨[]⟩

/-- Puts `r` in front of the ranges that follow it, joined with those it overlaps or touches. -/
def absorb (r : CodeRange) : List CodeRange → List CodeRange
  | [] => [r]
  | next :: rest =>
    if next.low ≤ r.high + 1 then absorb ⟨r.low, max r.high next.high⟩ rest else r :: next :: rest

/-- Ranges in increasing order, joined where they overlap or touch. -/
def joined : List CodeRange → List CodeRange
  | [] => []
  | r :: rest => absorb r (joined rest)

/-- The code points that are characters: all but the surrogates. -/
def characters : List CodeRange := [⟨0, 0xD7FF⟩, ⟨0xE000, 0x10FFFF⟩]

/-- What two increasing lists of ranges have in common. -/
def common : List CodeRange → List CodeRange → List CodeRange
  | [], _ => []
  | _, [] => []
  | a :: as, b :: bs =>
    let low := max a.low b.low
    let high := min a.high b.high
    let rest := if a.high ≤ b.high then common as (b :: bs) else common (a :: as) bs
    if low ≤ high then ⟨low, high⟩ :: rest else rest
termination_by as bs => as.length + bs.length

def ofRanges (ranges : List CodeRange) : CharSet :=
  ⟨common (joined (ranges.mergeSort fun a b => a.low ≤ b.low)) characters⟩

/-- The gaps of an increasing list of ranges, from `start` on. -/
def gaps (start : Nat) : List CodeRange → List CodeRange
  | [] => if start ≤ 0x10FFFF then [⟨start, 0x10FFFF⟩] else []
  | r :: rest =>
    if start < r.low then ⟨start, r.low - 1⟩ :: gaps (r.high + 1) rest else gaps (r.high + 1) rest

/-- All characters outside a set. -/
def complement (s : CharSet) : CharSet := ⟨common (gaps 0 s.ranges) characters⟩

def union (s t : CharSet) : CharSet := .ofRanges (s.ranges ++ t.ranges)

def intersection (s t : CharSet) : CharSet := ⟨common s.ranges t.ranges⟩

def difference (s t : CharSet) : CharSet := s.intersection t.complement

def symmetricDifference (s t : CharSet) : CharSet :=
  (s.union t).difference (s.intersection t)

/-- Whether a code point lies in a list of ranges that increases. -/
def covers (code : Nat) : List CodeRange → Bool
  | [] => false
  | r :: rest => if code < r.low then false else code ≤ r.high || covers code rest

def contains (s : CharSet) (c : Char) : Bool := covers c.toNat s.ranges

def isEmpty (s : CharSet) : Bool := s.ranges.isEmpty

def single? (s : CharSet) : Option Char :=
  match s.ranges with
  | [r] => if r.low = r.high then some (Char.ofNat r.low) else none
  | _ => none

def singleton (c : Char) : CharSet := ⟨[⟨c.toNat, c.toNat⟩]⟩

def between (first last : Char) : CharSet := .ofRanges [⟨first.toNat, last.toNat⟩]

/-- The value of a lower-case hexadecimal digit. -/
def hexValue (c : Char) : Nat := if c.isDigit then c.toNat - 48 else c.toNat - 87

def hexNumber (digits : List Char) : Nat := digits.foldl (fun n c => 16 * n + hexValue c) 0

/-- The texts between blanks and line breaks, the empty ones included. -/
def pieces : List Char → List (List Char)
  | [] => [[]]
  | c :: rest =>
    match pieces rest with
    | [] => [[c]]
    | piece :: others =>
      if c = ' ' ∨ c = '\n' then [] :: piece :: others else (c :: piece) :: others

def words (cs : List Char) : List (List Char) := (pieces cs).filter (!·.isEmpty)

/-- The range that `low-high`, or one code point alone, writes in hexadecimal. -/
def rangeOf (word : List Char) : CodeRange :=
  let low := hexNumber (word.takeWhile (· ≠ '-'))
  match word.dropWhile (· ≠ '-') with
  | [] => ⟨low, low⟩
  | _ :: high => ⟨low, hexNumber high⟩

/-- The set whose ranges a table writes, in increasing order and separated by blanks or line
breaks. -/
def ofTable (table : String) : CharSet := ⟨(words table.toList).map rangeOf⟩

end CharSet
end SqlLint
