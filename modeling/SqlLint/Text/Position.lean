/-!
# Positions in a text

A position is a place between two characters. It is reached by reading characters one after the
other: every character moves the byte offset by the length of its UTF-8 encoding, a newline opens
the next line, and any other character moves one column to the right. Because a position is a
fold over what precedes it, positions of concatenated texts are obtained by continuing the fold.
-/

namespace SqlLint

/-- A place between two characters: the bytes before it, and its line and column, both counted
from one, the column in characters. -/
structure Position where
  /-- Bytes of UTF-8 before the place. -/
  offset : Nat
  /-- Line, counted from one. -/
  line : Nat
  /-- Column in characters, counted from one. -/
  column : Nat
deriving DecidableEq, Repr, Inhabited

namespace Position

/-- The place before the first character. -/
def start : Position := ⟨0, 1, 1⟩

/-- The place after reading one character. -/
def advance (p : Position) (c : Char) : Position :=
  if c = '\n' then ⟨p.offset + c.utf8Size, p.line + 1, 1⟩
  else ⟨p.offset + c.utf8Size, p.line, p.column + 1⟩

/-- The place after reading a run of characters. -/
def advanceAll (p : Position) (text : List Char) : Position :=
  text.foldl advance p

@[simp] theorem advanceAll_nil (p : Position) : p.advanceAll [] = p := rfl

@[simp] theorem advanceAll_cons (p : Position) (c : Char) (text : List Char) :
    p.advanceAll (c :: text) = (p.advance c).advanceAll text := rfl

/-- Reading two runs is reading one after the other. -/
theorem advanceAll_append (p : Position) (first second : List Char) :
    p.advanceAll (first ++ second) = (p.advanceAll first).advanceAll second := by
  simp [advanceAll]

@[simp] theorem offset_advance (p : Position) (c : Char) :
    (p.advance c).offset = p.offset + c.utf8Size := by
  unfold advance; split <;> rfl

/-- Line and column shown for a byte offset, scanning `text` from the place `p`. An offset inside
a character or past the end has no column of its own: it shows column one of the line it is on. -/
def locate (p : Position) (target : Nat) : List Char → Nat × Nat
  | [] => if target = p.offset then (p.line, p.column) else (p.line, 1)
  | c :: rest =>
    if target = p.offset then (p.line, p.column)
    else if target < p.offset + c.utf8Size then (p.line, 1)
    else locate (p.advance c) target rest

end Position
end SqlLint
