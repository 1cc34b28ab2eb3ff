import SqlLint.Text.CharSet

/-!
# Sets of characters as sequences of bytes

In UTF-8 a character takes one to four bytes. The characters of a set are those whose bytes fit one
of some sequences of byte ranges, place by place. A range of code points is cut where the number of
bytes changes and where the bytes after some place do not run through all their values; each piece
is one sequence.
-/

namespace SqlLint.Regex

/-- A range of bytes, both ends included. -/
structure ByteRange where
  low : Nat
  high : Nat
deriving DecidableEq, Repr, Inhabited

/-- Ranges that bytes in a row have to fit. -/
abbrev ByteSequence := List ByteRange

/-- The code points that take one to four bytes. -/
def codesByLength : List CodeRange :=
  [⟨0, 0x7F⟩, ⟨0x80, 0x7FF⟩, ⟨0x800, 0xFFFF⟩, ⟨0x10000, 0x10FFFF⟩]

/-- Cuts a range at the ends of blocks of a size, so that each piece lies in one block or consists
of whole blocks. -/
def cutAtBlocks (size : Nat) (r : CodeRange) : List CodeRange :=
  let last := r.high / size
  if r.low / size = last then [r]
  else
    let (head, low) :=
      if r.low % size = 0 then ([], r.low)
      else
        let next := (r.low / size + 1) * size
        ([⟨r.low, next - 1⟩], next)
    if low / size = last ∨ r.high % size = size - 1 then head ++ [⟨low, r.high⟩]
    else head ++ [⟨low, last * size - 1⟩, ⟨last * size, r.high⟩]

def bytesOfCode (code : Nat) : List Nat :=
  if code < 0x80 then [code]
  else if code < 0x800 then [0xC0 + code / 64, 0x80 + code % 64]
  else if code < 0x10000 then [0xE0 + code / 4096, 0x80 + code / 64 % 64, 0x80 + code % 64]
  else
    [0xF0 + code / 262144, 0x80 + code / 4096 % 64, 0x80 + code / 64 % 64, 0x80 + code % 64]

def bytesOfText (text : List Char) : List Nat := text.flatMap fun c => bytesOfCode c.toNat

/-- The sequence of a range that needs no cutting. -/
def sequenceOf (r : CodeRange) : ByteSequence :=
  List.zipWith ByteRange.mk (bytesOfCode r.low) (bytesOfCode r.high)

/-- The pieces of a range of code points that take equally many bytes, with one sequence each. A
range of single bytes is one piece. -/
def piecesOf (r : CodeRange) : List CodeRange :=
  if r.high < 0x80 then [r]
  else
    ((cutAtBlocks 64 r).flatMap (cutAtBlocks 4096)).flatMap (cutAtBlocks 262144)

def sequencesOf (set : CharSet) : List ByteSequence :=
  (set.ranges.flatMap fun r => (CharSet.common [r] codesByLength).flatMap piecesOf).map sequenceOf

/-- Sequences that are arranged by what they begin with. A tree without edges ends a sequence. -/
inductive ByteTree
  | node (edges : List (ByteRange × ByteTree))
deriving Inhabited

/-- Sequences in groups that begin with the same range, where those of a group stand together. -/
def groupsOf : List ByteSequence → List (ByteRange × List ByteSequence)
  | [] => []
  | [] :: rest => groupsOf rest
  | (r :: tail) :: rest =>
    match groupsOf rest with
    | (next, tails) :: others =>
      if r = next then (r, tail :: tails) :: others else (r, [tail]) :: (next, tails) :: others
    | [] => [(r, [tail])]

/-- The tree of sequences of at most `depth` ranges. -/
def ByteTree.ofSequences : Nat → List ByteSequence → ByteTree
  | 0, _ => .node []
  | depth + 1, sequences =>
    .node ((groupsOf sequences).map fun (r, tails) => (r, ofSequences depth tails))

/-- The tree of a set. -/
def ByteTree.ofSet (set : CharSet) : ByteTree := .ofSequences 4 (sequencesOf set)

/-- Texts that are arranged by what they begin with, byte by byte. A place where a text ends divides
the edges that were there before from those that are added later. -/
inductive TextTree
  | node (earlier : List (List (Nat × TextTree))) (edges : List (Nat × TextTree))
deriving Inhabited

namespace TextTree

def empty : TextTree := .node [] []

def ofBytes : List Nat → TextTree
  | [] => .node [[]] []
  | b :: rest => .node [] [(b, ofBytes rest)]

mutual

def insert : TextTree → List Nat → TextTree
  | .node earlier edges, [] =>
    if !earlier.isEmpty && earlier.all (·.isEmpty) && edges.isEmpty then .node earlier edges
    else .node (earlier ++ [edges]) []
  | .node earlier edges, b :: rest => .node earlier (insertEdge edges b rest)

/-- Edges with one more text, which begins with the byte `b`. -/
def insertEdge : List (Nat × TextTree) → Nat → List Nat → List (Nat × TextTree)
  | [], b, rest => [(b, ofBytes rest)]
  | (c, tree) :: edges, b, rest =>
    if b = c then (c, insert tree rest) :: edges else (c, tree) :: insertEdge edges b rest

end

def ofTexts (texts : List (List Nat)) : TextTree := texts.foldl insert empty

end TextTree
end SqlLint.Regex
