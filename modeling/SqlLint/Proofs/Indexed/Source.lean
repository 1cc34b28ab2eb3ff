import SqlLint.Proofs.Indexed.Access
import SqlLint.Proofs.Script.Masking

/-!
# Reading a text by its bytes

A text is tokenized once more, now by byte offsets: every byte is looked up by its offset, every
piece is cut out of the text by the offsets of its ends, lines are found in a table of the offsets
at which they begin, and nested comments are counted. Nothing in here knows where characters begin,
except for the cuts, which fail inside of one.
-/

namespace SqlLint.Indexed

section Bytes

def isLetter (b : UInt8) : Bool :=
  ('A'.toUInt8 ≤ b && b ≤ 'Z'.toUInt8) || ('a'.toUInt8 ≤ b && b ≤ 'z'.toUInt8)

def isDigit (b : UInt8) : Bool := '0'.toUInt8 ≤ b && b ≤ '9'.toUInt8

def startsWord (b : UInt8) : Bool :=
  isLetter b || b == '_'.toUInt8 || b == '#'.toUInt8 || 0x80 ≤ b

def continuesWord (b : UInt8) : Bool :=
  isLetter b || isDigit b || b == '_'.toUInt8 || b == '#'.toUInt8 || b == '$'.toUInt8 || 0x80 ≤ b

def isBlank (b : UInt8) : Bool :=
  b == ' '.toUInt8 || b == '\t'.toUInt8 || b == '\r'.toUInt8 || b == '\n'.toUInt8

end Bytes

section Lines

/-- The offsets right after the newlines among bytes of which the first one has the offset `i`. -/
def startsAfter (i : Nat) : List UInt8 → List Nat
  | [] => []
  | b :: rest =>
    if b = '\n'.toUInt8 then (i + 1) :: startsAfter (i + 1) rest else startsAfter (i + 1) rest

def lineStarts (text : List Char) : List Nat := 0 :: startsAfter 0 (utf8 text)

/-- The column of an offset on a line, counted in characters from the start of the line, and one
where they cannot be cut out. -/
def columnFrom (text : List Char) (start offset : Nat) : Nat :=
  match slice text start offset with
  | .ok before => before.length + 1
  | .error _ => 1

def position (text : List Char) (offset : Nat) : Checked (Nat × Nat) := do
  let starts := lineStarts text
  let line := (starts.takeWhile (· ≤ offset)).length
  let start ← item starts (line - 1)
  return (max line 1, columnFrom text start offset)

end Lines

section Scanning

/-- The end of the run of bytes from `i` on that satisfy `p`. -/
def runEnd (p : UInt8 → Bool) (bytes : List UInt8) (i : Nat) : Checked Nat :=
  if i < bytes.length then do
    if p (← item bytes i) then runEnd p bytes (i + 1) else return i
  else return i
termination_by bytes.length - i

/-- The offset behind the delimiter that closes a construct, looking from `i` on. A doubled
delimiter does not close it. -/
def quotedEnd (close : UInt8) (bytes : List UInt8) (i : Nat) : Checked (Option Nat) :=
  if i < bytes.length then do
    if (← item bytes i) = close then
      if bytes[i + 1]? = some close then quotedEnd close bytes (i + 2) else return some (i + 1)
    else quotedEnd close bytes (i + 1)
  else return none
termination_by bytes.length - i

/-- The offset behind the marker that closes the outermost comment, looking from `i` on with `depth`
comments open. -/
def commentEnd (bytes : List UInt8) (depth i : Nat) : Checked (Option Nat) :=
  if i + 1 < bytes.length then do
    let first ← item bytes i
    let second ← item bytes (i + 1)
    if first = '/'.toUInt8 ∧ second = '*'.toUInt8 then commentEnd bytes (depth + 1) (i + 2)
    else if first = '*'.toUInt8 ∧ second = '/'.toUInt8 then
      let outer ← minus depth 1
      if outer = 0 then return some (i + 2) else commentEnd bytes outer (i + 2)
    else commentEnd bytes depth (i + 1)
  else return none
termination_by bytes.length - i

/-- The offset, among the bytes of a text, of its first newline. -/
def newline? (text : List Char) : Option Nat :=
  if '\n' ∈ text then some (utf8 (text.takeWhile (· ≠ '\n'))).length else none

/-- The end of the line that holds the offset `i`. -/
def lineEnd (text : List Char) (i : Nat) : Checked Nat := do
  match newline? (← dropBytes i text) with
  | some n => return i + n
  | none => return (utf8 text).length

/-- A construct that is never closed and the offset at which it is opened, or a kind of lexeme and
the offset at which it ends. -/
abbrev Reading := Except (Unclosed × Nat) (LexemeKind × Nat)

/-- The reading of a construct with the end that was looked for. -/
def Reading.closing (construct : Unclosed) (opened : Nat) (kind : LexemeKind) :
    Option Nat → Reading
  | some stop => .ok (kind, stop)
  | none => .error (construct, opened)

def readAt (text : List Char) (i : Nat) : Checked Reading := do
  let bytes := utf8 text
  let b ← item bytes i
  if isBlank b then return .ok (.blank, i + 1)
  else if b = '-'.toUInt8 ∧ bytes[i + 1]? = some '-'.toUInt8 then
    return .ok (.lineComment, ← lineEnd text i)
  else if b = '/'.toUInt8 ∧ bytes[i + 1]? = some '*'.toUInt8 then
    return .closing .blockComment i .blockComment (← commentEnd bytes 0 i)
  else if b = '\''.toUInt8 then
    return .closing (.string false) i (.token (.string false))
      (← quotedEnd '\''.toUInt8 bytes (i + 1))
  else if (b = 'N'.toUInt8 ∨ b = 'n'.toUInt8) ∧ bytes[i + 1]? = some '\''.toUInt8 then
    return .closing (.string true) (i + 1) (.token (.string true))
      (← quotedEnd '\''.toUInt8 bytes (i + 2))
  else if b = '['.toUInt8 then
    return .closing .bracket i (.token .quoted) (← quotedEnd ']'.toUInt8 bytes (i + 1))
  else if b = '"'.toUInt8 then
    return .closing .doubleQuote i (.token .quoted) (← quotedEnd '"'.toUInt8 bytes (i + 1))
  else if b = '@'.toUInt8 then
    return .ok (.token .variable,
      ← runEnd (fun d => d == '@'.toUInt8 || continuesWord d) bytes (i + 1))
  else if isDigit b then
    return .ok (.token .number, ← runEnd (fun d => continuesWord d || d == '.'.toUInt8) bytes i)
  else if startsWord b then
    return .ok (.token .word, ← runEnd continuesWord bytes i)
  else return .ok (.token .symbol, i + 1)

/-- The tokens and the ranges of the comments from an offset on, or the construct that is never
closed and its place. -/
def tokenizeFrom (text : List Char) (i : Nat) :
    Checked (Except LexicalError (List Token × List (Nat × Nat))) :=
  if i < (utf8 text).length then do
    match ← readAt text i with
    | .error (construct, opened) =>
      let (line, column) ← position text opened
      return .error ⟨construct, line, column⟩
    | .ok (kind, stop) =>
      if i < stop then
        match kind with
        | .blank => tokenizeFrom text stop
        | .lineComment | .blockComment =>
          let rest ← tokenizeFrom text stop
          return rest.map fun (tokens, comments) => (tokens, (i, stop) :: comments)
        | .token kind =>
          let (line, column) ← position text i
          let token := ⟨kind, String.ofList (← slice text i stop), ⟨i, line, column⟩⟩
          let rest ← tokenizeFrom text stop
          return rest.map fun (tokens, comments) => (token :: tokens, comments)
      else throw .stalled
  else return .ok ([], [])
termination_by (utf8 text).length - i

def tokenize (text : String) : Checked (Except LexicalError (List Token × List (Nat × Nat))) :=
  tokenizeFrom text.toList 0

/-- Bytes with those in a range replaced by spaces, newlines apart. -/
def maskRange (bytes : List UInt8) (range : Nat × Nat) : Checked (List UInt8) :=
  if range.1 ≤ range.2 ∧ range.2 ≤ bytes.length then
    .ok (bytes.mapIdx fun i b =>
      if range.1 ≤ i && i < range.2 then Lexeme.blankedByte b else b)
  else .error .outOfRange

def masked (text : String) (comments : List (Nat × Nat)) : Checked (List UInt8) :=
  comments.foldlM maskRange (bytes text)

end Scanning

end SqlLint.Indexed
