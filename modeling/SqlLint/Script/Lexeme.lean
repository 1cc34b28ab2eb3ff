import SqlLint.Token

/-!
# Lexemes

A script is cut, from left to right and with maximal munch, into lexemes: single blanks, line
comments, block comments and tokens. `Lexeme.scan` looks at a character and what follows it and
says which lexeme begins there and how many more characters belong to it; the only failure is a
construct that is opened and never closed. Since a lexeme is a first character plus a prefix of the
rest, cutting loses nothing and always moves on.
-/

namespace SqlLint

/-- A construct that is opened and never closed. -/
inductive Unclosed
  /-- A string literal; `national` when it carries the `N` marker. -/
  | string (national : Bool)
  | bracket
  | doubleQuote
  | blockComment
deriving DecidableEq, Repr

def Unclosed.message : Unclosed → String
  | .string _ => "unterminated string literal"
  | .bracket => "unterminated bracketed identifier"
  | .doubleQuote => "unterminated quoted identifier"
  | .blockComment => "unterminated block comment"

/-- The kinds of lexeme. -/
inductive LexemeKind
  | blank
  | lineComment
  | blockComment
  | token (kind : TokenKind)
deriving DecidableEq, Repr

namespace LexemeKind

def isComment : LexemeKind → Bool
  | .lineComment | .blockComment => true
  | _ => false

end LexemeKind

/-- A piece of a script with the place where it starts. -/
structure Lexeme where
  kind : LexemeKind
  text : List Char
  start : Position
deriving DecidableEq, Repr

namespace Lexeme

/-- The blanks between lexemes: space, tab, carriage return and newline. -/
def isBlank (c : Char) : Bool :=
  c == ' ' || c == '\t' || c == '\r' || c == '\n'

def startsWord (c : Char) : Bool :=
  c.isAlpha || c == '_' || c == '#' || c.val ≥ 128

def continuesWord (c : Char) : Bool :=
  c.isAlphanum || c == '_' || c == '#' || c == '$' || c.val ≥ 128

/-- Number of characters up to and including the closing delimiter, the `seen` characters read so
far included. A doubled delimiter stands for itself and does not close. -/
def closeLength? (close : Char) (seen : Nat) : List Char → Option Nat
  | [] => none
  | [c] => if c = close then some (seen + 1) else none
  | c :: d :: rest =>
    if c = close then
      if d = close then closeLength? close (seen + 2) rest else some (seen + 1)
    else closeLength? close (seen + 1) (d :: rest)

/-- Number of characters up to and including the marker that closes a comment nested `depth + 1`
deep, the `seen` characters read so far included. -/
def commentLength? (depth seen : Nat) : List Char → Option Nat
  | '/' :: '*' :: rest => commentLength? (depth + 1) (seen + 2) rest
  | '*' :: '/' :: rest =>
    match depth with
    | 0 => some (seen + 2)
    | outer + 1 => commentLength? outer (seen + 2) rest
  | _ :: rest => commentLength? depth (seen + 1) rest
  | [] => none

/-- Number of leading characters that satisfy `p`. -/
def runLength (p : Char → Bool) (text : List Char) : Nat :=
  (text.takeWhile p).length

/-- The lexeme that begins with `c` when `rest` follows: its kind and the number of characters of
`rest` that belong to it. -/
def scan (c : Char) (rest : List Char) : Except Unclosed (LexemeKind × Nat) :=
  if isBlank c then .ok (.blank, 0)
  else if c = '-' ∧ rest.head? = some '-' then
    .ok (.lineComment, runLength (· ≠ '\n') rest)
  else if c = '/' ∧ rest.head? = some '*' then
    match commentLength? 0 1 rest.tail with
    | some n => .ok (.blockComment, n)
    | none => .error .blockComment
  else if c = '\'' then
    match closeLength? '\'' 0 rest with
    | some n => .ok (.token (.string false), n)
    | none => .error (.string false)
  else if (c = 'N' ∨ c = 'n') ∧ rest.head? = some '\'' then
    match closeLength? '\'' 1 rest.tail with
    | some n => .ok (.token (.string true), n)
    | none => .error (.string true)
  else if c = '[' then
    match closeLength? ']' 0 rest with
    | some n => .ok (.token .quoted, n)
    | none => .error .bracket
  else if c = '"' then
    match closeLength? '"' 0 rest with
    | some n => .ok (.token .quoted, n)
    | none => .error .doubleQuote
  else if c = '@' then
    .ok (.token .variable, runLength (fun d => d == '@' || continuesWord d) rest)
  else if c.isDigit then
    .ok (.token .number, runLength (fun d => continuesWord d || d == '.') rest)
  else if startsWord c then
    .ok (.token .word, runLength continuesWord rest)
  else .ok (.token .symbol, 0)

/-- The token a lexeme is, unless it is blank or a comment. -/
def token? (l : Lexeme) : Option Token :=
  match l.kind with
  | .token kind => some ⟨kind, String.ofList l.text, l.start⟩
  | _ => none

/-- The byte range a comment covers; other lexemes have none. -/
def commentRange? (l : Lexeme) : Option (Nat × Nat) :=
  if l.kind.isComment then some (l.start.offset, (l.start.advanceAll l.text).offset) else none

/-- The text with a comment's characters blanked out: one space for each byte, newlines kept. -/
def masked (l : Lexeme) : List Char :=
  if l.kind.isComment then
    l.text.flatMap fun c => if c = '\n' then ['\n'] else List.replicate c.utf8Size ' '
  else l.text

end Lexeme

/-- A text that cannot be cut into lexemes: the unclosed construct and where it is opened. -/
structure LexicalError where
  construct : Unclosed
  line : Nat
  column : Nat
deriving DecidableEq, Repr

namespace LexicalError

/-- The construct and its place, in words. -/
def message (e : LexicalError) : String :=
  s!"{e.construct.message} at {e.line}:{e.column}"

/-- The error for a construct whose lexeme begins with `c` at `p`. A national literal is opened by
the quote after its marker. -/
def opened (construct : Unclosed) (p : Position) (c : Char) : LexicalError :=
  let place := match construct with
    | .string true => p.advance c
    | _ => p
  ⟨construct, place.line, place.column⟩

end LexicalError

namespace Lexeme

def cut (p : Position) : List Char → Except LexicalError (List Lexeme)
  | [] => .ok []
  | c :: rest =>
    match scan c rest with
    | .error construct => .error (.opened construct p c)
    | .ok (kind, n) =>
      let text := c :: rest.take n
      match cut (p.advanceAll text) (rest.drop n) with
      | .error e => .error e
      | .ok others => .ok (⟨kind, text, p⟩ :: others)
termination_by text => text.length
decreasing_by simp only [List.length_cons, List.length_drop]; omega

end Lexeme
end SqlLint
