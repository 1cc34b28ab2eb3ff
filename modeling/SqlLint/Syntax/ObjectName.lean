import SqlLint.Syntax.Keyword

/-!
# Object names

An object is named by up to four identifiers between dots, `server.database.schema.object`, of
which inner ones may be left out as in `database..object`. `ObjectName.parse?` reads the longest
such name at the head of a token sequence. The parts count from the object backwards, so what a
part means does not depend on how many stand before it.
-/

namespace SqlLint

/-- A dotted name: its parts in order, nothing for one that is left out, and the number of tokens it
takes. -/
structure ObjectName where
  parts : List (Option Token)
  length : Nat
deriving DecidableEq, Repr

namespace ObjectName

/-- The parts that follow the first one, and the number of tokens they take. A dot belongs to the
name only when an identifier or another dot follows it. -/
def further : List Token → List (Option Token) × Nat
  | dot :: next :: rest =>
    if dot.isSymbol '.' then
      if next.isIdentifier then
        ((some next :: (further rest).1), (further rest).2 + 2)
      else if next.isSymbol '.' then
        ((none :: (further (next :: rest)).1), (further (next :: rest)).2 + 1)
      else ([], 0)
    else ([], 0)
  | _ => ([], 0)

/-- The longest dotted name at the head of a token sequence. -/
def parse? : List Token → Option ObjectName
  | first :: rest =>
    if first.isIdentifier then
      let (parts, length) := further rest
      some ⟨some first :: parts, length + 1⟩
    else none
  | [] => none

/-- The database of a name with at least three parts, if it is not left out. -/
def database? (n : ObjectName) : Option String :=
  (n.parts.reverse[2]?).bind fun part => part.map Token.name

/-- The object itself: the last part. -/
def object? (n : ObjectName) : Option String :=
  n.parts.getLast?.bind fun part => part.map Token.name

end ObjectName

/-- The alias at the head of the tokens after a table, `AS` or not. -/
def alias? (tokens : List Token) : Option String :=
  let tokens := match tokens with
    | t :: rest => if t.isKeyword "AS" then rest else tokens
    | [] => tokens
  match tokens with
  | t :: _ => if t.isIdentifier && !t.isAnyKeyword Keyword.clauses then some t.name else none
  | [] => none

end SqlLint
