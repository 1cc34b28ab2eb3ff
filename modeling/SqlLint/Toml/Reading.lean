import SqlLint.Toml.Scalar

/-!
# Reading TOML documents

A document is a sequence of lines: comments, headers, and keys with values. It is read completely,
or refused. Arrays may go over several lines, tables between braces may not.
-/

namespace SqlLint.Toml

/-- Characters of keys without quotes. -/
def isBare (c : Char) : Bool := c.isAlphanum || c = '-' || c = '_'

def simpleKey : Reader String
  | '"' :: rest => shortString ('"' :: rest)
  | '\'' :: rest => shortString ('\'' :: rest)
  | cs =>
    let name := cs.takeWhile isBare
    if name.isEmpty then none else some (String.ofList name, cs.dropWhile isBare)

/-- How deep keys and values may be nested. -/
def nestLimit : Nat := 80

/-- A key: its parts but the last, and the last; `steps` bounds the number of parts. -/
def keyParts : Nat → Reader (List String × String)
  | 0, _ => none
  | steps + 1, cs => do
    let (name, rest) ← simpleKey (skipBlanks cs)
    match skipBlanks rest with
    | '.' :: rest =>
      let ((path, last), rest) ← keyParts steps rest
      return ((name :: path, last), rest)
    | rest => return (([], name), rest)

def key : Reader (List String × String) := keyParts (nestLimit - 1)

def skipComment : List Char → List Char
  | '#' :: rest => rest.dropWhile isPlain
  | cs => cs

/-- A text without blanks, line breaks and comments at its start; `steps` bounds their number. -/
def skipTrivia : Nat → List Char → List Char
  | 0, cs => cs
  | steps + 1, cs =>
    match skipBlanks cs with
    | '#' :: rest =>
      match afterBreak? (rest.dropWhile isPlain) with
      | some rest => skipTrivia steps rest
      | none => '#' :: rest
    | cs =>
      match afterBreak? cs with
      | some rest => skipTrivia steps rest
      | none => cs

/-- A text without blanks, line breaks and comments at its start. -/
def skipAll (cs : List Char) : List Char := skipTrivia cs.length cs

mutual

/-- A value at a depth of nesting; `steps` bounds the number of its parts. -/
def value (depth : Nat) : Nat → Reader Node
  | 0, _ => none
  | steps + 1, cs =>
    match cs with
    | '[' :: rest =>
      if depth + 1 < nestLimit then do
        let (items, rest) ← arrayItems (depth + 1) [] steps (skipAll rest)
        return (.array items, rest)
      else none
    | '\x7b' :: rest =>
      if depth + 1 < nestLimit then
        match skipBlanks rest with
        | '\x7d' :: rest => some (.table .inline [], rest)
        | rest => inlineMembers (depth + 1) (.table .inline []) steps rest
      else none
    | cs => scalar cs

/-- The items of an array up to its bracket, after those in `items`. -/
def arrayItems (depth : Nat) (items : List Node) : Nat → Reader (List Node)
  | 0, _ => none
  | steps + 1, cs =>
    match cs with
    | ']' :: rest => some (items, rest)
    | cs => do
      let (item, rest) ← value depth steps cs
      match skipAll rest with
      | ',' :: rest => arrayItems depth (items ++ [item]) steps (skipAll rest)
      | ']' :: rest => some (items ++ [item], rest)
      | _ => none

/-- The members of a table up to its brace, added to `table`. -/
def inlineMembers (depth : Nat) (table : Node) : Nat → Reader Node
  | 0, _ => none
  | steps + 1, cs => do
    let ((path, name), rest) ← key cs
    let rest ← after '=' rest
    let (item, rest) ← value depth steps (skipBlanks rest)
    let table ← table.define path name item
    match skipBlanks rest with
    | ',' :: rest => inlineMembers depth table steps rest
    | '\x7d' :: rest => some (table, rest)
    | _ => none

end

/-- The text after the end of a line: blanks, a comment, and a line break or the end of the text. -/
def afterLine? (cs : List Char) : Option (List Char) :=
  match skipComment (skipBlanks cs) with
  | [] => some []
  | rest => afterBreak? rest

/-- The draft after the line at the start of a text, and the text after the line. -/
def line (d : Draft) : Reader Draft
  | '[' :: '[' :: rest => do
    let ((path, name), rest) ← key rest
    let rest ← afterLine? (← after ']' (← after ']' rest))
    return (← d.openElement path name, rest)
  | '[' :: rest => do
    let ((path, name), rest) ← key rest
    let rest ← afterLine? (← after ']' rest)
    return (← d.openTable path name, rest)
  | cs => do
    let ((path, name), rest) ← key cs
    let rest ← after '=' rest
    let (item, rest) ← value 0 (rest.length + 1) (skipBlanks rest)
    return (← d.define path name item, ← afterLine? rest)

/-- The draft after all lines of a text; `steps` bounds their number. -/
def lines (d : Draft) : Nat → List Char → Option Draft
  | 0, _ => none
  | steps + 1, cs =>
    match skipBlanks cs with
    | [] => some d
    | '#' :: rest => do lines d steps (← afterLine? ('#' :: rest))
    | cs =>
      match afterBreak? cs with
      | some rest => lines d steps rest
      | none => do
        let (d, rest) ← line d cs
        lines d steps rest

/-- Reads a document; a byte order mark at its start does not count. -/
def ofText? (text : String) : Option Node :=
  let cs := match text.toList with
    | '\ufeff' :: rest => rest
    | cs => cs
  do (← lines .start (cs.length + 1) cs).close

end SqlLint.Toml
