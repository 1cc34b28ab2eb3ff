import SqlLint.Text.Ascii
import SqlLint.Text.Position

/-!
# Tokens

A token is a piece of a script that is neither blank nor comment: its kind, its text exactly as
written, and the place where it starts. Rules look at tokens only through the questions asked here,
which compare words and names without regard to ASCII case.
-/

namespace SqlLint

/-- What a token is. -/
inductive TokenKind
  /-- A keyword or bare identifier, `#temp` names included. -/
  | word
  /-- An identifier in brackets or double quotes. -/
  | quoted
  /-- A string literal; `national` when it carries the `N` marker. -/
  | string (national : Bool)
  /-- A literal that begins with a digit. -/
  | number
  /-- A local or global variable, introduced by `@`. -/
  | variable
  /-- Any other single character. -/
  | symbol
deriving DecidableEq, Repr, Inhabited

structure Token where
  kind : TokenKind
  text : String
  start : Position
deriving DecidableEq, Repr, Inhabited

namespace Token

/-- Whether the token is the word `keyword`, in any case. -/
def isKeyword (t : Token) (keyword : String) : Bool :=
  t.kind == .word && Ascii.sameIgnoringCase t.text keyword

/-- Whether the token is one of the words `keywords`, in any case. -/
def isAnyKeyword (t : Token) (keywords : List String) : Bool :=
  keywords.any t.isKeyword

def isSymbol (t : Token) (symbol : Char) : Bool :=
  t.kind == .symbol && t.text == symbol.toString

/-- Whether the token can be part of an object name. -/
def isIdentifier (t : Token) : Bool :=
  t.kind == .word || t.kind == .quoted

/-- The identifier a token denotes: its text, without the delimiters of a quoted one. -/
def name (t : Token) : String :=
  if t.kind == .quoted then String.ofList (t.text.toList.drop 1).dropLast else t.text

/-- The name in the form in which names are compared. -/
def foldedName (t : Token) : String :=
  t.name.toLower

/-- Whether the token is an identifier, quoted or not, that denotes `name` in any case. -/
def isNamed (t : Token) (name : String) : Bool :=
  t.isIdentifier && Ascii.sameIgnoringCase t.name name

end Token
end SqlLint
