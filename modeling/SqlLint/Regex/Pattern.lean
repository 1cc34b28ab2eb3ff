import SqlLint.Text.CharSet

/-!
# Patterns as they are written

The syntax tree of a regular expression, before flags are applied: what a dot, an anchor or a letter
stands for depends on the flags in force where it stands.
-/

namespace SqlLint.Regex

/-- A switch that a pattern can turn on and off. -/
inductive Flag
  /-- Letters match in either case. -/
  | ignoreCase
  /-- Anchors match at line breaks too. -/
  | multiLine
  /-- The dot matches line breaks. -/
  | dotAll
  /-- Greedy and lazy repetitions change roles. -/
  | swapGreed
  /-- Classes and word boundaries are those of Unicode, not of ASCII. -/
  | unicode
  /-- A carriage return takes part in line breaks. -/
  | carriageReturn
  /-- Blanks and comments in the pattern do not count. -/
  | ignoreSpace
deriving DecidableEq, Repr

/-- Changes of flags, in order, each to on or off. -/
abbrev FlagChanges := List (Flag × Bool)

/-- A place in a text that has no width. -/
inductive Anchor
  | textStart
  | textEnd
  /-- The start of a line, or of the text outside multi-line mode. -/
  | lineStart
  /-- The end of a line, or of the text outside multi-line mode. -/
  | lineEnd
  | wordBoundary
  | notWordBoundary
  | wordStart
  | wordEnd
  /-- No character of a word before. -/
  | wordStartHalf
  /-- No character of a word after. -/
  | wordEndHalf
deriving DecidableEq, Repr

/-- A class of characters with a letter of its own. -/
inductive LetterClass
  | digit
  | space
  | word
deriving DecidableEq, Repr

/-- How two sets of characters are combined. -/
inductive SetOperation
  | intersection
  | difference
  | symmetricDifference
deriving DecidableEq, Repr

/-- A class of characters as it is written. -/
inductive ClassPattern
  /-- The characters from one to another. -/
  | range (first last : Char)
  | letter (c : LetterClass) (negated : Bool)
  /-- A set that the Unicode standard names. -/
  | named (set : CharSet) (negated : Bool)
  /-- A set of ASCII characters with a name. -/
  | ascii (set : CharSet) (negated : Bool)
  /-- Another class between brackets. -/
  | bracketed (inner : ClassPattern) (negated : Bool)
  | union (parts : List ClassPattern)
  | combined (operation : SetOperation) (left right : ClassPattern)
deriving Repr, Inhabited

/-- What parentheses do besides holding a part together. -/
inductive Group
  /-- The text that the part matches is kept, under a name if there is one. -/
  | capture (name : Option String)
  /-- Flags change inside. -/
  | plain (changes : FlagChanges)
deriving DecidableEq, Repr

namespace Group

def name? : Group → Option String
  | .capture name => name
  | .plain _ => none

def changes : Group → FlagChanges
  | .capture _ => []
  | .plain changes => changes

end Group

/-- A regular expression as it is written. -/
inductive Pattern
  | empty
  | flags (changes : FlagChanges)
  /-- A character; `isByte` says that it is written as a number of two digits. -/
  | literal (c : Char) (isByte : Bool)
  | dot
  | anchor (place : Anchor)
  | characters (c : ClassPattern)
  /-- Repetition; without `most` there is no upper bound. -/
  | repetition (inner : Pattern) (least : Nat) (most : Option Nat) (greedy : Bool)
  | group (kind : Group) (inner : Pattern)
  | concatenation (parts : List Pattern)
  | alternation (branches : List Pattern)
deriving Repr, Inhabited

namespace Pattern

def ofParts : List Pattern → Pattern
  | [] => .empty
  | [p] => p
  | parts => .concatenation parts

def ofBranches : List Pattern → Pattern
  | [] => .empty
  | [p] => p
  | branches => .alternation branches

mutual

def names : Pattern → List String
  | .repetition inner _ _ _ => names inner
  | .group kind inner => kind.name?.toList ++ names inner
  | .concatenation parts => namesOfAll parts
  | .alternation branches => namesOfAll branches
  | _ => []

def namesOfAll : List Pattern → List String
  | [] => []
  | p :: rest => names p ++ namesOfAll rest

end

end Pattern

mutual

/-- How deep parts of a class are nested. Brackets and operators are a level of their own, and so
are two or more items side by side. -/
def ClassPattern.depth : ClassPattern → Nat
  | .bracketed inner _ => inner.depth + 1
  | .union parts =>
    if parts.length ≤ 1 then ClassPattern.depthOfAll parts else ClassPattern.depthOfAll parts + 1
  | .combined _ left right => max left.depth right.depth + 1
  | _ => 0

def ClassPattern.depthOfAll : List ClassPattern → Nat
  | [] => 0
  | c :: rest => max c.depth (ClassPattern.depthOfAll rest)

end

mutual

def Pattern.depth : Pattern → Nat
  | .characters c => c.depth
  | .repetition inner _ _ _ => inner.depth + 1
  | .group _ inner => inner.depth + 1
  | .concatenation parts => Pattern.depthOfAll parts + 1
  | .alternation branches => Pattern.depthOfAll branches + 1
  | _ => 0

def Pattern.depthOfAll : List Pattern → Nat
  | [] => 0
  | p :: rest => max p.depth (Pattern.depthOfAll rest)

end

end SqlLint.Regex
