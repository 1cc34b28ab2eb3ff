/-!
# Glob patterns

A pattern for path texts. `?` stands for any character, `*` for any text, separators included; `**`
stands for any number of whole path components and has to be a component itself; `[abc]`, `[a-c]`
and `[!abc]` stand for one character. Matching is by definition of the parts: a pattern is a list
of items, and each says what it takes from the front of a text.
-/

namespace SqlLint

/-- Characters between brackets in a pattern. -/
inductive GlobRange
  | single (c : Char)
  | between (first last : Char)
deriving DecidableEq, Repr

def GlobRange.contains (c : Char) : GlobRange → Bool
  | .single d => c = d
  | .between first last => first ≤ c && c ≤ last

/-- One part of a pattern. -/
inductive GlobItem
  | char (c : Char)
  | any
  | within (ranges : List GlobRange)
  | except (ranges : List GlobRange)
  /-- Any text. -/
  | sequence
  /-- Any number of path components, each with the separator after it. -/
  | components
deriving DecidableEq, Repr

/-- Whether an item that takes one character takes this one. -/
def GlobItem.takes (c : Char) : GlobItem → Bool
  | .char d => c = d
  | .any => true
  | .within ranges => ranges.any (·.contains c)
  | .except ranges => !ranges.any (·.contains c)
  | .sequence => false
  | .components => false

/-- A pattern for path texts. -/
structure Glob where
  items : List GlobItem
deriving DecidableEq, Repr

/-- What can be wrong with a pattern. -/
inductive GlobProblem
  /-- Three stars or more in a row. -/
  | wildcards
  /-- Two stars that are not a whole component. -/
  | components
  /-- A bracket that is not closed, or encloses nothing. -/
  | range
deriving DecidableEq, Repr

/-- What is wrong with a pattern, and before which character. -/
structure GlobError where
  position : Nat
  problem : GlobProblem
deriving DecidableEq, Repr

def GlobError.message (e : GlobError) : String :=
  let text := match e.problem with
    | .wildcards => "wildcards are either regular `*` or recursive `**`"
    | .components => "recursive wildcards must form a single path component"
    | .range => "invalid range pattern"
  s!"Pattern syntax error near position {e.position}: {text}"

namespace Glob

/-- The ranges that the characters between brackets write. -/
def rangesOf : List Char → List GlobRange
  | first :: '-' :: last :: rest => .between first last :: rangesOf rest
  | c :: rest => .single c :: rangesOf rest
  | [] => []

/-- The first characters up to a closing bracket, at least `least` of them, and the text after the
bracket. -/
def enclosed? (least : Nat) (cs : List Char) : Option (List Char × List Char) :=
  let tail := cs.drop least
  match tail.dropWhile (· ≠ ']') with
  | _ :: rest => some (cs.take least ++ tail.takeWhile (· ≠ ']'), rest)
  | [] => none

/-- The item that the text after an opening bracket begins with, and the rest. -/
def bracket? : List Char → Option (GlobItem × List Char)
  | '!' :: cs => (enclosed? 1 cs).map fun (inner, rest) => (.except (rangesOf inner), rest)
  | cs => (enclosed? 1 cs).map fun (inner, rest) => (.within (rangesOf inner), rest)

/-- Appends the item for whole components, unless it would follow another one that is not the
first item. -/
def withComponents (items : List GlobItem) : List GlobItem :=
  if items.length > 1 && items.getLast? == some .components then items else items ++ [.components]

/-- The items of a pattern from `position` on. Before them stand `items` and the character
`previous`; `steps` bounds the number of items. -/
def itemsFrom (steps position : Nat) (previous : Option Char) (items : List GlobItem) :
    List Char → Except GlobError (List GlobItem)
  | [] => .ok items
  | c :: rest =>
    match steps with
    | 0 => .ok items
    | steps + 1 =>
      if c = '?' then itemsFrom steps (position + 1) (some c) (items ++ [.any]) rest
      else if c = '*' then
        let stars := 1 + (rest.takeWhile (· = '*')).length
        let after := rest.dropWhile (· = '*')
        if stars = 1 then itemsFrom steps (position + 1) (some c) (items ++ [.sequence]) rest
        else if stars > 2 then .error ⟨position + 2, .wildcards⟩
        else if previous.all (· = '/') then
          match after with
          | [] => .ok (withComponents items)
          | '/' :: after =>
            itemsFrom steps (position + 3) (some '/') (withComponents items) after
          | _ => .error ⟨position + 2, .components⟩
        else .error ⟨position - 1, .components⟩
      else if c = '[' then
        match bracket? rest with
        | some (item, after) =>
          itemsFrom steps (position + 1 + (rest.length - after.length)) (some ']')
            (items ++ [item]) after
        | none => .error ⟨position, .range⟩
      else itemsFrom steps (position + 1) (some c) (items ++ [.char c]) rest

def parse (text : String) : Except GlobError Glob :=
  (itemsFrom text.length 0 none [] text.toList).map Glob.mk

/-- A text and what is left of it after each of its characters. -/
def suffixes : List Char → List (List Char)
  | [] => [[]]
  | c :: rest => (c :: rest) :: suffixes rest

/-- What is left of a text after each of its separators, and its empty end. -/
def afterComponents : List Char → List (List Char)
  | [] => [[]]
  | c :: rest => if c = '/' then rest :: afterComponents rest else afterComponents rest

/-- Whether items match a whole text. -/
def matchItems : List GlobItem → List Char → Bool
  | [], cs => cs.isEmpty
  | .sequence :: items, cs => (suffixes cs).any (matchItems items)
  | .components :: items, cs => matchItems items cs || (afterComponents cs).any (matchItems items)
  | _ :: _, [] => false
  | item :: items, c :: cs => item.takes c && matchItems items cs

def isMatch (g : Glob) (text : String) : Bool := matchItems g.items text.toList

end Glob
end SqlLint
