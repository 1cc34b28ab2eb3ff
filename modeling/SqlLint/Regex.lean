import Std.Data.HashSet
import SqlLint.Regex.Automaton
import SqlLint.Regex.Meaning

/-!
# Searching with regular expressions

A search goes through a text from left to right. At each place it explores the automaton in the
order of preference, entering each pair of a state and a place at most once: a pair that has failed
fails again, whatever led to it. So the first match found is the leftmost one and, of those that
start there, the preferred one, and the time is bounded by the size of the automaton times that of
the text.

The matches of a text follow one another without overlap; an empty match does not count where the
match before it ends.
-/

namespace SqlLint

/-- A match: how many characters precede its start and its end. -/
structure Match where
  start : Nat
  stop : Nat
deriving DecidableEq, Repr, Inhabited

/-- A compiled regular expression. -/
structure Regex where
  automaton : Regex.Automaton
deriving Inhabited

namespace Regex

def ofText? (text : String) : Option Regex := do
  return ⟨.ofExpr (← Expr.ofPattern? (← Pattern.ofText? text))⟩

def isWordChar (unicode : Bool) (c : Char) : Bool :=
  if c.val < 128 then c.isAlphanum || c = '_' else unicode && Unicode.wordCharacters.contains c

def before? (text : Array Char) (place : Nat) : Option Char :=
  if place = 0 then none else text[place - 1]?

/-- Whether a condition holds at a place. -/
def Look.holds (text : Array Char) (place : Nat) (condition : Look) : Bool :=
  let before := before? text place
  let after := text[place]?
  let wordBefore (unicode : Bool) := before.any (isWordChar unicode)
  let wordAfter (unicode : Bool) := after.any (isWordChar unicode)
  match condition with
  | .textStart => place = 0
  | .textEnd => place = text.size
  | .lineStart => before.all (· = '\n')
  | .lineEnd => after.all (· = '\n')
  | .lineStartAny => before.all fun c => c = '\n' || (c = '\r' && after != some '\n')
  | .lineEndAny => after.all fun c => c = '\r' || (c = '\n' && before != some '\r')
  | .wordBoundary unicode => wordBefore unicode != wordAfter unicode
  | .notWordBoundary unicode => wordBefore unicode == wordAfter unicode
  | .wordStart unicode => !wordBefore unicode && wordAfter unicode
  | .wordEnd unicode => wordBefore unicode && !wordAfter unicode
  | .wordStartHalf unicode => !wordBefore unicode
  | .wordEndHalf unicode => !wordAfter unicode

/-- The pairs of a state and a place that have been entered, as numbers. -/
abbrev Visited := Std.HashSet Nat

/-- Explores pairs of a state and a place, the first of the list first, until one accepts; `steps`
bounds how many are looked at. The first part of the result is the place where a match ends. -/
def explore (a : Automaton) (text : Array Char) :
    Nat → List (Nat × Nat) → Visited → Option Nat × Visited
  | 0, _, visited => (none, visited)
  | _ + 1, [], visited => (none, visited)
  | steps + 1, (state, place) :: rest, visited =>
    let pair := state * (text.size + 1) + place
    if visited.contains pair then explore a text steps rest visited
    else
      let visited := visited.insert pair
      match a.states[state]? with
      | some .accept => (some place, visited)
      | some (.take set next) =>
        if text[place]?.any set.contains then
          explore a text steps ((next, place + 1) :: rest) visited
        else explore a text steps rest visited
      | some (.look condition next) =>
        if condition.holds text place then explore a text steps ((next, place) :: rest) visited
        else explore a text steps rest visited
      | some (.choice targets) =>
        explore a text steps (targets.map (·, place) ++ rest) visited
      | none => explore a text steps rest visited

/-- Enough steps for a search: each pair is entered at most once and leaves at most its transitions
to be looked at. -/
def stepLimit (a : Automaton) (text : Array Char) : Nat :=
  (a.transitions + 1) * (text.size + 1) + 1

/-- The first match that starts at one of `count` places from `place` on. -/
def firstFrom (a : Automaton) (text : Array Char) (steps : Nat) :
    Nat → Nat → Visited → Option Match
  | 0, _, _ => none
  | count + 1, place, visited =>
    match explore a text steps [(a.start, place)] visited with
    | (some stop, _) => some ⟨place, stop⟩
    | (none, visited) => firstFrom a text steps count (place + 1) visited

def find? (r : Regex) (text : Array Char) (place : Nat) : Option Match :=
  firstFrom r.automaton text (stepLimit r.automaton text) (text.size + 1 - place) place ∅

/-- The matches from a place on; `ended` is the place where the match before them ends, and `count`
bounds their number. -/
def matchesFrom (r : Regex) (text : Array Char) : Nat → Nat → Option Nat → List Match
  | 0, _, _ => []
  | count + 1, place, ended =>
    match r.find? text place with
    | none => []
    | some m =>
      if m.start = m.stop ∧ ended = some m.stop then
        match r.find? text (place + 1) with
        | none => []
        | some m => m :: matchesFrom r text count m.stop (some m.stop)
      else m :: matchesFrom r text count m.stop (some m.stop)

def findAll (r : Regex) (text : List Char) : List Match :=
  r.matchesFrom text.toArray (text.length + 1) 0 none

end Regex
end SqlLint
