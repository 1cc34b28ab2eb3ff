import SqlLint.Regex.Expr

/-!
# Automata for regular expressions

An automaton has numbered states. A state takes a character, tests the place, or offers several
states in the order in which they are preferred. Building goes from the end of an expression to its
start, so each part knows the state that follows it. The shape of a loop matters for preference: a
part that may be empty is looped after it has been entered once, and counted repetitions beyond the
least number are nested, so each further round is preferred or not as a whole.
-/

namespace SqlLint.Regex

/-- A state of an automaton. -/
inductive State
  /-- Takes a character of a set. -/
  | take (set : CharSet) (next : Nat)
  | look (condition : Look) (next : Nat)
  /-- Goes on with any of these states, the preferred one first. -/
  | choice (targets : List Nat)
  | accept
deriving Repr, Inhabited

/-- States in the order of their numbers, built up to some point. -/
abbrev States := Array State

namespace States

def add (states : States) (state : State) : Nat × States := (states.size, states.push state)

/-- The two states in the order of preference. -/
def preferring (greedy : Bool) (more done : Nat) : State :=
  .choice (if greedy then [more, done] else [done, more])

/-- Adds a part `count` times in a row, in front of the state `next`. -/
def addCopies (part : Nat → States → Nat × States) : Nat → Nat → States → Nat × States
  | 0, next, states => (next, states)
  | count + 1, next, states =>
    let (start, states) := part next states
    addCopies part count start states

/-- Adds a part up to `count` times, each time inside the one before, in front of the state `next`.
-/
def addOptional (part : Nat → States → Nat × States) (greedy : Bool) (next : Nat) :
    Nat → Nat → States → Nat × States
  | 0, start, states => (start, states)
  | count + 1, start, states =>
    let (entered, states) := part start states
    let (start, states) := states.add (preferring greedy entered next)
    addOptional part greedy next count start states

/-- Adds a part at least once, in front of the state `next`; the first part is its own start. -/
def addLoop (part : Nat → States → Nat × States) (greedy : Bool) (next : Nat) (states : States) :
    Nat × States :=
  let (loop, states) := states.add (.choice [])
  let (start, states) := part loop states
  (start, states.set! loop (preferring greedy start next))

/-- Adds a part any number of times, in front of the state `next`. -/
def addStar (part : Nat → States → Nat × States) (greedy takes : Bool) (next : Nat)
    (states : States) : Nat × States :=
  if takes then
    let (loop, states) := states.add (.choice [])
    let (start, states) := part loop states
    (loop, states.set! loop (preferring greedy start next))
  else
    let (start, states) := addLoop part greedy next states
    states.add (preferring greedy start next)

mutual

/-- Adds the states of an expression in front of the state `next`; the first part of the result is
the state at its start. -/
def build : Expr → Nat → States → Nat × States
  | .empty, next, states => (next, states)
  | .literal text, next, states =>
    text.foldr (fun c (next, states) => states.add (.take (.singleton c) next)) (next, states)
  | .characters set, next, states => states.add (.take set next)
  | .look condition, next, states => states.add (.look condition next)
  | .capture inner, next, states => build inner next states
  | .concatenation parts, next, states => buildRow parts next states
  | .alternation branches, next, states =>
    let (starts, states) := buildEach branches next states
    states.add (.choice starts)
  | .repetition inner least most greedy, next, states =>
    match most with
    | some most =>
      let (start, states) :=
        addOptional (build inner) greedy next (most - least) next states
      addCopies (build inner) least start states
    | none =>
      if least = 0 then
        addStar (build inner) greedy inner.takes next states
      else
        let (start, states) := addLoop (build inner) greedy next states
        addCopies (build inner) (least - 1) start states

/-- Adds the states of expressions in a row. -/
def buildRow : List Expr → Nat → States → Nat × States
  | [], next, states => (next, states)
  | e :: rest, next, states =>
    let (start, states) := buildRow rest next states
    build e start states

/-- Adds the states of each of some expressions; the first part of the result are their starts. -/
def buildEach : List Expr → Nat → States → List Nat × States
  | [], _, states => ([], states)
  | e :: rest, next, states =>
    let (start, states) := build e next states
    let (starts, states) := buildEach rest next states
    (start :: starts, states)

end

end States

/-- An automaton for a regular expression. -/
structure Automaton where
  states : States
  start : Nat
deriving Inhabited

namespace Automaton

def ofExpr (e : Expr) : Automaton :=
  let (start, states) := States.build e 0 #[.accept]
  ⟨states, start⟩

/-- How many transitions lead from one state to others. -/
def branching : State → Nat
  | .take _ _ => 1
  | .look _ _ => 1
  | .choice targets => targets.length
  | .accept => 0

/-- How many transitions there are. -/
def transitions (a : Automaton) : Nat := a.states.foldl (fun n s => n + branching s) 0

end Automaton
end SqlLint.Regex
