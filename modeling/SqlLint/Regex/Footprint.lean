import SqlLint.Regex.ByteSequence
import SqlLint.Regex.Expr
import Std.Data.HashMap

/-!
# How much memory expressions take

An expression is too large when an automaton for it over the bytes of a text would take more than
ten mebibytes, be it one that reads texts forwards or one that reads them backwards. A state takes
32 bytes, and 8 more for each range of bytes when it has several, or 4 more for each target when it
is a choice.

The states of a set of characters depend on the direction. Forwards, states that have the same edges
are shared as long as a table of bounded size remembers them; backwards, so are the states of
sequences that begin alike. What such a table remembers depends on the numbers of the states, so
states are counted in the order in which they are made.
-/

namespace SqlLint.Regex

/-- What an automaton takes: its states, and the bytes beyond those of the states themselves. -/
structure Footprint where
  states : Nat
  extra : Nat
deriving DecidableEq, Repr, Inhabited

namespace Footprint

/-- The bytes of a state. -/
def stateSize : Nat := 32

/-- The bytes of an edge, for a state with several. -/
def edgeSize : Nat := 8

/-- The bytes of a target of a choice. -/
def targetSize : Nat := 4

/-- How many bytes an automaton may take. -/
def limit : Nat := 10 * 0x100000

def zero : Footprint := ⟨0, 0⟩

def size (f : Footprint) : Nat := f.states * stateSize + f.extra

def add (f : Footprint) (states extra : Nat) : Footprint := ⟨f.states + states, f.extra + extra⟩

/-- A footprint, if it stays within the limit. -/
def within? (f : Footprint) : Option Footprint := if f.size ≤ limit then some f else none

end Footprint

/-- A state by its edges, each a range of bytes and the number of a state. -/
abbrev Edges := List (ByteRange × Nat)

/-- A table that remembers the number of a state for each of a fixed number of places. What comes
to a place that is taken drives out what was there. -/
structure Memory (α : Type) where
  entries : Std.HashMap Nat (α × Nat)

namespace Memory

/-- The place that numbers are mixed to, in a table with `places` of them. -/
def place (places : Nat) (numbers : List Nat) : Nat :=
  (numbers.foldl (fun (h : UInt64) n => (h ^^^ n.toUInt64) * 1099511628211)
    14695981039346656037).toNat % places

def empty {α : Type} : Memory α := ⟨∅⟩

/-- The number that is remembered for a key at a place. -/
def find? {α : Type} [BEq α] (m : Memory α) (place : Nat) (key : α) : Option Nat :=
  match m.entries[place]? with
  | some (known, state) => if known == key then some state else none
  | none => none

/-- Remembers a number for a key at a place. -/
def insert {α : Type} (m : Memory α) (place : Nat) (key : α) (state : Nat) : Memory α :=
  ⟨m.entries.insert place (key, state)⟩

end Memory

namespace ByteTree

mutual

/-- Makes the states of a tree in front of the state `next`, those below a place before the one for
the place itself; the first part of the result is the number of the first state. -/
def make (next : Nat) : ByteTree → Memory Edges → Footprint → Nat × Memory Edges × Footprint
  | .node edges, memory, f =>
    if edges.isEmpty then (next, memory, f)
    else
      let (edges, memory, f) := makeEdges next edges memory f
      let place := Memory.place 10000 (edges.flatMap fun (r, state) => [r.low, r.high, state])
      match memory.find? place edges with
      | some state => (state, memory, f)
      | none =>
        (f.states, memory.insert place edges f.states,
          f.add 1 (Footprint.edgeSize * edges.length))

/-- Makes the states that edges lead to. -/
def makeEdges (next : Nat) :
    List (ByteRange × ByteTree) → Memory Edges → Footprint → Edges × Memory Edges × Footprint
  | [], memory, f => ([], memory, f)
  | (r, tree) :: rest, memory, f =>
    let (state, memory, f) := make next tree memory f
    let (edges, memory, f) := makeEdges next rest memory f
    ((r, state) :: edges, memory, f)

end

/-- Adds the states of a set that is read forwards: the one behind it, and those of its tree. -/
def footprint (tree : ByteTree) (f : Footprint) : Footprint :=
  (make f.states tree .empty (f.add 1 0)).2.2

end ByteTree

/-- Makes the states of one sequence that is read from its end, in front of the state `next`; the
first part of the result is the number of the first state. -/
def makeBackwards : ByteSequence → Nat → Memory (Nat × ByteRange) → Footprint →
    Memory (Nat × ByteRange) × Footprint
  | [], _, memory, f => (memory, f)
  | r :: rest, next, memory, f =>
    let place := Memory.place 1000 [next, r.low, r.high]
    match memory.find? place (next, r) with
    | some state => makeBackwards rest state memory f
    | none =>
      makeBackwards rest f.states (memory.insert place (next, r) f.states) (f.add 1 0)

/-- Adds the states of a set that is read backwards: a choice, the state behind it, and those of its
sequences. -/
def footprintBackwards (sequences : List ByteSequence) (f : Footprint) : Footprint :=
  let start := f.add 2 (Footprint.targetSize * sequences.length)
  (sequences.foldl
    (fun (memory, f') sequence => makeBackwards sequence (f.states + 1) memory f')
    (Memory.empty, start)).2

namespace TextTree

/-- What the states for some edges of one place take: one state, with room for the edges if there
are several. -/
def edgesFootprint (f : Footprint) (count : Nat) : Footprint :=
  if count = 0 then f
  else if count = 1 then f.add 1 Footprint.targetSize
  else f.add 1 (Footprint.targetSize + Footprint.edgeSize * count)

mutual

/-- Adds the states of a tree: for each place where a text goes on a choice between its groups of
edges and, for each text that ends there, the end. -/
def footprint : TextTree → Footprint → Footprint
  | .node earlier edges, f =>
    if earlier.all (·.isEmpty) && edges.isEmpty then f
    else
      let f := f.add 1 (Footprint.targetSize * earlier.length)
      let f := edgesFootprint (groupsFootprint earlier f) edges.length
      subtreesFootprint edges f

/-- Adds the states of groups of edges. -/
def groupsFootprint : List (List (Nat × TextTree)) → Footprint → Footprint
  | [], f => f
  | edges :: rest, f =>
    groupsFootprint rest (subtreesFootprint edges (edgesFootprint f edges.length))

/-- Adds the states below edges. -/
def subtreesFootprint : List (Nat × TextTree) → Footprint → Footprint
  | [], f => f
  | (_, tree) :: rest, f => subtreesFootprint rest (footprint tree f)

end

end TextTree

/-- How the states of an expression are made, as far as it counts for what they take. -/
inductive Plan
  | fixed (states extra : Nat)
  | forwards (tree : ByteTree)
  | backwards (sequences : List ByteSequence)
  | row (parts : List Plan)
  | copies (count : Nat) (part : Plan)

namespace Plan

/-- Grows a footprint some number of times, unless it gets too large. -/
def times (grow : Footprint → Option Footprint) : Nat → Footprint → Option Footprint
  | 0, f => some f
  | count + 1, f =>
    match grow f with
    | some f => times grow count f
    | none => none

mutual

/-- Adds what a plan takes, unless it is too much. -/
def grow : Plan → Footprint → Option Footprint
  | .fixed states extra, f => (f.add states extra).within?
  | .forwards tree, f => (tree.footprint f).within?
  | .backwards sequences, f => (footprintBackwards sequences f).within?
  | .row parts, f => growAll parts f
  | .copies count part, f => times (grow part) count f

/-- Adds what plans in a row take, unless it is too much. -/
def growAll : List Plan → Footprint → Option Footprint
  | [], f => some f
  | p :: rest, f =>
    match grow p f with
    | some f => growAll rest f
    | none => none

end

/-- A choice between two ways, one of which a part goes. -/
def eitherWay : Plan := .fixed 1 (2 * Footprint.targetSize)

/-- A state that leads to another. -/
def step : Plan := .fixed 1 0

/-- A part as often as a repetition wants it at least; a state stands for no part at all. -/
def atLeast (count : Nat) (part : Plan) : Plan := if count = 0 then step else .copies count part

def bytes? : Expr → Option (List Nat)
  | .literal text => some (bytesOfText text)
  | _ => none

/-- The plan of texts as a tree, with the state behind it. -/
def ofTexts (texts : List (List Nat)) : Plan :=
  let f := (TextTree.ofTexts texts).footprint (Footprint.zero.add 1 0)
  .fixed f.states f.extra

/-- The plan of branches: the first two, a choice and the state behind it, and the other branches.
-/
def ofBranches : List Plan → Plan
  | first :: second :: others =>
    .row (first :: second ::
      .fixed 2 (Footprint.targetSize * (others.length + 2)) :: others)
  | plans => .row plans

mutual

/-- The plan of an expression that is read in a direction. Nothing is kept when reading backwards.
-/
def ofExpr (isBackwards : Bool) : Expr → Plan
  | .empty => step
  | .literal text => .fixed (bytesOfText text).length 0
  | .characters set =>
    if set.ranges.all (·.high < 0x80) then .fixed 2 (Footprint.edgeSize * set.ranges.length)
    else if isBackwards then .backwards (sequencesOf set)
    else .forwards (.ofSet set)
  | .look _ => step
  | .repetition inner least most _ =>
    let part := ofExpr isBackwards inner
    match least, most with
    | 0, some 1 => .row [eitherWay, part, step]
    | 0, none =>
      if inner.takes then .row [eitherWay, part] else .row [part, eitherWay, eitherWay, step]
    | least, none => .row [.copies least part, eitherWay]
    | least, some most =>
      if least = most then atLeast least part
      else .row [atLeast least part, step, .copies (most - least) (.row [eitherWay, part])]
  | .capture inner =>
    let part := ofExpr isBackwards inner
    if isBackwards then part else .row [step, part, step]
  | .concatenation parts =>
    let plans := ofAll isBackwards parts
    .row (if isBackwards then plans.reverse else plans)
  | .alternation branches =>
    match branches.mapM bytes? with
    | some texts => ofTexts (if isBackwards then texts.map List.reverse else texts)
    | none => ofBranches (ofAll isBackwards branches)

def ofAll (isBackwards : Bool) : List Expr → List Plan
  | [] => []
  | e :: rest => ofExpr isBackwards e :: ofAll isBackwards rest

end

end Plan

namespace Expr

mutual

/-- Whether every match of an expression tests a condition at its start, or at its end when reading
backwards, before it takes a character. -/
def begins (isBackwards : Bool) (condition : Look) : Expr → Bool
  | .look other => other == condition
  | .repetition inner least _ _ => 0 < least && begins isBackwards condition inner
  | .capture inner => begins isBackwards condition inner
  | .concatenation parts =>
    if isBackwards then anyEnds condition parts else anyBegins condition parts
  | .alternation branches => allBegin isBackwards condition branches
  | _ => false

/-- Whether one of some parts in a row that nothing but empty text stands before tests a condition.
-/
def anyBegins (condition : Look) : List Expr → Bool
  | [] => false
  | e :: rest => begins false condition e || (e.hasNoWidth && anyBegins condition rest)

/-- Whether one of some parts in a row that nothing but empty text stands after tests a condition.
-/
def anyEnds (condition : Look) : List Expr → Bool
  | [] => false
  | e :: rest => (allWithoutWidth rest && begins true condition e) || anyEnds condition rest

/-- Whether all of some expressions test a condition first. -/
def allBegin (isBackwards : Bool) (condition : Look) : List Expr → Bool
  | [] => true
  | e :: rest => begins isBackwards condition e && allBegin isBackwards condition rest

end

/-- The plan for finding an expression in a text: what skips the characters before a match, unless
the match has to be at the start, then the expression, which is kept forwards, and the state that
accepts. -/
def searchPlan (isBackwards : Bool) (e : Expr) : Plan :=
  let skipping :=
    if e.begins isBackwards (if isBackwards then .textEnd else .textStart) then Plan.step
    else .row [.eitherWay, .fixed 2 Footprint.edgeSize]
  .row [skipping, Plan.ofExpr isBackwards (.capture e), .step]

/-- Whether automata for both directions stay within the limit. -/
def isSmall (e : Expr) : Bool :=
  [false, true].all fun isBackwards => ((e.searchPlan isBackwards).grow .zero).isSome

end Expr
end SqlLint.Regex
