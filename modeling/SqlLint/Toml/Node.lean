import SqlLint.Number.Binary64

/-!
# TOML documents as trees

A document is a table of named nodes, in the order in which they are first defined. Tables remember
how they came to be, since that decides whether a later line may add to them: a table with a header
of its own is closed to dotted keys, one that a dotted key made is closed to headers, and one that
only the header of a table inside it made may still get its own header. `define` and its companions
carry out one line; they refuse what would define something twice.
-/

namespace SqlLint.Toml

/-- How a table came to be. -/
inductive Origin
  /-- By a header, or as the document itself. -/
  | header
  /-- As the way to a table whose header names it. -/
  | path
  /-- As the way to a value whose dotted key names it. -/
  | dotted
  /-- Between braces. -/
  | inline
deriving DecidableEq, Repr

/-- A node of a document. -/
inductive Node
  | string (value : String)
  | integer (value : Int)
  | real (negative : Bool) (magnitude : Binary64)
  /-- A number beyond all others, or none at all, by its word. -/
  | notFinite (word : String)
  | bool (value : Bool)
  /-- A date, a time, or both. -/
  | moment
  | array (items : List Node)
  | table (origin : Origin) (members : List (String × Node))
  /-- The tables that headers in double brackets add, in order. -/
  | tables (items : List Node)
deriving Repr, Inhabited

/-- The members of a table. -/
abbrev Members := List (String × Node)

namespace Members

/-- The members with the node of a name replaced, or with a new one at the end. -/
def put (name : String) (node : Node) : Members → Members
  | [] => [(name, node)]
  | member :: rest =>
    if member.1 = name then (name, node) :: rest else member :: put name node rest

def without (name : String) (members : Members) : Members := members.filter (·.1 ≠ name)

end Members

namespace Node

def emptyTable : Node := .table .header []

/-- Follows `path` from a table and applies `f` to the table it leads to; `way` is the origin of the
tables that are missing on the way. The second part of the result is what `f` gives besides. -/
def descend {α : Type} (way : Origin) (f : Node → Option (Node × α)) :
    List String → Node → Option (Node × α)
  | [], node => f node
  | name :: path, .table origin members =>
    let continueIn (child : Node) (rebuild : Node → Node) : Option (Node × α) := do
      let (child, result) ← descend way f path child
      return (.table origin (Members.put name (rebuild child) members), result)
    match members.lookup name with
    | none => continueIn (.table way []) id
    | some (.table childOrigin childMembers) =>
      if childOrigin = .inline ∨ (way = .dotted ∧ childOrigin = .header) then none
      else continueIn (.table childOrigin childMembers) id
    | some (.tables items) =>
      match items.getLast? with
      | some last => continueIn last fun child => .tables (items.dropLast ++ [child])
      | none => none
    | some _ => none
  | _ :: _, _ => none

/-- Adds a value to a table under a key that no member has; `isDirect` says that the key has one
part. A key of several parts adds only to tables that dotted keys have made. -/
def addValue (isDirect : Bool) (name : String) (value : Node) : Node → Option (Node × Unit)
  | .table origin members =>
    if (origin == .dotted) == isDirect then none
    else if (members.lookup name).isSome then none
    else some (.table origin (members ++ [(name, value)]), ())
  | _ => none

/-- Adds a value to a table under a key. -/
def define (table : Node) (path : List String) (name : String) (value : Node) : Option Node :=
  (descend .dotted (addValue path.isEmpty name value) path table).map (·.1)

/-- Takes the table that a header names out of the table around it, if it was made as a way to
another; nothing else may have the name. The second part of the result is its members. -/
def takeTable (name : String) : Node → Option (Node × Members)
  | .table origin members =>
    match members.lookup name with
    | none => some (.table origin members, [])
    | some (.table .path inner) => some (.table origin (Members.without name members), inner)
    | some _ => none
  | _ => none

/-- Makes sure that a name stands for a list of tables. -/
def openTables (name : String) : Node → Option (Node × Unit)
  | .table origin members =>
    match members.lookup name with
    | none => some (.table origin (members ++ [(name, .tables [])]), ())
    | some (.tables _) => some (.table origin members, ())
    | some _ => none
  | _ => none

/-- Puts a table under a name that is free. -/
def putTable (name : String) (table : Node) : Node → Option (Node × Unit)
  | .table origin members =>
    match members.lookup name with
    | none => some (.table origin (members ++ [(name, table)]), ())
    | some _ => none
  | _ => none

def pushTable (name : String) (table : Node) : Node → Option (Node × Unit)
  | .table origin members =>
    match members.lookup name with
    | none => some (.table origin (members ++ [(name, .tables [table])]), ())
    | some (.tables items) =>
      some (.table origin (Members.put name (.tables (items ++ [table])) members), ())
    | some _ => none
  | _ => none

end Node

/-- Which table the lines of a document add to. -/
inductive Section
  /-- The document itself, before any header. -/
  | top
  /-- The table with this path. -/
  | table (path : List String) (name : String)
  /-- A new table in the list with this path. -/
  | element (path : List String) (name : String)
deriving DecidableEq, Repr

/-- A document up to some line: what is finished, and the table that is open. -/
structure Draft where
  root : Node
  current : Node
  place : Section
deriving Repr

namespace Draft

/-- The draft before the first line. -/
def start : Draft := ⟨.emptyTable, .emptyTable, .top⟩

/-- The document with the open table in its place. -/
def close (d : Draft) : Option Node :=
  match d.place with
  | .top => some d.current
  | .table path name =>
    (Node.descend .path (Node.putTable name d.current) path d.root).map (·.1)
  | .element path name =>
    (Node.descend .path (Node.pushTable name d.current) path d.root).map (·.1)

/-- Adds a value to the open table. -/
def define (d : Draft) (path : List String) (name : String) (value : Node) : Option Draft := do
  return { d with current := ← d.current.define path name value }

/-- Closes the open table and opens the one that a header names. -/
def openTable (d : Draft) (path : List String) (name : String) : Option Draft := do
  let (root, members) ← Node.descend .path (Node.takeTable name) path (← d.close)
  return ⟨root, .table .header members, .table path name⟩

/-- Closes the open table and opens a new one in the list that a header names. -/
def openElement (d : Draft) (path : List String) (name : String) : Option Draft := do
  let (root, _) ← Node.descend .path (Node.openTables name) path (← d.close)
  return ⟨root, .emptyTable, .element path name⟩

end Draft
end SqlLint.Toml
