/-!
# Path texts

Paths are kept and shown as the texts they were given as; names that are no text are not covered
(see `SqlLint.FileSystem`). Joining is textual: it adds a separator where one is missing and
normalises nothing. Comparing is by components: repeated separators, trailing separators and `.`
components after the first do not count. `Path.Parts` is the reading of a text behind all of this:
how it is anchored, and its segments, the blank ones included, so that the remainder of a text can
be written back as it was.
-/

namespace SqlLint.Path

/-- What a path starts from. -/
inductive Anchor
  /-- The text begins with a separator. -/
  | root
  /-- The text begins with a `.` component. -/
  | current
  /-- The text begins with a name, or is empty. -/
  | none
deriving DecidableEq, Repr

/-- A path text read as an anchor and the segments between separators after it. -/
structure Parts where
  anchor : Anchor
  segments : List String
deriving DecidableEq, Repr

/-- The texts between the separators of a text; always at least one. -/
def split : List Char → List (List Char)
  | [] => [[]]
  | c :: rest =>
    match split rest with
    | [] => [[c]]
    | first :: others => if c = '/' then [] :: first :: others else (c :: first) :: others

def segments (path : String) : List String :=
  (split path.toList).map String.ofList

/-- Segments joined by separators. -/
def ofSegments (segments : List String) : String :=
  "/".intercalate segments

/-- Segments that are no component: nothing, and the place itself. -/
def isIdle (segment : String) : Bool :=
  segment == "" || segment == "."

def isAbsolute (path : String) : Bool :=
  path.toList.head? == some '/'

def parts (path : String) : Parts :=
  match segments path with
  | "" :: rest => if rest.isEmpty then ⟨.none, [""]⟩ else ⟨.root, rest⟩
  | "." :: rest => ⟨.current, rest⟩
  | all => ⟨.none, all⟩

namespace Parts

/-- The names of a path, `..` included. -/
def names (p : Parts) : List String :=
  p.segments.filter (!isIdle ·)

/-- Segments without the idle ones at the end. -/
def trimEnd (segments : List String) : List String :=
  (segments.reverse.dropWhile isIdle).reverse

/-- Segments without the idle ones at either end. -/
def trim (segments : List String) : List String :=
  trimEnd (segments.dropWhile isIdle)

/-- The text of a path without the idle segments at its end. -/
def text (p : Parts) : String :=
  let body := ofSegments (trimEnd p.segments)
  match p.anchor with
  | .root => "/" ++ body
  | .current => if (trimEnd p.segments).isEmpty then "." else "./" ++ body
  | .none => body

/-- The segments left after `names`, if the path goes through them. -/
def dropNames : List String → List String → Option (List String)
  | [], segments => some segments
  | _ :: _, [] => none
  | name :: names, segment :: segments =>
    if isIdle segment then dropNames (name :: names) segments
    else if segment = name then dropNames names segments
    else none

end Parts

/-- The path `path` under `base`: `path` alone when it is absolute, else the two texts with one
separator between them. -/
def join (base path : String) : String :=
  if isAbsolute path || base.isEmpty then path
  else if base.toList.getLast? == some '/' then base ++ path
  else base ++ "/" ++ path

/-- What is left of `path` below `root`, or nothing when `path` does not lead through it. The
remainder keeps its inner spelling and loses the separators and `.` components at its ends. -/
def stripPrefix? (root path : String) : Option String :=
  let r := parts root
  let p := parts path
  if r.anchor = .none ∧ r.names = [] then some p.text
  else if r.anchor = p.anchor then
    (Parts.dropNames r.names p.segments).map fun rest => ofSegments (Parts.trim rest)
  else none

/-- The last component, unless it is the root, `.` or `..`. -/
def fileName? (path : String) : Option String :=
  match (parts path).names.getLast? with
  | some ".." => none
  | other => other

/-- A file name cut at its last dot; a name without a dot, or with one only at its start, has no
extension. -/
def splitExtension (name : String) : String × Option String :=
  let reversed := name.toList.reverse
  match reversed.dropWhile (· ≠ '.') with
  | [] => (name, none)
  | [_] => (name, none)
  | _ :: stem =>
    (String.ofList stem.reverse, some (String.ofList (reversed.takeWhile (· ≠ '.')).reverse))

/-- The file name without its extension. -/
def fileStem? (path : String) : Option String :=
  (fileName? path).map fun name => (splitExtension name).1

/-- The extension of the file name. -/
def extension? (path : String) : Option String :=
  (fileName? path).bind fun name => (splitExtension name).2

/-- The path without its last component; the root and the empty path have none. -/
def parent? (path : String) : Option String :=
  let p := parts path
  match p.segments.reverse.dropWhile isIdle with
  | _ :: before => some (Parts.text ⟨p.anchor, before.reverse⟩)
  | [] => if p.anchor = .current then some "" else none

/-- What follows the first separator of `path`; all of it when there is none. -/
def dropFirstSegment (path : String) : String :=
  match path.toList.dropWhile (· ≠ '/') with
  | [] => path
  | _ :: rest => String.ofList rest

end SqlLint.Path
