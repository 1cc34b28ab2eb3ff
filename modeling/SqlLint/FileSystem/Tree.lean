import SqlLint.FileSystem
import SqlLint.Path

/-!
# File trees

A finite tree of files, directories and links below a working directory, kept as a map from the
names that lead to an entry. A path is resolved segment by segment: each step needs a directory to
stand in, `..` goes up, and a link continues with its target. A path that leaves the tree, being
absolute or going above the working directory, finds nothing but directories without known content.
-/

namespace SqlLint

inductive TreeEntry
  | file (bytes : ByteArray)
  | directory
  | link (target : String)

def TreeEntry.isDirectory : Option TreeEntry → Bool
  | some .directory => true
  | _ => false

/-- Files, directories and links by the names that lead to them. -/
structure FileTree where
  entries : List (List String × TreeEntry)

namespace FileTree

def empty : FileTree := ⟨[]⟩

/-- The entry to which `names` lead; the working directory itself is a directory. -/
def entry? (t : FileTree) (names : List String) : Option TreeEntry :=
  if names.isEmpty then some .directory else t.entries.lookup names

def namesOf (path : String) : List String :=
  (Path.segments path).filter (!Path.isIdle ·)

def set (t : FileTree) (names : List String) (entry : TreeEntry) : FileTree :=
  ⟨t.entries.filter (·.1 ≠ names) ++ [(names, entry)]⟩

/-- Makes a directory of every place on the way to `names`, the last excepted, that has no entry. -/
def addParents (t : FileTree) (names : List String) : FileTree :=
  (List.range (names.length - 1)).foldl (fun t depth =>
    let place := names.take (depth + 1)
    if (t.entry? place).isSome then t else t.set place .directory) t

/-- Puts an entry at a path, with the directories that lead to it. -/
def put (t : FileTree) (path : String) (entry : TreeEntry) : FileTree :=
  let names := namesOf path
  (t.addParents names).set names entry

/-- The tree without what stands at and below a path. -/
def remove (t : FileTree) (path : String) : FileTree :=
  let names := namesOf path
  ⟨t.entries.filter fun e => !names.isPrefixOf e.1⟩

/-- Where a path can lead. -/
inductive Place
  /-- Into the tree. -/
  | inside (names : List String)
  /-- Out of it. -/
  | outside
deriving DecidableEq

def entryAt? (t : FileTree) : Place → Option TreeEntry
  | .inside names => t.entry? names
  | .outside => some .directory

def Place.above : Place → Place
  | .inside [] => .outside
  | .inside names => .inside names.dropLast
  | .outside => .outside

/-- The place that `segments` lead to from `here`, going through at most `links` links; a link at
the very end is followed only if `through` says so. -/
def follow (t : FileTree) (through : Bool) (links : Nat) (here : Place) :
    List String → Except AccessError Place
  | [] => .ok here
  | segment :: rest =>
    if !TreeEntry.isDirectory (t.entryAt? here) then .error .notDirectory
    else if Path.isIdle segment then follow t through links here rest
    else if segment = ".." then follow t through links here.above rest
    else match here with
      | .outside => .error .notFound
      | .inside names =>
        let next := names ++ [segment]
        match t.entry? next with
        | none => .error .notFound
        | some (.link target) =>
          if rest.isEmpty && !through then .ok (.inside next)
          else match links with
            | 0 => .error .tooManyLinks
            | left + 1 =>
              let base := if Path.isAbsolute target then Place.outside else .inside names
              follow t through left base (Path.segments target ++ rest)
        | some _ => follow t through links (.inside next) rest
termination_by segments => (links, segments.length)

/-- How many links a path may go through. -/
def linkLimit : Nat := 40

/-- The place a path leads to. -/
def resolve (t : FileTree) (path : String) (through : Bool) : Except AccessError Place :=
  if path.isEmpty then .error .notFound
  else
    let start := if Path.isAbsolute path then Place.outside else .inside []
    follow t through linkLimit start (Path.segments path)

def kind (t : FileTree) (path : String) : FileKind :=
  match t.resolve path true with
  | .error _ => .absent
  | .ok place =>
    match t.entryAt? place with
    | some (.file _) => .file
    | some .directory => .directory
    | _ => .absent

def read (t : FileTree) (path : String) : Except AccessError String := do
  let place ← t.resolve path true
  match t.entryAt? place with
  | some (.file bytes) =>
    match String.fromUTF8? bytes with
    | some text => .ok text
    | none => .error .notText
  | some .directory => .error .isDirectory
  | _ => .error .notFound

/-- What lies below the directory to which `names` lead. -/
def below (t : FileTree) (names : List String) : List Walked :=
  t.entries.filterMap fun (place, entry) =>
    if names.isPrefixOf place && names.length < place.length then
      some ⟨place.drop names.length, match entry with | .file _ => true | _ => false⟩
    else none

/-- Everything at and below a path. A link at the path itself is followed to a directory, but is met
as a link. -/
def walk (t : FileTree) (path : String) : Except AccessError (List Walked) := do
  let root ← t.resolve path false
  let target ← t.resolve path true
  let children := match target with
    | .inside names => if TreeEntry.isDirectory (t.entryAt? target) then t.below names else []
    | .outside => []
  let isFile := match t.entryAt? root with
    | some (.file _) => true
    | _ => false
  return ⟨[], isFile⟩ :: children

def fileSystem (t : FileTree) : FileSystem where
  kind := t.kind
  read := t.read
  walk := t.walk

end FileTree
end SqlLint
