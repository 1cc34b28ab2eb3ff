/-!
# File systems as seen by a run

A run looks at files only through a `FileSystem`: what stands at a path, the text of a file, and
what lies below a directory. It is a snapshot, so asking twice gives the same answer and everything
computed from it is a function of it.

Paths and the names in them are texts. A system may also hold names that are no UTF-8, which reports
can show only with U+FFFD in place of what is no text; a snapshot holds no such names, so that
nothing here speaks of them and every path is shown by the text it is.
-/

namespace SqlLint

/-- What stands at a path, links followed. -/
inductive FileKind
  | absent
  | file
  | directory
deriving DecidableEq, Repr

/-- Why a path cannot be read. -/
inductive AccessError
  | notFound
  | notDirectory
  | isDirectory
  | tooManyLinks
  | denied
  /-- The bytes of the file are not UTF-8. -/
  | notText
deriving DecidableEq, Repr

/-- The reason in the operating system's words. -/
def AccessError.message : AccessError → String
  | .notFound => "No such file or directory (os error 2)"
  | .notDirectory => "Not a directory (os error 20)"
  | .isDirectory => "Is a directory (os error 21)"
  | .tooManyLinks => "Too many levels of symbolic links (os error 40)"
  | .denied => "Permission denied (os error 13)"
  | .notText => "stream did not contain valid UTF-8"

/-- Something met on a walk: the names that lead to it from the root of the walk, and whether it is
a regular file. Links below the root are met but not followed. -/
structure Walked where
  names : List String
  isFile : Bool
deriving DecidableEq, Repr

/-- A snapshot of the files. -/
structure FileSystem where
  kind : String → FileKind
  read : String → Except AccessError String
  /-- Everything at and below a path. -/
  walk : String → Except AccessError (List Walked)

namespace FileSystem

def isFile (fs : FileSystem) (path : String) : Bool := fs.kind path == .file

def isDirectory (fs : FileSystem) (path : String) : Bool := fs.kind path == .directory

def exists? (fs : FileSystem) (path : String) : Bool := fs.kind path != .absent

end FileSystem
end SqlLint
