import SqlLint.FileSystem
import SqlLint.Path

/-!
# Where the settings file of a run lies

The caller may name it, or a directory that holds it. Otherwise it is looked for in the source root
and then in the user's directory, where it counts only if it is a regular file.
-/

namespace SqlLint

/-- Where the settings file lies. -/
inductive SettingsSource
  /-- Where the caller says, whether it exists or not. -/
  | explicit (path : String)
  /-- In the source root. -/
  | project (path : String)
  /-- In the user's directory. -/
  | global (path : String)
  /-- Nowhere: the defaults apply. -/
  | default
deriving DecidableEq, Repr

namespace SettingsSource

def fileName : String := ".tsqllintrc"

def path? : SettingsSource → Option String
  | .explicit path => some path
  | .project path => some path
  | .global path => some path
  | .default => none

/-- The word for a kind of source. -/
def word : SettingsSource → String
  | .explicit _ => "explicit"
  | .project _ => "project"
  | .global _ => "global"
  | .default => "default"

/-- The settings file in a directory, if it is a regular file. -/
def inDirectory? (fs : FileSystem) (directory : String) : Option String :=
  let path := Path.join directory fileName
  if fs.isFile path then some path else none

/-- The user's directory: the one set for configurations unless that is empty, else the home. -/
def userDirectory? (configDirectory home : Option String) : Option String :=
  (configDirectory.filter (· ≠ "")).or home

/-- Where the settings file of a run lies. -/
def find (fs : FileSystem) (sourceRoot : String) (explicit : Option String)
    (userDirectory : Option String) : SettingsSource :=
  match explicit with
  | some path =>
    .explicit (if fs.isDirectory path then Path.join path fileName else path)
  | none =>
    match inDirectory? fs sourceRoot, userDirectory.bind (inDirectory? fs) with
    | some path, _ => .project path
    | none, some path => .global path
    | none, none => .default

end SettingsSource
end SqlLint
