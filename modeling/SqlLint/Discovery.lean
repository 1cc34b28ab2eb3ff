import SqlLint.FileSystem
import SqlLint.Glob
import SqlLint.Path
import SqlLint.Text.Ascii

/-!
# Finding scripts

A run that is not told its files looks for them: every regular file below the source root with the
extension `sql`, in either case, unless an exclude pattern matches its path relative to the root.
The patterns are read before the tree is, and the paths come in the order of their components. The
names of files and directories are texts, as everywhere in a `SqlLint.FileSystem`.
-/

namespace SqlLint

/-- Why no files can be found. -/
inductive DiscoveryError
  | invalidExclude (problem : GlobError)
  | unreadable (root : String) (cause : AccessError)
deriving DecidableEq, Repr

namespace DiscoveryError

/-- What went wrong, without saying in what. -/
def cause : DiscoveryError → String
  | .invalidExclude problem => problem.message
  | .unreadable root cause => s!"IO error for operation on {root}: {cause.message}"

def message (e : DiscoveryError) : String :=
  match e with
  | .invalidExclude _ => s!"invalid exclude pattern: {e.cause}"
  | .unreadable _ _ => s!"failed to walk source tree: {e.cause}"

/-- The name under which tools know the kind of problem. -/
def code : DiscoveryError → String
  | .invalidExclude _ => "tsql_batch::discovery::glob"
  | .unreadable _ _ => "tsql_batch::discovery::walk"

end DiscoveryError

namespace Discovery

def defaultExcludes : List String :=
  ["**/.git/**", "**/node_modules/**", "**/bin/**", "**/obj/**"]

/-- Whether the path of a file has the extension of scripts. -/
def isScriptPath (path : String) : Bool :=
  (Path.extension? path).any fun extension => Ascii.sameIgnoringCase extension "sql"

/-- A relative path as patterns see it: backslashes separate components too. -/
def shown (path : String) : String :=
  String.ofList (path.toList.map fun c => if c = '\\' then '/' else c)

/-- Whether something met on a walk is a script that no pattern excludes. -/
def isWanted (root : String) (excludes : List Glob) (w : Walked) : Bool :=
  w.isFile
    && isScriptPath (w.names.getLast?.getD root)
    && !excludes.any (·.isMatch (shown (Path.ofSegments w.names)))

/-- The order of paths by their components. -/
def componentsLe (a b : List String) : Bool := decide (¬ b < a)

/-- The relative paths of the scripts below a root. -/
def find (fs : FileSystem) (root : String) (excludes : List String) :
    Except DiscoveryError (List String) := do
  let globs ← (defaultExcludes ++ excludes).mapM fun pattern =>
    (Glob.parse pattern).mapError .invalidExclude
  let walked ← (fs.walk root).mapError (.unreadable root)
  let found := walked.filter (isWanted root globs)
  return ((found.map (·.names)).mergeSort componentsLe).map Path.ofSegments

end Discovery
end SqlLint
