import SqlLint.CommandLine.Reach
import Std.Data.HashMap

/-!
# The program

The program gathers what its command looks at, asks for the reply and carries it out. All decisions
are those of `CommandLine.Reply`.
-/

namespace SqlLint.Program

open CommandLine (Environment Invocation Reply)

/-- What is known of the files. -/
structure Snapshot where
  kinds : Std.HashMap String FileKind := {}
  texts : Std.HashMap String (Except AccessError String) := {}
  trees : Std.HashMap String (Except AccessError (List Walked)) := {}

/-- The files as far as they are known. -/
def Snapshot.fileSystem (s : Snapshot) : FileSystem where
  kind path := s.kinds.getD path .absent
  read path := s.texts.getD path (.error .notFound)
  walk path := s.trees.getD path (.error .notFound)

def accessError : IO.Error → AccessError
  | .noFileOrDirectory .. => .notFound
  | .permissionDenied .. => .denied
  | .inappropriateType .. => .notDirectory
  | _ => .notFound

def text (path : String) : IO (Except AccessError String) := do
  try
    let bytes ← IO.FS.readBinFile path
    return ((String.fromUTF8? bytes).map .ok).getD (.error .notText)
  catch e => return .error (accessError e)

/-- What stands at a path, and the text of a file. -/
def inspect (path : String) : IO (FileKind × Except AccessError String) := do
  try
    match (← ((← IO.currentDir) / path).metadata).type with
    | .dir => return (.directory, .error .isDirectory)
    | .file => return (.file, ← text path)
    | _ => return (.absent, .error .notFound)
  catch e => return (.absent, .error (accessError e))

/-- Everything below a directory to which `names` lead from the place where a walk began. -/
partial def below (root : String) (names : List String) : IO (List Walked) := do
  let place := ((← IO.currentDir) / root) / Path.ofSegments names
  let mut found := []
  for entry in ← place.readDir do
    let next := names ++ [entry.fileName]
    let type := (← (place / entry.fileName).symlinkMetadata).type
    found := ⟨next, type == .file⟩ :: found
    if type == .dir then found := (← below root next) ++ found
  return found

def walk (root : String) : IO (Except AccessError (List Walked)) := do
  let place := (← IO.currentDir) / root
  try
    let children ← if ← place.isDir then below root [] else pure []
    return .ok (⟨[], (← place.symlinkMetadata).type == .file⟩ :: children)
  catch e => return .error (accessError e)

/-- A snapshot that holds everything at which an invocation looks, with a log if one is wanted. -/
partial def gather (environment : Environment) (invocation : Invocation) (s : Snapshot) :
    IO Snapshot := do
  let command := invocation.command
  let unknown := (command.reach s.fileSystem environment).filter (!s.kinds.contains ·)
  let unwalked := (command.searched? s.fileSystem).filter (!s.trees.contains ·)
  if unknown.isEmpty && unwalked.isNone then return s
  let mut s := s
  for path in unknown do
    if invocation.verbose then IO.eprintln s!"Looking at {path}"
    let (kind, text) ← inspect path
    s := { s with kinds := s.kinds.insert path kind, texts := s.texts.insert path text }
  if let some root := unwalked then
    s := { s with trees := s.trees.insert root (← walk root) }
  gather environment invocation s

/-- Carries out a reply; the result is the status with which the program ends. -/
def perform (reply : Reply) : IO UInt32 := do
  if let some (path, text) := reply.written then
    try IO.FS.writeFile path text
    catch e =>
      IO.eprintln s!"error: failed to write {path}: {e}"
      return 1
  let output ← IO.getStdout
  for line in reply.lines do
    output.putStrLn line
  output.flush
  if let some complaint := reply.complaint? then IO.eprintln complaint
  return reply.status

/-- The time since a moment on the clock of nanoseconds. -/
def since (start : Nat) : IO Duration := do
  let passed := (← IO.monoNanosNow) - start
  return ⟨passed / 1000000000, passed % 1000000000⟩

end SqlLint.Program

open SqlLint SqlLint.Program in
def main (words : List String) : IO UInt32 := do
  let start ← IO.monoNanosNow
  -- The configuration stays in memory, so that nothing can go wrong with keeping it.
  let environment : CommandLine.Environment := {
    sourceRoot := ← IO.getEnv "TSQL_BATCH_SOURCE_ROOT"
    configDirectory := ← IO.getEnv "TSQL_BATCH_CONFIG_DIR"
    home := ← IO.getEnv "HOME"
    machine := .reliable "/tmp" }
  let snapshot ← match CommandLine.Invocation.ofWords environment words with
    | .ok invocation => gather environment invocation {}
    | .error _ => pure {}
  let draft ← IO.wait (Task.spawn fun _ =>
    CommandLine.Reply.draft snapshot.fileSystem environment words)
  perform (draft.reply (← since start))
