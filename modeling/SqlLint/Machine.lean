import SqlLint.Configuration.Artifact
import SqlLint.Path

/-!
# The machine on which a run takes place

Besides reading files, a run wants two things of its machine: to keep the configuration in a place
of its own, from which the analysis reads it, and to start the workers that look at the files. A
`Machine` says which of this fails, and why. What does not fail is done as asked: a text that was
kept is read as it was written.
-/

namespace SqlLint

/-- A machine, by what it refuses to do and why. -/
structure Machine where
  /-- The directory for temporary files. -/
  temporary : String
  /-- A new directory there that nothing else uses. -/
  newDirectory : Except String String
  /-- Whether the text of a configuration can be made. -/
  encode : Configuration → Except String Unit
  /-- Whether a text can be left at a path. -/
  write : String → Except String Unit
  /-- Whether the text that was left at a path can be read. -/
  read : String → Except String Unit
  /-- Whether a number of workers can be started; for zero the machine chooses the number. -/
  start : Nat → Except String Unit

namespace Machine

/-- A machine that refuses nothing and keeps configurations in a directory. -/
def reliable (directory : String) : Machine where
  temporary := (Path.parent? directory).getD "."
  newDirectory := .ok directory
  encode _ := .ok ()
  write _ := .ok ()
  read _ := .ok ()
  start _ := .ok ()

/-- The name of a configuration in the directory where it is kept. -/
def artifactName : String := ".tsqllintrc"

/-- The path at which a configuration was left and can be read. -/
def place (m : Machine) (c : Configuration) : Except ConfigError String := do
  let directory ← m.newDirectory.mapError (.unkept m.temporary)
  let path := Path.join directory artifactName
  (m.encode c).mapError .unencodable
  (m.write path).mapError (.unkept path)
  (m.read path).mapError (.unkept path)
  return path

/-- The configuration as the analysis gets it: written down and read again. -/
def keep (m : Machine) (c : Configuration) : Except ConfigError Configuration := do
  Configuration.ofArtifact (← m.place c) c.artifact

end Machine
end SqlLint
