import SqlLint.Glob
import SqlLint.Regex
import SqlLint.Rule

/-!
# Pattern rules

A pattern rule reports every match of a pattern in a script, comments excluded. The pattern is a
function that finds matches in a text; it is given the text with the comments blanked out, where
every byte keeps its place, so a match stands in the script where it stands in that text. A rule
can be limited to files by patterns for their relative paths.
-/

namespace SqlLint

/-- A rule that reports the matches of a pattern. -/
structure PatternRule extends Descriptor where
  /-- Finds the matches in a text. -/
  find : List Char → List Match
  message : String
  /-- Patterns for the files the rule looks at; without any it looks at all files. -/
  files : List Glob

namespace PatternRule

/-- Whether the rule looks at a file with a relative path. -/
def appliesTo (r : PatternRule) (path : String) : Bool :=
  r.files.isEmpty || r.files.any (·.isMatch path)

def byteLength (cs : List Char) : Nat := cs.foldl (fun n c => n + c.utf8Size) 0

def offset (s : Script) (m : Match) : Nat := byteLength (s.masked.take m.start)

def remark (r : PatternRule) (s : Script) (m : Match) : Remark :=
  let (line, column) := s.locate (offset s m)
  ⟨line, column, r.message⟩

def toRule (r : PatternRule) : Rule :=
  { r.toDescriptor with
    inspect := fun s =>
      if r.appliesTo s.relativePath then (r.find s.masked).map (r.remark s) else [] }

end PatternRule
end SqlLint
