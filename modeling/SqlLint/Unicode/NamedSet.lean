import SqlLint.Text.CharSet

/-!
# Named sets of characters

The Unicode standard names sets of characters. A set is kept as a table: its ranges of code points in
increasing order, in hexadecimal, separated by blanks or line breaks.
-/

namespace SqlLint.Unicode

/-- A set of characters that the standard names. -/
structure NamedSet where
  /-- Its names in lower case, without blanks, hyphens and underscores. -/
  names : List String
  /-- Its ranges. -/
  table : String
deriving DecidableEq, Repr

namespace NamedSet

def set (s : NamedSet) : CharSet := .ofTable s.table

def find? (sets : List NamedSet) (name : String) : Option CharSet :=
  (sets.find? fun s => s.names.contains name).map set

/-- The characters of those sets that have one of some names. -/
def unionOf (sets : List NamedSet) (names : List String) : CharSet :=
  .ofRanges ((sets.filter fun s => s.names.any names.contains).flatMap fun s => s.set.ranges)

end NamedSet
end SqlLint.Unicode
