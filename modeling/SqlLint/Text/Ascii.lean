/-!
# Comparing texts without regard to ASCII case

Keywords, object names and file extensions are compared after folding the letters `A` to `Z`
only; every other character stands for itself.
-/

namespace SqlLint.Ascii

/-- Whether two texts are equal once their ASCII letters are written in upper case. -/
def sameIgnoringCase (a b : String) : Bool :=
  a.toUpper == b.toUpper

@[simp] theorem sameIgnoringCase_self (a : String) : sameIgnoringCase a a = true := by
  simp [sameIgnoringCase]

def isAscii (s : String) : Bool := s.toList.all fun c => c.val < 128

end SqlLint.Ascii
