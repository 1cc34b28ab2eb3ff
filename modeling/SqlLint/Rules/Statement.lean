import SqlLint.Rule

/-!
# Rules against single statements

`PRINT` output is lost in most hosts, cursors process rows one at a time, and variables are better
assigned with `SELECT`. Each rule objects to one word, in the last case only before a variable.
-/

namespace SqlLint.Rules

def printStatement : Rule :=
  .ofFlags ⟨"print-statement", "Avoid PRINT statements", .errorProne, .error⟩
    (flagWhere "Expected RAISERROR statement instead of PRINT" fun s => s.token.isKeyword "PRINT")

def disallowCursors : Rule :=
  .ofFlags ⟨"disallow-cursors", "Avoid cursors", .performance, .error⟩
    (flagWhere "Found use of CURSOR statement" fun s => s.token.isKeyword "CURSOR")

/-- Objects to `SET` before a variable. -/
def setVariable : Rule :=
  .ofFlags ⟨"set-variable", "Assign variables with SELECT", .errorProne, .error⟩
    (flagWhere "Expected variable to be set using SELECT statement" fun s =>
      s.token.isKeyword "SET" && s.next?.any (·.kind == .variable))

end SqlLint.Rules
