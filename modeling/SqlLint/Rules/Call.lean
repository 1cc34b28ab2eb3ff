import SqlLint.Rule

/-!
# Rules against calls

A call is a word directly followed by `(` and not preceded by a dot, so that columns and members of
the same name stay unnoticed.
-/

namespace SqlLint.Rules

/-- Whether the site is the name in a call of one of `functions`. -/
def isCallOf (functions : List String) (s : Site) : Bool :=
  s.token.isAnyKeyword functions && s.isCall && !s.isMember

/-- Objects to `UPPER` and `LOWER`: comparisons ignore case under the usual collation. -/
def upperLower : Rule :=
  .ofFlags ⟨"upper-lower", "Avoid UPPER and LOWER in comparisons", .errorProne, .error⟩
    (flagWhere ("Use of the UPPER or LOWER functions is not required when running database "
        ++ "in case insensitive mode")
      (isCallOf ["UPPER", "LOWER"]))

/-- Objects to `OBJECTPROPERTY` in favour of the catalog views. -/
def objectProperty : Rule :=
  .ofFlags ⟨"object-property", "Use catalog views instead of OBJECTPROPERTY", .errorProne, .error⟩
    (flagWhere "Expected use of SYS.COLUMNS rather than OBJECTPROPERTY"
      (isCallOf ["OBJECTPROPERTY"]))

/-- Objects to full-text predicates and functions. -/
def fullText : Rule :=
  .ofFlags ⟨"full-text", "Avoid full-text predicates", .performance, .error⟩
    (flagWhere "Full text predicate found, this can cause performance problems"
      (isCallOf ["CONTAINS", "FREETEXT", "CONTAINSTABLE", "FREETEXTTABLE"]))

end SqlLint.Rules
