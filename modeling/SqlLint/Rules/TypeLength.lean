import SqlLint.Rule

/-!
# Lengths of character and binary types

`VARCHAR` alone means one character in a declaration and thirty in a cast, and both truncate in
silence. The rule objects to the name of a sized type that stands where a type stands and has no
parenthesis after it.
-/

namespace SqlLint.Rules.TypeLength

def sizedTypes : List String := ["CHAR", "NCHAR", "VARCHAR", "NVARCHAR", "BINARY", "VARBINARY"]

/-- Whether a type can stand at the site: after a variable, after `AS`, as the first argument of a
conversion, or after the name of a column. -/
def inTypePosition (s : Site) : Bool :=
  match s.before with
  | [] => false
  | p :: before =>
    if p.kind == .variable || p.isKeyword "AS" then true
    else if p.isSymbol '(' then before.head?.any (·.isAnyKeyword ["CONVERT", "TRY_CONVERT"])
    else p.isIdentifier && !p.isAnyKeyword ["SELECT", "DISTINCT", "TOP", "BY", "RETURNS"]

/-- Whether the site names a sized type without a length. -/
def lacksLength (s : Site) : Bool :=
  s.token.isAnyKeyword sizedTypes && !s.isMember && !s.isCall && inTypePosition s

def flags (tokens : List Token) : List Flag :=
  ((Site.all tokens).filter lacksLength).map fun s =>
    ⟨s, s!"Expected length to be specified for type {s.token.text.toUpper}"⟩

end TypeLength

def dataTypeLength : Rule :=
  .ofFlags ⟨"data-type-length", "Specify data type length", .performance, .error⟩ TypeLength.flags

end SqlLint.Rules
