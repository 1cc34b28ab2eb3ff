import SqlLint.Rule
import SqlLint.Syntax.ObjectName

/-!
# Schema qualification

A table reference names its schema. References follow `FROM`, `JOIN`, `INTO`, `UPDATE` and `INSERT`;
temporary tables, common table expressions and aliases declared anywhere in the script need no
schema.
-/

namespace SqlLint.Rules.SchemaQualification

/-- Keywords followed by a table. -/
def tableKeywords : List String := ["FROM", "JOIN", "INTO", "UPDATE", "INSERT"]

/-- Whether the keyword at the site is followed by a table, and is not part of `ON UPDATE`, of a
list of trigger events or of a cursor's `FETCH … FROM`. -/
def introducesTable (s : Site) : Bool :=
  match s.previous? with
  | none => true
  | some p =>
    if p.isSymbol ',' && !s.token.isKeyword "JOIN" then false
    else !p.isAnyKeyword ["ON", "FOR", "AFTER", "OF", "NEXT", "PRIOR", "FIRST", "LAST", "FETCH"]

/-- A reference to a table: the site where its name begins, and the name. -/
structure Reference where
  site : Site
  name : ObjectName

namespace Reference

def after (r : Reference) : List Token := (r.site.token :: r.site.after).drop r.name.length

/-- The reference a keyword introduces. After `FROM` and `JOIN` a parenthesis behind the name makes
it a function; after the others it opens a list of columns. -/
def introducedBy? (s : Site) : Option Reference :=
  if s.token.isAnyKeyword tableKeywords && introducesTable s then
    match s.after with
    | [] => none
    | first :: rest =>
      if first.isAnyKeyword Keyword.clauses then none
      else match ObjectName.parse? (first :: rest) with
        | none => none
        | some name =>
          let reference : Reference := ⟨⟨s.token :: s.before, first, rest⟩, name⟩
          if s.token.isAnyKeyword ["FROM", "JOIN"] && reference.after.head?.any (·.isSymbol '(')
          then none else some reference
  else none

end Reference

/-- The table references of a token sequence, in order. -/
def references (tokens : List Token) : List Reference :=
  (Site.all tokens).filterMap Reference.introducedBy?

/-- The name a site introduces as a common table expression, `WITH name AS (` or `, name AS (`. -/
def commonTableName? (s : Site) : Option String :=
  match s.after with
  | name :: as :: opening :: _ =>
    if (s.token.isKeyword "WITH" || s.token.isSymbol ',') && name.isIdentifier
        && as.isKeyword "AS" && opening.isSymbol '(' then some name.foldedName else none
  | _ => none

/-- The names declared in a token sequence, in lower case: common table expressions and aliases. -/
def localNames (tokens : List Token) : List String :=
  (Site.all tokens).filterMap commonTableName?
    ++ (references tokens).filterMap fun r => (alias? r.after).map String.toLower

/-- The objection to a reference, if it needs a schema and has none. -/
def flag? (locals : List String) (r : Reference) : Option Flag :=
  if r.name.parts.length = 1 then
    match r.name.object? with
    | none => none
    | some object =>
      if object.toList.head? == some '#' || locals.contains object.toLower then none
      else some ⟨r.site, s!"Object name not schema qualified: {object}"⟩
  else none

def flags (tokens : List Token) : List Flag :=
  let locals := localNames tokens
  (references tokens).filterMap (flag? locals)

end SchemaQualification

def schemaQualify : Rule :=
  .ofFlags ⟨"schema-qualify", "Schema-qualify object names", .errorProne, .error⟩
    SchemaQualification.flags

end SqlLint.Rules
