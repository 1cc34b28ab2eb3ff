import SqlLint.Rule
import SqlLint.Syntax.Parenthesis

/-!
# Star select lists

A star select list changes shape when the table does. A `*` begins an item of a select list when it
follows a dot, a comma, one of `SELECT`, `DISTINCT`, `ALL`, `PERCENT`, or a `TOP` clause; elsewhere
it multiplies or counts. The stars of a `SELECT` that opens an `EXISTS (` subquery are harmless.
-/

namespace SqlLint.Rules.Star

/-- Whether the tokens before, nearest first, end in `TOP n` or `TOP (…)`. -/
def endsInTop : List Token → Bool
  | [] => false
  | last :: before =>
    let top? :=
      if last.isSymbol ')' then (Parenthesis.matchingOpen? (last :: before)).bind List.head?
      else before.head?
    top?.any (·.isKeyword "TOP")

/-- Whether a `*` at the site begins an item of a select list. -/
def startsItem (s : Site) : Bool :=
  match s.previous? with
  | none => false
  | some p =>
    p.isSymbol '.' || p.isSymbol ','
      || p.isAnyKeyword ["SELECT", "DISTINCT", "ALL", "PERCENT"] || endsInTop s.before

/-- Whether the nearest `SELECT` before opens an `EXISTS (` subquery. -/
def inExists (s : Site) : Bool :=
  match s.before.dropWhile (!·.isKeyword "SELECT") with
  | _ :: opening :: word :: _ => opening.isSymbol '(' && word.isKeyword "EXISTS"
  | _ => false

end Star

/-- Objects to star select lists. -/
def selectStar : Rule :=
  .ofFlags ⟨"select-star", "Specify column names instead of SELECT *", .errorProne, .error⟩
    (flagWhere "Expected column names in SELECT" fun s =>
      s.token.isSymbol '*' && Star.startsItem s && !Star.inExists s)

end SqlLint.Rules
