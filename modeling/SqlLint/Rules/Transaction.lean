import SqlLint.Rule
import SqlLint.Syntax.ObjectName

/-!
# Writes to several databases in one transaction

The rule follows the outermost transactions of a script: one opens at a `BEGIN TRANSACTION` outside
any other, nested ones only count, and it closes when as many have been ended as begun. When it
closes, the databases written to since it opened are counted; the current database is one of them.
-/

namespace SqlLint.Rules.Transaction

/-- Whether a transaction begins at the site. -/
def begins (s : Site) : Bool :=
  s.token.isKeyword "BEGIN" &&
    let after := match s.after with
      | t :: rest => if t.isKeyword "DISTRIBUTED" then rest else s.after
      | [] => []
    after.head?.any (·.isAnyKeyword ["TRAN", "TRANSACTION"])

/-- Whether a transaction ends at the site. -/
def ends (s : Site) : Bool :=
  s.token.isAnyKeyword ["COMMIT", "ROLLBACK"]

/-- The name of the table a statement at the site writes to. -/
def target? (s : Site) : Option ObjectName :=
  let after := match s.after with
    | t :: rest => if t.isAnyKeyword ["INTO", "FROM"] then rest else s.after
    | [] => []
  match after with
  | [] => none
  | first :: _ => if first.isAnyKeyword Keyword.clauses then none else ObjectName.parse? after

/-- The database a statement at the site writes to, if it writes; the inner `none` is the current
database. -/
def writes? (s : Site) : Option (Option String) :=
  if s.token.isAnyKeyword ["INSERT", "UPDATE", "DELETE", "MERGE"] then
    (target? s).map fun name => name.database?.map String.toLower
  else none

/-- An outermost transaction that is still open. -/
structure Span where
  opened : Site
  nested : Nat
  /-- The databases written to so far, without repetition. -/
  databases : List (Option String)

/-- The objection to a transaction, when it closes. -/
def Span.flag? (t : Span) : Option Flag :=
  if t.databases.length > 1 then
    some ⟨t.opened,
      "Cross database inserts or updates enclosed in a transaction can lead to data corruption"⟩
  else none

/-- The objections at consecutive sites, with the transaction open before them. -/
def scan : Option Span → List Site → List Flag
  | _, [] => []
  | none, s :: rest => if begins s then scan (some ⟨s, 0, []⟩) rest else scan none rest
  | some t, s :: rest =>
    if begins s then scan (some { t with nested := t.nested + 1 }) rest
    else if ends s then
      match t.nested with
      | 0 => t.flag?.toList ++ scan none rest
      | outer + 1 => scan (some { t with nested := outer }) rest
    else match writes? s with
      | some database => scan (some { t with databases := t.databases.insert database }) rest
      | none => scan (some t) rest

end Transaction

/-- Objects to transactions that write to more than one database. -/
def crossDatabaseTransaction : Rule :=
  .ofFlags ⟨"cross-database-transaction", "Avoid cross-database writes in one transaction",
      .errorProne, .error⟩
    fun tokens => Transaction.scan none (Site.all tokens)

end SqlLint.Rules
