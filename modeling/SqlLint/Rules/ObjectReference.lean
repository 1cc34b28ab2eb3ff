import SqlLint.Rule
import SqlLint.Syntax.ObjectName

/-!
# Rules about how objects are reached

`INFORMATION_SCHEMA` gives way to the `sys` views, and a name of four parts goes through a linked
server. Names are read by a scan that jumps from the end of one name to what follows it.
-/

namespace SqlLint.Rules

/-- Objects to the `INFORMATION_SCHEMA` views, quoted or not. -/
def informationSchema : Rule :=
  .ofFlags ⟨"information-schema", "Use sys catalog views instead of INFORMATION_SCHEMA",
      .errorProne, .error⟩
    (flagWhere "Expected use of SYS.Partitions rather than INFORMATION_SCHEMA views" fun s =>
      s.token.isNamed "INFORMATION_SCHEMA")

namespace LinkedServer

/-- Whether a name has a server part. -/
def hasServer (n : ObjectName) : Bool := n.parts.length ≥ 4

/-- The sites, among consecutive ones, at which a name with a server part begins. The scan goes on
behind each name it has read. -/
def scan : List Site → List Flag
  | [] => []
  | s :: rest =>
    if s.isMember then scan rest
    else match ObjectName.parse? (s.token :: s.after) with
      | none => scan rest
      | some name =>
        let others := scan (rest.drop (name.length - 1))
        if hasServer name then ⟨s, "Unexpected use of linked server"⟩ :: others else others
termination_by sites => sites.length
decreasing_by all_goals simp only [List.length_cons, List.length_drop]; omega

end LinkedServer

/-- Objects to names of four parts. -/
def linkedServer : Rule :=
  .ofFlags ⟨"linked-server", "Avoid linked server queries", .performance, .error⟩
    fun tokens => LinkedServer.scan (Site.all tokens)

end SqlLint.Rules
