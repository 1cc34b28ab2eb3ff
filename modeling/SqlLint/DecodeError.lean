import SqlLint.Number.Binary64
import SqlLint.Text.Printable

/-!
# Reading typed data

Settings, manifests and findings are read from documents in a data format. What can be wrong with a
document is the same whatever the format: it is not well formed, or some value is not what is wanted
in its place.
-/

namespace SqlLint

/-- What stands in a document where something else is wanted. -/
inductive Found
  | integer (value : Int)
  /-- A number that is no integer, as a decimal. -/
  | real (text : String)
  | bool (value : Bool)
  | string (value : String)
  | null
  | sequence
  | map
deriving DecidableEq, Repr

/-- What a number with a sign is, in the form that a data format gives its numbers in messages. -/
def Found.ofReal (form : Binary64.DecimalForm) (negative : Bool) (x : Binary64) : Found :=
  .real ((if negative then "-" else "") ++ x.toDecimal form)

def Found.describe : Found → String
  | .integer n => s!"integer `{n}`"
  | .real text => s!"floating point `{text}`"
  | .bool b => s!"boolean `{b}`"
  | .string s => s!"string {Printable.quote s}"
  | .null => "null"
  | .sequence => "sequence"
  | .map => "map"

/-- What can be wrong with a document. -/
inductive DecodeError
  /-- It is not well formed, or not in the only form that is accepted. -/
  | malformed
  | notObject
  | invalidType (found : Found) (wanted : String)
  /-- The value has the right type and is out of range. -/
  | invalidValue (found : Found) (wanted : String)
  | invalidLength (length : Nat) (wanted : String)
  | unknownVariant (name : String) (known : List String)
  | unknownField (name : String) (known : List String)
  | missingField (name : String)
  | duplicateField (name : String)
  /-- Two plugins have one name. -/
  | duplicatePlugin (name : String)
deriving DecidableEq, Repr

namespace DecodeError

def ticked (name : String) : String := s!"`{name}`"

def oneOf : List String → String
  | [] => "nothing"
  | [a] => ticked a
  | [a, b] => s!"{ticked a} or {ticked b}"
  | names => "one of " ++ ", ".intercalate (names.map ticked)

def message : DecodeError → String
  | .malformed => "syntax error"
  | .notObject => "expected a JSON object"
  | .invalidType found wanted => s!"invalid type: {found.describe}, expected {wanted}"
  | .invalidValue found wanted => s!"invalid value: {found.describe}, expected {wanted}"
  | .invalidLength length wanted => s!"invalid length {length}, expected {wanted}"
  | .unknownVariant name known => s!"unknown variant `{name}`, expected {oneOf known}"
  | .unknownField name known => s!"unknown field `{name}`, expected {oneOf known}"
  | .missingField name => s!"missing field `{name}`"
  | .duplicateField name => s!"duplicate field `{name}`"
  | .duplicatePlugin name => s!"duplicate plugin `{name}`"

end DecodeError
end SqlLint
