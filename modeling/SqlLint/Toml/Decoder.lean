import SqlLint.Layout
import SqlLint.Toml.Reading

/-!
# Reading typed data from TOML documents

A document is read completely before its values are looked at; then values are judged in the order
in which the document defines them.
-/

namespace SqlLint.Toml

def momentKey : String := "$__toml_private_datetime"

/-- Messages give numbers without exponent. -/
def messageForm : Binary64.DecimalForm := ⟨.up, fun _ => true, true⟩

namespace Node

def found : Node → Found
  | .string s => .string s
  | .integer n => .integer n
  | .real negative x => .ofReal messageForm negative x
  | .notFinite word => .real word
  | .bool b => .bool b
  | .moment => .map
  | .array _ => .sequence
  | .table _ _ => .map
  | .tables _ => .sequence

/-- The problem that a node is not what is wanted. -/
def mismatch {α : Type} (wanted : String) (node : Node) : Decoded α :=
  .error (.invalidType node.found wanted)

def text : Node → Decoded String
  | .string s => .ok s
  | node => node.mismatch "a string"

def sequence {α : Type} (decode : Node → Decoded α) : Node → Decoded (List α)
  | .array items => items.mapM decode
  | .tables items => items.mapM decode
  | node => node.mismatch "a sequence"

/-- One of several words. -/
def choice {α : Type} (alternatives : List (String × α)) (word : String) : Decoded α :=
  match alternatives.lookup word with
  | some value => .ok value
  | none => .error (.unknownVariant word (alternatives.map (·.1)))

/-- Whether a node has nothing in it. -/
def isVoid : Node → Bool
  | .array items => items.isEmpty
  | .tables items => items.isEmpty
  | .table _ members => members.isEmpty
  | _ => false

def word {α : Type} (alternatives : List (String × α)) : Node → Decoded α
  | .string s => choice alternatives s
  | .table _ [(name, value)] => do
    let chosen ← choice alternatives name
    if value.isVoid then .ok chosen else .error .malformed
  | _ => .error .malformed

end Node

/-- The layout of a record in a TOML document. -/
abbrev Layout := SqlLint.Layout Node

namespace Layout

/-- Finds and checks the values of the fields among members. Members with other keys are refused if
the layout is strict, and else passed over. -/
def scanMembers (l : Layout) (isStrict : Bool) (seen : Values Node) :
    Members → Decoded (Values Node)
  | [] => .ok seen
  | (name, node) :: rest =>
    match l.field? name with
    | none =>
      if isStrict then .error (.unknownField name (l.fields.map (·.name)))
      else scanMembers l isStrict seen rest
    | some field => do
      field.check node
      scanMembers l isStrict (seen ++ [(field.name, node)]) rest

/-- Finds and checks the values of the fields of a record: a table, or an array that begins with the
values in the order of the fields. -/
def values (l : Layout) (isStrict : Bool) : Node → Decoded (Values Node)
  | .table _ members => do l.complete (← scanMembers l isStrict [] members)
  | .moment => do l.complete (← scanMembers l isStrict [] [(momentKey, .moment)])
  | .array items => (l.inOrder [] l.fields items).map (·.1)
  | .tables items => (l.inOrder [] l.fields items).map (·.1)
  | node => node.mismatch l.describe

end Layout

def read {α : Type} (decode : Node → Decoded α) (text : String) : Decoded α :=
  match ofText? text with
  | some node => decode node
  | none => .error .malformed

end SqlLint.Toml
