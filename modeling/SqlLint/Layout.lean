import SqlLint.DecodeError

/-!
# Records in documents

A record is a part of a document with known fields. It is read in two steps: one scan of the
document that finds, checks and names the values of the fields, and then the fields by name. What
the parts of a document are is left open: `δ` is their type.
-/

namespace SqlLint

/-- The result of reading. -/
abbrev Decoded (α : Type) := Except DecodeError α

/-- A field of a record. -/
structure Field (δ α : Type) where
  name : String
  decode : δ → Decoded α
  /-- The value of a record without the field; none when a record must have it. -/
  default : Option α := none
  /-- Other keys for the field. -/
  aliases : List String := []

/-- What finding a field in a record needs to know of it. -/
structure FieldSpec (δ : Type) where
  name : String
  aliases : List String
  isRequired : Bool
  /-- Whether a value is one for the field. -/
  check : δ → Decoded Unit

variable {δ α : Type}

def Field.spec (f : Field δ α) : FieldSpec δ where
  name := f.name
  aliases := f.aliases
  isRequired := f.default.isNone
  check d := (f.decode d).map fun _ => ()

/-- Whether a key stands for a field. -/
def FieldSpec.answersTo (f : FieldSpec δ) (key : String) : Bool :=
  f.name == key || f.aliases.contains key

/-- The values of the fields of a record, by the names of the fields. -/
abbrev Values (δ : Type) := List (String × δ)

def Field.get (field : Field δ α) (values : Values δ) : Decoded α :=
  match values.lookup field.name, field.default with
  | some d, _ => field.decode d
  | none, some value => .ok value
  | none, none => .error (.missingField field.name)

/-- The layout of a record: the name its messages use, and its fields. -/
structure Layout (δ : Type) where
  name : String
  fields : List (FieldSpec δ)

namespace Layout

def field? (l : Layout δ) (key : String) : Option (FieldSpec δ) :=
  l.fields.find? (·.answersTo key)

/-- The values without error if every field that a record must have is there. -/
def complete (l : Layout δ) (seen : Values δ) : Decoded (Values δ) :=
  match l.fields.find? fun f => f.isRequired && (seen.lookup f.name).isNone with
  | some field => .error (.missingField field.name)
  | none => .ok seen

def describe (l : Layout δ) : String := s!"struct {l.name}"

/-- The words for a record with the number of its fields. -/
def describeLength (l : Layout δ) : String :=
  let n := l.fields.length
  s!"{l.describe} with {n} element" ++ if n = 1 then "" else "s"

/-- The values of the fields when a record gives them in their order: the fields that are left after
`seen`, and the values that are left. The second part is the values beyond the last field. -/
def inOrder (l : Layout δ) (seen : Values δ) :
    List (FieldSpec δ) → List δ → Decoded (Values δ × List δ)
  | [], items => .ok (seen, items)
  | field :: fields, [] =>
    if field.isRequired then
      .error (.invalidLength (l.fields.length - (fields.length + 1)) l.describeLength)
    else inOrder l seen fields []
  | field :: fields, item :: items => do
    field.check item
    inOrder l (seen ++ [(field.name, item)]) fields items

end Layout
end SqlLint
