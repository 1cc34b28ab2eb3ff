import SqlLint.Json.Document
import SqlLint.Layout

/-!
# Reading typed data from JSON documents

A decoder goes through a document in the order of its text and stops at the first problem: a value
that is not what is wanted, or a place where the text is not well formed. A record is an object with
known keys, or an array with the values of its fields in their order.
-/

namespace SqlLint.Json

/-- Messages give numbers below 0.00001 and from 10000000000000000 on with an exponent. -/
def messageForm : Binary64.DecimalForm := ⟨.toEven, fun e => -5 ≤ e && e < 16, true⟩

def Number.found : Number → Found
  | .integer n => .integer n
  | .real negative x => .ofReal messageForm negative x

/-- The value of a number; one that is too large is not well formed. -/
def NumberText.number (t : NumberText) : Decoded Number :=
  match t.value? with
  | some n => .ok n
  | none => .error .malformed

/-- The text of a string. -/
def resolved (raw : List Char) : Decoded String :=
  match unescape raw with
  | some cs => .ok (String.ofList cs)
  | none => .error .malformed

def Document.found : Document → Decoded Found
  | .null => .ok .null
  | .bool b => .ok (.bool b)
  | .number t => t.number.map Number.found
  | .string raw => (resolved raw).map .string
  | .array _ _ => .ok .sequence
  | .object _ _ => .ok .map
  | .broken => .error .malformed

def Token.found : Token → Decoded Found
  | .null => .ok .null
  | .bool b => .ok (.bool b)
  | .number t => t.number.map Number.found
  | .openArray => .ok .sequence
  | .openObject => .ok .map
  | _ => .error .malformed

/-- The problem that a place holds something else than what is wanted. -/
def mismatch {α : Type} (wanted : String) (found : Decoded Found) : Decoded α := do
  .error (.invalidType (← found) wanted)

namespace Document

def text (wanted : String) : Document → Decoded String
  | .string raw => resolved raw
  | d => mismatch wanted d.found

/-- Reads an integer from 0 to `most`. -/
def natural (wanted : String) (most : Nat) : Document → Decoded Nat
  | .number t => do
    match ← t.number with
    | .integer n =>
      if 0 ≤ n ∧ n ≤ most then .ok n.toNat else .error (.invalidValue (.integer n) wanted)
    | n => mismatch wanted (.ok n.found)
  | d => mismatch wanted d.found

/-- Reads a value or `null`. -/
def optional {α : Type} (decode : Document → Decoded α) : Document → Decoded (Option α)
  | .null => .ok none
  | d => (decode d).map some

def sequence {α : Type} (decode : Document → Decoded α) : Document → Decoded (List α)
  | .array items isClosed => do
    let values ← items.mapM decode
    if isClosed then .ok values else .error .malformed
  | d => mismatch "a sequence" d.found

/-- Nothing else is read once the members of an object end. -/
def atEnd : Ending → Decoded Unit
  | .closed => .ok ()
  | _ => .error .malformed

def choice {α : Type} (alternatives : List (String × α)) (word : String) : Decoded α :=
  match alternatives.lookup word with
  | some value => .ok value
  | none => .error (.unknownVariant word (alternatives.map (·.1)))

/-- Reads a word as a text, or as the only key of an object whose value is `null`. -/
def word {α : Type} (alternatives : List (String × α)) : Document → Decoded α
  | .string raw => do choice alternatives (← resolved raw)
  | .object [] (.strayKey token) => mismatch "variant identifier" token.found
  | .object ((key, value) :: rest) ending => do
    let chosen ← choice alternatives (← resolved key)
    match value with
    | .null => if rest.isEmpty then (atEnd ending).map fun _ => chosen else .error .malformed
    | value => mismatch "unit" value.found
  | _ => .error .malformed

/-- Reads the members of an object in order. -/
def entries {α : Type} (wanted : String) (decode : Document → Decoded α) :
    Document → Decoded (List (String × α))
  | .object members ending => do
    let values ← members.mapM fun (key, value) => do
      return (← resolved key, ← decode value)
    (atEnd ending).map fun _ => values
  | d => mismatch wanted d.found

end Document

/-- The layout of a record in a JSON document. -/
abbrev Layout := SqlLint.Layout Document

namespace Layout

/-- Finds the values of the fields among members. Members with other keys are passed over; their
values need only be well formed. -/
def scanMembers (l : Layout) (seen : Values Document) :
    List (List Char × Document) → Decoded (Values Document)
  | [] => .ok seen
  | (rawKey, value) :: rest => do
    let key ← resolved rawKey
    match l.field? key with
    | none => if value.isComplete then scanMembers l seen rest else .error .malformed
    | some field =>
      if (seen.lookup field.name).isSome then .error (.duplicateField field.name)
      else
        field.check value
        scanMembers l (seen ++ [(field.name, value)]) rest

/-- Finds and checks the values of the fields of a record: an object, or an array with the values in
the order of the fields. -/
def values (l : Layout) : Document → Decoded (Values Document)
  | .object members ending => do
    let seen ← scanMembers l [] members
    Document.atEnd ending
    l.complete seen
  | .array items true => do
    let (seen, left) ← l.inOrder [] l.fields items
    if left.isEmpty then .ok seen else .error .malformed
  | .array items false => do
    let _ ← l.inOrder [] (l.fields.take items.length) items
    .error .malformed
  | d => mismatch l.describe d.found

end Layout

def read {α : Type} (decode : Document → Decoded α) (text : String) : Decoded α := do
  let reading := Reading.ofText text
  let value ← decode reading.document
  if reading.isExact then .ok value else .error .malformed

end SqlLint.Json
