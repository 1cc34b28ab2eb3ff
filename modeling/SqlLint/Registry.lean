import SqlLint.Dictionary
import SqlLint.Json
import SqlLint.Rule

/-!
# The rules a run knows

A registry holds one descriptor for each rule identifier, the first that was registered, and lists
them in the order of the identifiers.
-/

namespace SqlLint

def Descriptor.toJson (d : Descriptor) : Json :=
  .object [("id", .string d.id), ("title", .string d.title),
    ("category", .string d.category.word), ("default_severity", .string d.severity.word)]

/-- Descriptors by rule identifier. -/
structure Registry where
  descriptors : Dictionary Descriptor
deriving DecidableEq

namespace Registry

def empty : Registry := ⟨.empty⟩

def get? (r : Registry) (id : String) : Option Descriptor := r.descriptors.get? id

def contains (r : Registry) (id : String) : Bool := r.descriptors.contains id

/-- Registers a descriptor unless its identifier is registered already. -/
def register (r : Registry) (d : Descriptor) : Registry :=
  ⟨r.descriptors.insertIfNew d.id d⟩

/-- The registry of a list of rules. -/
def ofRules (rules : List Rule) : Registry :=
  rules.foldl (fun r rule => r.register rule.toDescriptor) empty

def ids (r : Registry) : List String := r.descriptors.keys

/-- The descriptors, in the order of their identifiers. -/
def toList (r : Registry) : List Descriptor := r.descriptors.values

def size (r : Registry) : Nat := r.descriptors.size

/-- A text filled up with blanks to at least `width` characters. -/
def padded (width : Nat) (text : String) : String :=
  text ++ String.ofList (List.replicate (width - text.length) ' ')

def tableRow (name category level title : String) : String :=
  s!"{padded 33 name} {padded 13 category} {padded 8 level} {title}\n"

/-- The table of rules, with a hint how to select some of them. -/
def table (r : Registry) : String :=
  "Available rules:\n\n" ++ tableRow "Name" "Category" "Level" "Title"
    ++ String.ofList (List.replicate 90 '-') ++ "\n"
    ++ String.join (r.toList.map fun d => tableRow d.id d.category.word d.severity.word d.title)
    ++ "\nUse --rules to run only some of them, e.g.:\n"
    ++ "  tsql-batch analyze --rules select-star,set-nocount\n"

end Registry
end SqlLint
