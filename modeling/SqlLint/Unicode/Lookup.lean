import SqlLint.Unicode.Age
import SqlLint.Unicode.Category
import SqlLint.Unicode.Property
import SqlLint.Unicode.Script
import SqlLint.Unicode.ScriptExtension
import SqlLint.Unicode.Segmentation

/-!
# Looking up sets of characters by name

A set is named by a property it has or has not, by a general category or a script, or by a property
and its value. Names are compared without regard to case, blanks, hyphens, underscores, and a leading
`is`.
-/

namespace SqlLint.Unicode

/-- The characters of a name that count. -/
def nameKey (name : List Char) : List Char :=
  (name.filter fun c => c != ' ' && c != '_' && c != '-' && c.val < 128).map Char.toLower

/-- A name as the tables spell it. -/
def normalizedName (name : List Char) : String :=
  match name with
  | i :: s :: rest =>
    if i.toLower = 'i' ∧ s.toLower = 's' then
      let key := nameKey rest
      if key = ['c'] then "isc" else String.ofList key
    else String.ofList (nameKey name)
  | _ => String.ofList (nameKey name)

/-- General categories that are unions of others. -/
def categoryGroups : List (List String × List String) := [
  (["l", "letter"], ["ll", "lm", "lo", "lt", "lu"]),
  (["lc", "casedletter"], ["ll", "lt", "lu"]),
  (["m", "mark", "combiningmark"], ["mc", "me", "mn"]),
  (["n", "number"], ["nd", "nl", "no"]),
  (["p", "punctuation", "punct"], ["pc", "pd", "pe", "pf", "pi", "po", "ps"]),
  (["s", "symbol"], ["sc", "sk", "sm", "so"]),
  (["z", "separator"], ["zl", "zp", "zs"])]

def assigned : CharSet := .ofRanges (categories.flatMap fun s => s.set.ranges)

def anyCharacter : CharSet := CharSet.empty.complement

/-- The characters of a general category. -/
def category? (name : String) : Option CharSet :=
  match name with
  | "any" => some anyCharacter
  | "assigned" => some assigned
  | "ascii" => some (.between '\x00' '\x7f')
  | "cn" => some assigned.complement
  | "unassigned" => some assigned.complement
  | "c" => some (otherCharacters)
  | "other" => some (otherCharacters)
  | _ =>
    match categoryGroups.find? fun group => group.1.contains name with
    | some group => some (NamedSet.unionOf categories group.2)
    | none => NamedSet.find? categories name
where
  /-- Controls, formats, private and unassigned code points. -/
  otherCharacters : CharSet :=
    (NamedSet.unionOf categories ["cc", "cf", "co"]).union assigned.complement

/-- The characters that had been assigned in a version of the standard. -/
def assignedIn? (version : String) : Option CharSet :=
  let before := ages.takeWhile fun s => !s.names.contains version
  (ages[before.length]?).map fun last =>
    .ofRanges ((before ++ [last]).flatMap fun s => s.set.ranges)

/-- The characters that have a property, or are of a category or script, of one name. The names `cf`,
`sc` and `lc` are those of categories. -/
def named? (name : List Char) : Option CharSet :=
  let key := normalizedName name
  (NamedSet.find? properties key).or ((category? key).or (NamedSet.find? scripts key))

def valued? (property value : List Char) : Option CharSet :=
  let key := normalizedName value
  match normalizedName property with
  | "gc" => category? key
  | "generalcategory" => category? key
  | "sc" => NamedSet.find? scripts key
  | "script" => NamedSet.find? scripts key
  | "scx" => NamedSet.find? scriptExtensions key
  | "scriptextensions" => NamedSet.find? scriptExtensions key
  | "age" => assignedIn? key
  | "gcb" => NamedSet.find? graphemeBreaks key
  | "graphemeclusterbreak" => NamedSet.find? graphemeBreaks key
  | "wb" => NamedSet.find? wordBreaks key
  | "wordbreak" => NamedSet.find? wordBreaks key
  | "sb" => NamedSet.find? sentenceBreaks key
  | "sentencebreak" => NamedSet.find? sentenceBreaks key
  | _ => none

def decimalDigits : CharSet := NamedSet.unionOf categories ["nd"]

def whiteSpace : CharSet := NamedSet.unionOf properties ["whitespace"]

def alphabetic : CharSet := NamedSet.unionOf properties ["alphabetic"]

def alphanumeric : CharSet :=
  alphabetic.union (NamedSet.unionOf categories ["nd", "nl", "no"])

/-- Characters of words: alphabetic ones, marks, decimal digits, connecting punctuation, and the
characters that control joining. -/
def wordCharacters : CharSet :=
  (alphabetic.union (NamedSet.unionOf properties ["joincontrol"])).union
    (NamedSet.unionOf categories ["mc", "me", "mn", "nd", "pc"])

end SqlLint.Unicode
