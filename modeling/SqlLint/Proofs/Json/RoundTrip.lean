import SqlLint.Proofs.Json.Reading

/-!
# Written values read back

Both printers write texts that are read as one document, the same for both, and the document holds
the value again. So the text of a value determines the value, on one line or on several.
-/

namespace SqlLint.Json

mutual

/-- What the text of a value is read as. -/
def document : Json → Document
  | .null => .null
  | .bool b => .bool b
  | .number n => .number (.ofNat n)
  | .string s => .string (escape s.toList)
  | .array items => .array (itemDocuments items) true
  | .object members => .object (memberDocuments members) .closed

/-- What the texts of the items of an array are read as. -/
def itemDocuments : List Json → List Document
  | [] => []
  | item :: rest => document item :: itemDocuments rest

/-- What the texts of the members of an object are read as. -/
def memberDocuments : List (String × Json) → List (List Char × Document)
  | [] => []
  | (key, value) :: rest => (escape key.toList, document value) :: memberDocuments rest

end

mutual

/-- The value that a whole document holds, if its numbers are natural. -/
def Document.value? : Document → Option Json
  | .null => some .null
  | .bool b => some (.bool b)
  | .number t => if t.isWhole && !t.negative then some (.number (decimalValue t.whole)) else none
  | .string raw => (unescape raw).map fun text => .string (String.ofList text)
  | .array items isClosed => if isClosed then (itemValues? items).map .array else none
  | .object members .closed => (memberValues? members).map .object
  | .object _ _ => none
  | .broken => none

/-- The values of the items of an array. -/
def Document.itemValues? : List Document → Option (List Json)
  | [] => some []
  | item :: rest => do
    return (← item.value?) :: (← itemValues? rest)

/-- The keys and values of the members of an object. -/
def Document.memberValues? : List (List Char × Document) → Option (List (String × Json))
  | [] => some []
  | (key, item) :: rest => do
    return (String.ofList (← unescape key), ← item.value?) :: (← memberValues? rest)

end

/-- The value that a text holds, if it is a well-formed text whose numbers are natural. -/
def ofText? (text : String) : Option Json :=
  match Reading.ofText text with
  | .complete d => d.value?
  | _ => none

mutual

/-- A document holds the value it was written for. -/
@[simp] theorem value?_document : ∀ v : Json, v.document.value? = some v
  | .null => rfl
  | .bool _ => rfl
  | .number n => by simp [document, Document.value?, NumberText.ofNat, NumberText.isWhole]
  | .string s => by simp [document, Document.value?]
  | .array items => by simp [document, Document.value?, itemValues?_itemDocuments items]
  | .object members => by simp [document, Document.value?, memberValues?_memberDocuments members]

theorem itemValues?_itemDocuments : ∀ items,
    Document.itemValues? (itemDocuments items) = some items
  | [] => rfl
  | item :: rest => by
      simp [itemDocuments, Document.itemValues?, value?_document item,
        itemValues?_itemDocuments rest]

theorem memberValues?_memberDocuments : ∀ members,
    Document.memberValues? (memberDocuments members) = some members
  | [] => rfl
  | (key, value) :: rest => by
      simp [memberDocuments, Document.memberValues?, value?_document value,
        memberValues?_memberDocuments rest]

end

theorem memberDocuments_eq_map (members : List (String × Json)) :
    memberDocuments members =
      members.map fun (key, value) => (escape key.toList, value.document) := by
  induction members with
  | nil => rfl
  | cons member rest ih => rw [memberDocuments, ih, List.map_cons]

theorem memberDocuments_append (first second : List (String × Json)) :
    memberDocuments (first ++ second) = memberDocuments first ++ memberDocuments second := by
  simp only [memberDocuments_eq_map, List.map_append]

mutual

theorem reads_compact : ∀ v : Json, Reads v.compact.toList v.document
  | .null => reads_null
  | .bool true => reads_true
  | .bool false => reads_false
  | .number n => by
      rw [compact, toString_toList]
      exact reads_number n
  | .string s => by
      rw [compact, toList_quote]
      exact reads_string s.toList
  | .array items => by
      have whole := Reads.array (reads_compactItems items) isGap_nil isGap_nil
      simpa [compact, document] using whole
  | .object members => by
      have whole := Reads.object (reads_compactMembers members) isGap_nil isGap_nil
      simpa [compact, document] using whole

theorem reads_compactItems : ∀ items,
    List.Forall₂ Reads ((compactItems items).map String.toList) (itemDocuments items)
  | [] => .nil
  | item :: rest => .cons (reads_compact item) (reads_compactItems rest)

theorem reads_compactMembers : ∀ members,
    List.Forall₂ ReadsMember ((compactMembers members).map String.toList) (memberDocuments members)
  | [] => .nil
  | (key, value) :: rest => by
      refine .cons ?_ (reads_compactMembers rest)
      have member := ReadsMember.of_reads (reads_compact value) key.toList isGap_nil
      simpa [toList_quote] using member

end

section Blocks

variable {depth : Nat} {lines : List String}

theorem isGap_newline (depth : Nat) : IsGap (newline depth).toList := by
  intro c member
  simp only [newline, String.toList_ofList, List.mem_cons, List.mem_replicate] at member
  rcases member with rfl | ⟨_, rfl⟩ <;> decide

theorem toList_block (opening closing : String) (depth : Nat) (some : lines ≠ []) :
    (block opening closing depth lines).toList =
      opening.toList ++ (newline (depth + 1)).toList
        ++ (',' :: (newline (depth + 1)).toList).intercalate (lines.map String.toList)
        ++ (newline depth).toList ++ closing.toList := by
  simp [block, some]

theorem reads_array_block {items : List Document}
    (each : List.Forall₂ Reads (lines.map String.toList) items) :
    Reads (block "[" "]" depth lines).toList (.array items true) := by
  by_cases none : lines = []
  · subst none
    cases each
    simpa [block] using Reads.array .nil isGap_nil isGap_nil
  · rw [toList_block _ _ _ none]
    exact Reads.array each (isGap_newline _) (isGap_newline _)

theorem reads_object_block {members : List (List Char × Document)}
    (each : List.Forall₂ ReadsMember (lines.map String.toList) members) :
    Reads (block "\x7b" "\x7d" depth lines).toList (.object members .closed) := by
  by_cases none : lines = []
  · subst none
    cases each
    simpa [block] using Reads.object .nil isGap_nil isGap_nil
  · rw [toList_block _ _ _ none]
    exact Reads.object each (isGap_newline _) (isGap_newline _)

end Blocks

mutual

theorem reads_prettyAt (depth : Nat) : ∀ v : Json, Reads (v.prettyAt depth).toList v.document
  | .null => by
      rw [prettyAt]
      exact reads_null
  | .bool true => by
      rw [prettyAt]
      exact reads_true
  | .bool false => by
      rw [prettyAt]
      exact reads_false
  | .number n => by
      rw [prettyAt, toString_toList]
      exact reads_number n
  | .string s => by
      rw [prettyAt, toList_quote]
      exact reads_string s.toList
  | .array items => by
      rw [prettyAt]
      exact reads_array_block (reads_prettyItems (depth + 1) items)
  | .object members => by
      rw [prettyAt]
      exact reads_object_block (reads_prettyMembers (depth + 1) members)

theorem reads_prettyItems (depth : Nat) : ∀ items,
    List.Forall₂ Reads ((prettyItems depth items).map String.toList) (itemDocuments items)
  | [] => .nil
  | item :: rest => .cons (reads_prettyAt depth item) (reads_prettyItems depth rest)

theorem reads_prettyMembers (depth : Nat) : ∀ members,
    List.Forall₂ ReadsMember ((prettyMembers depth members).map String.toList)
      (memberDocuments members)
  | [] => .nil
  | (key, value) :: rest => by
      refine .cons ?_ (reads_prettyMembers depth rest)
      have blank : IsGap [' '] := by simp [IsGap, isBlank]
      have member := ReadsMember.of_reads (reads_prettyAt depth value) key.toList blank
      simpa [prettyMembers, toList_quote] using member

end

variable (v : Json)

theorem ofText_compact : Reading.ofText v.compact = .complete v.document :=
  (reads_compact v).ofText_eq

theorem ofText_pretty : Reading.ofText v.pretty = .complete v.document :=
  (reads_prettyAt 0 v).ofText_eq

/-- A value on one line reads back. -/
@[simp] theorem ofText?_compact : ofText? v.compact = some v := by
  simp [ofText?, ofText_compact]

/-- A value over several lines reads back. -/
@[simp] theorem ofText?_pretty : ofText? v.pretty = some v := by
  simp [ofText?, ofText_pretty]

/-- What is read from a value over several lines is what its document says. -/
theorem read_pretty {α : Type} (decode : Document → Decoded α) :
    read decode v.pretty = decode v.document := by
  rw [read, ofText_pretty]
  change (decode v.document).bind .ok = decode v.document
  cases decode v.document <;> rfl

theorem pretty_injective : Function.Injective pretty := by
  intro v w same
  have back := ofText?_pretty v
  rw [same, ofText?_pretty] at back
  exact (Option.some.inj back).symm

end SqlLint.Json
