import SqlLint.Proofs.Json.RoundTrip
import SqlLint.Proofs.Outcome

/-!
# Written records read back

A record is read in two steps: its members are looked through in order, each checked for its field,
and then the fields are read by name. So for a record that was written member by member it is enough
to know of each member that its field accepts it.
-/

namespace SqlLint.Json

@[simp] theorem text_document (wanted s : String) :
    Document.text wanted (Json.string s).document = .ok s := by
  simp [document, Document.text]

@[simp] theorem word_document {α : Type} (alternatives : List (String × α)) (s : String) :
    Document.word alternatives (Json.string s).document = Document.choice alternatives s := by
  simp [document, Document.word, bind, Except.bind]

@[simp] theorem atEnd_closed : Document.atEnd .closed = .ok () := rfl

/-- The members of an object of written values read back. -/
theorem entries_document {α : Type} (wanted : String) {decode : Document → Decoded α}
    {write : α → Json} (back : ∀ a, decode (write a).document = .ok a)
    (entries : List (String × α)) :
    Document.entries wanted decode
      (Json.object (entries.map fun (key, a) => (key, write a))).document = .ok entries := by
  refine Except.bind_eq_ok_iff.mpr ⟨entries, Except.mapM_eq_ok_iff.mpr ?_, rfl⟩
  rw [memberDocuments_eq_map, List.map_map, List.forall₂_map_left_iff, List.forall₂_same]
  intro entry _
  simp only [Function.comp_apply, resolved_escape, back]
  rfl

namespace Layout

variable {l : Json.Layout} {seen : Values Document}

/-- One member of a record. -/
theorem scanMembers_cons {key : String} {value : Document} {rest : List (List Char × Document)}
    {field : FieldSpec Document} (named : l.field? key = some field)
    (new : seen.lookup field.name = none) :
    l.scanMembers seen ((escape key.toList, value) :: rest) =
      (field.check value).bind fun _ => l.scanMembers (seen ++ [(field.name, value)]) rest := by
  simp [scanMembers, named, new, bind, Except.bind]

theorem scanMembers_append (first second : List (List Char × Document)) :
    l.scanMembers seen (first ++ second) =
      (l.scanMembers seen first).bind fun seen => l.scanMembers seen second := by
  induction first generalizing seen with
  | nil => rfl
  | cons member rest ih =>
      obtain ⟨key, value⟩ := member
      simp only [List.cons_append, scanMembers, bind, Except.bind]
      cases resolved key with
      | error e => rfl
      | ok key =>
          simp only
          split
          · split
            · exact ih
            · rfl
          · split
            · rfl
            · next field _ _ =>
                cases field.check value with
                | error e => rfl
                | ok => exact ih

/-- Whether a value is written for a field of the layout under its own name. -/
def Accepts (l : Json.Layout) (member : String × Json) : Prop :=
  ∃ field, l.field? member.1 = some field ∧ field.name = member.1 ∧
    field.check member.2.document = .ok ()

theorem Accepts.of_decode {α : Type} {f : Field Document α} {value : Json} {a : α}
    (named : l.field? f.name = some f.spec) (back : f.decode value.document = .ok a) :
    l.Accepts (f.name, value) := by
  refine ⟨f.spec, named, rfl, ?_⟩
  change (f.decode value.document).map _ = _
  rw [back]
  rfl

theorem scanMembers_documents {members : List (String × Json)}
    (accepted : ∀ member ∈ members, l.Accepts member)
    (distinct : (seen.map (·.1) ++ members.map (·.1)).Nodup) :
    l.scanMembers seen (memberDocuments members) =
      .ok (seen ++ members.map fun (key, value) => (key, value.document)) := by
  induction members generalizing seen with
  | nil => simp [memberDocuments, scanMembers]
  | cons member rest ih =>
      obtain ⟨key, value⟩ := member
      obtain ⟨field, named, rfl, checked⟩ := accepted (key, value) (by simp)
      have new : seen.lookup field.name = none := by
        rw [List.lookup_eq_none_iff]
        intro entry member
        have apart := (List.nodup_append.mp distinct).2.2 _ (List.mem_map_of_mem member)
        simpa using (apart field.name (by simp)).symm
      rw [memberDocuments, scanMembers_cons named new, checked]
      simp only [Except.bind]
      rw [ih (fun m member => accepted m (by simp [member])) (by simpa using distinct)]
      simp

/-- A record that is written field by field is found whole. -/
theorem values_document {members : List (String × Json)}
    (accepted : ∀ member ∈ members, l.Accepts member) (distinct : (members.map (·.1)).Nodup) :
    l.values (Json.object members).document =
      l.complete (members.map fun (key, value) => (key, value.document)) := by
  have scanned : l.scanMembers [] (memberDocuments members) = _ :=
    scanMembers_documents accepted distinct
  simp only [document, values, scanned, atEnd_closed, List.nil_append]
  rfl

/-- The first member that its field refuses is the problem of a record. -/
theorem values_document_error {α : Type} {f : Field Document α} {first rest : List (String × Json)}
    {value : Json} {e : DecodeError} (accepted : ∀ member ∈ first, l.Accepts member)
    (distinct : (first.map (·.1) ++ [f.name]).Nodup) (named : l.field? f.name = some f.spec)
    (refused : f.decode value.document = .error e) :
    l.values (Json.object (first ++ (f.name, value) :: rest)).document = .error e := by
  rw [List.nodup_append] at distinct
  obtain ⟨distinct, -, new⟩ := distinct
  have scanned : l.scanMembers [] (memberDocuments first) = _ :=
    scanMembers_documents accepted distinct
  have unseen : (first.map fun (key, value) => (key, value.document)).lookup f.name = none := by
    rw [List.lookup_eq_none_iff]
    intro entry member
    obtain ⟨m, inside, rfl⟩ := List.mem_map.mp member
    simpa using (new m.1 (List.mem_map_of_mem inside) f.name (by simp)).symm
  have checked : f.spec.check value.document = .error e := by
    change (f.decode value.document).map _ = _
    rw [refused]
    rfl
  simp only [document, values, memberDocuments_append, scanMembers_append, scanned, memberDocuments,
    List.nil_append, Except.bind, scanMembers_cons named unseen, checked]
  rfl

end Layout

end SqlLint.Json
