import SqlLint.Proofs.Dictionary
import SqlLint.Registry

/-!
# What a registry holds

A registry is built up by registering descriptors one after the other. Of several with one
identifier it keeps the first, and so what stands under an identifier has that identifier.
-/

namespace SqlLint.Registry

def ofDescriptors (ds : List Descriptor) : Registry := ds.foldl register empty

/-- Whether every descriptor stands under its own identifier. -/
def Keyed (r : Registry) : Prop := ∀ id d, r.get? id = some d → d.id = id

variable {r : Registry} {id : String}

theorem get?_register (known : Registry) (d : Descriptor) (id : String) :
    (known.register d).get? id = (known.get? id).or (if id = d.id then some d else none) :=
  known.descriptors.get?_insertIfNew d.id d id

theorem size_register (known : Registry) (d : Descriptor) :
    (known.register d).size = if known.contains d.id then known.size else known.size + 1 :=
  known.descriptors.size_insertIfNew d.id d

/-- Of several descriptors with one identifier the first is registered, unless the identifier is
known. -/
theorem get?_foldl_register (ds : List Descriptor) (known : Registry) (id : String) :
    (ds.foldl register known).get? id = (known.get? id).or (ds.find? (·.id = id)) := by
  induction ds generalizing known with
  | nil => simp
  | cons d rest ih =>
      rw [List.foldl_cons, ih, get?_register, Option.or_assoc, List.find?_cons]
      congr 1
      by_cases same : d.id = id
      · simp [same]
      · simp [same, Ne.symm same]

theorem get?_ofDescriptors (ds : List Descriptor) (id : String) :
    (ofDescriptors ds).get? id = ds.find? (·.id = id) :=
  get?_foldl_register ds empty id

theorem keyed_ofDescriptors (ds : List Descriptor) : (ofDescriptors ds).Keyed := by
  intro id d found
  rw [get?_ofDescriptors] at found
  simpa using List.find?_some found

theorem ofRules_eq (rules : List Rule) :
    ofRules rules = ofDescriptors (rules.map (·.toDescriptor)) := by
  rw [ofDescriptors, List.foldl_map]
  rfl

theorem get?_ofRules (rules : List Rule) (id : String) :
    (ofRules rules).get? id = (rules.find? (·.id = id)).map (·.toDescriptor) := by
  rw [ofRules_eq, get?_ofDescriptors, List.find?_map]
  rfl

theorem contains_ofRules {rules : List Rule} :
    (ofRules rules).contains id ↔ ∃ rule ∈ rules, rule.id = id := by
  have described : (ofRules rules).contains id = ((ofRules rules).get? id).isSome := rfl
  rw [described, get?_ofRules, Option.isSome_map, List.find?_isSome]
  simp

theorem mem_ids_iff : id ∈ r.ids ↔ (r.get? id).isSome := Dictionary.mem_keys_iff

end SqlLint.Registry
