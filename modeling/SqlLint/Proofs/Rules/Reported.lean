import SqlLint.Proofs.Rules.Sites
import SqlLint.Proofs.Script.Insertion

/-!
# The tokens a rule reports

A finding tells the line and the column of a token, and they tell the token. A rule that objects to
sites with a property reports the tokens at these sites, one finding each, in their order.
-/

namespace SqlLint

namespace Rule

/-- Where the rule finds something in a script. -/
def places (r : Rule) (s : Script) : List (Nat × Nat) :=
  (r.check s).map fun f => (f.line, f.column)

/-- The tokens of a script that begin where the rule finds something. -/
def reported (r : Rule) (s : Script) : List Token :=
  s.tokens.filter fun t => (r.places s).contains t.start.place

theorem reported_subset (r : Rule) (s : Script) : r.reported s ⊆ s.tokens :=
  List.filter_subset_self _

/-- The rule that objects to the sites with a property. -/
def filtering (descriptor : Descriptor) (p : Site → Bool) (message : Site → String) : Rule :=
  .ofFlags descriptor fun tokens => ((Site.all tokens).filter p).map fun x => ⟨x, message x⟩

variable {descriptor : Descriptor} {p : Site → Bool} {message : Site → String} {s : Script}
variable {pieces : List (LexemeKind × List Char)}

theorem check_filtering (s : Script) : (filtering descriptor p message).check s =
    ((Site.all s.tokens).filter p).map fun x => (filtering descriptor p message).finding s
      ⟨x.token.start.line, x.token.start.column, message x⟩ := by
  simp only [check, filtering, ofFlags, List.map_map]
  rfl

theorem places_filtering (s : Script) : (filtering descriptor p message).places s =
    ((Site.all s.tokens).filter p).map (·.token.start.place) := by
  rw [places, check_filtering, List.map_map]
  rfl

/-- The place of a token tells the site. -/
theorem mem_places_filtering_iff {x : Site} (laid : s.Laid pieces)
    (member : x ∈ Site.all s.tokens) :
    x.token.start.place ∈ (filtering descriptor p message).places s ↔ p x := by
  rw [places_filtering, List.mem_map]
  constructor
  · rintro ⟨y, found, same⟩
    obtain ⟨inside, holds⟩ := List.mem_filter.mp found
    have token := laid.token_eq_of_place (Site.token_mem inside) (Site.token_mem member) same
    rwa [← Site.eq_of_token laid.nodup_tokens inside member token]
  · intro holds
    exact ⟨x, List.mem_filter.mpr ⟨member, holds⟩, rfl⟩

theorem reported_filtering (laid : s.Laid pieces) : (filtering descriptor p message).reported s =
    ((Site.all s.tokens).filter p).map (·.token) := by
  have sites : s.tokens = (Site.all s.tokens).map (·.token) :=
    (Site.map_token_following [] s.tokens).symm
  rw [reported]
  conv_lhs => rw [sites]
  rw [List.filter_map]
  refine congrArg _ (List.filter_congr fun x member => ?_)
  rw [Bool.eq_iff_iff, Function.comp_apply, List.contains_iff_mem]
  exact mem_places_filtering_iff laid member

theorem mem_reported_filtering_iff {t : Token} (laid : s.Laid pieces) :
    t ∈ (filtering descriptor p message).reported s ↔
      ∃ x ∈ Site.all s.tokens, p x ∧ x.token = t := by
  rw [reported_filtering laid]
  simp only [List.mem_map, List.mem_filter, and_assoc]

/-- Each finding is at a reported token, and each reported token has its finding. -/
theorem places_eq_map_reported (laid : s.Laid pieces) : (filtering descriptor p message).places s =
    ((filtering descriptor p message).reported s).map (·.start.place) := by
  rw [places_filtering, reported_filtering laid, List.map_map]
  rfl

end Rule

end SqlLint
