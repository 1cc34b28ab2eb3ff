import Mathlib
import SqlLint.Rule

/-!
# The sites of a token sequence

A site of a sequence is a way to split it around one of its tokens, so there is one site for each
token, and the sites come in the order of the tokens.
-/

namespace SqlLint.Site

variable {s : Site} {tokens before : List Token}

theorem mem_following_iff : s ∈ following before tokens ↔
    ∃ front, s.before = front.reverse ++ before ∧ tokens = front ++ s.token :: s.after := by
  induction tokens generalizing before with
  | nil => simp [following]
  | cons t tokens ih =>
      rw [following, List.mem_cons, ih]
      constructor
      · rintro (rfl | ⟨front, split, rfl⟩)
        · exact ⟨[], rfl, rfl⟩
        · exact ⟨t :: front, by simp [split], rfl⟩
      · rintro ⟨front, split, whole⟩
        cases front with
        | nil =>
            cases whole
            left
            obtain ⟨_, token, after⟩ := s
            cases split
            rfl
        | cons u front =>
            cases whole
            exact .inr ⟨front, by simp [split], rfl⟩

theorem mem_all_iff : s ∈ all tokens ↔ tokens = s.before.reverse ++ s.token :: s.after := by
  rw [all, mem_following_iff]
  constructor
  · rintro ⟨front, split, rfl⟩
    simp [split]
  · intro whole
    exact ⟨s.before.reverse, by simp, whole⟩

/-- The token at a site stands where the site's index says. -/
theorem getElem?_index (h : s ∈ all tokens) : tokens[s.index]? = some s.token := by
  rw [mem_all_iff.mp h, index, List.getElem?_append_right (by simp)]
  simp

theorem length_following (before tokens : List Token) :
    (following before tokens).length = tokens.length := by
  induction tokens generalizing before with
  | nil => rfl
  | cons t tokens ih => simp [following, ih]

theorem map_token_following (before tokens : List Token) :
    (following before tokens).map (·.token) = tokens := by
  induction tokens generalizing before with
  | nil => rfl
  | cons t tokens ih => rw [following, List.map_cons, ih]

def map (f : Token → Token) (s : Site) : Site :=
  ⟨s.before.map f, f s.token, s.after.map f⟩

theorem following_map (f : Token → Token) (before tokens : List Token) :
    following (before.map f) (tokens.map f) = (following before tokens).map (map f) := by
  induction tokens generalizing before with
  | nil => rfl
  | cons t tokens ih =>
      rw [List.map_cons, following, following, List.map_cons, ← List.map_cons, ih]
      rfl

/-- The sites of the images of tokens are the images of their sites. -/
theorem all_map (f : Token → Token) (tokens : List Token) :
    all (tokens.map f) = (all tokens).map (map f) :=
  following_map f [] tokens

/-- A site is at one of the first tokens, or behind them all. -/
theorem token_mem_or_of_append {first second : List Token}
    (member : s ∈ following before (first ++ second)) :
    s.token ∈ first ∨ s ∈ following (first.reverse ++ before) second := by
  induction first generalizing before with
  | nil => exact .inr member
  | cons t first ih =>
      rcases List.mem_cons.mp member with rfl | later
      · exact .inl List.mem_cons_self
      · rcases ih later with inside | behind
        · exact .inl (List.mem_cons_of_mem _ inside)
        · exact .inr (by simpa using behind)

/-- Behind some of the tokens their sites go on as before, with more tokens in front. -/
theorem drop_following (n : Nat) (before tokens : List Token) : (following before tokens).drop n =
    following ((tokens.take n).reverse ++ before) (tokens.drop n) := by
  induction n generalizing before tokens with
  | zero => rfl
  | succ n ih =>
      cases tokens with
      | nil => rfl
      | cons t tokens => simpa [following] using ih (t :: before) tokens

theorem drop_index (h : s ∈ all tokens) : tokens.drop s.index = s.token :: s.after := by
  rw [mem_all_iff.mp h, index, ← List.length_reverse, List.drop_left]

theorem take_index (h : s ∈ all tokens) : tokens.take s.index = s.before.reverse := by
  rw [mem_all_iff.mp h, index, ← List.length_reverse, List.take_left]

/-- From a site of the sequence on, the sites are this one and those that follow. -/
theorem drop_index_all (h : s ∈ all tokens) :
    (all tokens).drop s.index = s :: following (s.token :: s.before) s.after := by
  rw [all, drop_following, take_index h, drop_index h, List.reverse_reverse, List.append_nil]
  rfl

theorem nodup_following (before tokens : List Token) : (following before tokens).Nodup := by
  induction tokens generalizing before with
  | nil => exact .nil
  | cons t tokens ih =>
      refine List.nodup_cons.mpr ⟨fun later => ?_, ih _⟩
      -- More tokens stand before a later site.
      obtain ⟨front, split, _⟩ := mem_following_iff.mp later
      have longer := congrArg List.length split
      simp only [List.length_append, List.length_reverse, List.length_cons] at longer
      omega

theorem token_mem (h : s ∈ all tokens) : s.token ∈ tokens :=
  List.mem_of_getElem? (getElem?_index h)

/-- If the tokens are distinct, a token tells its site. -/
theorem eq_of_token {x y : Site} (distinct : tokens.Nodup) (first : x ∈ all tokens)
    (second : y ∈ all tokens) (same : x.token = y.token) : x = y := by
  rw [mem_all_iff] at first second
  rw [first] at distinct second
  obtain ⟨apart, _⟩ := List.nodup_cons.mp (List.nodup_middle.mp distinct)
  rw [List.mem_append, not_or, same] at apart
  obtain ⟨before, token, after⟩ := x
  obtain ⟨before', token', after'⟩ := y
  obtain ⟨front, rfl, rfl⟩ := (List.append_cons_inj_of_notMem apart.1 apart.2).mp second
  obtain rfl := List.reverse_injective front
  rfl

/-- A site of a token sequence is found once among those with a property, or not at all. -/
theorem count_filter_all (member : s ∈ all tokens) (p : Site → Bool) :
    ((all tokens).filter p).count s = if p s then 1 else 0 := by
  split
  case isTrue holds =>
    exact List.count_eq_one_of_mem ((nodup_following [] tokens).filter p)
      (List.mem_filter.mpr ⟨member, holds⟩)
  case isFalse fails =>
    exact List.count_eq_zero_of_not_mem fun found => fails (List.mem_filter.mp found).2

end SqlLint.Site
