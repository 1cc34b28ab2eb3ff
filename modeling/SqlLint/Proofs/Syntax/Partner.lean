import SqlLint.Proofs.Indexed.Syntax
import SqlLint.Proofs.Outcome
import SqlLint.Proofs.Syntax.Balance

/-!
# The partner of a closing parenthesis

A closing parenthesis has at most one partner: the opening parenthesis from which on as many are
opened as closed, while behind it more are closed than opened up to the closing one. The search goes
backwards and keeps the difference, which is never zero before the partner is reached. So it finds
the partner if there is one, whatever else the tokens hold, and never comes upon a parenthesis that
is opened with none left to be opened.
-/

namespace SqlLint.Parenthesis

open Indexed (Checked item minus openFrom item_eq_ok_iff minus_of_le)

/-- The parentheses with two indices belong together: from the first to the second as many are opened
as closed, and from any token between on more are closed than opened. -/
structure Partner (tokens : List Token) (opening close : Nat) : Prop where
  before : opening < close
  opens : tokens[opening]?.any (·.isSymbol '(')
  even : rise (tokens.extract opening (close + 1)) = 0
  inner : ∀ k, opening < k → k ≤ close → rise (tokens.extract k (close + 1)) < 0

/-- The search for a partner, where it is a fault to come upon a parenthesis that is opened when none
is left to be opened. -/
def strictFrom (tokens : List Token) : Nat → Nat → Checked (Option Nat)
  | 0, _ => return none
  | i + 1, depth => do
    let t ← item tokens i
    if t.isSymbol ')' then strictFrom tokens i (depth + 1)
    else if t.isSymbol '(' then do
      let outer ← minus depth 1
      if outer = 0 then return some i else strictFrom tokens i outer
    else strictFrom tokens i depth

variable {tokens : List Token} {close i j depth : Nat} {t : Token}

section Steps

theorem strictFrom_of_closing (found : tokens[i]? = some t) (closes : t.isSymbol ')') (depth : Nat) :
    strictFrom tokens (i + 1) depth = strictFrom tokens i (depth + 1) := by
  rw [strictFrom, item_eq_ok_iff.mpr found, Checked.ok_bind, if_pos closes]

theorem strictFrom_of_opening (found : tokens[i]? = some t) (opens : t.isSymbol '(') (left : Nat) :
    strictFrom tokens (i + 1) (left + 1) =
      if left = 0 then .ok (some i) else strictFrom tokens i left := by
  have other : t.isSymbol ')' = false := Token.isSymbol_eq_false opens (by decide)
  rw [strictFrom, item_eq_ok_iff.mpr found, Checked.ok_bind, other, if_neg Bool.false_ne_true,
    if_pos opens, minus_of_le (Nat.le_add_left 1 left), Checked.ok_bind, Nat.add_sub_cancel]
  rfl

theorem strictFrom_of_plain (found : tokens[i]? = some t) (opens : t.isSymbol '(' = false)
    (closes : t.isSymbol ')' = false) (depth : Nat) :
    strictFrom tokens (i + 1) depth = strictFrom tokens i depth := by
  rw [strictFrom, item_eq_ok_iff.mpr found, Checked.ok_bind, closes, opens]
  rfl

/-- Where no counter is taken below zero, the search that gives up there finds the same. -/
theorem openFrom_of_strictFrom {opening? : Option Nat}
    (searched : strictFrom tokens i depth = .ok opening?) :
    openFrom tokens i depth = .ok opening? := by
  induction i generalizing depth with
  | zero => exact searched
  | succ i ih =>
      rw [strictFrom] at searched
      obtain ⟨t, found, searched⟩ := Except.bind_eq_ok_iff.mp searched
      rw [openFrom, found, Checked.ok_bind]
      by_cases closes : t.isSymbol ')'
      · rw [if_pos closes] at searched ⊢
        exact ih searched
      · rw [if_neg closes] at searched ⊢
        by_cases opens : t.isSymbol '('
        · rw [if_pos opens] at searched ⊢
          cases depth with
          | zero =>
              -- With none left to be opened, the checked search is at fault.
              cases searched
          | succ left =>
              cases left with
              | zero => exact searched
              | succ outer => exact ih searched
        · rw [if_neg opens] at searched ⊢
          exact ih searched

end Steps

/-- No closing parenthesis has two partners: behind the first one more are closed than opened, and
from the second one on not. -/
theorem Partner.unique (first : Partner tokens i close) (second : Partner tokens j close) :
    i = j := by
  have notBefore {i j : Nat} (first : Partner tokens i close) (second : Partner tokens j close) :
      ¬ i < j := by
    intro below
    have inside := first.inner j below (Nat.le_of_lt second.before)
    rw [second.even] at inside
    exact lt_irrefl _ inside
  have := notBefore first second
  have := notBefore second first
  omega

theorem extract_eq_cons (inside : i < tokens.length) (below : i ≤ close) :
    tokens.extract i (close + 1) = tokens[i] :: tokens.extract (i + 1) (close + 1) := by
  have length : close + 1 - i = close + 1 - (i + 1) + 1 := by omega
  rw [List.extract_eq_take_drop, List.extract_eq_take_drop, List.drop_eq_getElem_cons inside,
    length, List.take_succ_cons]

/-- What is known of a search that has gone back to an index: from each token that it has passed on,
more parentheses are closed than opened, and the counter has the difference from the last one on. -/
structure Searched (tokens : List Token) (close i depth : Nat) : Prop where
  below : i ≤ close
  inner : ∀ k, i ≤ k → k ≤ close → rise (tokens.extract k (close + 1)) < 0
  depth_eq : (depth : Int) = - rise (tokens.extract i (close + 1))

namespace Searched

theorem pos (searched : Searched tokens close i depth) : 0 < depth := by
  have := searched.inner i (Nat.le_refl i) searched.below
  have := searched.depth_eq
  omega

/-- A token that the search has passed is no partner, so a partner is in front of it. -/
theorem lt_succ_and_partner_iff (searched : Searched tokens close i depth) :
    j < i + 1 ∧ Partner tokens j close ↔ j < i ∧ Partner tokens j close := by
  have other : ¬ Partner tokens i close := by
    intro partner
    have := searched.inner i (Nat.le_refl i) searched.below
    have := partner.even
    omega
  rw [Nat.lt_succ_iff_lt_or_eq, or_and_right]
  apply or_iff_left
  rintro ⟨rfl, partner⟩
  exact other partner

/-- The search goes back by a token. -/
theorem back (searched : Searched tokens close (i + 1) depth) {left : Nat}
    (counted : (left : Int) = - rise (tokens.extract i (close + 1))) (more : 0 < left) :
    Searched tokens close i left where
  below := Nat.le_of_succ_le searched.below
  inner := by
    intro k low high
    rcases Nat.eq_or_lt_of_le low with rfl | behind
    · omega
    · exact searched.inner k behind high
  depth_eq := counted

/-- The search comes to the partner where its counter comes to zero. -/
theorem partner (searched : Searched tokens close (i + 1) depth)
    (opens : tokens[i]?.any (·.isSymbol '('))
    (even : rise (tokens.extract i (close + 1)) = 0) : Partner tokens i close where
  before := searched.below
  opens := opens
  even := even
  inner := searched.inner

end Searched

/-- From where it has gone back to, the search finds the partner, if there is one further in front,
and it takes its counter below zero nowhere. -/
theorem Searched.finds (searched : Searched tokens close i depth) (inside : close < tokens.length) :
    ∃ opening?, strictFrom tokens i depth = .ok opening? ∧
      ∀ j, opening? = some j ↔ j < i ∧ Partner tokens j close := by
  induction i generalizing depth with
  | zero => exact ⟨none, rfl, by simp⟩
  | succ i ih =>
      have here : i < tokens.length := Nat.lt_of_succ_lt (Nat.lt_of_le_of_lt searched.below inside)
      have found := List.getElem?_eq_getElem here
      have split := extract_eq_cons here (Nat.le_of_succ_le searched.below)
      have counted := searched.depth_eq
      -- Where the search passes the token, this is no partner, and what is in front of it decides.
      have passes {left : Nat} (counted : (left : Int) = - rise (tokens.extract i (close + 1)))
          (more : 0 < left) : ∃ opening?, strictFrom tokens i left = .ok opening? ∧
            ∀ j, opening? = some j ↔ j < i + 1 ∧ Partner tokens j close := by
        have passed := searched.back counted more
        obtain ⟨opening?, strict, tells⟩ := ih passed
        refine ⟨opening?, strict, ?_⟩
        intro j
        rw [tells, passed.lt_succ_and_partner_iff]
      cases closes : tokens[i].isSymbol ')' with
      | true =>
          have change : rise (tokens.extract i (close + 1)) =
              rise (tokens.extract (i + 1) (close + 1)) - 1 := by
            rw [split, rise_cons_of_closing closes]
          rw [strictFrom_of_closing found closes]
          apply passes
          · omega
          · omega
      | false =>
          cases opens : tokens[i].isSymbol '(' with
          | true =>
              have change : rise (tokens.extract i (close + 1)) =
                  rise (tokens.extract (i + 1) (close + 1)) + 1 := by
                rw [split, rise_cons_of_opening opens]
              obtain ⟨left, rfl⟩ := Nat.exists_eq_add_one_of_ne_zero searched.pos.ne'
              rw [strictFrom_of_opening found opens]
              by_cases last : left = 0
              · have partner : Partner tokens i close :=
                  searched.partner (by simpa [found] using opens) (by omega)
                rw [if_pos last]
                refine ⟨some i, rfl, ?_⟩
                intro j
                constructor
                · rintro ⟨⟩
                  exact ⟨Nat.lt_succ_self i, partner⟩
                · rintro ⟨-, other⟩
                  rw [partner.unique other]
              · rw [if_neg last]
                apply passes
                · omega
                · exact Nat.pos_of_ne_zero last
          | false =>
              have change : rise (tokens.extract i (close + 1)) =
                  rise (tokens.extract (i + 1) (close + 1)) := by
                rw [split, rise_cons_of_plain opens closes]
              rw [strictFrom_of_plain found opens closes]
              apply passes
              · omega
              · exact searched.pos

/-- From the closing parenthesis itself the search goes on with one parenthesis to be opened. -/
theorem searched_closing (found : tokens[close]? = some t) (closes : t.isSymbol ')') :
    Searched tokens close close 1 := by
  obtain ⟨inside, rfl⟩ := List.getElem?_eq_some_iff.mp found
  have last : rise (tokens.extract close (close + 1)) = -1 := by
    rw [extract_eq_cons inside (Nat.le_refl close), rise_cons_of_closing closes]
    simp
  refine ⟨Nat.le_refl close, ?_, by omega⟩
  intro k low high
  obtain rfl := Nat.le_antisymm low high
  omega

/-- Tokens behind a front part of a sequence, nearest first, are told by their number. -/
theorem eq_reverse_take {before : List Token} {n : Nat} (h : before <:+ (tokens.take n).reverse) :
    before = (tokens.take before.length).reverse := by
  have front := List.reverse_prefix.mpr h
  rw [List.reverse_reverse] at front
  have taken := List.prefix_iff_eq_take.mp (front.trans (List.take_prefix n tokens))
  rw [List.length_reverse] at taken
  rw [← taken, List.reverse_reverse]

/-- Looking through the tokens themselves finds the partner that looking through indices finds. -/
theorem matchingOpen?_eq (inside : close < tokens.length) {opening? : Option Nat}
    (searched : Indexed.matchingOpen tokens close = .ok opening?) :
    matchingOpen? (tokens.take (close + 1)).reverse =
      opening?.map fun i => (tokens.take i).reverse := by
  rw [Indexed.matchingOpen, Indexed.openFrom_eq inside] at searched
  obtain rfl := Except.ok.inj searched
  rw [matchingOpen?, Option.map_map]
  cases back : openFrom? 0 (tokens.take (close + 1)).reverse with
  | none => rfl
  | some before => exact congrArg some (eq_reverse_take (Indexed.suffix_of_openFrom? back))

/-- The search for the partner of a closing parenthesis finds it if there is one, and nothing
otherwise, whatever the tokens are. There is one partner at most. On its way the search comes upon no
parenthesis that is opened when none is left to be opened, so it never ends for that reason. -/
theorem finds_partner (found : tokens[close]? = some t) (closes : t.isSymbol ')') :
    ∃ opening?, matchingOpen? (tokens.take (close + 1)).reverse =
        opening?.map (fun i => (tokens.take i).reverse) ∧
      Indexed.matchingOpen tokens close = .ok opening? ∧
      strictFrom tokens (close + 1) 0 = .ok opening? ∧
      (∀ i, opening? = some i ↔ Partner tokens i close) ∧
      (opening? = none ↔ ∀ i, ¬ Partner tokens i close) ∧
      ∀ i j, Partner tokens i close → Partner tokens j close → i = j := by
  have inside := (List.getElem?_eq_some_iff.mp found).1
  obtain ⟨opening?, strict, tells⟩ := (searched_closing found closes).finds inside
  rw [← strictFrom_of_closing found closes 0] at strict
  have searched : Indexed.matchingOpen tokens close = .ok opening? := openFrom_of_strictFrom strict
  have partner (i : Nat) : opening? = some i ↔ Partner tokens i close := by
    rw [tells]
    exact and_iff_right_of_imp fun partner => partner.before
  refine ⟨opening?, matchingOpen?_eq inside searched, searched, strict, partner, ?_,
    fun i j => Partner.unique⟩
  rw [Option.eq_none_iff_forall_ne_some]
  exact forall_congr' fun i => not_congr (partner i)

/-- Parentheses in each other, one that closes nothing and one that is never closed. -/
def crookedGroups : String := "x) ((1) + 2) ("

theorem finds_partner_of_crookedGroups : ∃ s, Script.ofText "a.sql" "" 120 crookedGroups = .ok s ∧
    Partner s.tokens 2 8 ∧
    matchingOpen? (s.tokens.take 9).reverse = some (s.tokens.take 2).reverse ∧
    (∀ i, ¬ Partner s.tokens i 1) ∧ matchingOpen? (s.tokens.take 2).reverse = none := by
  obtain ⟨s, made, closing, closing', found, missing⟩ : ∃ s,
      Script.ofText "a.sql" "" 120 crookedGroups = .ok s ∧
      s.tokens[8]?.any (·.isSymbol ')') ∧ s.tokens[1]?.any (·.isSymbol ')') ∧
      Indexed.matchingOpen s.tokens 8 = .ok (some 2) ∧
      Indexed.matchingOpen s.tokens 1 = .ok none := by
    refine ⟨_, by cbv, ?_⟩
    decide +kernel
  obtain ⟨t, first, closes⟩ := Indexed.exists_of_any closing
  obtain ⟨u, second, closes'⟩ := Indexed.exists_of_any closing'
  obtain ⟨opening?, back, searched, _, partner, _⟩ := finds_partner first closes
  obtain ⟨opening?', back', searched', _, _, without, _⟩ := finds_partner second closes'
  obtain rfl : some 2 = opening? := Except.ok.inj (found.symm.trans searched)
  obtain rfl : none = opening?' := Except.ok.inj (missing.symm.trans searched')
  exact ⟨s, made, (partner 2).mp rfl, back, without.mp rfl, back'⟩

end SqlLint.Parenthesis
