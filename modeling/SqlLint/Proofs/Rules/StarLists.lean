import SqlLint.Proofs.Rules.Sites
import SqlLint.Proofs.Syntax.Balance
import SqlLint.Rules.Star

/-!
# Star select lists and the `SELECT` they belong to

A star belongs to the nearest `SELECT` before it on its own level of parentheses: groups in
parentheses that have been closed in between may hold a `SELECT` of their own, which is not the
star's. The rule looks at the nearest `SELECT` on any level. The two are the same unless a subquery
has been closed between them, so a star is judged by its own `SELECT` as long as none has.

The stars that lead a select list are found behind `ALL` or `DISTINCT` and behind a `TOP` clause with
any operand and `PERCENT`, since the search for the partner of a parenthesis passes over whatever is
balanced in the operand. Behind `WITH TIES` they are not found.
-/

namespace SqlLint.Rules.Star

open Parenthesis

def reported (tokens : List Token) : List Site :=
  (Site.all tokens).filter fun x => x.token.isSymbol '*' && startsItem x && !inExists x

def finding (s : Script) (x : Site) : Finding :=
  ⟨s.path, x.token.start.line, x.token.start.column, "select-star", .error,
    "Expected column names in SELECT"⟩

/-- Whether a `SELECT` with `earlier` before it opens an `EXISTS (` subquery. -/
def opensExists (earlier : List Token) : Bool :=
  match earlier.reverse with
  | opening :: word :: _ => opening.isSymbol '(' && word.isKeyword "EXISTS"
  | _ => false

/-- A `SELECT` stands before the site, with `earlier` before it and `between` behind it. -/
def SelectBefore (x : Site) (earlier between : List Token) : Prop :=
  ∃ select, select.isKeyword "SELECT" ∧ x.before.reverse = earlier ++ select :: between

/-- The nearest `SELECT` before the site, on any level of parentheses. -/
structure LastSelect (x : Site) (earlier between : List Token) : Prop where
  before : SelectBefore x earlier between
  last : ∀ t ∈ between, t.isKeyword "SELECT" = false

/-- The nearest `SELECT` before the site on the site's own level of parentheses. One that is nearer
is inside of a group, where more parentheses are closed than opened up to the site. -/
structure OwnSelect (x : Site) (earlier between : List Token) : Prop where
  before : SelectBefore x earlier between
  balanced : Balanced between
  last : ∀ t rest, t :: rest <:+ between → t.isKeyword "SELECT" → rise rest < 0

/-- What `TOP` takes: a literal, a variable or an expression in parentheses. -/
inductive Amount : List Token → Prop
  | single {t : Token}
      (value : t.kind = .number ∨ t.kind = .variable ∨ ∃ national, t.kind = .string national) :
      Amount [t]
  | expression {opening closing : Token} {inner : List Token} (opens : opening.isSymbol '(')
      (balanced : Balanced inner) (closes : closing.isSymbol ')') :
      Amount (opening :: (inner ++ [closing]))

/-- The words of an option one after the other, or nothing. -/
def Optionally (words : List String) (part : List Token) : Prop :=
  part = [] ∨ List.Forall₂ (fun t word => t.isKeyword word) part words

/-- A `TOP` clause up to `WITH TIES`, and that part of it, or neither. -/
inductive Limit : List Token → List Token → Prop
  | none : Limit [] []
  | top {word : Token} {amount percent ties : List Token} (top : word.isKeyword "TOP")
      (operand : Amount amount) (inPercent : Optionally ["PERCENT"] percent)
      (withTies : Optionally ["WITH", "TIES"] ties) : Limit (word :: (amount ++ percent)) ties

/-- What may stand between a `SELECT` and its list. -/
structure Lead (quantifier limit ties : List Token) : Prop where
  quantifier : quantifier = [] ∨ ∃ t, quantifier = [t] ∧ t.isAnyKeyword ["ALL", "DISTINCT"]
  limit : Limit limit ties

variable {x : Site} {earlier between own later : List Token}

theorem check_eq (s : Script) : selectStar.check s = (reported s.tokens).map (finding s) := by
  simp [Rule.check, selectStar, Rule.ofFlags, flagWhere, reported, Flag.remark, Rule.finding,
    finding, Function.comp_def]

section Selects

theorem selectBefore_iff : SelectBefore x earlier between ↔
    ∃ select ∈ x.before, select.isKeyword "SELECT" ∧
      x.before.reverse = earlier ++ select :: between := by
  constructor
  · rintro ⟨t, word, split⟩
    exact ⟨t, List.mem_reverse.mp (by simp [split]), word, split⟩
  · rintro ⟨t, _, word, split⟩
    exact ⟨t, word, split⟩

instance : Decidable (SelectBefore x earlier between) := decidable_of_iff _ selectBefore_iff.symm

theorem ownSelect_iff : OwnSelect x earlier between ↔
    SelectBefore x earlier between ∧ Balanced between ∧
      ∀ rest ∈ between.tails, ∀ t ∈ rest.head?, t.isKeyword "SELECT" → rise rest.tail < 0 := by
  constructor
  · rintro ⟨before, balanced, last⟩
    refine ⟨before, balanced, fun rest suffix t first word => ?_⟩
    match rest, first with
    | _ :: rest, rfl => exact last t rest ((List.mem_tails _ _).mp suffix) word
  · rintro ⟨before, balanced, last⟩
    exact ⟨before, balanced, fun t rest suffix word =>
      last (t :: rest) ((List.mem_tails _ _).mpr suffix) t rfl word⟩

instance : Decidable (OwnSelect x earlier between) := decidable_of_iff _ ownSelect_iff.symm

theorem SelectBefore.before_eq (select : SelectBefore x earlier between) :
    ∃ t, t.isKeyword "SELECT" ∧ x.before = between.reverse ++ t :: earlier.reverse := by
  obtain ⟨t, word, split⟩ := select
  refine ⟨t, word, ?_⟩
  rw [← List.reverse_reverse x.before, split]
  simp

/-- Of two `SELECT`s before a site, one is nearer, unless they are the same. -/
theorem SelectBefore.compare (first : SelectBefore x own between)
    (second : SelectBefore x earlier later) : earlier = own ∧ later = between ∨
      (∃ t, t.isKeyword "SELECT" ∧ t :: later <:+ between) ∨
      ∃ t, t.isKeyword "SELECT" ∧ t :: between <:+ later := by
  obtain ⟨t, word, split⟩ := first
  obtain ⟨u, word', split'⟩ := second
  have suffix : t :: between <:+ x.before.reverse := ⟨own, split.symm⟩
  have suffix' : u :: later <:+ x.before.reverse := ⟨earlier, split'.symm⟩
  have same (equal : u :: later = t :: between) : earlier = own ∧ later = between := by
    refine ⟨?_, (List.cons.inj equal).2⟩
    rw [split, ← equal] at split'
    exact (List.append_cancel_right split').symm
  rcases List.suffix_or_suffix_of_suffix suffix suffix' with nested | nested
  · rcases List.suffix_cons_iff.mp nested with equal | inside
    · exact .inl (same equal.symm)
    · exact .inr (.inr ⟨t, word, inside⟩)
  · rcases List.suffix_cons_iff.mp nested with equal | inside
    · exact .inl (same equal)
    · exact .inr (.inl ⟨u, word', inside⟩)

/-- Where a `SELECT` stands before a site, there is a last one: the same, or one behind it. -/
theorem SelectBefore.exists_last (select : SelectBefore x own between) :
    ∃ earlier later, LastSelect x earlier later ∧ (earlier = own ∧ later = between ∨
      ∃ t, t.isKeyword "SELECT" ∧ t :: later <:+ between) := by
  obtain ⟨t, word, split⟩ := select.before_eq
  -- The tokens before a site are kept nearest first, so the last `SELECT` is found first.
  have found : x.before.dropWhile (!·.isKeyword "SELECT") ≠ [] := by
    rw [Ne, List.dropWhile_eq_nil_iff]
    intro none
    have absent := none t (by simp [split])
    simp [word] at absent
  have isSelect := List.head_dropWhile_not _ found
  obtain ⟨last, rest, whole⟩ := List.exists_cons_of_ne_nil found
  simp only [whole, List.head_cons, Bool.not_eq_false'] at isSelect
  have parts := List.takeWhile_append_dropWhile (p := (!·.isKeyword "SELECT")) (l := x.before)
  rw [whole] at parts
  have nearest : LastSelect x rest.reverse (x.before.takeWhile (!·.isKeyword "SELECT")).reverse := by
    refine ⟨⟨last, isSelect, ?_⟩, fun u member => ?_⟩
    · simpa using (congrArg List.reverse parts).symm
    · simpa using List.all_eq_true.mp List.all_takeWhile u (List.mem_reverse.mp member)
  refine ⟨_, _, nearest, ?_⟩
  rcases select.compare nearest.before with same | inside | ⟨u, word, inside⟩
  · exact .inl same
  · exact .inr inside
  -- No `SELECT` stands behind the last one.
  · have absent := nearest.last u (inside.subset List.mem_cons_self)
    rw [word] at absent
    cases absent

theorem inExists_of_last (select : LastSelect x earlier later) :
    inExists x = opensExists earlier := by
  obtain ⟨t, word, before⟩ := select.before.before_eq
  have passed : x.before.dropWhile (!·.isKeyword "SELECT") = t :: earlier.reverse := by
    rw [before, List.dropWhile_append_of_pos, List.dropWhile_cons_of_neg (by simp [word])]
    intro u member
    simp [select.last u (List.mem_reverse.mp member)]
  rw [inExists, passed, opensExists]
  match earlier.reverse with
  | [] | [_] | _ :: _ :: _ => rfl

/-- A star that begins an item is reported once, or not at all if its last `SELECT` opens an
`EXISTS (` subquery. -/
theorem count_reported {tokens : List Token} (member : x ∈ Site.all tokens)
    (star : x.token.isSymbol '*') (item : startsItem x) (select : LastSelect x earlier later) :
    (reported tokens).count x = if opensExists earlier then 0 else 1 := by
  rw [reported, Site.count_filter_all member, star, item, inExists_of_last select]
  cases opensExists earlier <;> rfl

/-- A star that begins an item is judged by the last `SELECT` before it: it is reported once, or not
at all if that one opens an `EXISTS (` subquery. The last `SELECT` is the star's own one, or the one
of a subquery that has been closed since. -/
theorem judged_by_last_select (s : Script) (member : x ∈ Site.all s.tokens)
    (star : x.token.isSymbol '*') (item : startsItem x) (select : OwnSelect x own between) :
    selectStar.check s = (reported s.tokens).map (finding s) ∧
    ∃ earlier later, LastSelect x earlier later ∧
      (reported s.tokens).count x = (if opensExists earlier then 0 else 1) ∧
      (earlier = own ∧ later = between ∨
        ∃ t, t.isKeyword "SELECT" ∧ t :: later <:+ between ∧ rise later < 0) := by
  obtain ⟨earlier, later, nearest, place⟩ := select.before.exists_last
  refine ⟨check_eq s, earlier, later, nearest, count_reported member star item nearest, ?_⟩
  exact place.imp_right fun ⟨t, word, inside⟩ =>
    ⟨t, word, inside, select.last t later inside word⟩

/-- A star of an `EXISTS` subquery behind a scalar subquery. -/
def starBehindScalar : String := "IF EXISTS (SELECT (SELECT 1), * FROM t) PRINT 1"

/-- The star is reported, although its own `SELECT` opens an `EXISTS (` subquery. -/
theorem judged_by_last_select_of_scalar : ∃ s,
    Script.ofText "q.sql" "" 120 starBehindScalar = .ok s ∧ ∃ x ∈ Site.all s.tokens,
    (x.token.start.line, x.token.start.column) = (1, 31) ∧
    OwnSelect x (s.tokens.take 3) ((s.tokens.take 9).drop 4) ∧ opensExists (s.tokens.take 3) ∧
    (reported s.tokens).count x = 1 := by
  obtain ⟨s, made, x, member, place, star, item, select, opens, elsewhere⟩ : ∃ s,
      Script.ofText "q.sql" "" 120 starBehindScalar = .ok s ∧ ∃ x ∈ Site.all s.tokens,
      (x.token.start.line, x.token.start.column) = (1, 31) ∧
      x.token.isSymbol '*' ∧ startsItem x ∧
      OwnSelect x (s.tokens.take 3) ((s.tokens.take 9).drop 4) ∧ opensExists (s.tokens.take 3) ∧
      inExists x = false := by
    refine ⟨_, by cbv, (Site.all _).get ⟨9, ?_⟩, List.get_mem _ _, ?_, ?_, ?_, ?_, ?_, ?_⟩
    all_goals decide +kernel
  obtain ⟨_, earlier, later, nearest, count, _⟩ := judged_by_last_select s member star item select
  refine ⟨s, made, x, member, place, select, opens, ?_⟩
  rw [count, ← inExists_of_last nearest, elsewhere]
  rfl

/-- A star of a select list behind an `EXISTS` subquery of an earlier item. -/
def starBehindExists : String := "SELECT CASE WHEN EXISTS (SELECT 1) THEN 1 END, * FROM dbo.t;"

/-- The star is not reported, although its own `SELECT` opens no `EXISTS (` subquery. -/
theorem not_judged_by_own_select : ∃ s,
    Script.ofText "q.sql" "" 120 starBehindExists = .ok s ∧ ∃ x ∈ Site.all s.tokens,
    x.token.isSymbol '*' ∧ startsItem x ∧ OwnSelect x [] ((s.tokens.take 12).drop 1) ∧
    opensExists [] = false ∧ selectStar.check s = [] := by
  refine ⟨_, by cbv, (Site.all _).get ⟨12, ?_⟩, List.get_mem _ _, ?_, ?_, ?_, ?_, ?_⟩
  all_goals decide +kernel

end Selects

section Leads

variable {quantifier limit ties amount : List Token}

theorem endsInTop_of_amount {word : Token} (operand : Amount amount) (top : word.isKeyword "TOP")
    (before : List Token) : endsInTop (amount.reverse ++ word :: before) = true := by
  cases operand with
  | @single t value =>
      have other : t.isSymbol ')' = false := by
        rcases value with kind | kind | ⟨_, kind⟩ <;> simp [Token.isSymbol, kind]
      simp [endsInTop, other, top]
  | @expression opening closing inner opens balanced closes =>
      have partner := matchingOpen?_group opens closes balanced (word :: before)
      simp [endsInTop, closes, partner, top]

theorem startsItem_of_isAnyKeyword {t : Token} {rest : List Token} (before : x.before = t :: rest)
    (listed : t.isAnyKeyword ["SELECT", "DISTINCT", "ALL", "PERCENT"]) : startsItem x := by
  simp [startsItem, Site.previous?, before, listed]

theorem startsItem_of_endsInTop (top : endsInTop x.before) : startsItem x := by
  cases before : x.before with
  | nil =>
      rw [before] at top
      cases top
  | cons t rest => simp [startsItem, Site.previous?, before, before ▸ top]

/-- A star behind `WITH TIES` begins no item. -/
theorem startsItem_eq_false_of_ties {rest : List Token}
    (withTies : List.Forall₂ (fun t word => t.isKeyword word) ties ["WITH", "TIES"])
    (before : x.before = ties.reverse ++ rest) : startsItem x = false := by
  obtain ⟨first, _, isWith, pair, rfl⟩ := List.forall₂_cons_right_iff.mp withTies
  obtain ⟨second, _, isTies, none, rfl⟩ := List.forall₂_cons_right_iff.mp pair
  cases none
  have noSymbol := Token.isSymbol_eq_false_of_isKeyword isTies
  have unlisted : second.isAnyKeyword ["SELECT", "DISTINCT", "ALL", "PERCENT"] = false :=
    Token.isAnyKeyword_eq_false isTies (by decide +kernel)
  have notTop : first.isKeyword "TOP" = false :=
    Token.isKeyword_eq_false isWith (by decide +kernel)
  simp [startsItem, Site.previous?, before, noSymbol, unlisted, endsInTop, notTop]

/-- A star behind a `SELECT` and what may lead its list begins an item, unless `WITH TIES` stands
before it. -/
theorem startsItem_of_lead (select : SelectBefore x own (quantifier ++ limit ++ ties))
    (lead : Lead quantifier limit ties) : startsItem x = ties.isEmpty := by
  obtain ⟨t, word, before⟩ := select.before_eq
  obtain ⟨ahead, limited⟩ := lead
  cases limited with
  | none =>
      rcases ahead with rfl | ⟨q, rfl, either⟩
      · have listed : t.isAnyKeyword ["SELECT", "DISTINCT", "ALL", "PERCENT"] := by
          simp [Token.isAnyKeyword, word]
        exact startsItem_of_isAnyKeyword before listed
      · have listed : q.isAnyKeyword ["SELECT", "DISTINCT", "ALL", "PERCENT"] := by
          simp only [Token.isAnyKeyword, List.any_cons, Bool.or_eq_true] at either ⊢
          tauto
        exact startsItem_of_isAnyKeyword before listed
  | @top u amount percent ties isTop operand inPercent withTies =>
      rcases withTies with rfl | withTies
      · rcases inPercent with rfl | inPercent
        · apply startsItem_of_endsInTop
          have found := endsInTop_of_amount operand isTop (quantifier.reverse ++ t :: own.reverse)
          simpa [before] using found
        · obtain ⟨p, _, isPercent, none, rfl⟩ := List.forall₂_cons_right_iff.mp inPercent
          cases none
          have listed : p.isAnyKeyword ["SELECT", "DISTINCT", "ALL", "PERCENT"] := by
            simp [Token.isAnyKeyword, isPercent]
          exact startsItem_of_isAnyKeyword (by simpa using before) listed
      · have behind : x.before = ties.reverse ++
            ((quantifier ++ u :: (amount ++ percent)).reverse ++ t :: own.reverse) := by
          simp [before]
        rw [startsItem_eq_false_of_ties withTies behind]
        cases withTies
        rfl

theorem isKeyword_select_of_quantifier {t : Token} (either : t.isAnyKeyword ["ALL", "DISTINCT"]) :
    t.isKeyword "SELECT" = false := by
  obtain ⟨word, listed, isWord⟩ := List.any_eq_true.mp either
  have apart : ∀ word ∈ ["ALL", "DISTINCT"],
      Ascii.sameIgnoringCase word "SELECT" = false := by decide +kernel
  exact Token.isKeyword_eq_false isWord (apart word listed)

/-- A star that leads the list of a `SELECT` is reported once, or not at all if the last `SELECT`
before it opens an `EXISTS (` subquery. That is the same `SELECT` unless the operand of `TOP` has
one. Behind `WITH TIES` the star is never reported. -/
theorem leading_star_reported_unless_ties (s : Script) (member : x ∈ Site.all s.tokens)
    (star : x.token.isSymbol '*') (select : SelectBefore x own (quantifier ++ limit ++ ties))
    (lead : Lead quantifier limit ties) :
    selectStar.check s = (reported s.tokens).map (finding s) ∧
    (ties ≠ [] → x ∉ reported s.tokens) ∧
    (ties = [] → ∃ earlier later, LastSelect x earlier later ∧
      (reported s.tokens).count x = (if opensExists earlier then 0 else 1) ∧
      (earlier = own ∨ ∃ t ∈ limit, t.isKeyword "SELECT")) := by
  have item := startsItem_of_lead select lead
  refine ⟨check_eq s, fun withTies => ?_, ?_⟩
  · simp [reported, item, withTies]
  · rintro rfl
    obtain ⟨earlier, later, nearest, place⟩ := select.exists_last
    refine ⟨earlier, later, nearest, count_reported member star item nearest, ?_⟩
    refine place.imp (·.1) fun ⟨t, word, inside⟩ => ⟨t, ?_, word⟩
    have among : t ∈ quantifier ∨ t ∈ limit := by simpa using inside.subset List.mem_cons_self
    refine among.resolve_left fun ahead => ?_
    rcases lead.quantifier with rfl | ⟨q, rfl, either⟩
    · cases ahead
    · obtain rfl := List.mem_singleton.mp ahead
      rw [isKeyword_select_of_quantifier either] at word
      cases word

/-- A star behind everything that may lead a select list, `WITH TIES` apart. -/
def starBehindPercent : String := "SELECT ALL TOP ((1)) PERCENT * FROM dbo.t;"

theorem leading_star_reported_unless_ties_of_percent : ∃ s,
    Script.ofText "q.sql" "" 120 starBehindPercent = .ok s ∧ ∃ x ∈ Site.all s.tokens,
    (x.token.start.line, x.token.start.column) = (1, 30) ∧ (reported s.tokens).count x = 1 := by
  have all : Token.isAnyKeyword ⟨.word, "ALL", ⟨7, 1, 8⟩⟩ ["ALL", "DISTINCT"] := by decide +kernel
  have top : Token.isKeyword ⟨.word, "TOP", ⟨11, 1, 12⟩⟩ "TOP" := by decide +kernel
  have opens : Token.isSymbol ⟨.symbol, "(", ⟨15, 1, 16⟩⟩ '(' := by decide
  have inner : Balanced [⟨.symbol, "(", ⟨16, 1, 17⟩⟩, ⟨.number, "1", ⟨17, 1, 18⟩⟩,
      ⟨.symbol, ")", ⟨18, 1, 19⟩⟩] := by decide +kernel
  have closes : Token.isSymbol ⟨.symbol, ")", ⟨19, 1, 20⟩⟩ ')' := by decide
  have percent : Optionally ["PERCENT"] [⟨.word, "PERCENT", ⟨21, 1, 22⟩⟩] :=
    .inr (.cons (by decide +kernel) .nil)
  have lead := Lead.mk (.inr ⟨_, rfl, all⟩)
    (.top top (.expression opens inner closes) percent (.inl rfl))
  obtain ⟨s, made, x, member, place, star, elsewhere, quantifier, limit, lead, select⟩ : ∃ s,
      Script.ofText "q.sql" "" 120 starBehindPercent = .ok s ∧ ∃ x ∈ Site.all s.tokens,
      (x.token.start.line, x.token.start.column) = (1, 30) ∧ x.token.isSymbol '*' ∧
      inExists x = false ∧ ∃ quantifier limit, Lead quantifier limit [] ∧
      SelectBefore x [] (quantifier ++ limit ++ []) := by
    refine ⟨_, by cbv, (Site.all _).get ⟨9, ?_⟩, List.get_mem _ _, ?_, ?_, ?_, _, _, lead, ?_⟩
    all_goals decide +kernel
  obtain ⟨_, _, found⟩ := leading_star_reported_unless_ties s member star select lead
  obtain ⟨earlier, later, nearest, count, _⟩ := found rfl
  refine ⟨s, made, x, member, place, ?_⟩
  rw [count, ← inExists_of_last nearest, elsewhere]
  rfl

/-- A star behind `WITH TIES`. -/
def starBehindTies : String := "SELECT TOP 10 WITH TIES * FROM dbo.t ORDER BY a;"

theorem leading_star_missed_behind_ties : ∃ s,
    Script.ofText "q.sql" "" 120 starBehindTies = .ok s ∧ ∃ x ∈ Site.all s.tokens,
    x.token.isSymbol '*' ∧ (∃ limit ties, SelectBefore x [] ([] ++ limit ++ ties) ∧
      Lead [] limit ties) ∧ opensExists [] = false ∧ selectStar.check s = [] := by
  have limit : Limit [⟨.word, "TOP", ⟨7, 1, 8⟩⟩, ⟨.number, "10", ⟨11, 1, 12⟩⟩]
      [⟨.word, "WITH", ⟨14, 1, 15⟩⟩, ⟨.word, "TIES", ⟨19, 1, 20⟩⟩] :=
    .top (by decide +kernel) (.single (.inl rfl)) (.inl rfl)
      (.inr (.cons (by decide +kernel) (.cons (by decide +kernel) .nil)))
  refine ⟨_, by cbv, (Site.all _).get ⟨5, ?_⟩, List.get_mem _ _, ?_,
    ⟨_, _, ?_, .inl rfl, limit⟩, ?_, ?_⟩
  all_goals decide +kernel

end Leads

end SqlLint.Rules.Star
