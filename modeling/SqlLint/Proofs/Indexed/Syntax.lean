import SqlLint.Proofs.Indexed.Access
import SqlLint.Proofs.Rules.Sites
import SqlLint.Proofs.Script.Places
import SqlLint.Syntax.ObjectName
import SqlLint.Syntax.Parenthesis

/-!
# Looking at tokens by index

The questions that rules ask about a token and its neighbours are put once more, with the token
given by its index. A neighbour is looked up by an index again, which is in place because the
question has made sure of it, or because the index is that of a token. The one cut, which takes the
delimiters off a quoted identifier, is in place because a quoted identifier has two of them, each of
one byte.
-/

namespace SqlLint

/-- Whether a quoted identifier has a delimiter at either end, each of one byte. -/
def Token.Enclosed (t : Token) : Prop :=
  t.kind = .quoted → ∃ first inner last, t.text.toList = first :: (inner ++ [last]) ∧
    first.utf8Size = 1 ∧ last.utf8Size = 1

theorem Script.Laid.enclosed {s : Script} {pieces : List (LexemeKind × List Char)}
    (h : s.Laid pieces) : ∀ t ∈ s.tokens, t.Enclosed := by
  intro t member quoted
  obtain ⟨l, inside, token⟩ := List.mem_filterMap.mp member
  obtain ⟨kind, visible, rfl⟩ := Lexeme.exists_of_token? token
  obtain ⟨rest, form⟩ := h.exists_form inside
  dsimp only at quoted
  rw [visible, quoted] at form
  rw [String.toList_ofList]
  generalize l.text = piece at form
  cases form with
  | delimited delimited _ _ =>
      cases delimited with
      | bracket => exact ⟨_, _, _, rfl, rfl, rfl⟩
      | doubleQuote => exact ⟨_, _, _, rfl, rfl, rfl⟩

namespace Site

variable {s : Site} {tokens : List Token}

theorem drop_succ_index (h : s ∈ all tokens) : tokens.drop (s.index + 1) = s.after := by
  rw [← List.drop_drop, drop_index h, List.drop_one, List.tail_cons]

theorem getElem?_of_before {front rest : List Token} {p : Token} (h : s ∈ all tokens)
    (split : s.before = front ++ p :: rest) : tokens[rest.length]? = some p := by
  rw [mem_all_iff.mp h, split]
  simp

/-- The token in front of a site has the index before. -/
theorem of_before_eq_cons {rest : List Token} {p : Token} (h : s ∈ all tokens)
    (split : s.before = p :: rest) :
    s.index = rest.length + 1 ∧ tokens[rest.length]? = some p :=
  ⟨by rw [index, split, List.length_cons],
    getElem?_of_before h (show s.before = [] ++ p :: rest from split)⟩

end Site

namespace Indexed

section Skipping

/-- The index behind the token with an index if the token satisfies `p`, else the index itself. -/
def skip (p : Token → Bool) (tokens : List Token) (i : Nat) : Nat :=
  if tokens[i]?.any p then i + 1 else i

variable {tokens : List Token} {i : Nat} {t : Token}

theorem drop_eq_cons (found : tokens[i]? = some t) : tokens.drop i = t :: tokens.drop (i + 1) := by
  obtain ⟨inside, rfl⟩ := List.getElem?_eq_some_iff.mp found
  exact List.drop_eq_getElem_cons inside

theorem drop_skip (p : Token → Bool) : tokens.drop (skip p tokens i) =
    match tokens.drop i with
    | t :: rest => if p t then rest else t :: rest
    | [] => [] := by
  cases found : tokens[i]? with
  | none =>
      have none := List.drop_eq_nil_of_le (List.getElem?_eq_none_iff.mp found)
      simp [skip, found, none]
  | some t =>
      rw [skip, found, Option.any_some]
      by_cases holds : p t
      · simp [drop_eq_cons found, holds]
      · simp [drop_eq_cons found, holds]

end Skipping

section Neighbours

def unquoted (t : Token) : Checked String :=
  if t.kind = .quoted ∧ 2 ≤ t.text.utf8ByteSize then do
    let inner ← slice t.text.toList 1 (← minus t.text.utf8ByteSize 1)
    return String.ofList inner
  else return t.text

def isNamed (t : Token) (name : String) : Checked Bool :=
  if t.isIdentifier then do return Ascii.sameIgnoringCase (← unquoted t) name else return false

def isCall (tokens : List Token) (i : Nat) : Bool := tokens[i + 1]?.any (·.isSymbol '(')

def isMember (tokens : List Token) (i : Nat) : Checked Bool :=
  if 0 < i then do return (← item tokens (← minus i 1)).isSymbol '.' else return false

variable {t : Token} {s : Site} {tokens : List Token}

theorem unquoted_eq (enclosed : t.Enclosed) : unquoted t = .ok t.name := by
  by_cases quoted : t.kind = .quoted
  · obtain ⟨first, inner, last, text, single, single'⟩ := enclosed quoted
    have bytes : t.text.utf8ByteSize = (utf8 (first :: (inner ++ [last]))).length := by
      rw [length_utf8, ← text, String.ofList_toList]
    have size : t.text.utf8ByteSize = 1 + (utf8 inner).length + 1 := by
      simp [bytes, single, single', Nat.add_assoc]
    have cut : slice ([first] ++ (inner ++ [last])) 1 (1 + (utf8 inner).length) = .ok inner :=
      slice_append (by simp [single]) (by simp [single])
    rw [unquoted, if_pos ⟨quoted, by omega⟩, size, minus_of_le (Nat.le_add_left _ _),
      Nat.add_sub_cancel, Checked.ok_bind, text]
    rw [List.singleton_append] at cut
    simp [cut, Token.name, quoted, text]
  · simp [unquoted, quoted, Token.name]

theorem isNamed_eq (enclosed : t.Enclosed) (name : String) :
    isNamed t name = .ok (t.isNamed name) := by
  rw [isNamed, Token.isNamed]
  split
  case isTrue identifier => simp [unquoted_eq enclosed, identifier]
  case isFalse other => simp [other]

theorem isCall_eq (h : s ∈ Site.all tokens) : isCall tokens s.index = s.isCall := by
  rw [isCall, Site.isCall, Site.next?, ← Site.drop_succ_index h, List.head?_drop]

theorem isMember_eq (h : s ∈ Site.all tokens) : isMember tokens s.index = .ok s.isMember := by
  rw [isMember, Site.isMember, Site.previous?]
  cases split : s.before with
  | nil => simp [Site.index, split]
  | cons p before =>
      obtain ⟨index, found⟩ := Site.of_before_eq_cons h split
      simp [index, item_eq_ok_iff.mpr found]

end Neighbours

section Parentheses

/-- The index of the parenthesis that brings the depth back to zero, going down from the token
before the index `i`, with `depth` parentheses closed and not yet opened. -/
def openFrom (tokens : List Token) : Nat → Nat → Checked (Option Nat)
  | 0, _ => return none
  | i + 1, depth => do
    let t ← item tokens i
    if t.isSymbol ')' then openFrom tokens i (depth + 1)
    else if t.isSymbol '(' then
      match Nat.ppred depth with
      | none => return none
      | some outer => if outer = 0 then return some i else openFrom tokens i outer
    else openFrom tokens i depth

/-- The index of the partner of the closing parenthesis with an index. -/
def matchingOpen (tokens : List Token) (close : Nat) : Checked (Option Nat) :=
  openFrom tokens (close + 1) 0

variable {tokens before : List Token} {i depth : Nat}

theorem suffix_of_openFrom? {rest : List Token}
    (h : Parenthesis.openFrom? depth before = some rest) : rest <:+ before := by
  fun_induction Parenthesis.openFrom? depth before with
  | case1 => cases h
  | case2 depth t before _ ih => exact (ih h).trans (List.suffix_cons t before)
  | case3 t before => cases h
  | case4 t before =>
      cases h
      exact List.suffix_cons t _
  | case5 t before _ _ outer _ ih => exact (ih h).trans (List.suffix_cons t before)
  | case6 depth t before _ _ ih => exact (ih h).trans (List.suffix_cons t before)

theorem openFrom_eq (inside : i ≤ tokens.length) :
    openFrom tokens i depth =
      .ok ((Parenthesis.openFrom? depth (tokens.take i).reverse).map List.length) := by
  induction i generalizing depth with
  | zero => simp [openFrom, Parenthesis.openFrom?]
  | succ i ih =>
      have found := List.getElem?_eq_getElem (Nat.lt_of_succ_le inside)
      have front : (tokens.take (i + 1)).reverse = tokens[i] :: (tokens.take i).reverse := by
        rw [List.take_succ_eq_append_getElem (Nat.lt_of_succ_le inside), List.reverse_append]
        rfl
      have rest (depth : Nat) := @ih depth (Nat.le_of_succ_le inside)
      have length : (tokens.take i).reverse.length = i := by
        rw [List.length_reverse, List.length_take]
        omega
      rw [openFrom, item_eq_ok_iff.mpr found, front, Checked.ok_bind]
      by_cases closing : tokens[i].isSymbol ')'
      · simp [Parenthesis.openFrom?, closing, rest]
      · by_cases opening : tokens[i].isSymbol '('
        · match depth with
          | 0 => simp [Parenthesis.openFrom?, closing, opening]
          | 1 => simp [Parenthesis.openFrom?, closing, opening, length]
          | outer + 2 => simp [Parenthesis.openFrom?, closing, opening, rest]
        · simp [Parenthesis.openFrom?, closing, opening, rest]

end Parentheses

section Sequences

/-- The index at which the words `sequence` stand one after the other for the first time. -/
def findSequence (tokens : List Token) (sequence : List String) : Checked (Option Nat) :=
  if sequence.isEmpty || tokens.length < sequence.length then return none
  else do
    let runs ← windows sequence.length tokens
    return runs.findIdx? fun run => (run.zip sequence).all fun (t, keyword) => t.isKeyword keyword

variable {sequence : List String} {tokens : List Token}

theorem startsWith_eq_all (fits : sequence.length ≤ tokens.length) :
    Keyword.startsWith sequence tokens =
      ((tokens.take sequence.length).zip sequence).all fun (t, keyword) => t.isKeyword keyword := by
  induction sequence generalizing tokens with
  | nil => simp [Keyword.startsWith]
  | cons keyword sequence ih =>
      cases tokens with
      | nil => cases fits
      | cons t tokens => simp [Keyword.startsWith, ih (Nat.le_of_succ_le_succ fits)]

theorem startsWith_eq_false (short : tokens.length < sequence.length) :
    Keyword.startsWith sequence tokens = false := by
  induction sequence generalizing tokens with
  | nil => cases short
  | cons keyword sequence ih =>
      cases tokens with
      | nil => rfl
      | cons t tokens => simp [Keyword.startsWith, ih (Nat.lt_of_succ_lt_succ short)]

theorem occurs_eq_false (short : tokens.length < sequence.length) :
    Keyword.occurs sequence tokens = false := by
  induction tokens with
  | nil => rfl
  | cons t tokens ih =>
      rw [Keyword.occurs, startsWith_eq_false short, ih (Nat.lt_of_succ_lt short), Bool.and_false]
      rfl

theorem occurs_nil : Keyword.occurs [] tokens = false := by
  induction tokens with
  | nil => rfl
  | cons t tokens ih => simpa [Keyword.occurs] using ih

theorem any_windowsOf (nonempty : sequence ≠ []) :
    ((windowsOf sequence.length tokens).any fun run =>
      (run.zip sequence).all fun (t, keyword) => t.isKeyword keyword) =
        Keyword.occurs sequence tokens := by
  induction tokens with
  | nil => rfl
  | cons t tokens ih =>
      rw [windowsOf]
      split
      case isTrue fits =>
        have fits : sequence.length ≤ (t :: tokens).length := fits
        rw [List.any_cons, ih, Keyword.occurs, List.isEmpty_eq_false_iff.mpr nonempty,
          startsWith_eq_all fits]
        rfl
      case isFalse short => rw [occurs_eq_false (Nat.lt_of_not_le short)]; rfl

/-- A sequence of words is found where it occurs. -/
theorem exists_findSequence_eq (tokens : List Token) (sequence : List String) : ∃ found,
    findSequence tokens sequence = .ok found ∧ found.isSome = Keyword.occurs sequence tokens := by
  by_cases nonempty : sequence = []
  · subst nonempty
    exact ⟨none, rfl, occurs_nil.symm⟩
  by_cases short : tokens.length < sequence.length
  · exact ⟨none, by simp [findSequence, short], (occurs_eq_false short).symm⟩
  · have size : sequence.length ≠ 0 := by simpa using nonempty
    refine ⟨_, by simp [findSequence, nonempty, short, windows, size]; rfl, ?_⟩
    rw [List.findIdx?_isSome, any_windowsOf nonempty]

end Sequences

section Names

/-- A dotted name: its parts in order, and the index of the token behind it. -/
structure Name where
  parts : List (Option Token)
  stop : Nat

theorem exists_of_any {t? : Option Token} {p : Token → Bool} (h : t?.any p) :
    ∃ t, t? = some t ∧ p t := by
  cases t? with
  | none => cases h
  | some t => exact ⟨t, rfl, h⟩

theorem lt_length_of_any {tokens : List Token} {i : Nat} {p : Token → Bool}
    (h : tokens[i]?.any p) : i < tokens.length := by
  obtain ⟨t, found, _⟩ := exists_of_any h
  exact (List.getElem?_eq_some_iff.mp found).1

/-- The parts of a name from an index on, and the index of the token behind them. -/
def partsFrom (tokens : List Token) (i : Nat) : List (Option Token) × Nat :=
  if _dot : tokens[i]?.any (·.isSymbol '.') then
    match tokens[i + 1]? with
    | some t =>
      if t.isIdentifier then
        let (parts, stop) := partsFrom tokens (i + 2)
        (some t :: parts, stop)
      else if t.isSymbol '.' then
        let (parts, stop) := partsFrom tokens (i + 1)
        (none :: parts, stop)
      else ([], i)
    | none => ([], i)
  else ([], i)
termination_by tokens.length - i
decreasing_by
  all_goals
    have := lt_length_of_any _dot
    omega

def parse (tokens : List Token) (start : Nat) : Option Name :=
  match tokens[start]? with
  | some first =>
    if first.isIdentifier then
      let (parts, stop) := partsFrom tokens (start + 1)
      some ⟨some first :: parts, stop⟩
    else none
  | none => none

def Name.database (n : Name) : Checked (Option String) :=
  if n.parts.length < 3 then return none
  else do
    match ← item n.parts (← minus n.parts.length 3) with
    | some t => return some (← unquoted t)
    | none => return none

def Name.object (n : Name) : Checked (Option String) :=
  match n.parts.getLast? with
  | some (some t) => do return some (← unquoted t)
  | _ => return none

/-- The alias that a token is, if there is one and it is no keyword of a clause. -/
def aliasOf : Option Token → Checked (Option String)
  | some t =>
    if t.isIdentifier && !t.isAnyKeyword Keyword.clauses then do return some (← unquoted t)
    else return none
  | none => return none

/-- The alias of a table whose name ends before an index. -/
def aliasAt (tokens : List Token) (i : Nat) : Checked (Option String) :=
  aliasOf tokens[skip (·.isKeyword "AS") tokens i]?

variable {tokens : List Token} {i : Nat}

/-- Names are read by index as they are read from the tokens in front. -/
theorem partsFrom_eq : partsFrom tokens i =
    ((ObjectName.further (tokens.drop i)).1, i + (ObjectName.further (tokens.drop i)).2) := by
  have further_one (t : Token) : ObjectName.further [t] = ([], 0) := by simp [ObjectName.further]
  fun_induction partsFrom tokens i with
  | case1 i dot t next identifier parts stop rest ih =>
      obtain ⟨d, found, isDot⟩ := exists_of_any dot
      rw [rest] at ih
      obtain ⟨rfl, rfl⟩ := Prod.mk.inj ih
      have after : tokens.drop (i + 1) = t :: tokens.drop (i + 2) := drop_eq_cons next
      simp [drop_eq_cons found, after, ObjectName.further, isDot, identifier]
      omega
  | case2 i dot t next other dot' parts stop rest ih =>
      obtain ⟨d, found, isDot⟩ := exists_of_any dot
      rw [rest, drop_eq_cons next] at ih
      obtain ⟨rfl, rfl⟩ := Prod.mk.inj ih
      simp [drop_eq_cons found, drop_eq_cons next, ObjectName.further, isDot, other, dot']
      omega
  | case3 i dot t next other noDot =>
      obtain ⟨d, found, isDot⟩ := exists_of_any dot
      simp [drop_eq_cons found, drop_eq_cons next, ObjectName.further, isDot, other, noDot]
  | case4 i dot none =>
      obtain ⟨d, found, isDot⟩ := exists_of_any dot
      rw [drop_eq_cons found, List.drop_eq_nil_of_le (List.getElem?_eq_none_iff.mp none)]
      simp [further_one]
  | case5 i noDot =>
      cases found : tokens[i]? with
      | none =>
          rw [List.drop_eq_nil_of_le (List.getElem?_eq_none_iff.mp found)]
          rfl
      | some d =>
          have other : d.isSymbol '.' = false := by simpa [found] using noDot
          rw [drop_eq_cons found]
          cases tokens.drop (i + 1) with
          | nil => simp [further_one]
          | cons t rest => simp [ObjectName.further, other]

theorem parse_eq : parse tokens i =
    (ObjectName.parse? (tokens.drop i)).map fun n => ⟨n.parts, i + n.length⟩ := by
  rw [parse]
  cases found : tokens[i]? with
  | none =>
      rw [List.drop_eq_nil_of_le (List.getElem?_eq_none_iff.mp found)]
      rfl
  | some first =>
      rw [drop_eq_cons found, partsFrom_eq]
      simp only [ObjectName.parse?]
      split
      · simp
        omega
      · rfl

section Parts

variable {n : ObjectName} {stop : Nat} (enclosed : ∀ t, some t ∈ n.parts → t.Enclosed)
include enclosed

theorem Name.database_eq : (Name.mk n.parts stop).database = .ok n.database? := by
  rw [Name.database, ObjectName.database?]
  dsimp only
  split
  case isTrue short =>
    have none : n.parts.reverse[2]? = none :=
      List.getElem?_eq_none (by simpa using Nat.le_of_lt_succ short)
    simp [none]
  case isFalse long =>
    have inside : n.parts.length - 3 < n.parts.length := by omega
    have found : n.parts.reverse[2]? = some n.parts[n.parts.length - 3] := by
      rw [List.getElem?_reverse (by omega), List.getElem?_eq_getElem (by omega)]
      rfl
    rw [minus_of_le (by omega), Checked.ok_bind,
      item_eq_ok_iff.mpr (List.getElem?_eq_getElem inside), found, Checked.ok_bind]
    cases part : n.parts[n.parts.length - 3] with
    | none => rfl
    | some t => simp [unquoted_eq (enclosed t (part ▸ List.getElem_mem inside))]

theorem Name.object_eq : (Name.mk n.parts stop).object = .ok n.object? := by
  rw [Name.object, ObjectName.object?]
  cases last : n.parts.getLast? with
  | none => rfl
  | some part =>
      cases part with
      | none => rfl
      | some t => simp [unquoted_eq (enclosed t (List.mem_of_getLast? last))]

end Parts

theorem aliasOf_some {t : Token} (enclosed : t.Enclosed) : aliasOf (some t) =
    .ok (if t.isIdentifier && !t.isAnyKeyword Keyword.clauses then some t.name else none) := by
  rw [aliasOf, unquoted_eq enclosed]
  split <;> rfl

theorem aliasAt_eq (enclosed : ∀ t ∈ tokens, t.Enclosed) :
    aliasAt tokens i = .ok (alias? (tokens.drop i)) := by
  have reading : alias? (tokens.drop i) =
      match tokens.drop (skip (·.isKeyword "AS") tokens i) with
      | t :: _ => if t.isIdentifier && !t.isAnyKeyword Keyword.clauses then some t.name else none
      | [] => none := by
    rw [drop_skip]
    cases tokens.drop i <;> rfl
  rw [reading, aliasAt, ← List.head?_drop]
  cases rest : tokens.drop (skip (·.isKeyword "AS") tokens i) with
  | nil => rfl
  | cons t rest' =>
      have member : t ∈ tokens := List.mem_of_mem_drop (rest ▸ List.mem_cons_self)
      exact aliasOf_some (enclosed t member)

end Names

end Indexed
end SqlLint
