import SqlLint.Proofs.Indexed.Syntax
import SqlLint.Rules.BuiltIn

/-!
# Rules that go from token to token by index

An inspection is what a rule does, with every access by number an access that may be a fault. Most
inspections ask one question of each token in turn. Where the question agrees with one that is asked
of the sites, the inspection makes the same remarks as the rule.
-/

namespace SqlLint.Indexed

/-- What a rule does with tokens, by index. -/
structure Inspection extends Descriptor where
  inspect : List Token → Checked (List Remark)

/-- Whether an inspection does what a rule does, whatever the script: it comes to an end without a
fault and makes the same remarks. -/
def Inspection.Agrees (i : Inspection) (r : Rule) : Prop :=
  i.toDescriptor = r.toDescriptor ∧
    ∀ s : Script, (∀ t ∈ s.tokens, t.Enclosed) → i.inspect s.tokens = .ok (r.inspect s)

/-- The remark that a token is objected to. -/
def remarkAt (message : Token → String) (t : Token) : Remark :=
  ⟨t.start.line, t.start.column, message t⟩

section Collecting

variable {α β γ : Type}

/-- What is found at the items of a list, in order. -/
def collect (find : α → Checked (Option β)) : List α → Checked (List β)
  | [] => return []
  | a :: rest => do
    let found ← find a
    let others ← collect find rest
    return found.toList ++ others

theorem collect_map_eq {find : α → Checked (Option β)} {g : γ → α} {f : γ → Option β}
    {items : List γ} (agrees : ∀ c ∈ items, find (g c) = .ok (f c)) :
    collect find (items.map g) = .ok (items.filterMap f) := by
  induction items with
  | nil => rfl
  | cons c items ih =>
      obtain ⟨first, others⟩ := List.forall_mem_cons.mp agrees
      rw [List.map_cons, collect, first, Checked.ok_bind, ih others, Checked.ok_bind,
        List.filterMap_cons]
      cases f c <;> rfl

/-- The tokens with their indices are the sites. -/
theorem zipIdx_eq_map_all (tokens : List Token) :
    tokens.zipIdx = (Site.all tokens).map fun s => (s.token, s.index) := by
  have from_ (before : List Token) : tokens.zipIdx before.length =
      (Site.following before tokens).map fun s => (s.token, s.index) := by
    induction tokens generalizing before with
    | nil => rfl
    | cons t tokens ih =>
        rw [List.zipIdx_cons, Site.following, List.map_cons, ← ih (t :: before)]
        rfl
  exact from_ []

end Collecting

section Asking

/-- The remark on a token with an index, if the answer to the question put about it is yes. -/
def answer? (message : Token → String) (question : Nat → Token → Checked Bool) :
    Token × Nat → Checked (Option Remark)
  | (t, i) => do if ← question i t then return some (remarkAt message t) else return none

def Inspection.asking (d : Descriptor) (message : Token → String)
    (question : List Token → Nat → Token → Checked Bool) : Inspection where
  toDescriptor := d
  inspect tokens := collect (answer? message (question tokens)) tokens.zipIdx

/-- An inspection that asks of each token what a rule asks of its site agrees with the rule. -/
theorem Inspection.agrees_of_filter {d : Descriptor} {message : Token → String}
    {question : List Token → Nat → Token → Checked Bool} {p : Site → Bool}
    (same : ∀ tokens, (∀ t ∈ tokens, t.Enclosed) → ∀ s ∈ Site.all tokens,
      question tokens s.index s.token = .ok (p s)) :
    (asking d message question).Agrees (.ofFlags d fun tokens =>
      ((Site.all tokens).filter p).map fun s => ⟨s, message s.token⟩) := by
  refine ⟨rfl, fun script enclosed => ?_⟩
  have answered (s : Site) (member : s ∈ Site.all script.tokens) :
      answer? message (question script.tokens) (s.token, s.index) =
        .ok (if p s then some (remarkAt message s.token) else none) := by
    rw [answer?, same _ enclosed s member]
    cases p s <;> rfl
  have collected := collect_map_eq answered
  rw [← zipIdx_eq_map_all, ← List.filterMap_filter, List.filterMap_eq_map'] at collected
  simp only [asking, collected, Rule.ofFlags, List.map_map]
  rfl

end Asking

section Questions

def isCallOf (functions : List String) (tokens : List Token) (i : Nat) (t : Token) :
    Checked Bool :=
  if t.isAnyKeyword functions && isCall tokens i then do return !(← isMember tokens i)
  else return false

def isLowered (tokens : List Token) (i : Nat) (t : Token) : Checked Bool :=
  if t.kind = .word then do
    if ← isMember tokens i then return false
    else return t.text.toList.any Char.isLower && t.isAnyKeyword Keyword.reserved
  else return false

def inTypePosition (tokens : List Token) (i : Nat) : Checked Bool :=
  match Nat.ppred i with
  | none => return false
  | some before => do
    let p ← item tokens before
    if p.kind == .variable || p.isKeyword "AS" then return true
    else if p.isSymbol '(' then
      if 2 ≤ i then do
        return (← item tokens (← minus i 2)).isAnyKeyword ["CONVERT", "TRY_CONVERT"]
      else return false
    else
      return p.isIdentifier && !p.isAnyKeyword ["SELECT", "DISTINCT", "TOP", "BY", "RETURNS"]

def lacksLength (tokens : List Token) (i : Nat) (t : Token) : Checked Bool :=
  if t.isAnyKeyword Rules.TypeLength.sizedTypes then do
    if ← isMember tokens i then return false
    else if isCall tokens i then return false
    else inTypePosition tokens i
  else return false

variable {tokens : List Token} {s : Site}

theorem isCallOf_eq (functions : List String) (h : s ∈ Site.all tokens) :
    isCallOf functions tokens s.index s.token = .ok (Rules.isCallOf functions s) := by
  rw [isCallOf, Rules.isCallOf, isCall_eq h, isMember_eq h]
  cases s.token.isAnyKeyword functions && s.isCall <;> rfl

theorem isLowered_eq (h : s ∈ Site.all tokens) :
    isLowered tokens s.index s.token = .ok (Rules.Capitalization.isLowered s) := by
  rw [isLowered, Rules.Capitalization.isLowered, isMember_eq h]
  by_cases word : s.token.kind = .word
  · cases s.isMember <;> simp [word]
  · simp [word]

theorem inTypePosition_eq (h : s ∈ Site.all tokens) :
    inTypePosition tokens s.index = .ok (Rules.TypeLength.inTypePosition s) := by
  rw [inTypePosition, Rules.TypeLength.inTypePosition]
  cases split : s.before with
  | nil => simp [Site.index, split]
  | cons p before =>
      obtain ⟨index, found⟩ := Site.of_before_eq_cons h split
      simp only [index, Nat.ppred, item_eq_ok_iff.mpr found, Checked.ok_bind]
      split
      · rfl
      · split
        · cases before with
          | nil => rfl
          | cons q before =>
              have found' := Site.getElem?_of_before h
                (show s.before = [p] ++ q :: before from split)
              simp [item_eq_ok_iff.mpr found']
        · rfl

theorem lacksLength_eq (h : s ∈ Site.all tokens) :
    lacksLength tokens s.index s.token = .ok (Rules.TypeLength.lacksLength s) := by
  rw [lacksLength, Rules.TypeLength.lacksLength, isMember_eq h, isCall_eq h, inTypePosition_eq h]
  cases s.token.isAnyKeyword Rules.TypeLength.sizedTypes <;> cases s.isMember <;>
    cases s.isCall <;> rfl

end Questions

section AskingRules

def upperLower : Inspection :=
  .asking Rules.upperLower.toDescriptor
    (fun _ => "Use of the UPPER or LOWER functions is not required when running database "
      ++ "in case insensitive mode")
    (isCallOf ["UPPER", "LOWER"])

def objectProperty : Inspection :=
  .asking Rules.objectProperty.toDescriptor
    (fun _ => "Expected use of SYS.COLUMNS rather than OBJECTPROPERTY")
    (isCallOf ["OBJECTPROPERTY"])

def fullText : Inspection :=
  .asking Rules.fullText.toDescriptor
    (fun _ => "Full text predicate found, this can cause performance problems")
    (isCallOf ["CONTAINS", "FREETEXT", "CONTAINSTABLE", "FREETEXTTABLE"])

def printStatement : Inspection :=
  .asking Rules.printStatement.toDescriptor
    (fun _ => "Expected RAISERROR statement instead of PRINT")
    fun _ _ t => return t.isKeyword "PRINT"

def disallowCursors : Inspection :=
  .asking Rules.disallowCursors.toDescriptor (fun _ => "Found use of CURSOR statement")
    fun _ _ t => return t.isKeyword "CURSOR"

def unicodeString : Inspection :=
  .asking Rules.unicodeString.toDescriptor
    (fun _ => "Use of unicode characters in a non unicode string")
    fun _ _ t => return t.kind == .string false && !Ascii.isAscii t.text

def informationSchema : Inspection :=
  .asking Rules.informationSchema.toDescriptor
    (fun _ => "Expected use of SYS.Partitions rather than INFORMATION_SCHEMA views")
    fun _ _ t => isNamed t "INFORMATION_SCHEMA"

def keywordCapitalization : Inspection :=
  .asking Rules.keywordCapitalization.toDescriptor
    (fun t => s!"Expected TSQL Keyword to be capitalized: {t.text.toUpper}") isLowered

def dataTypeLength : Inspection :=
  .asking Rules.dataTypeLength.toDescriptor
    (fun t => s!"Expected length to be specified for type {t.text.toUpper}") lacksLength

theorem agrees_upperLower : upperLower.Agrees Rules.upperLower :=
  Inspection.agrees_of_filter fun _ _ _ => isCallOf_eq _

theorem agrees_objectProperty : objectProperty.Agrees Rules.objectProperty :=
  Inspection.agrees_of_filter fun _ _ _ => isCallOf_eq _

theorem agrees_fullText : fullText.Agrees Rules.fullText :=
  Inspection.agrees_of_filter fun _ _ _ => isCallOf_eq _

theorem agrees_printStatement : printStatement.Agrees Rules.printStatement :=
  Inspection.agrees_of_filter fun _ _ _ _ => rfl

theorem agrees_disallowCursors : disallowCursors.Agrees Rules.disallowCursors :=
  Inspection.agrees_of_filter fun _ _ _ _ => rfl

theorem agrees_unicodeString : unicodeString.Agrees Rules.unicodeString :=
  Inspection.agrees_of_filter fun _ _ _ _ => rfl

theorem agrees_informationSchema : informationSchema.Agrees Rules.informationSchema :=
  Inspection.agrees_of_filter fun _ enclosed s member =>
    isNamed_eq (enclosed s.token (Site.token_mem member)) _

theorem agrees_keywordCapitalization :
    keywordCapitalization.Agrees Rules.keywordCapitalization :=
  Inspection.agrees_of_filter fun _ _ _ => isLowered_eq

theorem agrees_dataTypeLength : dataTypeLength.Agrees Rules.dataTypeLength :=
  Inspection.agrees_of_filter fun _ _ _ => lacksLength_eq

end AskingRules

section Stars

def beforeOperand (tokens : List Token) (last : Nat) : Checked (Option Nat) := do
  if (← item tokens last).isSymbol ')' then return (← matchingOpen tokens last).bind Nat.ppred
  else return Nat.ppred last

def isTop (tokens : List Token) : Option Nat → Checked Bool
  | some i => do return (← item tokens i).isKeyword "TOP"
  | none => return false

def endsInTop (tokens : List Token) (last : Nat) : Checked Bool := do
  isTop tokens (← beforeOperand tokens last)

def startsItem (tokens : List Token) (i : Nat) : Checked Bool :=
  match Nat.ppred i with
  | none => return false
  | some before => do
    let p ← item tokens before
    if p.isSymbol '.' || p.isSymbol ',' then return true
    else if p.isAnyKeyword ["SELECT", "DISTINCT", "ALL", "PERCENT"] then return true
    else endsInTop tokens (← minus i 1)

def inExists (tokens : List Token) (select : Nat) : Checked Bool :=
  if 2 ≤ select then do
    if (← item tokens (← minus select 1)).isSymbol '(' then
      return (← item tokens (← minus select 2)).isKeyword "EXISTS"
    else return false
  else return false

def outsideExists (tokens : List Token) : Option Nat → Checked Bool
  | some select => do return !(← inExists tokens select)
  | none => return true

def isSelectStar (tokens : List Token) (select? : Option Nat) (i : Nat) (t : Token) :
    Checked Bool :=
  if t.isSymbol '*' then do
    if ← startsItem tokens i then outsideExists tokens select? else return false
  else return false

/-- The stars that are objected to, given the indices of the last `SELECT` and the first token. -/
def starsFrom (tokens : List Token) (select? : Option Nat) (i : Nat) :
    List Token → Checked (List Token)
  | [] => return []
  | t :: rest =>
    if t.isKeyword "SELECT" then starsFrom tokens (some i) (i + 1) rest
    else do
      let answer ← isSelectStar tokens select? i t
      let others ← starsFrom tokens select? (i + 1) rest
      return if answer then t :: others else others

def selectStar : Inspection where
  toDescriptor := Rules.selectStar.toDescriptor
  inspect tokens := do
    let stars ← starsFrom tokens none 0 tokens
    return stars.map (remarkAt fun _ => "Expected column names in SELECT")

variable {tokens before rest : List Token} {s : Site} {p : Token}

theorem endsInTop_eq (h : s ∈ Site.all tokens) (split : s.before = p :: before) :
    endsInTop tokens before.length = .ok (Rules.Star.endsInTop s.before) := by
  obtain ⟨index, found⟩ := Site.of_before_eq_cons h split
  have inside : before.length + 1 ≤ tokens.length := (List.getElem?_eq_some_iff.mp found).1
  have front : (tokens.take (before.length + 1)).reverse = p :: before := by
    rw [← index, Site.take_index h, List.reverse_reverse, split]
  have top (b front : List Token) (suffix : s.before = front ++ b) :
      isTop tokens (Nat.ppred b.length) = .ok (b.head?.any (·.isKeyword "TOP")) := by
    cases b with
    | nil => rfl
    | cons q b => simp [isTop, item_eq_ok_iff.mpr (Site.getElem?_of_before h suffix)]
  rw [endsInTop, beforeOperand, item_eq_ok_iff.mpr found, Checked.ok_bind, split,
    Rules.Star.endsInTop, matchingOpen, openFrom_eq inside, front, Parenthesis.matchingOpen?]
  by_cases closing : p.isSymbol ')'
  · cases opened : Parenthesis.openFrom? 0 (p :: before) with
    | none => simp [closing, isTop]
    | some b =>
        obtain ⟨front, whole⟩ := suffix_of_openFrom? opened
        simpa [closing] using top b front (split.trans whole.symm)
  · simpa [closing] using top before [p] split

theorem startsItem_eq (h : s ∈ Site.all tokens) :
    startsItem tokens s.index = .ok (Rules.Star.startsItem s) := by
  rw [startsItem, Rules.Star.startsItem, Site.previous?]
  cases split : s.before with
  | nil => simp [Site.index, split]
  | cons p before =>
      obtain ⟨index, found⟩ := Site.of_before_eq_cons h split
      have top := endsInTop_eq h split
      rw [split] at top
      simp only [index, Nat.ppred, item_eq_ok_iff.mpr found, Checked.ok_bind,
        minus_of_le (Nat.le_add_left 1 _), Nat.add_sub_cancel, top, List.head?_cons]
      cases p.isSymbol '.' <;> cases p.isSymbol ',' <;>
        cases p.isAnyKeyword ["SELECT", "DISTINCT", "ALL", "PERCENT"] <;> rfl

/-- The index of the last `SELECT` among the tokens before, nearest first. -/
def lastSelect (before : List Token) : Option Nat :=
  match before.dropWhile (!·.isKeyword "SELECT") with
  | [] => none
  | _ :: more => some more.length

theorem outsideExists_eq (h : s ∈ Site.all tokens) :
    outsideExists tokens (lastSelect s.before) = .ok (!Rules.Star.inExists s) := by
  rw [lastSelect, Rules.Star.inExists]
  obtain ⟨front, whole⟩ := List.dropWhile_suffix (l := s.before) (!·.isKeyword "SELECT")
  generalize s.before.dropWhile (!·.isKeyword "SELECT") = after at whole
  match after with
  | [] => rfl
  | [_] => rfl
  | [_, _] => rfl
  | select :: opening :: word :: more =>
      have first := Site.getElem?_of_before h
        (show s.before = (front ++ [select]) ++ opening :: word :: more by simp [← whole])
      have second := Site.getElem?_of_before h
        (show s.before = (front ++ [select, opening]) ++ word :: more by simp [← whole])
      rw [List.length_cons] at first
      have twoBack : more.length + 1 + 1 - 2 = more.length := rfl
      simp only [outsideExists, inExists, List.length_cons, Nat.le_add_left, if_true, minus_of_le,
        item_eq_ok_iff.mpr first, item_eq_ok_iff.mpr second, Checked.ok_bind, Nat.add_sub_cancel,
        twoBack]
      cases opening.isSymbol '(' <;> rfl

theorem starsFrom_eq (inside : ∀ s ∈ Site.following before rest, s ∈ Site.all tokens) :
    starsFrom tokens (lastSelect before) before.length rest =
      .ok (((Site.following before rest).filter fun s => s.token.isSymbol '*' &&
        Rules.Star.startsItem s && !Rules.Star.inExists s).map (·.token)) := by
  induction rest generalizing before with
  | nil => rfl
  | cons t rest ih =>
      obtain ⟨first, others⟩ := List.forall_mem_cons.mp inside
      have next := ih others
      rw [List.length_cons] at next
      rw [starsFrom, Site.following, List.filter_cons]
      by_cases select : t.isKeyword "SELECT"
      · have last : lastSelect (t :: before) = some before.length := by simp [lastSelect, select]
        have noStar : t.isSymbol '*' = false := by
          simp [Token.isKeyword] at select
          simp [Token.isSymbol, select]
        rw [last] at next
        simp [select, next, noStar]
      · have last : lastSelect (t :: before) = lastSelect before := by simp [lastSelect, select]
        have answer : isSelectStar tokens (lastSelect before) before.length t =
            .ok (t.isSymbol '*' && Rules.Star.startsItem ⟨before, t, rest⟩ &&
              !Rules.Star.inExists ⟨before, t, rest⟩) := by
          have starts : startsItem tokens before.length = _ := startsItem_eq first
          have outside : outsideExists tokens (lastSelect before) = _ := outsideExists_eq first
          rw [isSelectStar, starts, outside]
          cases t.isSymbol '*' <;> cases Rules.Star.startsItem ⟨before, t, rest⟩ <;> rfl
        rw [last] at next
        rw [if_neg select, answer, Checked.ok_bind, next, Checked.ok_bind]
        split <;> rfl

theorem agrees_selectStar : selectStar.Agrees Rules.selectStar := by
  refine ⟨rfl, fun s _ => ?_⟩
  have stars : starsFrom s.tokens (lastSelect []) ([] : List Token).length s.tokens = _ :=
    starsFrom_eq fun _ member => member
  have stars : starsFrom s.tokens none 0 s.tokens = _ := stars
  simp [selectStar, stars, Rules.selectStar, Rule.ofFlags, flagWhere, Flag.remark, remarkAt,
    Function.comp_def, Site.all]

end Stars

end SqlLint.Indexed
