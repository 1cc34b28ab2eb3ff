import SqlLint.Proofs.Indexed.Scans
import SqlLint.Proofs.Rules.Confinement

/-!
# Table references by index

A reference is kept as the index at which its name begins, and the name with the index behind it.
There is always a token in front of that last index, so looking at what follows a name never takes
an index below zero.
-/

namespace SqlLint

theorem ObjectName.mem_of_further {tokens : List Token} {t : Token}
    (h : some t ∈ (further tokens).1) : t ∈ tokens := by
  fun_induction further tokens with
  | case1 dot next rest _ _ ih =>
      rcases List.mem_cons.mp h with first | later
      · cases first
        simp
      · exact List.mem_cons_of_mem _ (List.mem_cons_of_mem _ (ih later))
  | case2 dot next rest _ _ _ ih =>
      rcases List.mem_cons.mp h with first | later
      · cases first
      · exact List.mem_cons_of_mem _ (ih later)
  | case3 => cases h
  | case4 => cases h
  | case5 => cases h

/-- The parts of a name are among the tokens that it is read from. -/
theorem ObjectName.mem_of_parse? {tokens : List Token} {n : ObjectName} {t : Token}
    (h : parse? tokens = some n) (part : some t ∈ n.parts) : t ∈ tokens := by
  cases tokens with
  | nil => cases h
  | cons first rest =>
      rw [parse?] at h
      split at h
      · cases h
        rcases List.mem_cons.mp part with here | later
        · cases here
          exact List.mem_cons_self
        · exact List.mem_cons_of_mem _ (mem_of_further later)
      · cases h

namespace Indexed

open Rules.SchemaQualification (tableKeywords)
open Rules.SchemaQualification.Reference (introducedBy?)

/-- A table reference: the index at which its name begins, and the name. -/
structure Reference where
  start : Nat
  name : Name

/-- Whether the token `p` in front of the one with an index stands in a list that the latter
continues. -/
def continuesList (tokens : List Token) (i : Nat) (p : Token) : Checked Bool :=
  if p.isSymbol ',' then do return !(← item tokens i).isKeyword "JOIN" else return false

/-- Whether the keyword with an index is followed by a table. -/
def introducesTable (tokens : List Token) (i : Nat) : Checked Bool :=
  match Nat.ppred i with
  | none => return true
  | some before => do
    let p ← item tokens before
    if ← continuesList tokens i p then return false
    else
      return !p.isAnyKeyword
        ["ON", "FOR", "AFTER", "OF", "NEXT", "PRIOR", "FIRST", "LAST", "FETCH"]

/-- Whether a name behind the keyword `t` is that of a function. -/
def isFunction (tokens : List Token) (t : Token) (n : Name) : Checked Bool :=
  if t.isAnyKeyword ["FROM", "JOIN"] then do return isCall tokens (← minus n.stop 1)
  else return false

/-- The reference that the keyword `t` introduces with the token with an index. -/
def referenceFrom? (tokens : List Token) (t : Token) (start : Nat) : Checked (Option Reference) :=
  match tokens[start]? with
  | none => return none
  | some first =>
    if !first.isIdentifier || first.isAnyKeyword Keyword.clauses then return none
    else
      match parse tokens start with
      | none => return none
      | some name => do
        if ← isFunction tokens t name then return none else return some ⟨start, name⟩

/-- The reference that the token with an index introduces. -/
def referenceAt? (tokens : List Token) : Token × Nat → Checked (Option Reference)
  | (t, i) =>
    if t.isAnyKeyword tableKeywords then do
      if ← introducesTable tokens i then referenceFrom? tokens t (i + 1) else return none
    else return none

def references (tokens : List Token) : Checked (List Reference) :=
  collect (referenceAt? tokens) tokens.zipIdx

/-- A reference, kept by index. -/
def Reference.of (r : Rules.SchemaQualification.Reference) : Reference :=
  ⟨r.site.index, r.name.parts, r.site.index + r.name.length⟩

variable {tokens : List Token} {s : Site}

theorem introducesTable_eq (h : s ∈ Site.all tokens) :
    introducesTable tokens s.index = .ok (Rules.SchemaQualification.introducesTable s) := by
  rw [introducesTable, Rules.SchemaQualification.introducesTable, Site.previous?]
  cases split : s.before with
  | nil => simp [Site.index, split]
  | cons p before =>
      obtain ⟨index, found⟩ := Site.of_before_eq_cons h split
      have here : item tokens (before.length + 1) = .ok s.token :=
        item_eq_ok_iff.mpr (index ▸ Site.getElem?_index h)
      simp only [index, Nat.ppred, item_eq_ok_iff.mpr found, Checked.ok_bind, List.head?_cons,
        continuesList, here]
      by_cases comma : p.isSymbol ',' <;> by_cases join : s.token.isKeyword "JOIN" <;>
        simp [comma, join]

theorem isFunction_eq (tokens : List Token) (t : Token) (n : Name) (behind : 1 ≤ n.stop) :
    isFunction tokens t n = .ok (t.isAnyKeyword ["FROM", "JOIN"] &&
      (tokens.drop n.stop).head?.any (·.isSymbol '(')) := by
  rw [isFunction, minus_of_le behind, Checked.ok_bind, isCall, Nat.sub_add_cancel behind,
    List.head?_drop]
  cases t.isAnyKeyword ["FROM", "JOIN"] <;> rfl

theorem referenceFrom?_eq {t first : Token} {rest : List Token} {start : Nat} (behind : 1 ≤ start)
    (front : tokens.drop start = first :: rest) : referenceFrom? tokens t start =
      .ok (if first.isAnyKeyword Keyword.clauses then none
        else (ObjectName.parse? (first :: rest)).bind fun name =>
          if t.isAnyKeyword ["FROM", "JOIN"] &&
            ((first :: rest).drop name.length).head?.any (·.isSymbol '(') then none
          else some ⟨start, name.parts, start + name.length⟩) := by
  have head : tokens[start]? = some first := by
    rw [← List.head?_drop, front]
    rfl
  rw [referenceFrom?, head, parse_eq, front]
  cases parsed : ObjectName.parse? (first :: rest) with
  | none => simp
  | some name =>
      have identifier : first.isIdentifier := by
        by_contra other
        simp [ObjectName.parse?, other] at parsed
      have function := isFunction_eq tokens t ⟨name.parts, start + name.length⟩
        (Nat.le_add_right_of_le behind)
      dsimp only at function
      rw [← List.drop_drop, front] at function
      simp only [identifier, Bool.not_true, Bool.false_or, Option.map_some, function,
        Checked.ok_bind, Option.bind_some]
      split
      · rfl
      · split <;> rfl

theorem referenceAt?_eq (h : s ∈ Site.all tokens) : referenceAt? tokens (s.token, s.index) =
    .ok ((introducedBy? s).map Reference.of) := by
  have front := Site.drop_succ_index h
  rw [referenceAt?, introducedBy?, introducesTable_eq h]
  cases s.token.isAnyKeyword tableKeywords with
  | false => rfl
  | true =>
      cases Rules.SchemaQualification.introducesTable s with
      | false => rfl
      | true =>
          cases after : s.after with
          | nil =>
              have none : tokens[s.index + 1]? = none := by rw [← List.head?_drop, front, after]; rfl
              simp [referenceFrom?, none]
          | cons first rest =>
              rw [after] at front
              simp only [if_true, Checked.ok_bind, Bool.and_self,
                referenceFrom?_eq (Nat.le_add_left 1 s.index) front]
              cases first.isAnyKeyword Keyword.clauses with
              | true => rfl
              | false =>
                  cases ObjectName.parse? (first :: rest) with
                  | none => rfl
                  | some name =>
                      simp only [Option.bind_some, Rules.SchemaQualification.Reference.after]
                      by_cases called : (s.token.isAnyKeyword ["FROM", "JOIN"] &&
                        ((first :: rest).drop name.length).head?.any (·.isSymbol '(')) = true
                      · simp only [called, if_true]
                        rfl
                      · simp only [called]
                        rfl

theorem references_eq (tokens : List Token) : references tokens =
    .ok ((Rules.SchemaQualification.references tokens).map Reference.of) := by
  rw [references, zipIdx_eq_map_all, collect_map_eq fun s => referenceAt?_eq,
    Rules.SchemaQualification.references, List.map_filterMap]

/-- A reference stands at a site, and its name is read there. -/
theorem of_mem_references {r : Rules.SchemaQualification.Reference}
    (h : r ∈ Rules.SchemaQualification.references tokens) : r.site ∈ Site.all tokens ∧
      ObjectName.parse? (r.site.token :: r.site.after) = some r.name := by
  obtain ⟨s, member, introduced⟩ := List.mem_filterMap.mp h
  exact Rules.SchemaQualification.Reference.of_introducedBy? s member introduced

section LocalNames

/-- Whether four neighbours introduce a common table expression. -/
def opensCommonTable (run : List Token) : Checked Bool := do
  let word ← item run 0
  if word.isKeyword "WITH" || word.isSymbol ',' then
    if (← item run 1).isIdentifier then
      if (← item run 2).isKeyword "AS" then return (← item run 3).isSymbol '(' else return false
    else return false
  else return false

def commonTableName? (run : List Token) : Checked (Option String) := do
  if ← opensCommonTable run then return some (← unquoted (← item run 1)).toLower else return none

/-- The alias of the table that a reference reaches, in lower case. -/
def aliasOfReference (tokens : List Token) (r : Reference) : Checked (Option String) := do
  return (← aliasAt tokens r.name.stop).map String.toLower

def localNames (tokens : List Token) (references : List Reference) : Checked (List String) := do
  let tables ← collect commonTableName? (← windows 4 tokens)
  let aliases ← collect (aliasOfReference tokens) references
  return tables ++ aliases

theorem commonTableName?_eq (enclosed : ∀ t ∈ tokens, t.Enclosed) (h : s ∈ Site.all tokens)
    (fits : 4 ≤ s.after.length + 1) : commonTableName? ((s.token :: s.after).take 4) =
      .ok (Rules.SchemaQualification.commonTableName? s) := by
  obtain ⟨before, word, after⟩ := s
  match after with
  | [] | [_] | [_, _] => exact absurd fits (by simp)
  | name :: as :: opening :: rest =>
      have inside : name ∈ tokens := by simp [Site.mem_all_iff.mp h]
      have opens : opensCommonTable [word, name, as, opening] =
          .ok ((word.isKeyword "WITH" || word.isSymbol ',') && name.isIdentifier
            && as.isKeyword "AS" && opening.isSymbol '(') := by
        simp only [opensCommonTable, item, List.getElem?_cons_zero, List.getElem?_cons_succ,
          Checked.ok_bind]
        cases word.isKeyword "WITH" || word.isSymbol ',' <;> cases name.isIdentifier <;>
          cases as.isKeyword "AS" <;> rfl
      have second : item [word, name, as, opening] 1 = .ok name := rfl
      simp only [List.take, commonTableName?, opens, second, Checked.ok_bind,
        unquoted_eq (enclosed name inside), Rules.SchemaQualification.commonTableName?]
      split <;> rfl

theorem localNames_eq (enclosed : ∀ t ∈ tokens, t.Enclosed) :
    localNames tokens ((Rules.SchemaQualification.references tokens).map Reference.of) =
      .ok (Rules.SchemaQualification.localNames tokens) := by
  have short (s : Site) (few : s.after.length + 1 < 4) :
      Rules.SchemaQualification.commonTableName? s = none := by
    rw [Rules.SchemaQualification.commonTableName?]
    split
    next after => simp [after] at few; omega
    next => rfl
  have tables : collect commonTableName? (windowsOf 4 tokens) =
      .ok ((Site.all tokens).filterMap Rules.SchemaQualification.commonTableName?) :=
    collect_windowsOf (fun s => commonTableName?_eq enclosed) short
  have aliases : collect (aliasOfReference tokens)
      ((Rules.SchemaQualification.references tokens).map Reference.of) =
        .ok ((Rules.SchemaQualification.references tokens).filterMap fun r =>
          (alias? r.after).map String.toLower) := by
    refine collect_map_eq fun r member => ?_
    have behind : tokens.drop (r.site.index + r.name.length) = r.after := by
      rw [← List.drop_drop, Site.drop_index (of_mem_references member).1]
      rfl
    rw [aliasOfReference, Reference.of, aliasAt_eq enclosed, behind]
    rfl
  have runs : windows 4 tokens = .ok (windowsOf 4 tokens) := rfl
  simp only [localNames, runs, tables, aliases, Checked.ok_bind, Checked.pure_eq_ok,
    Rules.SchemaQualification.localNames]

end LocalNames

section Flagging

def unqualified? (tokens : List Token) (locals : List String) (r : Reference) :
    Checked (Option Remark) :=
  if r.name.parts.length = 1 then do
    match ← r.name.object with
    | none => return none
    | some object =>
      if object.toList.head? == some '#' || locals.contains object.toLower then return none
      else
        return some (remarkAt (fun _ => s!"Object name not schema qualified: {object}")
          (← item tokens r.start))
  else return none

def schemaQualify : Inspection where
  toDescriptor := Rules.schemaQualify.toDescriptor
  inspect tokens := do
    let references ← references tokens
    let locals ← localNames tokens references
    collect (unqualified? tokens locals) references

theorem unqualified?_eq (enclosed : ∀ t ∈ tokens, t.Enclosed) (locals : List String)
    {r : Rules.SchemaQualification.Reference}
    (h : r ∈ Rules.SchemaQualification.references tokens) : unqualified? tokens locals (.of r) =
      .ok ((Rules.SchemaQualification.flag? locals r).map Flag.remark) := by
  obtain ⟨member, parsed⟩ := of_mem_references h
  have inside (t : Token) (part : some t ∈ r.name.parts) : t.Enclosed := by
    have front := ObjectName.mem_of_parse? parsed part
    rw [← Site.drop_index member] at front
    exact enclosed t (List.mem_of_mem_drop front)
  rw [unqualified?, Reference.of, Name.object_eq inside, Rules.SchemaQualification.flag?,
    item_eq_ok_iff.mpr (Site.getElem?_index member)]
  by_cases bare : r.name.parts.length = 1
  · cases r.name.object? with
    | none => simp [bare]
    | some object =>
        simp only [bare, if_true, Checked.ok_bind]
        split <;> rfl
  · simp [bare]

theorem agrees_schemaQualify : schemaQualify.Agrees Rules.schemaQualify := by
  refine ⟨rfl, fun s enclosed => ?_⟩
  simp only [schemaQualify, references_eq, localNames_eq enclosed, Checked.ok_bind,
    collect_map_eq fun r => unqualified?_eq enclosed _, Rules.schemaQualify, Rule.ofFlags,
    Rules.SchemaQualification.flags, List.map_filterMap]

end Flagging

end Indexed
end SqlLint
