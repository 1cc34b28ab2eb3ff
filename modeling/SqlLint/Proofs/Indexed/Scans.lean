import SqlLint.Proofs.Indexed.Inspection

/-!
# Rules that look at runs, at a front part, or jump

One rule looks at each two neighbours, four look for words in front of the first statement of a
sort, and one goes on behind each name it has read. The sites stand in the order of the tokens, so an
index into the tokens is an index into the sites, and each of them sees what the rule sees.
-/

namespace SqlLint

namespace Site

variable {tokens : List Token} {i : Nat}

theorem index_getElem_following (before : List Token) (h : i < (following before tokens).length) :
    (following before tokens)[i].index = before.length + i := by
  induction tokens generalizing before i with
  | nil => cases h
  | cons t tokens ih =>
      cases i with
      | zero => rfl
      | succ i =>
          have next := ih (t :: before) (Nat.lt_of_succ_lt_succ h)
          simp only [following, List.getElem_cons_succ, next, List.length_cons]
          omega

/-- There is a site for each index. -/
theorem exists_drop_all (h : i < tokens.length) : ∃ s ∈ all tokens, s.index = i ∧
    (all tokens).drop i = s :: (all tokens).drop (i + 1) := by
  have inside : i < (all tokens).length := by rwa [all, length_following]
  refine ⟨(all tokens)[i], List.getElem_mem inside, ?_, List.drop_eq_getElem_cons inside⟩
  exact (index_getElem_following [] inside).trans (Nat.zero_add i)

theorem findIdx?_eq (p : Token → Bool) (tokens : List Token) :
    tokens.findIdx? p = ((all tokens).find? fun s => p s.token).map index := by
  have from_ (before : List Token) : (tokens.findIdx? p).map (· + before.length) =
      ((following before tokens).find? fun s => p s.token).map index := by
    induction tokens generalizing before with
    | nil => rfl
    | cons t tokens ih =>
        rw [List.findIdx?_cons, following, List.find?_cons]
        cases p t with
        | true => simp [index]
        | false =>
            rw [← ih (t :: before), if_neg Bool.false_ne_true, Option.map_map]
            simp [Function.comp_def, Nat.add_assoc, Nat.add_comm 1]
  simpa [all] using from_ []

end Site

namespace Indexed

section Runs

/-- What is found in the runs of neighbours is found at the sites where the runs begin. -/
theorem collect_windowsOf {β : Type} {size : Nat} {before tokens : List Token}
    {find : List Token → Checked (Option β)} {g : Site → Option β}
    (long : ∀ s ∈ Site.following before tokens, size ≤ s.after.length + 1 →
      find ((s.token :: s.after).take size) = .ok (g s))
    (short : ∀ s : Site, s.after.length + 1 < size → g s = none) :
    collect find (windowsOf size tokens) = .ok ((Site.following before tokens).filterMap g) := by
  induction tokens generalizing before with
  | nil => rfl
  | cons t tokens ih =>
      obtain ⟨first, others⟩ := List.forall_mem_cons.mp long
      have rest := ih others
      rw [windowsOf, Site.following, List.filterMap_cons]
      split
      case isTrue fits =>
        rw [collect, first fits, Checked.ok_bind, rest, Checked.ok_bind]
        cases g ⟨before, t, tokens⟩ <;> rfl
      case isFalse few =>
        have noRun : windowsOf size tokens = [] := by
          cases tokens with
          | nil => rfl
          | cons u tokens => exact if_neg fun fits => few (Nat.le_succ_of_le fits)
        rw [short ⟨before, t, tokens⟩ (Nat.lt_of_not_le few), ← rest, noRun]

def settingRemark (t : Token) : Remark :=
  remarkAt (fun _ => "Expected variable to be set using SELECT statement") t

/-- The remark on two neighbours, if they set a variable. -/
def settingRemark? (run : List Token) : Checked (Option Remark) := do
  let word ← item run 0
  if word.isKeyword "SET" then
    if (← item run 1).kind == .variable then return some (settingRemark word) else return none
  else return none

def setVariable : Inspection where
  toDescriptor := Rules.setVariable.toDescriptor
  inspect tokens := do collect settingRemark? (← windows 2 tokens)

/-- Whether a variable is set at a site. -/
def setsVariable (s : Site) : Bool := s.token.isKeyword "SET" && s.next?.any (·.kind == .variable)

theorem settingRemark?_eq {s : Site} (fits : 2 ≤ s.after.length + 1) :
    settingRemark? ((s.token :: s.after).take 2) =
      .ok (if setsVariable s then some (settingRemark s.token) else none) := by
  obtain ⟨before, word, after⟩ := s
  cases after with
  | nil => exact absurd fits (by simp)
  | cons t after =>
      have next : item [word, t] 1 = .ok t := rfl
      have run : (word :: t :: after).take 2 = [word, t] := rfl
      rw [run, settingRemark?, next]
      simp only [item, List.getElem?_cons_zero, Checked.ok_bind, setsVariable, Site.next?,
        List.head?_cons, Option.any_some]
      by_cases set : word.isKeyword "SET" <;> by_cases assigned : t.kind = .variable <;>
        simp [set, assigned]

theorem agrees_setVariable : setVariable.Agrees Rules.setVariable := by
  refine ⟨rfl, fun s _ => ?_⟩
  have short (s : Site) (few : s.after.length + 1 < 2) :
      (if setsVariable s then some (settingRemark s.token) else none) = none := by
    have none : s.after = [] := List.eq_nil_of_length_eq_zero (by omega)
    simp [setsVariable, Site.next?, none]
  have runs : windows 2 s.tokens = .ok (windowsOf 2 s.tokens) := rfl
  have found : collect settingRemark? (windowsOf 2 s.tokens) =
      .ok (((Site.all s.tokens).filter setsVariable).map fun s => settingRemark s.token) := by
    rw [← List.filterMap_eq_map, List.filterMap_filter]
    exact collect_windowsOf (fun _ _ => settingRemark?_eq) short
  simp only [setVariable, runs, Checked.ok_bind, found, Rules.setVariable, Rule.ofFlags, flagWhere,
    List.map_map]
  rfl

end Runs

section Options

/-- Asks for a session option in front of the first statement that it has to precede. -/
def sessionOption (d : Descriptor) (o : Rules.SessionOption) : Inspection where
  toDescriptor := d
  inspect tokens :=
    match tokens.findIdx? (·.isAnyKeyword o.triggers) with
    | none => return []
    | some first => do
      if (← findSequence (← upTo tokens first) o.setting).isSome then return []
      else return [remarkAt (fun _ => o.message) (← item tokens first)]

theorem agrees_sessionOption (d : Descriptor) (o : Rules.SessionOption) :
    (sessionOption d o).Agrees (.ofFlags d o.flags) := by
  refine ⟨rfl, fun s _ => ?_⟩
  simp only [sessionOption, Site.findIdx?_eq, Rule.ofFlags, Rules.SessionOption.flags]
  cases first : (Site.all s.tokens).find? fun t => t.token.isAnyKeyword o.triggers with
  | none => rfl
  | some trigger =>
      have member := List.mem_of_find?_eq_some first
      have front : upTo s.tokens trigger.index = .ok trigger.before.reverse := by
        rw [Site.mem_all_iff.mp member, Site.index, ← List.length_reverse]
        exact upTo_length_append _ _
      obtain ⟨found, sought, occurs⟩ := exists_findSequence_eq trigger.before.reverse o.setting
      simp only [Option.map_some, front, Checked.ok_bind, sought, occurs,
        item_eq_ok_iff.mpr (Site.getElem?_index member)]
      split <;> rfl

end Options

section Jumping

/-- The remark on a name that begins at an index, if the name has a server part. -/
def serverRemark? (tokens : List Token) (i : Nat) (n : Name) : Checked (Option Remark) :=
  if 4 ≤ n.parts.length then do
    return some (remarkAt (fun _ => "Unexpected use of linked server") (← item tokens i))
  else return none

/-- The remarks on the names with a server part, from an index on. The scan goes on behind each name
that it has read. -/
def serverRemarksFrom (tokens : List Token) (i : Nat) : Checked (List Remark) :=
  if i < tokens.length then do
    if ← isMember tokens i then serverRemarksFrom tokens (i + 1)
    else
      match parse tokens i with
      | none => serverRemarksFrom tokens (i + 1)
      | some name =>
        let here ← serverRemark? tokens i name
        let others ← serverRemarksFrom tokens (max name.stop (i + 1))
        return here.toList ++ others
  else return []
termination_by tokens.length - i

def linkedServer : Inspection where
  toDescriptor := Rules.linkedServer.toDescriptor
  inspect tokens := serverRemarksFrom tokens 0

theorem serverRemarksFrom_eq (tokens : List Token) (i : Nat) : serverRemarksFrom tokens i =
    .ok ((Rules.LinkedServer.scan ((Site.all tokens).drop i)).map Flag.remark) := by
  -- The scan may jump over any number of tokens, so the induction is on how many are left.
  induction left : tokens.length - i using Nat.strong_induction_on generalizing i with
  | _ left ih =>
    subst left
    rw [serverRemarksFrom]
    by_cases inside : i < tokens.length
    · obtain ⟨s, member, rfl, sites⟩ := Site.exists_drop_all inside
      have further (j : Nat) (later : s.index < j) := ih (tokens.length - j) (by omega) j rfl
      have next := further (s.index + 1) (by omega)
      rw [if_pos inside, sites, Rules.LinkedServer.scan, isMember_eq member, Checked.ok_bind,
        parse_eq, Site.drop_index member]
      by_cases isMember : s.isMember
      · simp [isMember, next]
      · cases parsed : ObjectName.parse? (s.token :: s.after) with
        | none => simp [isMember, next]
        | some name =>
            have jump : max (s.index + name.length) (s.index + 1) =
                s.index + 1 + (name.length - 1) := by omega
            have behind := further (s.index + 1 + (name.length - 1)) (by omega)
            by_cases server : 4 ≤ name.parts.length
            · have here := item_eq_ok_iff.mpr (Site.getElem?_index member)
              simp [isMember, jump, behind, serverRemark?, Rules.LinkedServer.hasServer, server,
                here, Flag.remark, remarkAt]
            · simp [isMember, jump, behind, serverRemark?, Rules.LinkedServer.hasServer, server]
    · rw [if_neg inside, List.drop_eq_nil_of_le, Rules.LinkedServer.scan]
      · rfl
      · rw [Site.all, Site.length_following]
        exact Nat.le_of_not_lt inside

theorem agrees_linkedServer : linkedServer.Agrees Rules.linkedServer :=
  ⟨rfl, fun s _ => serverRemarksFrom_eq s.tokens 0⟩

end Jumping

end Indexed
end SqlLint
