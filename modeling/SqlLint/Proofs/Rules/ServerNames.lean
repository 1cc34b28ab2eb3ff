import SqlLint.Proofs.Syntax.DottedName
import SqlLint.Rules.ObjectReference

/-!
# Names with a server part

The scan for names with a server part jumps from the beginning of a name to what follows it. At the
sites it jumps over the name goes on, and no name begins there: such a site is a dot or stands
behind one. So the scan flags the same sites as a test of each site on its own would.
-/

namespace SqlLint.Rules.LinkedServer

/-- Whether a name with a server part begins at the site. -/
def beginsServerName (s : Site) : Bool :=
  !s.isMember && (ObjectName.parse? (s.token :: s.after)).any hasServer

/-- How many tokens the scan moves on by at a site. -/
def stride (s : Site) : Nat :=
  if s.isMember then 1 else (ObjectName.parse? (s.token :: s.after)).elim 1 (·.length)

/-- The objection to a name that begins at a site. -/
def flag (s : Site) : Flag := ⟨s, "Unexpected use of linked server"⟩

variable {s : Site}

theorem beginsServerName_iff : beginsServerName s ↔ s.token.isIdentifier ∧ s.isMember = false ∧
    ∃ name, ObjectName.parse? (s.token :: s.after) = some name ∧ 4 ≤ name.parts.length := by
  have begins {name : ObjectName} (parsed : ObjectName.parse? (s.token :: s.after) = some name) :
      s.token.isIdentifier := by
    by_contra other
    rw [ObjectName.parse?, if_neg other] at parsed
    cases parsed
  simp only [beginsServerName, hasServer, Bool.and_eq_true, Bool.not_eq_true', Option.any_eq_true,
    decide_eq_true_eq]
  constructor
  · rintro ⟨noMember, name, parsed, server⟩
    exact ⟨begins parsed, noMember, name, parsed, server⟩
  · rintro ⟨_, noMember, name, parsed, server⟩
    exact ⟨noMember, name, parsed, server⟩

/-- One step of the scan: the objection to a name with a server part at the first site, and the scan
of what the step leaves. -/
theorem scan_cons (s : Site) (rest : List Site) : scan (s :: rest) =
    ([s].filter beginsServerName).map flag ++ scan (rest.drop (stride s - 1)) := by
  rw [scan, stride]
  cases member : s.isMember with
  | true => simp [beginsServerName, member]
  | false =>
      cases parsed : ObjectName.parse? (s.token :: s.after) with
      | none => simp [beginsServerName, parsed]
      | some name =>
          cases server : hasServer name <;>
            simp [beginsServerName, parsed, member, server, flag]

theorem beginsServerName_of_continuesName (goesOn : s.continuesName) :
    beginsServerName s = false := by
  by_contra begins
  obtain ⟨identifier, noMember, _⟩ := beginsServerName_iff.mp (by simpa using begins)
  have noDot := ObjectName.isSymbol_eq_false_of_isIdentifier (c := '.') identifier
  simp [Site.continuesName, noMember, noDot] at goesOn

/-- The scan moves on by one token, or by a name. -/
theorem stride_eq (s : Site) : stride s = 1 ∨ stride s = s.restOfName.length + 1 := by
  rw [stride]
  split
  · exact .inl rfl
  · cases identifier : s.token.isIdentifier with
    | false => exact .inl (by simp [ObjectName.parse?, identifier])
    | true => exact .inr (by rw [ObjectName.parse?_of_isIdentifier identifier, Option.elim_some])

theorem stride_pos (s : Site) : 0 < stride s := by
  have := stride_eq s
  omega

theorem stride_le (s : Site) : stride s ≤ s.after.length + 1 := by
  have inside : s.restOfName.length ≤ s.after.length :=
    (List.takeWhile_prefix _).length_le.trans_eq (Site.length_following _ _)
  have := stride_eq s
  omega

/-- A step jumps over no other sites than such at which the name goes on. -/
theorem take_stride_isPrefix (s : Site) :
    (Site.following (s.token :: s.before) s.after).take (stride s - 1) <+: s.restOfName := by
  rcases stride_eq s with one | name
  · rw [one]
    exact List.nil_prefix
  · rw [name, Nat.add_sub_cancel, Site.restOfName,
      ← List.prefix_iff_eq_take.mp (List.takeWhile_prefix _)]

/-- The scan of consecutive sites flags those at which a name with a server part begins. -/
theorem scan_following (before tokens : List Token) : scan (Site.following before tokens) =
    ((Site.following before tokens).filter beginsServerName).map flag := by
  -- A step may jump over any number of tokens, so the induction is on how many there are.
  induction number : tokens.length using Nat.strong_induction_on generalizing before tokens with
  | _ number ih =>
    subst number
    cases tokens with
    | nil =>
        rw [Site.following, scan]
        rfl
    | cons t tokens =>
        let s : Site := ⟨before, t, tokens⟩
        let rest : List Site := Site.following (t :: before) tokens
        have skipped : (rest.take (stride s - 1)).filter beginsServerName = [] := by
          rw [List.filter_eq_nil_iff]
          intro x member
          have goesOn := List.mem_takeWhile_imp ((take_stride_isPrefix s).subset member)
          simp [beginsServerName_of_continuesName goesOn]
        have behind : scan (rest.drop (stride s - 1)) =
            ((rest.drop (stride s - 1)).filter beginsServerName).map flag := by
          rw [Site.drop_following]
          refine ih _ ?_ _ _ rfl
          rw [List.length_drop, List.length_cons]
          omega
        have apart : rest.filter beginsServerName =
            (rest.drop (stride s - 1)).filter beginsServerName := by
          conv_lhs => rw [← List.take_append_drop (stride s - 1) rest]
          rw [List.filter_append, skipped, List.nil_append]
        change scan (s :: rest) = ((s :: rest).filter beginsServerName).map flag
        rw [scan_cons, behind, ← apart, ← List.map_append, ← List.filter_append]
        rfl

/-- The scan of all sites is the test of each. -/
theorem scan_all (tokens : List Token) : scan (Site.all tokens) =
    flagWhere "Unexpected use of linked server" beginsServerName tokens :=
  scan_following [] tokens

def reported (tokens : List Token) : List Site := (scan (Site.all tokens)).map Flag.site

def finding (s : Script) (x : Site) : Finding :=
  ⟨s.path, x.token.start.line, x.token.start.column, "linked-server", .error,
    "Unexpected use of linked server"⟩

theorem reported_eq (tokens : List Token) :
    reported tokens = (Site.all tokens).filter beginsServerName := by
  simp [reported, scan_all, flagWhere, Function.comp_def]

theorem check_eq (s : Script) : linkedServer.check s = (reported s.tokens).map (finding s) := by
  change ((scan (Site.all s.tokens)).map Flag.remark).map (linkedServer.finding s) = _
  rw [reported, scan_all, flagWhere, List.map_map, List.map_map, List.map_map, List.map_map]
  rfl

/-- The rule objects to the names of four parts and more and to nothing else: its findings stand
at the identifiers that no dot precedes and from which the parser reads such a name, once and in
order. The parser reads as far as the name goes on, and each dot on the way brings a part, also when
another dot follows at once. No step of the scan stays where it is or runs past the last token, so
that the scan ends. -/
theorem reported_once_per_server_name (tokens : List Token) :
    (∀ s : Script, s.tokens = tokens →
      linkedServer.check s = (reported tokens).map (finding s)) ∧
    (reported tokens).Nodup ∧ (reported tokens).Sublist (Site.all tokens) ∧
    (∀ x, x ∈ reported tokens ↔
      x ∈ Site.all tokens ∧ x.token.isIdentifier ∧ x.isMember = false ∧
        ∃ name, ObjectName.parse? (x.token :: x.after) = some name ∧ 4 ≤ name.parts.length) ∧
    (∀ x : Site, x.token.isIdentifier → ObjectName.parse? (x.token :: x.after) =
      some ⟨some x.token :: ObjectName.partsAt x.restOfName, x.restOfName.length + 1⟩) ∧
    ∀ x ∈ Site.all tokens, 0 < stride x ∧ x.index + stride x ≤ tokens.length ∧
      scan ((Site.all tokens).drop x.index) = ([x].filter beginsServerName).map flag ++
        scan ((Site.all tokens).drop (x.index + stride x)) := by
  have inOrder : (reported tokens).Sublist (Site.all tokens) := by
    rw [reported_eq]
    exact List.filter_sublist
  refine ⟨?_, (Site.nodup_following [] tokens).sublist inOrder, inOrder, ?_, ?_, ?_⟩
  · rintro s rfl
    exact check_eq s
  · intro x
    rw [reported_eq, List.mem_filter, beginsServerName_iff]
  · intro x identifier
    exact ObjectName.parse?_of_isIdentifier identifier
  · intro x member
    have positive := stride_pos x
    have inside : x.index + stride x ≤ tokens.length := by
      have whole := congrArg List.length (Site.mem_all_iff.mp member)
      have short := stride_le x
      simp only [List.length_append, List.length_reverse, List.length_cons] at whole
      rw [Site.index]
      omega
    refine ⟨positive, inside, ?_⟩
    have behind : x.index + stride x = x.index + 1 + (stride x - 1) := by omega
    have next : (Site.all tokens).drop (x.index + 1) =
        Site.following (x.token :: x.before) x.after := by
      rw [← List.drop_drop, Site.drop_index_all member]
      rfl
    rw [Site.drop_index_all member, scan_cons, behind, ← List.drop_drop, next]

/-- Names of five and of four parts, one with a part left out, one that ends in dots before a star,
a shorter one that ends in dots before a parenthesis, and one without a server. -/
def serverNames : String :=
  "SELECT a.b.c.d.e, x....*, x...(1), db..f(2)\nFROM [l ä]\n  .db..t JOIN d.s.t ON 1 = 1"

theorem reported_once_per_server_name_of_serverNames : ∃ s,
    Script.ofText "q.sql" "" 120 serverNames = .ok s ∧
    (linkedServer.check s).map (fun f => (f.line, f.column)) = [(1, 8), (1, 19), (2, 6)] ∧
    ∀ x ∈ reported s.tokens, x.isMember = false ∧ 0 < stride x ∧
      ObjectName.parse? (x.token :: x.after) =
        some ⟨some x.token :: ObjectName.partsAt x.restOfName, x.restOfName.length + 1⟩ := by
  obtain ⟨s, made, places⟩ : ∃ s, Script.ofText "q.sql" "" 120 serverNames = .ok s ∧
      (reported s.tokens).map (fun x => (x.token.start.line, x.token.start.column)) =
        [(1, 8), (1, 19), (2, 6)] := by
    refine ⟨_, by cbv, ?_⟩
    decide +kernel
  obtain ⟨found, _, _, begins, parsed, steps⟩ := reported_once_per_server_name s.tokens
  refine ⟨s, made, ?_, fun x member => ?_⟩
  · rw [found s rfl, List.map_map]
    exact places
  · obtain ⟨inside, identifier, noMember, _⟩ := (begins x).mp member
    exact ⟨noMember, (steps x inside).1, parsed x identifier⟩

end SqlLint.Rules.LinkedServer
