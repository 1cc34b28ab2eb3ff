import SqlLint.Proofs.Rules.Sites
import SqlLint.Proofs.Rules.Spelling
import SqlLint.Rules.BuiltIn

/-!
# Rules that see canonical forms only

Sixteen of the built-in rules cannot tell a token sequence from its canonical form: they flag the
same tokens, for the same reasons up to case. Most of them filter sites by a predicate, and it is
enough that the predicate cannot tell a site from its canonical form. The others read names, keep
an open transaction or gather the names a script declares; what they keep has a canonical form too.
-/

namespace SqlLint

/-- What a flag says apart from the spelling of the script: the token, counted from the first, and
the message without regard to case. -/
def Flag.shown (f : Flag) : Nat × String := (f.site.index, f.message.toUpper)

/-- Flags that stand at tokens and show the same for the canonical form of the tokens. -/
structure Confined (flags : List Token → List Flag) : Prop where
  sites : ∀ tokens, ∀ f ∈ flags tokens, f.site ∈ Site.all tokens
  canonical : ∀ tokens,
    (flags (tokens.map Token.canonical)).map Flag.shown = (flags tokens).map Flag.shown

/-- Tokens with the same canonical forms are flagged alike. -/
theorem Confined.eq_nil_congr {flags : List Token → List Flag} {tokens others : List Token}
    (h : Confined flags) (same : tokens.map Token.canonical = others.map Token.canonical)
    (none : flags others = []) : flags tokens = [] := by
  have shown := h.canonical tokens
  rw [same, h.canonical others, none] at shown
  exact List.map_eq_nil_iff.mp shown.symm

/-- A rule that flags the sites satisfying a predicate, with a message that tells of the site. -/
theorem Confined.of_filter {p : Site → Bool} {message : Site → String}
    (blind : ∀ s : Site, p s.canonical = p s)
    (same : ∀ s, p s → (message s.canonical).toUpper = (message s).toUpper) :
    Confined fun tokens => ((Site.all tokens).filter p).map fun s => ⟨s, message s⟩ where
  sites tokens f member := by
    obtain ⟨s, inside, rfl⟩ := List.mem_map.mp member
    exact (List.mem_filter.mp inside).1
  canonical tokens := by
    rw [Site.all_map_canonical, List.filter_map, List.map_map, List.map_map, List.map_map]
    have filtered : p ∘ Site.canonical = p := funext blind
    rw [filtered]
    refine List.map_congr_left fun s member => ?_
    simp [Flag.shown, same s (List.mem_filter.mp member).2]

theorem Confined.flagWhere {p : Site → Bool} (message : String)
    (blind : ∀ s : Site, p s.canonical = p s) : Confined (flagWhere message p) :=
  .of_filter blind fun _ _ => rfl

namespace Rules

variable (s : Site)

theorem isCallOf_canonical (functions : List String) :
    isCallOf functions s.canonical = isCallOf functions s := by
  simp [isCallOf]

theorem TypeLength.inTypePosition_canonical :
    TypeLength.inTypePosition s.canonical = TypeLength.inTypePosition s := by
  obtain ⟨before, token, after⟩ := s
  cases before with
  | nil => rfl
  | cons p before => simp [TypeLength.inTypePosition, Option.any_map]

theorem TypeLength.lacksLength_canonical :
    TypeLength.lacksLength s.canonical = TypeLength.lacksLength s := by
  simp [TypeLength.lacksLength, TypeLength.inTypePosition_canonical]

theorem TypeLength.confined_flags : Confined TypeLength.flags := by
  refine .of_filter TypeLength.lacksLength_canonical fun s lacks => ?_
  simp only [TypeLength.lacksLength, Bool.and_eq_true] at lacks
  have word := Token.kind_of_isAnyKeyword lacks.1.1.1
  simp [Token.text_canonical_of_word word]

namespace Star

theorem endsInTop_map_canonical (before : List Token) :
    endsInTop (before.map Token.canonical) = endsInTop before := by
  cases before with
  | nil => rfl
  | cons last before =>
      rw [List.map_cons, endsInTop, endsInTop, ← List.map_cons,
        Parenthesis.matchingOpen?_map_canonical]
      simp only [Token.isSymbol_canonical, Char.reduceIsAlpha]
      split
      · cases Parenthesis.matchingOpen? (last :: before) <;> simp [Option.any_map]
      · simp [Option.any_map]

theorem startsItem_canonical : startsItem s.canonical = startsItem s := by
  rw [startsItem, startsItem, Site.previous?_canonical]
  cases s.previous? with
  | none => rfl
  | some p => simp [endsInTop_map_canonical]

theorem inExists_canonical : inExists s.canonical = inExists s := by
  rw [inExists, inExists, Site.before_canonical, List.dropWhile_map]
  have same : (fun t : Token => !t.isKeyword "SELECT") ∘ Token.canonical
      = fun t => !t.isKeyword "SELECT" := by
    funext t
    simp
  rw [same]
  generalize s.before.dropWhile (fun t => !t.isKeyword "SELECT") = left
  match left with
  | [] | [_] | [_, _] => rfl
  | _ :: opening :: word :: _ => simp

end Star

theorem SessionOption.confined_flags (o : SessionOption) : Confined o.flags where
  sites tokens f member := by
    rw [SessionOption.flags] at member
    split at member
    · cases member
    next s found =>
      split at member
      · cases member
      · rw [List.mem_singleton.mp member]
        exact List.mem_of_find?_eq_some found
  canonical tokens := by
    have same : (fun s : Site => s.token.isAnyKeyword o.triggers) ∘ Site.canonical
        = fun s => s.token.isAnyKeyword o.triggers := by
      funext s
      simp
    rw [SessionOption.flags, SessionOption.flags, Site.all_map_canonical, List.find?_map, same]
    cases (Site.all tokens).find? fun s => s.token.isAnyKeyword o.triggers with
    | none => rfl
    | some s =>
        simp only [Option.map_some, Site.before_canonical, ← List.map_reverse,
          Keyword.occurs_map_canonical]
        split
        · rfl
        · simp [Flag.shown]

namespace LinkedServer

theorem hasServer_canonical (n : ObjectName) : hasServer n.canonical = hasServer n := by
  simp [hasServer]

theorem site_mem_of_mem_scan {sites : List Site} {f : Flag} (member : f ∈ scan sites) :
    f.site ∈ sites := by
  fun_induction scan sites with
  | case1 => cases member
  | case2 s rest isMember ih => exact List.mem_cons_of_mem _ (ih member)
  | case3 s rest noMember none ih => exact List.mem_cons_of_mem _ (ih member)
  | case4 s rest noMember name parsed others server ih =>
      rcases List.mem_cons.mp member with rfl | member
      · exact List.mem_cons_self
      · exact List.mem_cons_of_mem _ (List.mem_of_mem_drop (ih member))
  | case5 s rest noMember name parsed others noServer ih =>
      exact List.mem_cons_of_mem _ (List.mem_of_mem_drop (ih member))

theorem shown_scan_map_canonical (sites : List Site) :
    (scan (sites.map Site.canonical)).map Flag.shown = (scan sites).map Flag.shown := by
  have parsed (s : Site) : ObjectName.parse? (s.canonical.token :: s.canonical.after)
      = (ObjectName.parse? (s.token :: s.after)).map ObjectName.canonical :=
    ObjectName.parse?_map_canonical (s.token :: s.after)
  fun_induction scan sites with
  | case1 => rw [List.map_nil, scan]
  | case2 s rest isMember ih => rw [List.map_cons, scan]; simp [isMember, ih]
  | case3 s rest noMember none ih => rw [List.map_cons, scan, parsed]; simp [noMember, none, ih]
  | case4 s rest noMember name found others server ih =>
      rw [List.map_cons, scan, parsed]
      simp [noMember, found, hasServer_canonical, server, ← List.map_drop, ih, others, Flag.shown]
  | case5 s rest noMember name found others noServer ih =>
      rw [List.map_cons, scan, parsed]
      simp [noMember, found, hasServer_canonical, noServer, ← List.map_drop, ih, others]

theorem confined_scan : Confined fun tokens => scan (Site.all tokens) where
  sites _ _ member := site_mem_of_mem_scan member
  canonical tokens := by rw [Site.all_map_canonical, shown_scan_map_canonical]

end LinkedServer

namespace Transaction

theorem begins_canonical : begins s.canonical = begins s := by
  obtain ⟨before, token, after⟩ := s
  cases after with
  | nil => simp [begins, Site.canonical]
  | cons t rest =>
      simp only [begins, Site.canonical, List.map_cons, Token.isKeyword_canonical]
      split <;> simp [Option.any_map]

theorem ends_canonical : ends s.canonical = ends s := by
  simp [ends]

/-- The name of a table at the front of a token sequence. -/
def tableAt? : List Token → Option ObjectName
  | [] => none
  | first :: rest =>
    if first.isAnyKeyword Keyword.clauses then none else ObjectName.parse? (first :: rest)

theorem tableAt?_map_canonical (tokens : List Token) :
    tableAt? (tokens.map Token.canonical) = (tableAt? tokens).map ObjectName.canonical := by
  cases tokens with
  | nil => rfl
  | cons first rest =>
      rw [List.map_cons, tableAt?, tableAt?, ← List.map_cons, ObjectName.parse?_map_canonical,
        Token.isAnyKeyword_canonical]
      split <;> rfl

theorem parse?_of_tableAt? {tokens : List Token} {name : ObjectName}
    (found : tableAt? tokens = some name) : ObjectName.parse? tokens = some name := by
  cases tokens with
  | nil => cases found
  | cons first rest =>
      rw [tableAt?] at found
      split at found
      · cases found
      · exact found

/-- The tokens at which the target of a statement stands. -/
def afterInto : List Token → List Token
  | [] => []
  | t :: rest => if t.isAnyKeyword ["INTO", "FROM"] then rest else t :: rest

theorem afterInto_map_canonical (tokens : List Token) :
    afterInto (tokens.map Token.canonical) = (afterInto tokens).map Token.canonical := by
  cases tokens with
  | nil => rfl
  | cons t rest =>
      simp only [List.map_cons, afterInto, Token.isAnyKeyword_canonical]
      split <;> rfl

theorem target?_eq : target? s = tableAt? (afterInto s.after) := by
  obtain ⟨before, token, after⟩ := s
  cases after with
  | nil => rfl
  | cons t rest =>
      by_cases into : t.isAnyKeyword ["INTO", "FROM"]
      · simp only [target?, afterInto, into, if_true]
        cases rest <;> rfl
      · simp only [target?, afterInto, into]
        rfl

theorem target?_canonical : target? s.canonical = (target? s).map ObjectName.canonical := by
  rw [target?_eq, target?_eq, Site.after_canonical, afterInto_map_canonical,
    tableAt?_map_canonical]

theorem writes?_canonical : writes? s.canonical = writes? s := by
  rw [writes?, writes?, Site.token_canonical, Token.isAnyKeyword_canonical, target?_canonical]
  split
  · cases found : target? s with
    | none => rfl
    | some name =>
        rw [target?_eq] at found
        have parsed := parse?_of_tableAt? found
        simp [ObjectName.database?_canonical parsed, Option.map_map, Function.comp_def]
  · rfl

/-- The open transaction with its site in the form in which rules compare it. -/
def Span.canonical (t : Span) : Span := { t with opened := t.opened.canonical }

theorem Span.shown_flag?_canonical (t : Span) :
    t.canonical.flag?.toList.map Flag.shown = t.flag?.toList.map Flag.shown := by
  by_cases several : t.databases.length > 1
  · simp [flag?, canonical, several, Flag.shown]
  · simp [flag?, canonical, several]

theorem site_mem_of_mem_scan {open? : Option Span} {sites : List Site} {f : Flag}
    (member : f ∈ scan open? sites) : f.site ∈ open?.toList.map Span.opened ++ sites := by
  fun_induction scan open? sites with
  | case1 => cases member
  | case2 s rest begin_ ih => simpa using ih member
  | case3 s rest noBegin ih => simpa using .inr (by simpa using ih member)
  | case4 t s rest begin_ ih => have := ih member; simp at this ⊢; tauto
  | case5 t s rest noBegin end_ outermost ih =>
      rcases List.mem_append.mp member with flagged | later
      · rw [Span.flag?] at flagged
        split at flagged
        · simp [List.mem_singleton.mp flagged]
        · cases flagged
      · have := ih later
        simp at this ⊢
        tauto
  | case6 t s rest noBegin end_ outer inner ih => have := ih member; simp at this ⊢; tauto
  | case7 t s rest noBegin noEnd database written ih => have := ih member; simp at this ⊢; tauto
  | case8 t s rest noBegin noEnd none ih => have := ih member; simp at this ⊢; tauto

theorem shown_scan_map_canonical (open? : Option Span) (sites : List Site) :
    (scan (open?.map Span.canonical) (sites.map Site.canonical)).map Flag.shown
      = (scan open? sites).map Flag.shown := by
  fun_induction scan open? sites with
  | case1 => simp [scan]
  | case2 s rest begin_ ih => simpa [scan, begins_canonical, begin_, Span.canonical] using ih
  | case3 s rest noBegin ih => simpa [scan, begins_canonical, noBegin] using ih
  | case4 t s rest begin_ ih =>
      simpa [scan, Span.canonical, begins_canonical, begin_] using ih
  | case5 t s rest noBegin end_ outermost ih =>
      have closed : scan (some t.canonical) (s.canonical :: rest.map Site.canonical)
          = t.canonical.flag?.toList ++ scan none (rest.map Site.canonical) := by
        simp [scan, begins_canonical, noBegin, ends_canonical, end_, Span.canonical, outermost]
      rw [Option.map_some, List.map_cons, closed, List.map_append, List.map_append,
        Span.shown_flag?_canonical]
      exact congrArg _ ih
  | case6 t s rest noBegin end_ outer inner ih =>
      simpa [scan, begins_canonical, noBegin, ends_canonical, end_, Span.canonical, inner] using ih
  | case7 t s rest noBegin noEnd database written ih =>
      simpa [scan, begins_canonical, noBegin, ends_canonical, noEnd, writes?_canonical, written,
        Span.canonical] using ih
  | case8 t s rest noBegin noEnd none ih =>
      simpa [scan, begins_canonical, noBegin, ends_canonical, noEnd, writes?_canonical, none,
        Span.canonical] using ih

theorem confined_scan : Confined fun tokens => scan none (Site.all tokens) where
  sites _ _ member := by simpa using site_mem_of_mem_scan member
  canonical tokens := by
    rw [Site.all_map_canonical]
    exact shown_scan_map_canonical none _

end Transaction

namespace SchemaQualification

theorem introducesTable_canonical : introducesTable s.canonical = introducesTable s := by
  rw [introducesTable, introducesTable, Site.previous?_canonical]
  cases s.previous? with
  | none => rfl
  | some p => simp

namespace Reference

/-- The reference with all tokens in the form in which rules compare them. -/
def canonical (r : Reference) : Reference := ⟨r.site.canonical, r.name.canonical⟩

@[simp] theorem after_canonical (r : Reference) :
    r.canonical.after = r.after.map Token.canonical := by
  rw [after, after, List.map_drop]
  rfl

theorem introducedBy?_canonical : introducedBy? s.canonical = (introducedBy? s).map canonical := by
  obtain ⟨before, token, after⟩ := s
  cases after with
  | nil => simp [introducedBy?, Site.canonical]
  | cons first rest =>
      have introduces : introducesTable ⟨before.map Token.canonical, token.canonical,
          first.canonical :: rest.map Token.canonical⟩ =
            introducesTable ⟨before, token, first :: rest⟩ :=
        introducesTable_canonical ⟨before, token, first :: rest⟩
      have parsed : ObjectName.parse? (first.canonical :: rest.map Token.canonical)
          = (ObjectName.parse? (first :: rest)).map ObjectName.canonical :=
        ObjectName.parse?_map_canonical (first :: rest)
      simp only [introducedBy?, Site.canonical, List.map_cons, Token.isAnyKeyword_canonical,
        introduces, parsed]
      split
      · split
        · rfl
        · cases ObjectName.parse? (first :: rest) with
          | none => rfl
          | some name =>
              let r : Reference := ⟨⟨token :: before, first, rest⟩, name⟩
              have call : r.canonical.after.head?.any (·.isSymbol '(')
                  = r.after.head?.any (·.isSymbol '(') := by
                rw [after_canonical]
                simp [Option.any_map]
              refine (congrArg (fun called => if token.isAnyKeyword ["FROM", "JOIN"] && called
                then none else some r.canonical) call).trans ?_
              simp only
              split <;> rfl
      · rfl

/-- The name of a reference is what its tokens spell, and they belong to the sequence. -/
theorem of_introducedBy? {tokens : List Token} {r : Reference} (member : s ∈ Site.all tokens)
    (introduced : introducedBy? s = some r) :
    r.site ∈ Site.all tokens ∧
      ObjectName.parse? (r.site.token :: r.site.after) = some r.name := by
  rw [introducedBy?] at introduced
  split at introduced
  case isFalse => cases introduced
  split at introduced
  · cases introduced
  next first rest after =>
    split at introduced
    · cases introduced
    split at introduced
    · cases introduced
    next name parsed =>
      dsimp only at introduced
      split at introduced
      · cases introduced
      cases introduced
      refine ⟨?_, parsed⟩
      rw [Site.mem_all_iff] at member ⊢
      simp [member, after]

end Reference

theorem commonTableName?_canonical : commonTableName? s.canonical = commonTableName? s := by
  obtain ⟨before, token, after⟩ := s
  match after with
  | [] | [_] | [_, _] => rfl
  | name :: as :: opening :: rest =>
      by_cases identifier : name.isIdentifier
      · simp [commonTableName?, Site.canonical, Token.foldedName_canonical identifier]
      · simp [commonTableName?, Site.canonical, identifier]

theorem references_map_canonical (tokens : List Token) :
    references (tokens.map Token.canonical) = (references tokens).map Reference.canonical := by
  rw [references, references, Site.all_map_canonical, List.filterMap_map, List.map_filterMap]
  exact congrArg (List.filterMap · _) (funext Reference.introducedBy?_canonical)

theorem localNames_map_canonical (tokens : List Token) :
    localNames (tokens.map Token.canonical) = localNames tokens := by
  rw [localNames, localNames, Site.all_map_canonical, references_map_canonical,
    List.filterMap_map, List.filterMap_map]
  congr 1
  · exact congrArg (List.filterMap · _) (funext commonTableName?_canonical)
  · refine congrArg (List.filterMap · _) (funext fun r => ?_)
    simp [alias?_map_canonical]

theorem shown_flag?_canonical {tokens : List Token} {r : Reference} (locals : List String)
    (parsed : ObjectName.parse? tokens = some r.name) :
    (flag? locals r.canonical).map Flag.shown = (flag? locals r).map Flag.shown := by
  have length : r.canonical.name.parts.length = r.name.parts.length := by
    simp [Reference.canonical]
  have object : r.canonical.name.object? = r.name.object?.map String.toUpper :=
    ObjectName.object?_canonical parsed
  rw [flag?, flag?, length, object]
  split
  · cases r.name.object? with
    | none => rfl
    | some object =>
        have head : (object.toUpper.toList.head? == some '#') =
            (object.toList.head? == some '#') := by
          cases h : object.toList <;>
            simp [String.toUpper, String.toList_map, h, Ascii.toUpper_eq_iff]
        simp only [Option.map_some, Ascii.toLower_toUpper, head]
        split
        · rfl
        · simp only [Option.map_some, Flag.shown, Reference.canonical, Site.index_canonical,
            Ascii.toUpper_append]
          exact congrArg (fun text => some (r.site.index, _ ++ text)) (Ascii.toUpper_toUpper object)
  · rfl

theorem site_of_flag? {locals : List String} {r : Reference} {f : Flag}
    (flagged : flag? locals r = some f) : f.site = r.site := by
  rw [flag?] at flagged
  split at flagged
  · split at flagged
    · cases flagged
    · split at flagged
      · cases flagged
      · cases flagged
        rfl
  · cases flagged

theorem confined_flags : Confined flags where
  sites tokens f member := by
    obtain ⟨r, inside, flagged⟩ := List.mem_filterMap.mp member
    obtain ⟨s, site, introduced⟩ := List.mem_filterMap.mp inside
    rw [site_of_flag? flagged]
    exact (Reference.of_introducedBy? s site introduced).1
  canonical tokens := by
    rw [flags, flags, localNames_map_canonical, references_map_canonical, List.filterMap_map,
      List.map_filterMap, List.map_filterMap]
    refine List.filterMap_congr fun r inside => ?_
    obtain ⟨s, site, introduced⟩ := List.mem_filterMap.mp inside
    exact shown_flag?_canonical _ (Reference.of_introducedBy? s site introduced).2

end SchemaQualification

end Rules
end SqlLint
