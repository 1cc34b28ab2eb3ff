import SqlLint.Proofs.Rules.LocalNames

/-!
# Names with a schema put before them

Where the rule objects to a name, a schema and a dot before it are what it asks for. They change
none of the windows through which the rule looks at tokens: a name it objects to stands behind a
keyword that introduces a table, so neither inside of a dotted name nor where a common table
expression is declared, and it is no alias, since an alias needs no schema. So the references stay
the same ones, those it objected to have a schema now, and the script declares the names that it
declared before.
-/

namespace SqlLint.Rules.SchemaQualification

open ObjectName

def schema : Token := ⟨.word, "dbo", .start⟩

def dot : Token := ⟨.symbol, ".", .start⟩

/-- The tokens with a schema before each one that is marked. -/
def qualify (marked tokens : List Token) : List Token :=
  tokens.flatMap fun t => if t ∈ marked then [schema, dot, t] else [t]

/-- Marked tokens are names that stand behind keywords which introduce tables. -/
structure Introduced (marked tokens : List Token) : Prop where
  identifier : ∀ t ∈ marked, t.isIdentifier
  plain : ∀ t ∈ marked, t.isAnyKeyword Keyword.clauses = false
  chain : tokens.IsChain fun p t => t ∈ marked → p.isAnyKeyword tableKeywords

/-- What is compared of a reference: its name, and what follows it. -/
def Reference.seen (r : Reference) : ObjectName × List Token := (r.name, r.after)

/-- The name of a reference with a schema before it, if the reference is marked. -/
def Reference.qualified (marked : List Token) (r : Reference) : ObjectName :=
  if r.site.token ∈ marked then ⟨some schema :: r.name.parts, r.name.length + 2⟩ else r.name

variable {marked tokens rest more before before' : List Token} {t p : Token} {r : Reference}

section Words

theorem isSymbol_dot : dot.isSymbol '.' := rfl

theorem isAnyKeyword_clauses_schema : schema.isAnyKeyword Keyword.clauses = false := by
  decide +kernel

theorem isKeyword_schema {keyword : String} (clause : keyword ∈ Keyword.clauses) :
    schema.isKeyword keyword = false := by
  simpa using List.any_eq_false.mp isAnyKeyword_clauses_schema keyword clause

/-- The keywords of declarations do not introduce tables. -/
theorem isAnyKeyword_tableKeywords_eq_false {keyword : String} (listed : keyword ∈ ["WITH", "AS"])
    (word : t.isKeyword keyword) : t.isAnyKeyword tableKeywords = false := by
  have apart : ∀ keyword ∈ ["WITH", "AS"], ∀ other ∈ tableKeywords,
      Ascii.sameIgnoringCase keyword other = false := by decide +kernel
  exact Token.isAnyKeyword_eq_false word (apart keyword listed)

end Words

section Qualify

@[simp] theorem qualify_nil : qualify marked [] = [] := rfl

theorem qualify_cons_of_mem (member : t ∈ marked) :
    qualify marked (t :: tokens) = schema :: dot :: t :: qualify marked tokens := by
  simp [qualify, member]

theorem qualify_cons_of_notMem (absent : t ∉ marked) :
    qualify marked (t :: tokens) = t :: qualify marked tokens := by
  simp [qualify, absent]

/-- A sequence begins with what it began with before, or with a schema before a marked token. -/
theorem exists_of_qualify_eq_cons (whole : qualify marked tokens = t :: rest) :
    (∃ more, tokens = t :: more ∧ qualify marked more = rest) ∨
      t = schema ∧ ∃ u more, tokens = u :: more ∧ u ∈ marked := by
  cases tokens with
  | nil => cases whole
  | cons u more =>
      by_cases member : u ∈ marked
      · rw [qualify_cons_of_mem member] at whole
        exact .inr ⟨(List.cons.inj whole).1.symm, u, more, rfl, member⟩
      · rw [qualify_cons_of_notMem member] at whole
        obtain ⟨rfl, same⟩ := List.cons.inj whole
        exact .inl ⟨more, rfl, same⟩

namespace Introduced

theorem of_suffix (h : Introduced marked tokens) (part : rest <:+ tokens) :
    Introduced marked rest :=
  ⟨h.identifier, h.plain, h.chain.suffix part⟩

theorem of_cons (h : Introduced marked (t :: tokens)) : Introduced marked tokens :=
  h.of_suffix (List.suffix_cons t tokens)

theorem notMem_of_clause (h : Introduced marked tokens) (word : t.isAnyKeyword Keyword.clauses) :
    t ∉ marked := by
  intro member
  rw [h.plain t member] at word
  cases word

theorem notMem_of_isSymbol (h : Introduced marked tokens) {c : Char} (symbol : t.isSymbol c) :
    t ∉ marked := by
  intro member
  have identifier := h.identifier t member
  rw [isIdentifier_eq_false_of_isSymbol symbol] at identifier
  cases identifier

theorem isAnyKeyword_tableKeywords (h : Introduced marked tokens) (member : t ∈ marked) :
    t.isAnyKeyword tableKeywords = false :=
  Token.isAnyKeyword_eq_false_of_subset (h.plain t member) (by decide)

/-- No marked token stands behind a token that introduces no table. -/
theorem notMem_of_cons (h : Introduced marked (p :: t :: tokens))
    (other : p.isAnyKeyword tableKeywords = false) : t ∉ marked := by
  intro member
  have word := (List.isChain_cons_cons.mp h.chain).1 member
  rw [other] at word
  cases word

end Introduced

theorem head?_any_isSymbol_qualify (h : Introduced marked tokens) (c : Char) :
    (qualify marked tokens).head?.any (·.isSymbol c) = tokens.head?.any (·.isSymbol c) := by
  cases tokens with
  | nil => rfl
  | cons t tokens =>
      by_cases member : t ∈ marked
      · rw [qualify_cons_of_mem member]
        have noSymbol : t.isSymbol c = false := by
          by_contra symbol
          exact h.notMem_of_isSymbol (by simpa using symbol) member
        simp only [List.head?_cons, Option.any_some, noSymbol]
        rfl
      · rw [qualify_cons_of_notMem member]
        rfl

end Qualify

section Names

theorem further_eq_of_head? (other : tokens.head?.any (·.isSymbol '.') = false) :
    further tokens = ([], 0) := by
  match tokens with
  | [] | [_] => rfl
  | t :: u :: tokens =>
      have noDot : t.isSymbol '.' = false := by simpa using other
      simp [further, noDot]

/-- The parts of a name behind the first one are read as before, and so is what follows them. -/
theorem further_qualify (h : Introduced marked tokens) :
    further (qualify marked tokens) = further tokens ∧
      (qualify marked tokens).drop (further tokens).2 =
        qualify marked (tokens.drop (further tokens).2) := by
  fun_induction further tokens with
  | case1 point next rest isDot identifier ih =>
      have here := h.notMem_of_isSymbol isDot
      have there := h.notMem_of_cons (Token.isAnyKeyword_eq_false_of_isSymbol isDot)
      obtain ⟨same, dropped⟩ := ih h.of_cons.of_cons
      rw [qualify_cons_of_notMem here, qualify_cons_of_notMem there]
      simp [further, isDot, identifier, same, dropped]
  | case2 point next rest isDot other again ih =>
      have here := h.notMem_of_isSymbol isDot
      have there := h.of_cons.notMem_of_isSymbol again
      obtain ⟨same, dropped⟩ := ih h.of_cons
      rw [qualify_cons_of_notMem there] at same dropped
      rw [qualify_cons_of_notMem here, qualify_cons_of_notMem there]
      simp [further, isDot, other, again, same, dropped]
  | case3 point next rest isDot other end_ =>
      have here := h.notMem_of_isSymbol isDot
      have there := h.notMem_of_cons (Token.isAnyKeyword_eq_false_of_isSymbol isDot)
      simp [further, isDot, other, end_, qualify_cons_of_notMem here, qualify_cons_of_notMem there]
  | case4 point next rest noDot =>
      refine ⟨further_eq_of_head? ?_, rfl⟩
      rw [head?_any_isSymbol_qualify h]
      simpa using noDot
  | case5 tokens short =>
      refine ⟨?_, rfl⟩
      rcases tokens with _ | ⟨t, _ | ⟨next, rest⟩⟩
      · rfl
      · by_cases member : t ∈ marked
        · rw [qualify_cons_of_mem member]
          exact further_eq_of_head? rfl
        · rw [qualify_cons_of_notMem member]
          rfl
      · exact absurd rfl (short t next rest)

/-- Reading the reference behind a keyword: the first token is an identifier and no keyword, and no
call stands there. -/
theorem introducedBy?_cons {first : Token} : Reference.introducedBy? ⟨before, t, first :: more⟩ =
    if t.isAnyKeyword tableKeywords && introducesTable ⟨before, t, first :: more⟩ &&
      !first.isAnyKeyword Keyword.clauses && first.isIdentifier &&
      !(t.isAnyKeyword ["FROM", "JOIN"] &&
        (more.drop (further more).2).head?.any (·.isSymbol '('))
    then some ⟨⟨t :: before, first, more⟩, ⟨some first :: (further more).1, (further more).2 + 1⟩⟩
    else none := by
  rw [Reference.introducedBy?]
  cases t.isAnyKeyword tableKeywords && introducesTable ⟨before, t, first :: more⟩ with
  | false => rfl
  | true =>
      dsimp only
      cases first.isAnyKeyword Keyword.clauses with
      | true => rfl
      | false =>
          cases identifier : first.isIdentifier with
          | false => simp [parse?, identifier]
          | true =>
              simp only [parse?, identifier, if_true, Reference.after, List.drop_succ_cons]
              cases t.isAnyKeyword ["FROM", "JOIN"] &&
                (more.drop (further more).2).head?.any (·.isSymbol '(') <;> rfl

/-- A keyword introduces the reference that it introduced before, by the same name or the same name
with a schema. What stands before the keyword counts by its last token. -/
theorem introducedBy?_qualify (h : Introduced marked (t :: rest))
    (last : before'.head? = before.head?) :
    (Reference.introducedBy? ⟨before', t, qualify marked rest⟩).map Reference.seen =
      (Reference.introducedBy? ⟨before, t, rest⟩).map fun r =>
        (r.qualified marked, qualify marked r.after) := by
  have introduces (tokens : List Token) : introducesTable ⟨before', t, tokens⟩ =
      introducesTable ⟨before, t, rest⟩ := by
    simp only [introducesTable, Site.previous?, last]
  cases rest with
  | nil => simp [Reference.introducedBy?]
  | cons first more =>
      obtain ⟨same, dropped⟩ := further_qualify h.of_cons.of_cons
      have behind := h.of_cons.of_cons.of_suffix (List.drop_suffix (further more).2 more)
      have called := head?_any_isSymbol_qualify behind '('
      by_cases member : first ∈ marked
      · have clause : first.isAnyKeyword Keyword.clauses = false := h.plain first member
        have identifier : first.isIdentifier := h.identifier first member
        have extended : further (dot :: first :: qualify marked more) =
            (some first :: (further more).1, (further more).2 + 2) := by
          simp [further, identifier, same, dot, Token.isSymbol]
        rw [qualify_cons_of_mem member, introducedBy?_cons, introducedBy?_cons, introduces,
          extended]
        simp only [List.drop_succ_cons, dropped, called, clause, identifier,
          isAnyKeyword_clauses_schema, show schema.isIdentifier = true from rfl]
        split
        · simp [Reference.seen, Reference.qualified, Reference.after, member, dropped]
        · rfl
      · rw [qualify_cons_of_notMem member, introducedBy?_cons, introducedBy?_cons, introduces, same,
          dropped, called]
        split
        · simp [Reference.seen, Reference.qualified, Reference.after, member, dropped]
        · rfl

theorem introducedBy?_eq_none {s : Site} (other : s.token.isAnyKeyword tableKeywords = false) :
    Reference.introducedBy? s = none := by
  simp [Reference.introducedBy?, other]

/-- The references are those that there were before, by the same names or, where they are marked,
the same names with a schema. -/
theorem map_seen_references (h : Introduced marked tokens) :
    (references (qualify marked tokens)).map Reference.seen =
      (references tokens).map fun r => (r.qualified marked, qualify marked r.after) := by
  -- Of the tokens before a keyword, the last one is the same with and without schemas.
  have following (before before' : List Token) (last : before'.head? = before.head?) :
      ((Site.following before' (qualify marked tokens)).filterMap
        Reference.introducedBy?).map Reference.seen =
      ((Site.following before tokens).filterMap Reference.introducedBy?).map
        fun r => (r.qualified marked, qualify marked r.after) := by
    induction tokens generalizing before before' with
    | nil => rfl
    | cons t tokens ih =>
        by_cases member : t ∈ marked
        · have plain := h.isAnyKeyword_tableKeywords member
          have bare : schema.isAnyKeyword tableKeywords = false :=
            Token.isAnyKeyword_eq_false_of_subset isAnyKeyword_clauses_schema (by decide)
          have noWord : dot.isAnyKeyword tableKeywords = false :=
            Token.isAnyKeyword_eq_false_of_isSymbol isSymbol_dot
          have later := ih h.of_cons (t :: before) (t :: dot :: schema :: before') rfl
          rw [qualify_cons_of_mem member]
          simp only [Site.following]
          rw [List.filterMap_cons_none (introducedBy?_eq_none bare),
            List.filterMap_cons_none (introducedBy?_eq_none noWord),
            List.filterMap_cons_none (introducedBy?_eq_none plain),
            List.filterMap_cons_none (introducedBy?_eq_none plain), later]
        · have introduced := introducedBy?_qualify h last
          have later := ih h.of_cons (t :: before) (t :: before') rfl
          rw [List.map_filterMap, List.map_filterMap] at later ⊢
          rw [qualify_cons_of_notMem member, Site.following, Site.following,
            List.filterMap_cons, List.filterMap_cons, introduced, later]
  exact following [] [] rfl

end Names

section Local

theorem commonTableName?_eq_none {s : Site} (word : s.token.isKeyword "WITH" = false)
    (comma : s.token.isSymbol ',' = false) : commonTableName? s = none := by
  rw [commonTableName?]
  split
  · simp [word, comma]
  · rfl

/-- Nothing but what declared a common table expression before declares one. -/
theorem commonTableName?_qualify (h : Introduced marked (t :: rest)) (before before' : List Token) :
    commonTableName? ⟨before', t, qualify marked rest⟩ = commonTableName? ⟨before, t, rest⟩ := by
  have lead (first : t.isKeyword "WITH" ∨ t.isSymbol ',') :
      t.isAnyKeyword tableKeywords = false := by
    rcases first with word | symbol
    · exact isAnyKeyword_tableKeywords_eq_false (by decide) word
    · exact Token.isAnyKeyword_eq_false_of_isSymbol symbol
  refine Option.ext fun n => ?_
  rw [commonTableName?_eq_some_iff, commonTableName?_eq_some_iff]
  constructor
  · rintro ⟨name, as, opening, tail, after, first, identifier, word, opens, same⟩
    rcases exists_of_qualify_eq_cons after with ⟨_, rfl, behindName⟩ | ⟨_, u, more, rfl, member⟩
    case inr => exact absurd member (h.notMem_of_cons (lead first))
    rcases exists_of_qualify_eq_cons behindName with ⟨_, rfl, behindAs⟩ | ⟨rfl, _⟩
    case inr => exact absurd word (Bool.eq_false_iff.mp (isKeyword_schema (by decide)))
    rcases exists_of_qualify_eq_cons behindAs with ⟨tail, rfl, _⟩ | ⟨rfl, _⟩
    case inr => exact absurd opens (by decide)
    exact ⟨name, as, opening, tail, rfl, first, identifier, word, opens, same⟩
  · rintro ⟨name, as, opening, tail, rfl, first, identifier, word, opens, same⟩
    have noName : name ∉ marked := h.notMem_of_cons (lead first)
    have noAs : as ∉ marked := h.notMem_of_clause (isAnyKeyword_clauses_of_as word)
    have noOpening : opening ∉ marked := h.notMem_of_isSymbol opens
    refine ⟨name, as, opening, qualify marked tail, ?_, first, identifier, word, opens, same⟩
    rw [qualify_cons_of_notMem noName, qualify_cons_of_notMem noAs,
      qualify_cons_of_notMem noOpening]

theorem filterMap_commonTableName?_qualify (h : Introduced marked tokens)
    (before before' : List Token) :
    (Site.following before' (qualify marked tokens)).filterMap commonTableName? =
      (Site.following before tokens).filterMap commonTableName? := by
  induction tokens generalizing before before' with
  | nil => rfl
  | cons t tokens ih =>
      have later := ih h.of_cons
      by_cases member : t ∈ marked
      · have bare (before tokens : List Token) :
            commonTableName? ⟨before, schema, tokens⟩ = none ∧
              commonTableName? ⟨before, dot, tokens⟩ = none :=
          ⟨commonTableName?_eq_none (isKeyword_schema (by decide)) rfl,
            commonTableName?_eq_none rfl rfl⟩
        rw [qualify_cons_of_mem member]
        simp only [Site.following]
        rw [List.filterMap_cons_none (bare _ _).1, List.filterMap_cons_none (bare _ _).2,
          List.filterMap_cons, List.filterMap_cons, commonTableName?_qualify h before,
          later (t :: before)]
      · rw [qualify_cons_of_notMem member, Site.following, Site.following, List.filterMap_cons,
          List.filterMap_cons, commonTableName?_qualify h before before', later (t :: before)]

/-- An alias is the one that it was before, unless it is marked. -/
theorem alias?_qualify (h : Introduced marked rest)
    (unmarked : ∀ name, NamesAlias rest name → name ∉ marked) :
    alias? (qualify marked rest) = alias? rest := by
  cases rest with
  | nil => rfl
  | cons t more =>
      have first : t ∉ marked := fun member =>
        unmarked t ⟨[], more, rfl, .inl rfl, h.identifier t member, h.plain t member⟩ member
      rw [qualify_cons_of_notMem first]
      by_cases word : t.isKeyword "AS"
      · cases more with
        | nil => rfl
        | cons u more =>
            have second : u ∉ marked :=
              h.notMem_of_cons (isAnyKeyword_tableKeywords_eq_false (by decide) word)
            simp [alias?, word, qualify_cons_of_notMem second]
      · simp [alias?, word]

theorem Introduced.after (h : Introduced marked tokens) (member : r ∈ references tokens) :
    Introduced marked r.after := by
  have split := Site.mem_all_iff.mp (Reference.exists_site member).1
  have site : r.site.token :: r.site.after <:+ tokens := ⟨_, split.symm⟩
  exact h.of_suffix ((List.drop_suffix r.name.length _).trans site)

/-- The script declares the names that it declared before. -/
theorem localNames_qualify (h : Introduced marked tokens)
    (unmarked : ∀ r ∈ references tokens, ∀ name, NamesAlias r.after name → name ∉ marked) :
    localNames (qualify marked tokens) = localNames tokens := by
  let folded (tokens : List Token) : Option String := (alias? tokens).map String.toLower
  have declared := filterMap_commonTableName?_qualify h [] []
  have kept (r : Reference) (member : r ∈ references tokens) :
      folded (qualify marked r.after) = folded r.after :=
    congrArg (Option.map String.toLower) (alias?_qualify (h.after member) (unmarked r member))
  have aliases : (references (qualify marked tokens)).filterMap (fun r => folded r.after) =
      (references tokens).filterMap fun r => folded r.after :=
    calc (references (qualify marked tokens)).filterMap (fun r => folded r.after)
      _ = ((references (qualify marked tokens)).map Reference.seen).filterMap
          (fun s => folded s.2) := by
        rw [List.filterMap_map]
        rfl
      _ = (references tokens).filterMap fun r => folded (qualify marked r.after) := by
        rw [map_seen_references h, List.filterMap_map]
        rfl
      _ = (references tokens).filterMap fun r => folded r.after := List.filterMap_congr kept
  rw [localNames, localNames, Site.all, Site.all, declared]
  exact congrArg (_ ++ ·) aliases

end Local

section Reported

/-- The tokens at which the rule objects to a reference. -/
def targets (tokens : List Token) : List Token := (reported tokens).map Site.token

/-- A reference stands behind a keyword and begins with an identifier. -/
theorem Reference.exists_keyword (member : r ∈ references tokens) :
    ∃ keyword before, r.site.before = keyword :: before ∧ keyword.isAnyKeyword tableKeywords ∧
      r.site.token.isIdentifier ∧ r.site.token.isAnyKeyword Keyword.clauses = false := by
  obtain ⟨s, _, introduced⟩ := List.mem_filterMap.mp member
  obtain ⟨table, _, _, before, plain, parsed, _⟩ := introducedBy?_eq_some_iff.mp introduced
  refine ⟨s.token, s.before, before, table, ?_, plain⟩
  by_contra other
  simp [parse?, other] at parsed

theorem mem_targets_iff : t ∈ targets tokens ↔ ∃ r ∈ references tokens, r.site.token = t ∧
    r.name.parts.length = 1 ∧ t.name.toList.head? ≠ some '#' ∧
      t.foldedName ∉ localNames tokens := by
  simp only [targets, List.mem_map, mem_reported_iff]
  constructor
  · rintro ⟨_, ⟨⟨r, member, rfl, single⟩, named, undeclared⟩, rfl⟩
    exact ⟨r, member, rfl, single, named, undeclared⟩
  · rintro ⟨r, member, rfl, single, named, undeclared⟩
    exact ⟨_, ⟨⟨r, member, rfl, single⟩, named, undeclared⟩, rfl⟩

theorem introduced_targets (distinct : tokens.Nodup) : Introduced (targets tokens) tokens where
  identifier t target := by
    obtain ⟨r, member, rfl, _⟩ := mem_targets_iff.mp target
    obtain ⟨_, _, _, _, identifier, _⟩ := Reference.exists_keyword member
    exact identifier
  plain t target := by
    obtain ⟨r, member, rfl, _⟩ := mem_targets_iff.mp target
    obtain ⟨_, _, _, _, _, plain⟩ := Reference.exists_keyword member
    exact plain
  chain := by
    rw [List.isChain_iff_forall_rel_of_append_cons_cons]
    intro p t front after split target
    obtain ⟨r, member, rfl, _⟩ := mem_targets_iff.mp target
    obtain ⟨keyword, before, behind, word, _⟩ := Reference.exists_keyword member
    -- Tokens are distinct, so the one before is the keyword of the reference.
    have here : ⟨p :: front.reverse, r.site.token, after⟩ ∈ Site.all tokens := by
      rw [Site.mem_all_iff, split]
      simp
    have same := Site.eq_of_token distinct here (Reference.exists_site member).1 rfl
    rw [← same] at behind
    obtain rfl := (List.cons.inj behind).1
    exact word

/-- No alias is a target, since aliases need no schema. -/
theorem notMem_targets_of_alias (member : r ∈ references tokens) {name : Token}
    (alias_ : NamesAlias r.after name) : name ∉ targets tokens := by
  intro target
  obtain ⟨_, _, _, _, _, undeclared⟩ := mem_targets_iff.mp target
  exact undeclared (mem_localNames_iff.mpr (.inr ⟨r, member, name, alias_, rfl⟩))

/-- Whether there is an objection depends on the name of a reference alone. -/
theorem flag?_eq_none_congr {locals : List String} {r' : Reference} (same : r'.name = r.name) :
    flag? locals r' = none ↔ flag? locals r = none := by
  rw [flag?, flag?, same]
  split
  · cases r.name.object? with
    | none => rfl
    | some object =>
        dsimp only
        split <;> simp
  · rfl

/-- The rule objects to nothing once a schema stands before all it objected to. -/
theorem flags_qualify (distinct : tokens.Nodup) : flags (qualify (targets tokens) tokens) = [] := by
  have h := introduced_targets distinct
  rw [flags, List.filterMap_eq_nil_iff, localNames_qualify h fun _ member _ =>
    notMem_targets_of_alias member]
  intro r' member'
  have seen : r'.seen ∈ _ := List.mem_map_of_mem member'
  rw [map_seen_references h] at seen
  obtain ⟨r, member, same⟩ := List.mem_map.mp seen
  have name : r'.name = r.qualified (targets tokens) := (congrArg Prod.fst same).symm
  rw [Reference.qualified] at name
  split at name
  case isTrue target =>
    have parsed := (Reference.exists_site member).2
    have some : r.name.parts ≠ [] := by
      rw [parse?] at parsed
      split at parsed
      · rw [← Option.some.inj parsed]
        exact List.cons_ne_nil _ _
      · cases parsed
    have longer : r'.name.parts.length ≠ 1 := by
      rw [name]
      simpa using some
    rw [flag?, if_neg longer]
  case isFalse other =>
    rw [flag?_eq_none_congr name, flag?_eq member]
    refine if_neg fun subject => other ?_
    exact mem_targets_iff.mpr ⟨r, member, rfl, subject⟩

end Reported

end SqlLint.Rules.SchemaQualification
