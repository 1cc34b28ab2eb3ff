import SqlLint.Proofs.Rules.Confinement
import SqlLint.Proofs.Syntax.Balance
import SqlLint.Proofs.Syntax.DottedName

/-!
# Names that a script declares for itself

A script declares names as common table expressions and as aliases of what stands behind `FROM` or
`JOIN`. The rule that asks for schemas takes a name for declared if it stands between `WITH` or a
comma and `AS (`, or if it follows a table reference that the rule reads, as an alias; a reference
by such a name needs no schema. It does not see the columns that may stand between the name of a
common table expression and `AS`, and reads no reference where a table variable, a call or a query
in parentheses stands instead of the name of a table. The names declared in these ways are reported.
-/

namespace SqlLint.Rules.SchemaQualification

open Parenthesis ObjectName

def reported (tokens : List Token) : List Site := (flags tokens).map Flag.site

def finding (s : Script) (x : Site) : Finding :=
  ⟨s.path, x.token.start.line, x.token.start.column, "schema-qualify", .error,
    "Object name not schema qualified: " ++ x.token.name⟩

/-- Tokens in parentheses. -/
inductive Group : List Token → Prop
  | enclosed {opening closing : Token} {inner : List Token} (opens : opening.isSymbol '(')
      (balanced : Balanced inner) (closes : closing.isSymbol ')') :
      Group (opening :: (inner ++ [closing]))

/-- A common table expression is declared, with `columns` between its name and `AS`. -/
def DeclaresTable (tokens columns : List Token) (name : Token) : Prop :=
  ∃ front lead as opening rest,
    tokens = front ++ lead :: name :: (columns ++ as :: opening :: rest) ∧
    (lead.isKeyword "WITH" ∨ lead.isSymbol ',') ∧ name.isIdentifier ∧ as.isKeyword "AS" ∧
    opening.isSymbol '('

/-- What may stand behind `FROM` or `JOIN`. -/
inductive Source : List Token → Prop
  | table {name : List Token} (dotted : Dotted name)
      (plain : ∀ t ∈ name.head?, t.isAnyKeyword Keyword.clauses = false) : Source name
  | variableName {t : Token} (kind : t.kind = .variable) : Source [t]
  | call {name arguments : List Token} (dotted : Dotted name) (group : Group arguments) :
      Source (name ++ arguments)
  | query {tokens : List Token} (group : Group tokens) : Source tokens

/-- An alias is the first identifier, `AS` apart, and no keyword of a clause. -/
def NamesAlias (tokens : List Token) (name : Token) : Prop :=
  ∃ as rest, tokens = as ++ name :: rest ∧ (as = [] ∨ ∃ t, as = [t] ∧ t.isKeyword "AS") ∧
    name.isIdentifier ∧ name.isAnyKeyword Keyword.clauses = false

/-- An alias is declared for what stands behind `FROM` or `JOIN`. -/
def DeclaresAlias (tokens front : List Token) (keyword : Token) (source : List Token)
    (name : Token) : Prop :=
  ∃ after, tokens = front ++ keyword :: (source ++ after) ∧
    keyword.isAnyKeyword ["FROM", "JOIN"] ∧ NamesAlias after name

/-- A name is declared as a common table expression, with or without columns, or as an alias. -/
def Declares (tokens : List Token) (name : Token) : Prop :=
  (∃ columns, (columns = [] ∨ Group columns) ∧ DeclaresTable tokens columns name) ∨
  ∃ front keyword source, Source source ∧ DeclaresAlias tokens front keyword source name

variable {tokens after : List Token} {x s : Site} {r : Reference} {t : Token} {n : String}

section Declared

theorem isAnyKeyword_clauses_of_as (word : t.isKeyword "AS") : t.isAnyKeyword Keyword.clauses :=
  Token.isAnyKeyword_of_mem word (by decide)

theorem alias?_eq_some_iff :
    alias? after = some n ↔ ∃ name, NamesAlias after name ∧ name.name = n := by
  constructor
  · intro found
    cases after with
    | nil => simp [alias?] at found
    | cons t rest =>
        by_cases word : t.isKeyword "AS"
        · cases rest with
          | nil => simp [alias?, word] at found
          | cons u rest =>
              simp only [alias?, word, if_true, Option.ite_none_right_eq_some, Bool.and_eq_true,
                Bool.not_eq_true', Option.some.injEq] at found
              exact ⟨u, ⟨[t], rest, rfl, .inr ⟨t, rfl, word⟩, found.1⟩, found.2⟩
        · simp only [alias?, word, Bool.false_eq_true, if_false, Option.ite_none_right_eq_some,
            Bool.and_eq_true, Bool.not_eq_true', Option.some.injEq] at found
          exact ⟨t, ⟨[], rest, rfl, .inl rfl, found.1⟩, found.2⟩
  · rintro ⟨name, ⟨as, rest, rfl, either, identifier, plain⟩, rfl⟩
    rcases either with rfl | ⟨t, rfl, word⟩
    · have notAs : name.isKeyword "AS" = false := by
        by_contra word
        rw [isAnyKeyword_clauses_of_as (by simpa using word)] at plain
        cases plain
      simp [alias?, notAs, identifier, plain]
    · simp [alias?, word, identifier, plain]

theorem commonTableName?_eq_some_iff : commonTableName? s = some n ↔
    ∃ name as opening rest, s.after = name :: as :: opening :: rest ∧
      (s.token.isKeyword "WITH" ∨ s.token.isSymbol ',') ∧ name.isIdentifier ∧ as.isKeyword "AS" ∧
      opening.isSymbol '(' ∧ name.foldedName = n := by
  rw [commonTableName?]
  split
  next name as opening rest after => simp [after, and_assoc]
  next short =>
    constructor
    · intro found
      cases found
    · rintro ⟨name, as, opening, rest, after, _⟩
      exact absurd after (short name as opening rest)

/-- The names that need no schema are those of common table expressions without columns and the
aliases of the references that the rule reads. -/
theorem mem_localNames_iff : n ∈ localNames tokens ↔
    (∃ name, DeclaresTable tokens [] name ∧ name.foldedName = n) ∨
    ∃ r ∈ references tokens, ∃ name, NamesAlias r.after name ∧ name.foldedName = n := by
  rw [localNames, List.mem_append, List.mem_filterMap, List.mem_filterMap]
  refine or_congr ?_ ?_
  · constructor
    · rintro ⟨s, member, found⟩
      obtain ⟨name, as, opening, rest, after, lead, identifier, word, opens, same⟩ :=
        commonTableName?_eq_some_iff.mp found
      rw [Site.mem_all_iff, after] at member
      exact ⟨name, ⟨_, _, as, opening, rest, member, lead, identifier, word, opens⟩, same⟩
    · rintro ⟨name, ⟨front, lead, as, opening, rest, split, first, identifier, word, opens⟩, same⟩
      refine ⟨⟨front.reverse, lead, name :: as :: opening :: rest⟩, ?_,
        commonTableName?_eq_some_iff.mpr
          ⟨name, as, opening, rest, rfl, first, identifier, word, opens, same⟩⟩
      rw [Site.mem_all_iff, List.reverse_reverse, split]
      rfl
  · simp only [Option.map_eq_some_iff, alias?_eq_some_iff, exists_exists_and_eq_and]
    rfl

end Declared

section Reported

theorem Reference.exists_site (member : r ∈ references tokens) :
    r.site ∈ Site.all tokens ∧
      ObjectName.parse? (r.site.token :: r.site.after) = some r.name := by
  obtain ⟨s, site, introduced⟩ := List.mem_filterMap.mp member
  exact Reference.of_introducedBy? s site introduced

/-- The object of a name without a schema is what its token names. -/
theorem Reference.object?_eq (member : r ∈ references tokens) (single : r.name.parts.length = 1) :
    r.name.object? = some r.site.token.name := by
  have parsed := (Reference.exists_site member).2
  rw [ObjectName.parse?] at parsed
  split at parsed
  · rw [← Option.some.inj parsed] at single ⊢
    have none : (further r.site.after).1 = [] := by simpa using single
    simp [object?, none]
  · cases parsed

/-- The rule objects to a name without a schema that is neither temporary nor declared. -/
theorem flag?_eq {locals : List String} (member : r ∈ references tokens) :
    flag? locals r =
      if r.name.parts.length = 1 ∧ r.site.token.name.toList.head? ≠ some '#' ∧
        r.site.token.foldedName ∉ locals
      then some ⟨r.site, "Object name not schema qualified: " ++ r.site.token.name⟩ else none := by
  rw [flag?]
  split
  case isTrue single =>
    rw [Reference.object?_eq member single]
    simp only [Bool.or_eq_true, beq_iff_eq, List.contains_iff_mem, single, true_and]
    split
    case isTrue exempt =>
      rw [if_neg]
      rintro ⟨named, undeclared⟩
      exact exempt.elim named undeclared
    case isFalse subject =>
      have bare : r.site.token.name.toList.head? ≠ some '#' ∧
          r.site.token.foldedName ∉ locals := not_or.mp subject
      exact (if_pos bare).symm
  case isFalse qualified => rw [if_neg fun subject => qualified subject.1]

theorem mem_reported_iff : x ∈ reported tokens ↔
    (∃ r ∈ references tokens, r.site = x ∧ r.name.parts.length = 1) ∧
      x.token.name.toList.head? ≠ some '#' ∧ x.token.foldedName ∉ localNames tokens := by
  rw [reported, flags, List.map_filterMap, List.mem_filterMap]
  constructor
  · rintro ⟨r, member, flagged⟩
    rw [flag?_eq member] at flagged
    split at flagged
    case isTrue subject =>
      obtain rfl := Option.some.inj flagged
      exact ⟨⟨r, member, rfl, subject.1⟩, subject.2⟩
    case isFalse => cases flagged
  · rintro ⟨⟨r, member, rfl, single⟩, subject⟩
    exact ⟨r, member, by rw [flag?_eq member, if_pos ⟨single, subject⟩]; rfl⟩

theorem check_eq (s : Script) :
    schemaQualify.check s = (reported s.tokens).map (finding s) := by
  rw [reported, List.map_map]
  show ((flags s.tokens).map Flag.remark).map (schemaQualify.finding s) = _
  rw [List.map_map]
  refine List.map_congr_left fun f member => ?_
  obtain ⟨r, inside, flagged⟩ := List.mem_filterMap.mp member
  rw [flag?_eq inside] at flagged
  split at flagged
  · obtain rfl := Option.some.inj flagged
    rfl
  · cases flagged

end Reported

section Aliases

variable {front source name : List Token} {keyword : Token}

/-- A reference is introduced by a keyword and begins right behind it. -/
theorem introducedBy?_eq_some_iff : Reference.introducedBy? s = some r ↔
    s.token.isAnyKeyword tableKeywords ∧ introducesTable s ∧
      s.after = r.site.token :: r.site.after ∧ r.site.before = s.token :: s.before ∧
      r.site.token.isAnyKeyword Keyword.clauses = false ∧
      ObjectName.parse? (r.site.token :: r.site.after) = some r.name ∧
      (s.token.isAnyKeyword ["FROM", "JOIN"] → r.after.head?.any (·.isSymbol '(') = false) := by
  rw [Reference.introducedBy?]
  constructor
  · intro introduced
    split at introduced
    case isFalse => cases introduced
    next table =>
      rw [Bool.and_eq_true] at table
      split at introduced
      · cases introduced
      next first rest after =>
        split at introduced
        · cases introduced
        next plain =>
          split at introduced
          · cases introduced
          next n parsed =>
            dsimp only at introduced
            split at introduced
            · cases introduced
            next noCall =>
              cases introduced
              exact ⟨table.1, table.2, after, rfl, by simpa using plain, parsed,
                by simpa using noCall⟩
  · rintro ⟨table, introduces, after, before, plain, parsed, noCall⟩
    obtain ⟨⟨before', first, rest⟩, n⟩ := r
    cases before
    have called : (s.token.isAnyKeyword ["FROM", "JOIN"] &&
        (Reference.after ⟨⟨s.token :: s.before, first, rest⟩, n⟩).head?.any (·.isSymbol '(')) =
          false := by
      simpa using noCall
    simp only [table, introduces, after, plain, parsed, called, Bool.and_self, if_true,
      Bool.false_eq_true, if_false]

/-- The name of a table behind `FROM` or `JOIN` is a reference that the rule reads, unless the
keyword introduces no table or a call stands there. -/
theorem exists_reference (word : keyword.isAnyKeyword ["FROM", "JOIN"])
    (introduces : introducesTable ⟨front.reverse, keyword, name ++ after⟩)
    (dotted : Dotted name) (plain : ∀ t ∈ name.head?, t.isAnyKeyword Keyword.clauses = false)
    (stops : ∀ t ∈ after.head?, t.isSymbol '.' = false ∧ t.isSymbol '(' = false) :
    ∃ r ∈ references (front ++ keyword :: (name ++ after)), r.after = after := by
  obtain ⟨n, parsed, length⟩ := parse?_of_dotted dotted fun t first => (stops t first).1
  obtain ⟨first, more, rfl, identifier⟩ := dotted.exists_cons
  let r : Reference := ⟨⟨keyword :: front.reverse, first, more ++ after⟩, n⟩
  have behind : r.after = after := by
    show ((first :: more) ++ after).drop n.length = after
    rw [length, List.drop_left]
  have noCall : r.after.head?.any (·.isSymbol '(') = false := by
    rw [behind]
    cases next : after.head? with
    | none => rfl
    | some t => exact (stops t next).2
  have site : ⟨front.reverse, keyword, first :: more ++ after⟩ ∈
      Site.all (front ++ keyword :: (first :: more ++ after)) := by
    rw [Site.mem_all_iff, List.reverse_reverse]
  have table : keyword.isAnyKeyword tableKeywords := Token.isAnyKeyword_of_subset word (by decide)
  have introduced :
      Reference.introducedBy? ⟨front.reverse, keyword, first :: more ++ after⟩ = some r :=
    introducedBy?_eq_some_iff.mpr ⟨table, introduces, rfl, rfl, plain first rfl, parsed,
      fun _ => noCall⟩
  exact ⟨r, List.mem_filterMap.mpr ⟨_, site, introduced⟩, behind⟩

/-- What names an alias begins with no symbol. -/
theorem NamesAlias.isSymbol_eq_false {alias_ : Token} (names : NamesAlias after alias_) (c : Char) :
    ∀ t ∈ after.head?, t.isSymbol c = false := by
  obtain ⟨as, rest, rfl, either, identifier, _⟩ := names
  rcases either with rfl | ⟨as, rfl, word⟩
  · rintro _ ⟨⟩
    by_contra symbol
    rw [isIdentifier_eq_false_of_isSymbol (by simpa using symbol)] at identifier
    cases identifier
  · rintro _ ⟨⟩
    exact Token.isSymbol_eq_false_of_isKeyword word c

end Aliases

/-- A reference by a name without a schema is reported unless the name is temporary, is that of a
common table expression without columns, or is the alias of a reference that the rule reads. The
names of tables behind `FROM` and `JOIN` are such references, where these introduce a table. -/
theorem plain_declarations_exempt (tokens : List Token) :
    (∀ s : Script, s.tokens = tokens →
      schemaQualify.check s = (reported tokens).map (finding s)) ∧
    (∀ x, x ∈ reported tokens ↔
      (∃ r ∈ references tokens, r.site = x ∧ r.name.parts.length = 1) ∧
      x.token.name.toList.head? ≠ some '#' ∧
      (∀ name, DeclaresTable tokens [] name → name.foldedName ≠ x.token.foldedName) ∧
      ∀ r ∈ references tokens, ∀ name, NamesAlias r.after name →
        name.foldedName ≠ x.token.foldedName) ∧
    ∀ front keyword source name, DeclaresAlias tokens front keyword source name →
      introducesTable ⟨front.reverse, keyword, []⟩ → Dotted source →
      (∀ t ∈ source.head?, t.isAnyKeyword Keyword.clauses = false) →
      ∀ x ∈ reported tokens, x.token.foldedName ≠ name.foldedName := by
  refine ⟨?_, fun x => ?_, ?_⟩
  · rintro s rfl
    exact check_eq s
  · rw [mem_reported_iff, mem_localNames_iff]
    simp only [not_or, not_exists, not_and]
  · intro front keyword source name declared introduces dotted plain x member same
    obtain ⟨after, rfl, word, alias_⟩ := declared
    have stops : ∀ t ∈ after.head?, t.isSymbol '.' = false ∧ t.isSymbol '(' = false :=
      fun t first => ⟨alias_.isSymbol_eq_false '.' t first, alias_.isSymbol_eq_false '(' t first⟩
    obtain ⟨r, inside, rfl⟩ := exists_reference word introduces dotted plain stops
    have undeclared := (mem_reported_iff.mp member).2.2
    rw [mem_localNames_iff] at undeclared
    exact undeclared (.inr ⟨r, inside, name, alias_, same.symm⟩)

/-- A name between delimiters without a schema, the alias of another one, and a name that nothing
declares. -/
def aliasOfTable : String := "UPDATE x SET a = 1 FROM [R] AS [X]; DELETE FROM y"

theorem plain_declarations_exempt_of_aliasOfTable : ∃ s,
    Script.ofText "q.sql" "" 120 aliasOfTable = .ok s ∧
    (reported s.tokens).map (fun x => (x.token.name, x.token.start.column)) =
      [("R", 25), ("y", 49)] ∧
    (∀ x ∈ reported s.tokens, finding s x ∈ schemaQualify.check s ∧
      ∃ r ∈ references s.tokens, r.site = x ∧ r.name.parts.length = 1) ∧
    ∀ x ∈ reported s.tokens, x.token.foldedName ≠ "x" := by
  obtain ⟨s, made, locals, places, split, word, as, identifier, clause, introduces, single, plain,
      folded⟩ :
      ∃ s, Script.ofText "q.sql" "" 120 aliasOfTable = .ok s ∧ localNames s.tokens = ["x"] ∧
      (((references s.tokens).filterMap (flag? ["x"])).map Flag.site).map
        (fun x => (x.token.name, x.token.start.column)) = [("R", 25), ("y", 49)] ∧
      s.tokens = s.tokens.take 6 ++ s.tokens[6]! :: ([s.tokens[7]!] ++
        ([s.tokens[8]!] ++ s.tokens[9]! :: s.tokens.drop 10)) ∧
      s.tokens[6]!.isAnyKeyword ["FROM", "JOIN"] ∧ s.tokens[8]!.isKeyword "AS" ∧
      s.tokens[9]!.isIdentifier ∧ s.tokens[9]!.isAnyKeyword Keyword.clauses = false ∧
      introducesTable ⟨(s.tokens.take 6).reverse, s.tokens[6]!, []⟩ ∧
      s.tokens[7]!.isIdentifier ∧ s.tokens[7]!.isAnyKeyword Keyword.clauses = false ∧
      s.tokens[9]!.foldedName = "x" := by
    refine ⟨_, by cbv, ?_⟩
    decide +kernel
  rw [← locals] at places
  obtain ⟨found, which, exempt⟩ := plain_declarations_exempt s.tokens
  have declared : DeclaresAlias s.tokens (s.tokens.take 6) s.tokens[6]! [s.tokens[7]!]
      s.tokens[9]! := by
    refine ⟨_, split, word, _, _, rfl, .inr ⟨_, rfl, as⟩, identifier, clause⟩
  have heads : ∀ t ∈ [s.tokens[7]!].head?, t.isAnyKeyword Keyword.clauses = false := by
    rintro _ ⟨⟩
    exact plain
  refine ⟨s, made, places, fun x member => ⟨?_, ((which x).mp member).1⟩, ?_⟩
  · rw [found s rfl]
    exact List.mem_map_of_mem member
  · rw [← folded]
    exact exempt _ _ _ _ declared introduces (.single single) heads

/-- The alias of a table variable. -/
def aliasOfVariable : String := "UPDATE x SET a = 1 FROM @t AS x;"

theorem alias_of_variable_reported : ∃ s,
    Script.ofText "q.sql" "" 120 aliasOfVariable = .ok s ∧ ∃ x ∈ reported s.tokens,
    finding s x ∈ schemaQualify.check s ∧
    ∃ name, Declares s.tokens name ∧ name.foldedName = x.token.foldedName := by
  obtain ⟨s, made, names, split, word, kind, as, identifier, clause, folded⟩ :
      ∃ s, Script.ofText "q.sql" "" 120 aliasOfVariable = .ok s ∧
      (reported s.tokens).map (·.token.foldedName) = ["x"] ∧
      s.tokens = s.tokens.take 6 ++ s.tokens[6]! :: ([s.tokens[7]!] ++
        ([s.tokens[8]!] ++ s.tokens[9]! :: s.tokens.drop 10)) ∧
      s.tokens[6]!.isAnyKeyword ["FROM", "JOIN"] ∧ s.tokens[7]!.kind = .variable ∧
      s.tokens[8]!.isKeyword "AS" ∧ s.tokens[9]!.isIdentifier ∧
      s.tokens[9]!.isAnyKeyword Keyword.clauses = false ∧ s.tokens[9]!.foldedName = "x" := by
    refine ⟨_, by cbv, ?_⟩
    decide +kernel
  obtain ⟨x, only, same⟩ := List.map_eq_singleton_iff.mp names
  have member : x ∈ reported s.tokens := only ▸ List.mem_singleton_self x
  refine ⟨s, made, x, member, ?_, s.tokens[9]!, .inr ?_, folded.trans same.symm⟩
  · rw [check_eq]
    exact List.mem_map_of_mem member
  · exact ⟨_, _, _, .variableName kind, _, split, word, _, _, rfl, .inr ⟨_, rfl, as⟩, identifier,
      clause⟩

end SqlLint.Rules.SchemaQualification
