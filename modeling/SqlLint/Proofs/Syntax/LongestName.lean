import SqlLint.Proofs.Indexed.Syntax
import SqlLint.Proofs.Syntax.DottedName

/-!
# The longest dotted name

What the parser reads from an identifier on is pinned down by the tokens it takes: identifiers and
dots, no two identifiers next to each other, and no way to go on behind them. Each dot of the name
has a token behind it, either the identifier that is the next part, or another dot, and then the next
part is left out. So there is one part more than there are dots, and parts can be counted from the
end whatever is left out.
-/

namespace SqlLint

namespace ObjectName

/-- The tokens from `start` up to `stop`, each with the one behind it if there is one. -/
def withNext (tokens : List Token) (start stop : Nat) : List (Token × Token) :=
  (tokens.extract start stop).zip (tokens.drop (start + 1))

/-- The tokens from `start` up to `stop` are the longest dotted name there, with the given parts. -/
structure LongestName (tokens : List Token) (start stop : Nat) (parts : List (Option Token)) :
    Prop where
  nonempty : start < stop
  inside : stop ≤ tokens.length
  kinds : ∀ t ∈ tokens.extract start stop, t.isIdentifier ∨ t.isSymbol '.'
  begins : (tokens.extract start stop).head?.any (·.isIdentifier)
  apart : (tokens.extract start stop).IsChain fun t u => ¬ (t.isIdentifier ∧ u.isIdentifier)
  /-- The parts that are not left out are the identifiers, in order. -/
  present : parts.reduceOption = (tokens.extract start stop).filter (·.isIdentifier)
  dots : parts.length = (tokens.extract start stop).countP (·.isSymbol '.') + 1
  /-- A part is left out for each dot that another dot follows. -/
  omitted : parts.countP (·.isNone) =
    (withNext tokens start stop).countP fun (t, next) => t.isSymbol '.' && next.isSymbol '.'
  /-- Behind the first part, each dot brings the part that stands behind it. -/
  aligned : parts.tail = ((withNext tokens start stop).filter fun (t, _) => t.isSymbol '.').map
    fun (_, next) => if next.isIdentifier then some next else none
  /-- The name does not go on. -/
  longest : ∀ t, tokens[stop]? = some t → t.isSymbol '.' →
    ∀ next, tokens[stop + 1]? = some next → ¬ next.isIdentifier ∧ ¬ next.isSymbol '.'

section Further

variable {t : Token} {rest : List Token}

theorem length_further_le (rest : List Token) : (further rest).2 ≤ rest.length := by
  fun_induction further rest with
  | case1 dot next rest _ _ ih =>
      simp only [List.length_cons]
      omega
  | case2 dot next rest _ _ _ ih =>
      simp only [List.length_cons] at ih ⊢
      omega
  | case3 | case4 | case5 => exact Nat.zero_le _

theorem isIdentifier_or_isSymbol_of_further (member : t ∈ rest.take (further rest).2) :
    t.isIdentifier ∨ t.isSymbol '.' := by
  fun_induction further rest with
  | case1 dot next rest isDot identifier ih =>
      rcases List.mem_cons.mp member with rfl | member
      · exact .inr isDot
      · rcases List.mem_cons.mp member with rfl | member
        · exact .inl identifier
        · exact ih member
  | case2 dot next rest isDot _ _ ih =>
      rcases List.mem_cons.mp member with rfl | member
      · exact .inr isDot
      · exact ih member
  | case3 | case4 | case5 => cases member

/-- Behind an identifier, what goes on a name begins with a dot, and no two identifiers in it are
next to each other. -/
theorem isChain_further (before : t.isIdentifier ∨ t.isSymbol '.') :
    (t :: rest.take (further rest).2).IsChain fun t u => ¬ (t.isIdentifier ∧ u.isIdentifier) := by
  fun_induction further rest generalizing t with
  | case1 dot next rest isDot identifier ih =>
      have noName := isIdentifier_eq_false_of_isSymbol isDot
      have behind := ih (.inl identifier)
      simp only [List.take_succ_cons, List.isChain_cons_cons, noName, Bool.false_eq_true, and_false,
        false_and, not_false_eq_true, true_and]
      exact behind
  | case2 dot next rest isDot _ _ ih =>
      have noName := isIdentifier_eq_false_of_isSymbol isDot
      have behind := ih (.inr isDot)
      rw [List.take_succ_cons, List.isChain_cons_cons, noName]
      exact ⟨by simp, behind⟩
  | case3 | case4 | case5 => exact .singleton t

theorem reduceOption_further (rest : List Token) : (further rest).1.reduceOption =
    (rest.take (further rest).2).filter (·.isIdentifier) := by
  fun_induction further rest with
  | case1 dot next rest isDot identifier ih =>
      have noName := isIdentifier_eq_false_of_isSymbol isDot
      simp [noName, identifier, ih]
  | case2 dot next rest isDot _ _ ih =>
      have noName := isIdentifier_eq_false_of_isSymbol isDot
      simp [noName, ih]
  | case3 | case4 | case5 => rfl

theorem length_further (rest : List Token) :
    (further rest).1.length = (rest.take (further rest).2).countP (·.isSymbol '.') := by
  fun_induction further rest with
  | case1 dot next rest isDot identifier ih =>
      have noDot := isSymbol_eq_false_of_isIdentifier (c := '.') identifier
      simp [isDot, noDot, ih]
  | case2 dot next rest isDot _ _ ih => simp [isDot, ih]
  | case3 | case4 | case5 => rfl

/-- An identifier begins no pair that a dot begins. -/
theorem filter_zip_cons (noDot : t.isSymbol '.' = false) (name rest : List Token) :
    ((t :: name).zip rest).filter (fun (t, _) => t.isSymbol '.') =
      (name.zip rest.tail).filter fun (t, _) => t.isSymbol '.' := by
  cases rest <;> simp [noDot]

theorem countP_zip_cons (noDot : t.isSymbol '.' = false) (name rest : List Token) :
    ((t :: name).zip rest).countP (fun (t, next) => t.isSymbol '.' && next.isSymbol '.') =
      (name.zip rest.tail).countP fun (t, next) => t.isSymbol '.' && next.isSymbol '.' := by
  cases rest <;> simp [noDot]

theorem further_eq_map (rest : List Token) : (further rest).1 =
    (((rest.take (further rest).2).zip rest.tail).filter fun (t, _) => t.isSymbol '.').map
      fun (_, next) => if next.isIdentifier then some next else none := by
  fun_induction further rest with
  | case1 dot next rest isDot identifier ih =>
      have noDot := isSymbol_eq_false_of_isIdentifier (c := '.') identifier
      simp only [List.take_succ_cons, List.tail_cons, List.zip_cons_cons, List.filter_cons, isDot,
        if_true, filter_zip_cons noDot, ← ih, List.map_cons, identifier]
  | case2 dot next rest isDot other again ih =>
      simp only [List.tail_cons] at ih
      simp only [List.take_succ_cons, List.tail_cons, List.zip_cons_cons, List.filter_cons, isDot,
        if_true, ← ih, List.map_cons, other]
      rfl
  | case3 | case4 | case5 => rfl

/-- A dot of the name is followed by another dot exactly if no identifier follows it. -/
theorem countP_isNone_further (rest : List Token) : (further rest).1.countP (·.isNone) =
    ((rest.take (further rest).2).zip rest.tail).countP
      fun (t, next) => t.isSymbol '.' && next.isSymbol '.' := by
  fun_induction further rest with
  | case1 dot next rest isDot identifier ih =>
      have noDot := isSymbol_eq_false_of_isIdentifier (c := '.') identifier
      simp only [List.take_succ_cons, List.tail_cons, List.zip_cons_cons, List.countP_cons,
        Option.isNone_some, noDot, countP_zip_cons noDot, ih, Bool.and_false]
  | case2 dot next rest isDot other again ih =>
      simp only [List.tail_cons] at ih
      simp only [List.take_succ_cons, List.tail_cons, List.zip_cons_cons, List.countP_cons,
        Option.isNone_none, isDot, again, ih, Bool.and_self]
  | case3 | case4 | case5 => rfl

theorem stop_further (isDot : t.isSymbol '.') (here : rest[(further rest).2]? = some t) {next : Token}
    (behind : rest[(further rest).2 + 1]? = some next) :
    ¬ next.isIdentifier ∧ ¬ next.isSymbol '.' := by
  fun_induction further rest with
  | case1 dot _ rest _ _ ih => exact ih (by simpa using here) (by simpa using behind)
  | case2 dot _ rest _ _ _ ih => exact ih (by simpa using here) (by simpa using behind)
  | case3 dot following rest _ other noDot =>
      obtain rfl : following = next := by simpa using behind
      exact ⟨other, noDot⟩
  | case4 first following rest noDot =>
      obtain rfl : first = t := by simpa using here
      exact absurd isDot noDot
  | case5 rest short =>
      rcases rest with _ | ⟨last, _ | ⟨following, rest⟩⟩
      · cases behind
      · cases behind
      · exact absurd rfl (short last following rest)

end Further

section Parse

variable {tokens rest : List Token} {start : Nat} {first : Token}

theorem extract_add_succ (front : tokens.drop start = first :: rest) (n : Nat) :
    tokens.extract start (start + (n + 1)) = first :: rest.take n := by
  rw [List.extract_eq_take_drop, front, Nat.add_sub_cancel_left, List.take_succ_cons]

theorem withNext_add_succ (front : tokens.drop start = first :: rest) (n : Nat) :
    withNext tokens start (start + (n + 1)) = (first :: rest.take n).zip rest := by
  have behind : tokens.drop (start + 1) = rest := by
    rw [← List.drop_drop, front, List.drop_one, List.tail_cons]
  rw [withNext, extract_add_succ front, behind]

theorem getElem?_add_succ (front : tokens.drop start = first :: rest) (n : Nat) :
    tokens[start + (n + 1)]? = rest[n]? := by
  rw [← List.getElem?_drop, front, List.getElem?_cons_succ]

theorem longestName_further (front : tokens.drop start = first :: rest)
    (identifier : first.isIdentifier) :
    LongestName tokens start (start + ((further rest).2 + 1))
      (some first :: (further rest).1) := by
  have noDot := isSymbol_eq_false_of_isIdentifier (c := '.') identifier
  have span := extract_add_succ front (further rest).2
  have pairs := withNext_add_succ front (further rest).2
  constructor
  case nonempty => omega
  case inside =>
    have whole := congrArg List.length front
    have short := length_further_le rest
    simp only [List.length_drop, List.length_cons] at whole
    omega
  case kinds =>
    intro t member
    rw [span] at member
    rcases List.mem_cons.mp member with rfl | member
    · exact .inl identifier
    · exact isIdentifier_or_isSymbol_of_further member
  case begins =>
    rw [span]
    exact identifier
  case apart =>
    rw [span]
    exact isChain_further (.inl identifier)
  case present => rw [span, List.filter_cons_of_pos identifier, ← reduceOption_further]; rfl
  case dots =>
    rw [span, List.countP_cons_of_neg (by simp [noDot]), ← length_further]
    exact List.length_cons
  case omitted =>
    rw [pairs, countP_zip_cons noDot, ← countP_isNone_further]
    rfl
  case aligned =>
    rw [pairs, filter_zip_cons noDot]
    exact further_eq_map rest
  case longest =>
    intro t here isDot next behind
    rw [getElem?_add_succ front] at here
    rw [Nat.add_assoc, getElem?_add_succ front] at behind
    exact stop_further isDot here behind

theorem database?_of_append (front : List (Option Token)) (part schema object : Option Token)
    (length : Nat) : database? ⟨front ++ [part, schema, object], length⟩ = part.map Token.name := by
  simp [database?]

theorem database?_of_length_lt {name : ObjectName} (short : name.parts.length < 3) :
    name.database? = none := by
  have none : name.parts.reverse[2]? = none := by
    apply List.getElem?_eq_none
    rw [List.length_reverse]
    omega
  rw [database?, none]
  rfl

/-- From an identifier on, the parser reads the longest dotted name, whatever the tokens are. The
database of the name is its third part from the end, and there is none if there are less parts. -/
theorem reads_longest_name (found : tokens[start]? = some first) (identifier : first.isIdentifier) :
    ∃ name, parse? (tokens.drop start) = some name ∧
      Indexed.parse tokens start = some ⟨name.parts, start + name.length⟩ ∧
      LongestName tokens start (start + name.length) name.parts ∧
      (name.parts.length < 3 → name.database? = none) ∧
      ∀ front part schema object, name.parts = front ++ [part, schema, object] →
        name.database? = part.map Token.name := by
  have front : tokens.drop start = first :: tokens.drop (start + 1) := Indexed.drop_eq_cons found
  obtain ⟨name, parsed, longest⟩ : ∃ name, parse? (tokens.drop start) = some name ∧
      LongestName tokens start (start + name.length) name.parts := by
    refine ⟨⟨some first :: (further (tokens.drop (start + 1))).1,
      (further (tokens.drop (start + 1))).2 + 1⟩, ?_, longestName_further front identifier⟩
    rw [front, parse?, if_pos identifier]
  refine ⟨name, parsed, ?_, longest, database?_of_length_lt, ?_⟩
  · rw [Indexed.parse_eq, parsed]
    rfl
  · intro front part schema object parts
    obtain ⟨_, length⟩ := name
    cases parts
    exact database?_of_append front part schema object length

/-- A name that ends in dots before a parenthesis, and one with a part left out. -/
def gappedNames : String := "a...(1) srv.[Sales]..Orders x"

theorem reads_longest_name_of_gappedNames : ∃ s,
    Script.ofText "a.sql" "" 120 gappedNames = .ok s ∧
    (∃ name, parse? s.tokens = some name ∧ LongestName s.tokens 0 3 name.parts ∧
      name.parts.map (·.map Token.name) = [some "a", none, none] ∧ name.database? = some "a") ∧
    ∃ name, parse? (s.tokens.drop 7) = some name ∧ LongestName s.tokens 7 13 name.parts ∧
      name.parts.map (·.map Token.name) = [some "srv", some "Sales", none, some "Orders"] ∧
      name.database? = some "Sales" := by
  obtain ⟨s, made, first, second⟩ : ∃ s, Script.ofText "a.sql" "" 120 gappedNames = .ok s ∧
      (s.tokens[0]?.any (·.isIdentifier) ∧ (parse? s.tokens).map (fun n =>
        (n.length, n.parts.map (·.map Token.name), n.database?)) =
          some (3, [some "a", none, none], some "a")) ∧
      s.tokens[7]?.any (·.isIdentifier) ∧ (parse? (s.tokens.drop 7)).map (fun n =>
        (n.length, n.parts.map (·.map Token.name), n.database?)) =
          some (6, [some "srv", some "Sales", none, some "Orders"], some "Sales") := by
    refine ⟨_, by cbv, ?_⟩
    decide +kernel
  have reads (start : Nat) (starts : s.tokens[start]?.any (·.isIdentifier))
      {length : Nat} {names : List (Option String)} {database : Option String}
      (read : (parse? (s.tokens.drop start)).map (fun n =>
        (n.length, n.parts.map (·.map Token.name), n.database?)) =
          some (length, names, database)) :
      ∃ name, parse? (s.tokens.drop start) = some name ∧
        LongestName s.tokens start (start + length) name.parts ∧
        name.parts.map (·.map Token.name) = names ∧ name.database? = database := by
    obtain ⟨t, found, identifier⟩ := Indexed.exists_of_any starts
    obtain ⟨name, parsed, _, longest, _⟩ := reads_longest_name found identifier
    rw [parsed, Option.map_some, Option.some_inj, Prod.mk.injEq, Prod.mk.injEq] at read
    obtain ⟨rfl, rfl, rfl⟩ := read
    exact ⟨name, parsed, longest, rfl, rfl⟩
  exact ⟨s, made, reads 0 first.1 first.2, reads 7 second.1 second.2⟩

end Parse

end ObjectName
end SqlLint
