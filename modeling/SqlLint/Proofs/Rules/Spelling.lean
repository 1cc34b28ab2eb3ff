import SqlLint.Proofs.Rules.Sites
import SqlLint.Syntax.ObjectName
import SqlLint.Syntax.Parenthesis

/-!
# What rules see of tokens

A rule that compares words and names without regard to case, and asks of other tokens only what
they are, cannot tell a token from its canonical form: words, quoted identifiers and symbols in
upper case, other tokens without their text, and all of them without a place. Each question asked
of tokens, sites and token sequences has the same answer for the canonical forms; a rule that asks
nothing else inherits this.
-/

namespace SqlLint

namespace Ascii

@[simp] theorem toUpper_toUpper (s : String) : s.toUpper.toUpper = s.toUpper := by
  simp [String.toUpper, ← String.toList_inj, String.toList_map]

@[simp] theorem toLower_toUpper (s : String) : s.toUpper.toLower = s.toLower := by
  simp [String.toUpper, String.toLower, ← String.toList_inj, String.toList_map]

theorem toUpper_append (a b : String) : (a ++ b).toUpper = a.toUpper ++ b.toUpper := by
  simp [String.toUpper, ← String.toList_inj, String.toList_map]

theorem sameIgnoringCase_iff {a b : String} :
    sameIgnoringCase a b = true ↔ a.toUpper = b.toUpper := by
  simp [sameIgnoringCase]

/-- Texts are compared by their characters. -/
theorem sameIgnoringCase_eq (a b : String) :
    sameIgnoringCase a b = (a.toList.map Char.toUpper == b.toList.map Char.toUpper) := by
  rw [Bool.eq_iff_iff, sameIgnoringCase_iff, beq_iff_eq, ← String.toList_inj]
  simp [String.toUpper, String.toList_map]

/-- A character that is no letter is not the upper case of another one. -/
theorem toUpper_eq_iff {c d : Char} (plain : d.isAlpha = false) : c.toUpper = d ↔ c = d := by
  by_cases lower : c.isLower
  · have letter : c.toUpper.isAlpha = true := by simp [Char.isAlpha, lower]
    constructor
    · rintro rfl
      rw [letter] at plain
      cases plain
    · rintro rfl
      simp [Char.isAlpha, lower] at plain
  · rw [Char.toUpper_eq_of_not_isLower lower]

end Ascii

namespace Token

/-- Whether rules look at the text of a token of this kind. -/
def isSpelt (t : Token) : Bool :=
  t.kind == .word || t.kind == .quoted || t.kind == .symbol

/-- The token in the form in which rules compare it. -/
def canonical (t : Token) : Token where
  kind := t.kind
  text := if t.isSpelt then t.text.toUpper else ""
  start := .start

/-- Tokens of one kind, spelt alike up to the case of ASCII letters if they are words, quoted
identifiers or symbols. -/
structure Alike (t u : Token) : Prop where
  kind : t.kind = u.kind
  text : t.kind = .word ∨ t.kind = .quoted ∨ t.kind = .symbol →
    Ascii.sameIgnoringCase t.text u.text

variable {t u : Token} {c : Char}

/-- Tokens are alike when they have the same canonical form. -/
theorem alike_iff_canonical_eq : t.Alike u ↔ t.canonical = u.canonical := by
  constructor
  · intro h
    have spelt : t.isSpelt = u.isSpelt := by simp [isSpelt, h.kind]
    by_cases seen : t.isSpelt
    · have same := Ascii.sameIgnoringCase_iff.mp
        (h.text (by simpa [isSpelt, or_assoc] using seen))
      simp [canonical, h.kind, ← spelt, seen, same]
    · simp [canonical, h.kind, ← spelt, seen]
  · intro same
    have kind : t.kind = u.kind := congrArg (·.kind) same
    have spelt : t.isSpelt = u.isSpelt := by simp [isSpelt, kind]
    refine ⟨kind, fun seen => Ascii.sameIgnoringCase_iff.mpr ?_⟩
    have seen : t.isSpelt := by simpa [isSpelt, or_assoc] using seen
    simpa [canonical, ← spelt, seen] using congrArg (·.text) same

@[simp] theorem kind_canonical (t : Token) : t.canonical.kind = t.kind := rfl

@[simp] theorem isIdentifier_canonical (t : Token) :
    t.canonical.isIdentifier = t.isIdentifier := rfl

theorem text_canonical_of_word (word : t.kind = .word) :
    t.canonical.text = t.text.toUpper := by
  simp [canonical, isSpelt, word]

@[simp] theorem isKeyword_canonical (t : Token) (keyword : String) :
    t.canonical.isKeyword keyword = t.isKeyword keyword := by
  by_cases word : t.kind = .word
  · simp [isKeyword, text_canonical_of_word word, Ascii.sameIgnoringCase]
  · simp [isKeyword, beq_eq_false_iff_ne.mpr word]

@[simp] theorem isAnyKeyword_canonical (t : Token) (keywords : List String) :
    t.canonical.isAnyKeyword keywords = t.isAnyKeyword keywords :=
  congrArg keywords.any (funext t.isKeyword_canonical)

theorem isAnyKeyword_eq (t : Token) (keywords : List String) :
    t.isAnyKeyword keywords = keywords.any fun keyword =>
      t.kind == .word && t.text.toList.map Char.toUpper == keyword.toList.map Char.toUpper := by
  refine congrArg keywords.any (funext fun keyword => ?_)
  rw [isKeyword, Ascii.sameIgnoringCase_eq]

theorem kind_of_isAnyKeyword {keywords : List String} (h : t.isAnyKeyword keywords) :
    t.kind = .word := by
  simp only [isAnyKeyword, List.any_eq_true, isKeyword, Bool.and_eq_true, beq_iff_eq] at h
  obtain ⟨_, _, word, _⟩ := h
  exact word

theorem isAnyKeyword_of_mem {keyword : String} {keywords : List String} (word : t.isKeyword keyword)
    (member : keyword ∈ keywords) : t.isAnyKeyword keywords :=
  List.any_eq_true.mpr ⟨keyword, member, word⟩

theorem isAnyKeyword_of_subset {keywords others : List String} (word : t.isAnyKeyword keywords)
    (part : keywords ⊆ others) : t.isAnyKeyword others := by
  obtain ⟨keyword, member, word⟩ := List.any_eq_true.mp word
  exact isAnyKeyword_of_mem word (part member)

theorem isAnyKeyword_eq_false_of_subset {keywords others : List String}
    (plain : t.isAnyKeyword others = false) (part : keywords ⊆ others) :
    t.isAnyKeyword keywords = false :=
  List.any_eq_false.mpr fun keyword member => List.any_eq_false.mp plain keyword (part member)

/-- A word is one keyword only. -/
theorem isKeyword_eq_false {keyword other : String} (word : t.isKeyword keyword)
    (apart : Ascii.sameIgnoringCase keyword other = false) : t.isKeyword other = false := by
  simp only [isKeyword, Bool.and_eq_true, Ascii.sameIgnoringCase_iff] at word
  rw [isKeyword, Ascii.sameIgnoringCase, word.2, ← Ascii.sameIgnoringCase, apart, Bool.and_false]

theorem isAnyKeyword_eq_false {keyword : String} {others : List String}
    (word : t.isKeyword keyword)
    (apart : ∀ other ∈ others, Ascii.sameIgnoringCase keyword other = false) :
    t.isAnyKeyword others = false := by
  refine List.any_eq_false.mpr fun other member => ?_
  rw [isKeyword_eq_false word (apart other member)]
  exact Bool.false_ne_true

/-- A word is no symbol. -/
theorem isSymbol_eq_false_of_isKeyword {keyword : String} (word : t.isKeyword keyword) (c : Char) :
    t.isSymbol c = false := by
  simp only [isKeyword, Bool.and_eq_true, beq_iff_eq] at word
  simp [isSymbol, word.1]

/-- A symbol is no word. -/
theorem isAnyKeyword_eq_false_of_isSymbol {keywords : List String} (symbol : t.isSymbol c) :
    t.isAnyKeyword keywords = false := by
  simp only [isSymbol, Bool.and_eq_true, beq_iff_eq] at symbol
  by_contra other
  have word := kind_of_isAnyKeyword (by simpa using other)
  rw [symbol.1] at word
  cases word

/-- A symbol is one character only. -/
theorem isSymbol_eq_false {d : Char} (symbol : t.isSymbol c) (other : c ≠ d) :
    t.isSymbol d = false := by
  simp only [isSymbol, Bool.and_eq_true, beq_iff_eq] at symbol
  simp [isSymbol, symbol.2, other]

/-- Symbols that are no letters are canonical. -/
@[simp] theorem isSymbol_canonical (t : Token) (plain : c.isAlpha = false) :
    t.canonical.isSymbol c = t.isSymbol c := by
  by_cases symbol : t.kind = .symbol
  · have same : t.canonical.text = String.singleton c ↔ t.text = String.singleton c := by
      simp [canonical, isSpelt, symbol, ← String.toList_inj, String.toUpper, String.toList_map,
        List.map_eq_singleton_iff, Ascii.toUpper_eq_iff plain]
    rw [Bool.eq_iff_iff]
    simp [isSymbol, symbol, same]
  · simp [isSymbol, beq_eq_false_iff_ne.mpr symbol]

theorem name_canonical (identifier : t.isIdentifier) : t.canonical.name = t.name.toUpper := by
  rw [isIdentifier, Bool.or_eq_true, beq_iff_eq, beq_iff_eq] at identifier
  rcases identifier with word | quoted
  · simp [name, word, text_canonical_of_word word]
  · simp [name, canonical, isSpelt, quoted, ← String.toList_inj, String.toUpper,
      String.toList_map, List.map_dropLast]

theorem foldedName_canonical (identifier : t.isIdentifier) :
    t.canonical.foldedName = t.foldedName := by
  rw [foldedName, name_canonical identifier, Ascii.toLower_toUpper, foldedName]

@[simp] theorem isNamed_canonical (t : Token) (name : String) :
    t.canonical.isNamed name = t.isNamed name := by
  by_cases identifier : t.isIdentifier
  · simp [isNamed, name_canonical identifier, Ascii.sameIgnoringCase]
  · simp [isNamed, identifier]

end Token

/-- Token sequences are alike when they have the same canonical form. -/
theorem forall₂_alike_iff {tokens others : List Token} :
    List.Forall₂ Token.Alike tokens others ↔
      tokens.map Token.canonical = others.map Token.canonical := by
  rw [← List.forall₂_eq_eq_eq, List.forall₂_map_left_iff, List.forall₂_map_right_iff]
  exact ⟨(·.imp fun _ _ => Token.alike_iff_canonical_eq.mp),
    (·.imp fun _ _ => Token.alike_iff_canonical_eq.mpr)⟩

/-- Tokens of the same kinds with the same texts have the same canonical forms. -/
theorem map_canonical_eq {tokens others : List Token}
    (same : tokens.map (fun t => (t.kind, t.text)) = others.map fun t => (t.kind, t.text)) :
    tokens.map Token.canonical = others.map Token.canonical := by
  have again := congrArg (List.map fun p => Token.canonical ⟨p.1, p.2, .start⟩) same
  rwa [List.map_map, List.map_map] at again

namespace Keyword

variable (sequence : List String) (tokens : List Token)

@[simp] theorem startsWith_map_canonical :
    startsWith sequence (tokens.map Token.canonical) = startsWith sequence tokens := by
  induction sequence generalizing tokens with
  | nil => rfl
  | cons keyword sequence ih =>
      cases tokens with
      | nil => rfl
      | cons t tokens => simp [startsWith, ih]

@[simp] theorem occurs_map_canonical :
    occurs sequence (tokens.map Token.canonical) = occurs sequence tokens := by
  induction tokens with
  | nil => rfl
  | cons t tokens ih =>
      rw [List.map_cons, occurs, occurs, ← List.map_cons, startsWith_map_canonical, ih]

end Keyword

namespace Parenthesis

theorem openFrom?_map_canonical (depth : Nat) (tokens : List Token) :
    openFrom? depth (tokens.map Token.canonical)
      = (openFrom? depth tokens).map (·.map Token.canonical) := by
  induction tokens generalizing depth with
  | nil => rfl
  | cons t before ih =>
      simp only [List.map_cons, openFrom?, Token.isSymbol_canonical, Char.reduceIsAlpha, ih]
      split
      · rfl
      · split
        · split <;> rfl
        · rfl

@[simp] theorem matchingOpen?_map_canonical (tokens : List Token) :
    matchingOpen? (tokens.map Token.canonical)
      = (matchingOpen? tokens).map (·.map Token.canonical) :=
  openFrom?_map_canonical 0 tokens

end Parenthesis

namespace ObjectName

/-- The name with its parts in the form in which they are compared. -/
def canonical (n : ObjectName) : ObjectName :=
  ⟨n.parts.map (·.map Token.canonical), n.length⟩

@[simp] theorem length_canonical (n : ObjectName) : n.canonical.length = n.length := rfl

@[simp] theorem length_parts_canonical (n : ObjectName) :
    n.canonical.parts.length = n.parts.length := by
  simp [canonical]

theorem further_map_canonical (tokens : List Token) :
    further (tokens.map Token.canonical)
      = ((further tokens).1.map (·.map Token.canonical), (further tokens).2) := by
  fun_induction further tokens with
  | case1 dot next rest isDot identifier ih => simp [further, isDot, identifier, ih]
  | case2 dot next rest isDot other again ih =>
      simp only [List.map_cons] at ih
      simp [further, isDot, other, again, ih]
  | case3 dot next rest isDot other end_ => simp [further, isDot, other, end_]
  | case4 dot next rest noDot => simp [further, noDot]
  | case5 tokens short =>
      match tokens with
      | [] | [_] => rfl
      | dot :: next :: rest => exact absurd rfl (short dot next rest)

@[simp] theorem parse?_map_canonical (tokens : List Token) :
    parse? (tokens.map Token.canonical) = (parse? tokens).map canonical := by
  cases tokens with
  | nil => rfl
  | cons first rest =>
      simp only [List.map_cons, parse?, Token.isIdentifier_canonical, further_map_canonical]
      split <;> rfl

/-- The parts of a name are identifiers. -/
theorem isIdentifier_of_mem_further {tokens : List Token} {t : Token}
    (member : some t ∈ (further tokens).1) : t.isIdentifier := by
  fun_induction further tokens with
  | case1 dot next rest isDot identifier ih =>
      rcases List.mem_cons.mp member with same | member
      · cases same
        exact identifier
      · exact ih member
  | case2 dot next rest isDot other again ih =>
      rcases List.mem_cons.mp member with same | member
      · cases same
      · exact ih member
  | case3 | case4 | case5 => cases member

theorem isIdentifier_of_mem_parts {tokens : List Token} {n : ObjectName} {t : Token}
    (parsed : parse? tokens = some n) (member : some t ∈ n.parts) : t.isIdentifier := by
  cases tokens with
  | nil => cases parsed
  | cons first rest =>
      rw [parse?] at parsed
      split at parsed
      case isTrue identifier =>
        cases parsed
        rcases List.mem_cons.mp member with same | member
        · cases same
          exact identifier
        · exact isIdentifier_of_mem_further member
      case isFalse => cases parsed

theorem map_name_canonical {part : Option Token} (identifiers : ∀ t ∈ part, t.isIdentifier) :
    (part.map Token.canonical).map Token.name = (part.map Token.name).map String.toUpper := by
  cases part with
  | none => rfl
  | some t => simp [Token.name_canonical (identifiers t rfl)]

theorem object?_canonical {tokens : List Token} {n : ObjectName}
    (parsed : parse? tokens = some n) : n.canonical.object? = n.object?.map String.toUpper := by
  simp only [object?, canonical, List.getLast?_map]
  cases last : n.parts.getLast? with
  | none => rfl
  | some part =>
      refine map_name_canonical fun t found => ?_
      rw [Option.mem_def] at found
      exact isIdentifier_of_mem_parts parsed (found ▸ List.mem_of_getLast? last)

theorem database?_canonical {tokens : List Token} {n : ObjectName}
    (parsed : parse? tokens = some n) :
    n.canonical.database? = n.database?.map String.toUpper := by
  simp only [database?, canonical, ← List.map_reverse, List.getElem?_map]
  cases third : n.parts.reverse[2]? with
  | none => rfl
  | some part =>
      refine map_name_canonical fun t found => ?_
      rw [Option.mem_def] at found
      exact isIdentifier_of_mem_parts parsed
        (found ▸ List.mem_reverse.mp (List.mem_of_getElem? third))

end ObjectName

/-- The alias after a table, as aliases are compared. -/
theorem alias?_map_canonical (tokens : List Token) :
    (alias? (tokens.map Token.canonical)).map String.toLower
      = (alias? tokens).map String.toLower := by
  have atHead : ∀ t : Token,
      (if t.canonical.isIdentifier && !t.canonical.isAnyKeyword Keyword.clauses then
        some t.canonical.name else none).map String.toLower =
      (if t.isIdentifier && !t.isAnyKeyword Keyword.clauses then
        some t.name else none).map String.toLower := by
    intro t
    by_cases identifier : t.isIdentifier
    · simp only [Token.isIdentifier_canonical, Token.isAnyKeyword_canonical,
        Token.name_canonical identifier]
      split <;> simp
    · simp [identifier]
  match tokens with
  | [] => rfl
  | [t] =>
      by_cases as : t.isKeyword "AS"
      · simp [alias?, as]
      · simpa [alias?, as] using atHead t
  | t :: u :: rest =>
      by_cases as : t.isKeyword "AS"
      · simpa [alias?, as] using atHead u
      · simpa [alias?, as] using atHead t

namespace Site

/-- The site with all tokens in the form in which rules compare them. -/
def canonical (s : Site) : Site :=
  ⟨s.before.map Token.canonical, s.token.canonical, s.after.map Token.canonical⟩

variable (s : Site)

@[simp] theorem token_canonical : s.canonical.token = s.token.canonical := rfl

@[simp] theorem before_canonical : s.canonical.before = s.before.map Token.canonical := rfl

@[simp] theorem after_canonical : s.canonical.after = s.after.map Token.canonical := rfl

@[simp] theorem index_canonical : s.canonical.index = s.index := by
  simp [index]

@[simp] theorem previous?_canonical : s.canonical.previous? = s.previous?.map Token.canonical := by
  simp [previous?]

@[simp] theorem next?_canonical : s.canonical.next? = s.next?.map Token.canonical := by
  simp [next?]

@[simp] theorem isCall_canonical : s.canonical.isCall = s.isCall := by
  simp [isCall, Option.any_map]

@[simp] theorem isMember_canonical : s.canonical.isMember = s.isMember := by
  simp [isMember, Option.any_map]

theorem all_map_canonical (tokens : List Token) :
    all (tokens.map Token.canonical) = (all tokens).map canonical :=
  all_map Token.canonical tokens

end Site

end SqlLint
