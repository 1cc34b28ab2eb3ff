import SqlLint.Proofs.Rules.Reported
import SqlLint.Proofs.Script.LetterCase
import SqlLint.Rules.Capitalization

/-!
# Putting reserved words in upper case

The rule that asks for reserved words in upper case asks for just that. It reports bare reserved
words only, and with any of them in upper case the script has the same tokens at the same places and
the rule reports the others, with what it said before.
-/

namespace SqlLint

namespace Token

@[simp] theorem canonical_capitalized (t : Token) : t.capitalized.canonical = t.canonical := by
  simp [canonical, capitalized, isSpelt]

theorem any_isLower_capitalized (t : Token) :
    t.capitalized.text.toList.any Char.isLower = false := by
  simp [capitalized, String.toUpper, String.toList_map]

/-- The token in upper case if it is one of some tokens. -/
def capitalizedIn (chosen : List Token) (t : Token) : Token :=
  if t ∈ chosen then t.capitalized else t

variable (chosen : List Token) (t : Token)

@[simp] theorem start_capitalizedIn : (t.capitalizedIn chosen).start = t.start := by
  rw [capitalizedIn]
  split <;> rfl

@[simp] theorem kind_capitalizedIn : (t.capitalizedIn chosen).kind = t.kind := by
  rw [capitalizedIn]
  split <;> rfl

@[simp] theorem canonical_capitalizedIn : (t.capitalizedIn chosen).canonical = t.canonical := by
  rw [capitalizedIn]
  split <;> simp

@[simp] theorem toUpper_text_capitalizedIn :
    (t.capitalizedIn chosen).text.toUpper = t.text.toUpper := by
  rw [capitalizedIn]
  split
  · exact Ascii.toUpper_toUpper t.text
  · rfl

@[simp] theorem isAnyKeyword_capitalizedIn (keywords : List String) :
    (t.capitalizedIn chosen).isAnyKeyword keywords = t.isAnyKeyword keywords := by
  rw [← isAnyKeyword_canonical, canonical_capitalizedIn, isAnyKeyword_canonical]

@[simp] theorem isSymbol_capitalizedIn {c : Char} (plain : c.isAlpha = false) :
    (t.capitalizedIn chosen).isSymbol c = t.isSymbol c := by
  rw [← isSymbol_canonical (t.capitalizedIn chosen) plain, canonical_capitalizedIn,
    isSymbol_canonical t plain]

end Token

namespace Rules.Capitalization

open Script

variable {path root text : String} {level : UInt32} {s : Script}
variable {pieces : List (LexemeKind × List Char)} {chosen : List Token} {t : Token}

theorem isMember_capitalizedIn (chosen : List Token) (x : Site) :
    (x.map (Token.capitalizedIn chosen)).isMember = x.isMember := by
  simp [Site.isMember, Site.previous?, Site.map, Option.any_map]

/-- A site is objected to as before, unless its token has been put in upper case. -/
theorem isLowered_capitalizedIn (chosen : List Token) (x : Site) :
    isLowered (x.map (Token.capitalizedIn chosen)) = (isLowered x && x.token ∉ chosen) := by
  have token : (x.map (Token.capitalizedIn chosen)).token = x.token.capitalizedIn chosen := rfl
  simp only [isLowered, token, isMember_capitalizedIn, Token.kind_capitalizedIn,
    Token.isAnyKeyword_capitalizedIn]
  by_cases member : x.token ∈ chosen
  · simp [Token.capitalizedIn, member, Token.any_isLower_capitalized]
  · simp [Token.capitalizedIn, member]

def message (x : Site) : String :=
  s!"Expected TSQL Keyword to be capitalized: {x.token.text.toUpper}"

theorem keywordCapitalization_eq : keywordCapitalization =
    .filtering keywordCapitalization.toDescriptor isLowered message := rfl

theorem filter_isLowered_capitalizedIn (chosen tokens : List Token) :
    (Site.all (tokens.map (Token.capitalizedIn chosen))).filter isLowered =
      (((Site.all tokens).filter isLowered).filter (·.token ∉ chosen)).map
        (Site.map (Token.capitalizedIn chosen)) := by
  rw [Site.all_map, List.filter_map, List.filter_filter]
  refine congrArg _ (List.filter_congr fun x _ => ?_)
  rw [Function.comp_apply, isLowered_capitalizedIn, Bool.and_comm]

def finding (path : String) (x : Site) : Finding :=
  ⟨path, x.token.start.line, x.token.start.column, "keyword-capitalization", .warning, message x⟩

theorem message_capitalizedIn (chosen : List Token) (x : Site) :
    message (x.map (Token.capitalizedIn chosen)) = message x := by
  have token : (x.map (Token.capitalizedIn chosen)).token = x.token.capitalizedIn chosen := rfl
  unfold message
  rw [token, Token.toUpper_text_capitalizedIn]

theorem finding_capitalizedIn (path : String) (chosen : List Token) (x : Site) :
    finding path (x.map (Token.capitalizedIn chosen)) = finding path x := by
  have token : (x.map (Token.capitalizedIn chosen)).token = x.token.capitalizedIn chosen := rfl
  simp only [finding, message_capitalizedIn, token, Token.start_capitalizedIn]

theorem check_eq (s : Script) : keywordCapitalization.check s =
    ((Site.all s.tokens).filter isLowered).map (finding s.path) := by
  rw [keywordCapitalization_eq, Rule.check_filtering]
  rfl

/-- What the rule reports is a bare word that is reserved, in whatever case. -/
theorem isBareKeyword_of_reported (laid : s.Laid pieces)
    (found : t ∈ keywordCapitalization.reported s) : t.kind = .word ∧
      (∃ keyword ∈ Keyword.reserved, Ascii.sameIgnoringCase t.text keyword) ∧
      ∀ before p after, s.tokens = before ++ p :: t :: after → p.isSymbol '.' = false := by
  rw [keywordCapitalization_eq, Rule.mem_reported_filtering_iff laid] at found
  obtain ⟨x, member, lowered, rfl⟩ := found
  simp only [isLowered, Bool.and_eq_true, Bool.not_eq_true', beq_iff_eq] at lowered
  obtain ⟨⟨⟨word, bare⟩, _⟩, keyword⟩ := lowered
  obtain ⟨keyword, reserved, same⟩ := List.any_eq_true.mp keyword
  simp only [Token.isKeyword, Bool.and_eq_true] at same
  refine ⟨word, ⟨keyword, reserved, same.2⟩, fun before p after whole => ?_⟩
  have site : ⟨p :: before.reverse, x.token, after⟩ ∈ Site.all s.tokens := by
    rw [Site.mem_all_iff, whole]
    simp
  rw [← Site.eq_of_token laid.nodup_tokens site member rfl] at bare
  simpa [Site.isMember, Site.previous?] using bare

/-- The rule reports what upper case repairs: with any of the tokens that it reports in upper case,
a text is a script with the same tokens at the same places, and the rule reports the other ones,
with the same messages. It reports bare words only, each of them reserved. -/
theorem capitalizing_repairs (made : ofText path root level text = .ok s)
    (part : chosen ⊆ keywordCapitalization.reported s) :
    ∃ u, ofText path root level (s.capitalized chosen) = .ok u ∧
      u.tokens = s.tokens.map
        (fun t => if t ∈ chosen then { t with text := t.text.toUpper } else t) ∧
      keywordCapitalization.check u = (keywordCapitalization.check s).filter (fun f =>
        (f.line, f.column) ∉ chosen.map (·.start.place)) ∧
      keywordCapitalization.reported u = (keywordCapitalization.reported s).filter (· ∉ chosen) ∧
      keywordCapitalization.places s =
        (keywordCapitalization.reported s).map (·.start.place) ∧
      ∀ t ∈ keywordCapitalization.reported s, t.kind = .word ∧
        (∃ keyword ∈ Keyword.reserved, Ascii.sameIgnoringCase t.text keyword) ∧
        ∀ before p after, s.tokens = before ++ p :: t :: after → p.isSymbol '.' = false := by
  obtain ⟨_, laid⟩ := exists_laid made
  have inside : chosen ⊆ s.tokens := fun t member => Rule.reported_subset _ _ (part member)
  obtain ⟨u, read, samePath, tokens⟩ := exists_capitalized made inside
  obtain ⟨_, laid'⟩ := exists_laid read
  have tokens : u.tokens = s.tokens.map (Token.capitalizedIn chosen) := tokens
  refine ⟨u, read, tokens, ?_, ?_, ?_, fun t => isBareKeyword_of_reported laid⟩
  · let outside (f : Finding) : Bool := (f.line, f.column) ∉ chosen.map (·.start.place)
    -- The place of a finding tells its token.
    have outside_finding (x : Site) (member : x ∈ Site.all s.tokens) :
        outside (finding s.path x) = decide (x.token ∉ chosen) := by
      have listed : x.token.start.place ∈ chosen.map (·.start.place) ↔ x.token ∈ chosen := by
        constructor
        · intro place
          obtain ⟨t, found, same⟩ := List.mem_map.mp place
          rwa [← laid.token_eq_of_place (inside found) (Site.token_mem member) same]
        · exact List.mem_map_of_mem
      exact decide_eq_decide.mpr (not_congr listed)
    have kept : ((Site.all s.tokens).filter isLowered).filter (·.token ∉ chosen) =
        ((Site.all s.tokens).filter isLowered).filter (outside ∘ finding s.path) := by
      refine List.filter_congr fun x found => ?_
      rw [Function.comp_apply, outside_finding x (List.mem_filter.mp found).1]
    rw [check_eq, check_eq, tokens, filter_isLowered_capitalizedIn, kept, List.map_map,
      List.filter_map, samePath]
    exact List.map_congr_left fun x _ => finding_capitalizedIn s.path chosen x
  · rw [keywordCapitalization_eq, Rule.reported_filtering laid', Rule.reported_filtering laid,
      tokens, filter_isLowered_capitalizedIn, List.map_map, List.filter_map]
    refine List.map_congr_left fun x found => ?_
    have absent : x.token ∉ chosen := by simpa using (List.mem_filter.mp found).2
    exact if_neg absent
  · exact Rule.places_eq_map_reported laid

/-- Reserved words in lower case, one of them right before a quote, and one behind a dot. -/
def lowered : String := "alL n'a' aNd T.key anY X as'b'"

/-- The word behind the first literal, and the one before the second. -/
def chosenWords : List Token :=
  [⟨.word, "aNd", ⟨9, 1, 10⟩⟩, ⟨.word, "as", ⟨25, 1, 26⟩⟩]

theorem capitalizing_repairs_of_lowered : ∃ s u, ofText "q.sql" "" 120 lowered = .ok s ∧
    (keywordCapitalization.reported s).map (·.text) = ["alL", "aNd", "anY", "as"] ∧
    chosenWords ⊆ keywordCapitalization.reported s ∧
    s.capitalized chosenWords = "alL n'a' AND T.key anY X AS'b'" ∧
    ofText "q.sql" "" 120 (s.capitalized chosenWords) = .ok u ∧
    u.tokens.map (·.text) = ["alL", "n'a'", "AND", "T", ".", "key", "anY", "X", "AS", "'b'"] ∧
    (keywordCapitalization.reported u).map (·.text) = ["alL", "anY"] ∧
    (keywordCapitalization.check u).map (·.message) =
      ["Expected TSQL Keyword to be capitalized: ALL",
        "Expected TSQL Keyword to be capitalized: ANY"] := by
  obtain ⟨s, made, found, part, text, words, rest, messages⟩ :
      ∃ s, ofText "q.sql" "" 120 lowered = .ok s ∧
      (keywordCapitalization.reported s).map (·.text) = ["alL", "aNd", "anY", "as"] ∧
      chosenWords ⊆ keywordCapitalization.reported s ∧
      s.capitalized chosenWords = "alL n'a' AND T.key anY X AS'b'" ∧
      (s.tokens.map fun t =>
        if t ∈ chosenWords then { t with text := t.text.toUpper } else t).map (·.text) =
        ["alL", "n'a'", "AND", "T", ".", "key", "anY", "X", "AS", "'b'"] ∧
      ((keywordCapitalization.reported s).filter (· ∉ chosenWords)).map (·.text) = ["alL", "anY"] ∧
      ((keywordCapitalization.check s).filter fun f =>
        (f.line, f.column) ∉ chosenWords.map (·.start.place)).map (·.message) =
          ["Expected TSQL Keyword to be capitalized: ALL",
            "Expected TSQL Keyword to be capitalized: ANY"] := by
    refine ⟨_, by cbv, ?_⟩
    simp only [Rule.reported, Rule.places, Rule.check, keywordCapitalization, Rule.ofFlags, flags]
    unfold isLowered
    simp only [Token.isAnyKeyword_eq]
    decide +kernel
  obtain ⟨u, read, tokens, check, reported, _⟩ := capitalizing_repairs made part
  exact ⟨s, u, made, found, part, text, read, by rw [tokens, words], by rw [reported, rest],
    by rw [check, messages]⟩

end Rules.Capitalization
end SqlLint
