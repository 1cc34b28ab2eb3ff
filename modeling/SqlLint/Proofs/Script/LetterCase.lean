import SqlLint.Proofs.Rules.Spelling
import SqlLint.Proofs.Script.Masking

/-!
# The case of letters in a script

What a lexeme is, where it begins and where it ends depends on the case of no letter: delimiters and
markers are no letters, the marker of a national literal is read in either case, and a word goes on
with letters of both cases. So letters of a script can be put in upper case wherever they stand, and
the text is cut at the same places into lexemes of the same kinds.

Letters of ASCII have no other length in upper case, so a choice of letters is a choice of offsets,
and the offsets of the tokens and comments stay what they are.
-/

namespace SqlLint

namespace Lexeme

section Characters

variable {c d : Char}

theorem utf8Size_of_isAlpha (letter : c.isAlpha) : c.utf8Size = 1 := by
  rw [Char.utf8Size_eq_one_iff, UInt32.le_iff_toNat_le]
  simp only [Char.isAlpha, Char.isUpper, Char.isLower, Bool.or_eq_true, Bool.and_eq_true,
    decide_eq_true_eq, UInt32.le_iff_toNat_le, ge_iff_le] at letter
  rcases letter with ⟨_, below⟩ | ⟨_, below⟩
  · exact below.trans (by decide)
  · exact below.trans (by decide)

/-- What letters have in common, a character has just if it has it in upper case. -/
theorem apply_toUpper {α : Type} {p : Char → α} {a : α} (letters : ∀ d, d.isAlpha → p d = a)
    (c : Char) : p c.toUpper = p c := by
  by_cases lower : c.isLower
  · have letter : c.isAlpha := by simp [Char.isAlpha, lower]
    rw [letters c letter, letters c.toUpper (by simpa using letter)]
  · rw [Char.toUpper_eq_of_not_isLower lower]

theorem ne_of_isAlpha (letter : c.isAlpha) (plain : d.isAlpha = false) : c ≠ d := by
  rintro rfl
  rw [letter] at plain
  cases plain

@[simp] theorem utf8Size_toUpper (c : Char) : c.toUpper.utf8Size = c.utf8Size :=
  apply_toUpper (fun _ => utf8Size_of_isAlpha) c

@[simp] theorem isBlank_toUpper (c : Char) : isBlank c.toUpper = isBlank c := by
  refine apply_toUpper (a := false) (fun d letter => ?_) c
  simp [isBlank, ne_of_isAlpha letter]

@[simp] theorem startsWord_toUpper (c : Char) : startsWord c.toUpper = startsWord c :=
  apply_toUpper (a := true) (fun d letter => by simp [startsWord, letter]) c

@[simp] theorem continuesWord_toUpper (c : Char) : continuesWord c.toUpper = continuesWord c :=
  apply_toUpper (a := true) (fun d letter => by simp [continuesWord, Char.isAlphanum, letter]) c

@[simp] theorem isDigit_toUpper (c : Char) : c.toUpper.isDigit = c.isDigit := by
  refine apply_toUpper (a := false) (fun d letter => ?_) c
  by_contra digit
  have word := startsWord_eq_false_of_isDigit (by simpa using digit)
  simp [startsWord, letter] at word

/-- The marker of a national literal is read in either case. -/
theorem toUpper_eq_marker_iff : (c.toUpper = 'N' ∨ c.toUpper = 'n') ↔ (c = 'N' ∨ c = 'n') := by
  constructor
  · intro marker
    have folded : c.toLower = 'n' := by
      rw [← Char.toLower_toUpper_eq_toLower]
      rcases marker with same | same <;> rw [same] <;> rfl
    by_cases upper : c.isUpper
    · rw [Char.toUpper_eq_of_not_isLower (Char.not_isLower_of_isUpper upper)] at marker
      exact marker
    · rw [Char.toLower_eq_of_not_isUpper upper] at folded
      exact .inr folded
  · rintro (rfl | rfl) <;> exact .inl rfl

theorem toUpper_beq (plain : d.isAlpha = false) : (c.toUpper == d) = (c == d) := by
  rw [Bool.eq_iff_iff, beq_iff_eq, beq_iff_eq, Ascii.toUpper_eq_iff plain]

theorem head?_map_toUpper (plain : d.isAlpha = false) (text : List Char) :
    (text.map Char.toUpper).head? = some d ↔ text.head? = some d := by
  cases text with
  | nil => rfl
  | cons c text => simp [Ascii.toUpper_eq_iff plain]

end Characters

section Scans

variable {close : Char} {p : Char → Bool}

theorem closeLength?_map_toUpper (plain : close.isAlpha = false) (seen : Nat) (text : List Char) :
    closeLength? close seen (text.map Char.toUpper) = closeLength? close seen text := by
  fun_induction closeLength? close seen text with
  | case1 => rfl
  | case2 seen => simp [closeLength?, Ascii.toUpper_eq_iff plain]
  | case3 seen c other => simp [closeLength?, Ascii.toUpper_eq_iff plain, other]
  | case4 seen rest ih => simp [closeLength?, Ascii.toUpper_eq_iff plain, ih]
  | case5 seen d rest other => simp [closeLength?, Ascii.toUpper_eq_iff plain, other]
  | case6 seen c d rest other ih =>
      simp only [List.map_cons] at ih
      simp [closeLength?, Ascii.toUpper_eq_iff plain, other, ih]

theorem commentLength?_map_toUpper (depth seen : Nat) (text : List Char) :
    commentLength? depth seen (text.map Char.toUpper) = commentLength? depth seen text := by
  fun_induction commentLength? depth seen text with
  | case1 depth seen rest ih => simpa [commentLength?] using ih
  | case2 seen rest => simp [commentLength?]
  | case3 seen rest outer ih => simpa [commentLength?] using ih
  | case4 depth seen c rest noOpening noClosing ih =>
      rw [List.map_cons, commentLength?.eq_4, ih]
      · intro tail slash star
        obtain ⟨d, more, rfl, star, _⟩ := List.map_eq_cons_iff.mp star
        rw [Ascii.toUpper_eq_iff rfl] at slash star
        exact noOpening more slash (by rw [star])
      · intro tail star slash
        obtain ⟨d, more, rfl, slash, _⟩ := List.map_eq_cons_iff.mp slash
        rw [Ascii.toUpper_eq_iff rfl] at slash star
        exact noClosing more star (by rw [slash])
  | case5 => rfl

theorem runLength_map_toUpper (blind : ∀ c, p c.toUpper = p c) (text : List Char) :
    runLength p (text.map Char.toUpper) = runLength p text := by
  have same : p ∘ Char.toUpper = p := funext blind
  rw [runLength, List.takeWhile_map, same, List.length_map, runLength]

/-- The scan for a lexeme cannot tell a text from the same in upper case. -/
theorem scan_map_toUpper (c : Char) (text : List Char) :
    scan c.toUpper (text.map Char.toUpper) = scan c text := by
  have line := runLength_map_toUpper (p := (· ≠ '\n'))
    (fun c => by simp only [ne_eq, Ascii.toUpper_eq_iff (d := '\n') rfl]) text
  have name := runLength_map_toUpper (p := fun d => d == '@' || continuesWord d)
    (fun c => by rw [toUpper_beq rfl, continuesWord_toUpper]) text
  have number := runLength_map_toUpper (p := fun d => continuesWord d || d == '.')
    (fun c => by rw [toUpper_beq rfl, continuesWord_toUpper]) text
  have word := runLength_map_toUpper continuesWord_toUpper text
  simp (disch := decide) only [scan, isBlank_toUpper, startsWord_toUpper, isDigit_toUpper,
    toUpper_eq_marker_iff, Ascii.toUpper_eq_iff, head?_map_toUpper, ← List.map_tail,
    closeLength?_map_toUpper, commentLength?_map_toUpper, line, name, number, word]

theorem scan_congr_toUpper {c d : Char} {text other : List Char} (first : c.toUpper = d.toUpper)
    (rest : text.map Char.toUpper = other.map Char.toUpper) : scan c text = scan d other := by
  rw [← scan_map_toUpper c, first, rest, scan_map_toUpper]

end Scans

end Lexeme

section Raising

variable {chosen : Nat → Bool} {offset : Nat} {text : List Char}

/-- A text that begins at an offset, with the characters at chosen offsets in upper case. -/
def raised (chosen : Nat → Bool) (offset : Nat) : List Char → List Char
  | [] => []
  | c :: rest =>
    (if chosen offset then c.toUpper else c) :: raised chosen (offset + c.utf8Size) rest

theorem map_toUpper_raised (chosen : Nat → Bool) (offset : Nat) (text : List Char) :
    (raised chosen offset text).map Char.toUpper = text.map Char.toUpper := by
  induction text generalizing offset with
  | nil => rfl
  | cons c rest ih =>
      rw [raised, List.map_cons, ih, List.map_cons]
      split <;> simp

theorem map_shape_raised (chosen : Nat → Bool) (offset : Nat) (text : List Char) :
    (raised chosen offset text).map Position.shape = text.map Position.shape := by
  induction text generalizing offset with
  | nil => rfl
  | cons c rest ih =>
      rw [raised, List.map_cons, ih, List.map_cons]
      split <;> simp [Position.shape, Lexeme.toUpper_beq (d := '\n') rfl]

theorem raised_append (first second : List Char) : raised chosen offset (first ++ second) =
    raised chosen offset first ++ raised chosen (offset + (utf8 first).length) second := by
  induction first generalizing offset with
  | nil => rfl
  | cons c first ih =>
      rw [List.cons_append, raised, raised, List.cons_append, ih, length_utf8_cons, Nat.add_assoc]

theorem length_raised (chosen : Nat → Bool) (offset : Nat) (text : List Char) :
    (raised chosen offset text).length = text.length := by
  simpa using congrArg List.length (map_toUpper_raised chosen offset text)

theorem raised_of_none
    (none : ∀ i, offset ≤ i → i < offset + (utf8 text).length → chosen i = false) :
    raised chosen offset text = text := by
  induction text generalizing offset with
  | nil => rfl
  | cons c rest ih =>
      have := c.utf8Size_pos
      rw [length_utf8_cons] at none
      have first : chosen offset = false := none offset (Nat.le_refl _) (by omega)
      rw [raised, first, ih fun i low high => none i (by omega) (by omega)]
      rfl

theorem raised_of_all
    (all : ∀ i, offset ≤ i → i < offset + (utf8 text).length → chosen i = true) :
    raised chosen offset text = text.map Char.toUpper := by
  induction text generalizing offset with
  | nil => rfl
  | cons c rest ih =>
      have := c.utf8Size_pos
      rw [length_utf8_cons] at all
      have first : chosen offset = true := all offset (Nat.le_refl _) (by omega)
      rw [raised, first, ih fun i low high => all i (by omega) (by omega)]
      rfl

end Raising

/-- The token with the characters at chosen offsets in upper case. -/
def Token.raise (chosen : Nat → Bool) (t : Token) : Token :=
  { t with text := String.ofList (raised chosen t.start.offset t.text.toList) }

def Token.capitalized (t : Token) : Token := { t with text := t.text.toUpper }

namespace Lexeme

def raise (chosen : Nat → Bool) (l : Lexeme) : Lexeme :=
  { l with text := raised chosen l.start.offset l.text }

variable {chosen : Nat → Bool} {offset : Nat} {p : Position} {kind : LexemeKind}
variable {piece rest text : List Char} {pieces : List (LexemeKind × List Char)}

theorem token?_raise (l : Lexeme) :
    (l.raise chosen).token? = l.token?.map (Token.raise chosen) := by
  obtain ⟨kind, text, start⟩ := l
  cases kind <;> simp [token?, raise, Token.raise]

/-- A piece of a text stays a lexeme of its kind. -/
theorem Form.raised (form : Form kind piece rest) : Form kind (raised chosen offset piece)
    (raised chosen (offset + (utf8 piece).length) rest) := by
  obtain ⟨c, body, rfl⟩ := List.exists_cons_of_ne_nil form.ne_nil
  have read : scan (if chosen offset then c.toUpper else c)
      (SqlLint.raised chosen (offset + c.utf8Size) (body ++ rest)) = .ok (kind, body.length) := by
    rw [← scan_of_form form]
    refine scan_congr_toUpper ?_ (map_toUpper_raised _ _ _)
    split <;> simp
  obtain ⟨body', rest', same, length, form'⟩ := scan_eq_ok_iff.mp read
  rw [raised_append] at same
  obtain ⟨rfl, rfl⟩ := List.append_inj same ((length_raised _ _ _).trans length)
  rwa [length_utf8_cons, ← Nat.add_assoc]

/-- A text is split as before, into the same pieces with the chosen characters in upper case. -/
theorem Split.raised (split : Split text pieces []) : Split (raised chosen p.offset text)
    ((placed p pieces).map fun l => (l.kind, raised chosen l.start.offset l.text)) [] := by
  induction pieces generalizing p text with
  | nil =>
      cases split
      exact .nil
  | cons piece pieces ih =>
      cases split with
      | @cons kind piece rest _ _ form others =>
      have later := ih (p := p.advanceAll piece) others
      rw [Position.offset_advanceAll] at later
      rw [raised_append]
      exact .cons form.raised later

theorem placed_raised (p : Position) (pieces : List (LexemeKind × List Char)) :
    placed p ((placed p pieces).map fun l => (l.kind, raised chosen l.start.offset l.text)) =
      (placed p pieces).map (raise chosen) := by
  induction pieces generalizing p with
  | nil => rfl
  | cons piece pieces ih =>
      have same := Position.advanceAll_congr (p := p) (map_shape_raised chosen p.offset piece.2)
      rw [placed, List.map_cons, placed, same, ih]
      rfl

end Lexeme

namespace Script

open Lexeme

variable {path root text : String} {level : UInt32} {s : Script}

/-- A script with letters in upper case, wherever they stand, is a script with the same lexemes at
the same places. -/
theorem ofText_raised (made : ofText path root level text = .ok s) (chosen : Nat → Bool) :
    ofText path root level (String.ofList (raised chosen 0 text.toList)) =
      .ok { s with
        text := String.ofList (raised chosen 0 text.toList)
        lexemes := s.lexemes.map (Lexeme.raise chosen) } := by
  obtain ⟨pieces, split, rfl⟩ := ofText_eq_ok_iff.mp made
  have again : Split (raised chosen Position.start.offset text.toList) _ [] := split.raised
  refine ofText_eq_ok_iff.mpr ⟨_, by rwa [String.toList_ofList], ?_⟩
  rw [placed_raised]

theorem tokens_raised (s : Script) (chosen : Nat → Bool) :
    (s.lexemes.map (Lexeme.raise chosen)).filterMap Lexeme.token? =
      s.tokens.map (Token.raise chosen) := by
  rw [tokens, List.filterMap_map, List.map_filterMap]
  exact congrArg (s.lexemes.filterMap ·) (funext token?_raise)

/-- Whether an offset is inside of one of some tokens. -/
def within (tokens : List Token) (i : Nat) : Bool :=
  tokens.any fun t => t.span.1 ≤ i && i < t.span.2

def capitalized (s : Script) (chosen : List Token) : String :=
  String.ofList (raised (within chosen) 0 s.text.toList)

theorem Laid.span_apart {pieces : List (LexemeKind × List Char)} {t u : Token} (h : s.Laid pieces)
    (first : t ∈ s.tokens) (second : u ∈ s.tokens) (other : t ≠ u) :
    t.span.2 ≤ u.span.1 ∨ u.span.2 ≤ t.span.1 := by
  obtain ⟨a, ha, found⟩ := List.mem_filterMap.mp first
  obtain ⟨b, hb, found'⟩ := List.mem_filterMap.mp second
  rw [span_of_token? found, span_of_token? found']
  refine h.apart ha hb ?_
  rintro rfl
  exact other (Option.some.inj (found.symm.trans found'))

/-- A token is put in upper case whole, or not at all. -/
theorem Laid.raise_within {pieces : List (LexemeKind × List Char)} {t : Token} {chosen : List Token}
    (h : s.Laid pieces) (part : chosen ⊆ s.tokens) (member : t ∈ s.tokens) :
    t.raise (within chosen) = if t ∈ chosen then t.capitalized else t := by
  have length : (utf8 t.text.toList).length = t.text.utf8ByteSize := by simp [length_utf8]
  split
  case isTrue listed =>
    have all : ∀ i, t.start.offset ≤ i → i < t.start.offset + (utf8 t.text.toList).length →
        within chosen i = true := by
      intro i low high
      rw [length] at high
      exact List.any_eq_true.mpr ⟨t, listed, by simp [Token.span, low, high]⟩
    rw [Token.raise, raised_of_all all, ← String.toList_map, String.ofList_toList]
    rfl
  case isFalse absent =>
    have none : ∀ i, t.start.offset ≤ i → i < t.start.offset + (utf8 t.text.toList).length →
        within chosen i = false := by
      intro i low high
      rw [length] at high
      refine List.any_eq_false.mpr fun u listed => ?_
      have other : t ≠ u := fun same => absent (same ▸ listed)
      have apart := h.span_apart member (part listed) other
      intro inside
      obtain ⟨low', high'⟩ : u.span.1 ≤ i ∧ i < u.span.2 := by simpa using inside
      simp only [Token.span] at apart low' high'
      omega
    rw [Token.raise, raised_of_none none, String.ofList_toList]

/-- A script with some of its tokens in upper case is a script with the same tokens at the same
places, those apart. -/
theorem exists_capitalized (made : ofText path root level text = .ok s) {chosen : List Token}
    (part : chosen ⊆ s.tokens) : ∃ u, ofText path root level (s.capitalized chosen) = .ok u ∧
      u.path = s.path ∧
      u.tokens = s.tokens.map fun t => if t ∈ chosen then t.capitalized else t := by
  obtain ⟨_, laid⟩ := exists_laid made
  have same : s.text = text := by
    obtain ⟨_, _, rfl⟩ := ofText_eq_ok_iff.mp made
    rfl
  have raised := ofText_raised made (within chosen)
  rw [← same] at raised
  refine ⟨_, raised, rfl, ?_⟩
  refine (tokens_raised s _).trans (List.map_congr_left fun t member => ?_)
  exact laid.raise_within part member

end Script

end SqlLint
