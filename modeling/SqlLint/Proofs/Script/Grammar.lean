import Mathlib
import SqlLint.Script

/-!
# The grammar of lexemes

The forms of lexemes, stated without reference to a scan. A form speaks of a piece of a text and of
what follows it: what follows must not let the piece go on, which is what maximal munch means for
each form. Delimiters inside a quoted piece are doubled, so a delimiter closes a piece only if it is
left over when they are paired from the left. Comments are nested like parentheses, where their
markers, too, are read from the left and do not overlap.

A text is split by taking form after form from its front. The split stops at a construct that is
opened and never closed.
-/

namespace SqlLint.Lexeme

/-- Text in which every `close` is one of a pair. -/
inductive Doubled (close : Char) : List Char → Prop
  | nil : Doubled close []
  | plain {c : Char} {text : List Char} (other : c ≠ close) (rest : Doubled close text) :
      Doubled close (c :: text)
  | pair {text : List Char} (rest : Doubled close text) : Doubled close (close :: close :: text)

/-- What a text inside a comment consists of. -/
inductive Mark
  | opening
  | closing
  | plain (c : Char)
deriving DecidableEq, Repr

/-- The markers of a text, read from the left, and the characters between them. -/
def marks : List Char → List Mark
  | '/' :: '*' :: rest => .opening :: marks rest
  | '*' :: '/' :: rest => .closing :: marks rest
  | c :: rest => .plain c :: marks rest
  | [] => []

/-- Marks in which comments are opened and closed in turn. -/
inductive Balanced : List Mark → Prop
  | nil : Balanced []
  | plain {c : Char} {rest : List Mark} (balanced : Balanced rest) : Balanced (.plain c :: rest)
  | nested {inner rest : List Mark} (inside : Balanced inner) (balanced : Balanced rest) :
      Balanced (.opening :: (inner ++ .closing :: rest))

/-- A comment that is opened at its beginning and closed at its end, and in which every nested
comment is closed. -/
def BlockComment (text : List Char) : Prop :=
  ∃ inner, marks text = .opening :: (inner ++ [.closing]) ∧ Balanced inner

/-- The constructs with delimiters: how they are opened, what closes them and what token they are. -/
inductive Delimited : Unclosed → List Char → Char → TokenKind → Prop
  | string : Delimited (.string false) ['\''] '\'' (.string false)
  | national {c : Char} (marker : c = 'N' ∨ c = 'n') :
      Delimited (.string true) [c, '\''] '\'' (.string true)
  | bracket : Delimited .bracket ['['] ']' .quoted
  | doubleQuote : Delimited .doubleQuote ['"'] '"' .quoted

/-- Whether a marker of national literals stands right before a quote. -/
def OpensNational (c : Char) (rest : List Char) : Prop :=
  (c = 'N' ∨ c = 'n') ∧ rest.head? = some '\''

/-- Whether `c` opens anything but a symbol when `rest` follows. -/
def Opens (c : Char) (rest : List Char) : Prop :=
  isBlank c ∨ (c = '-' ∧ rest.head? = some '-') ∨ (c = '/' ∧ rest.head? = some '*') ∨
    c = '\'' ∨ c = '[' ∨ c = '"' ∨ c = '@' ∨ c.isDigit ∨ startsWord c

/-- Whether a text does not begin with a character that satisfies `p`. -/
def StopsAt (p : Char → Bool) (rest : List Char) : Prop := ∀ d, rest.head? = some d → p d = false

/-- A piece of a text is a lexeme of a kind, given what follows it. -/
inductive Form : LexemeKind → List Char → List Char → Prop
  | blank {c rest} (blank : isBlank c) : Form .blank [c] rest
  | lineComment {body rest} (inside : ∀ d ∈ body, d ≠ '\n') (stops : StopsAt (· ≠ '\n') rest) :
      Form .lineComment ('-' :: '-' :: body) rest
  | blockComment {piece rest} (comment : BlockComment piece) : Form .blockComment piece rest
  | delimited {construct opener close kind body rest}
      (delimited : Delimited construct opener close kind) (inside : Doubled close body)
      (closed : rest.head? ≠ some close) : Form (.token kind) (opener ++ body ++ [close]) rest
  | variableName {body rest} (inside : ∀ d ∈ body, d == '@' || continuesWord d)
      (stops : StopsAt (fun d => d == '@' || continuesWord d) rest) :
      Form (.token .variable) ('@' :: body) rest
  | number {c body rest} (digit : c.isDigit) (inside : ∀ d ∈ body, continuesWord d || d == '.')
      (stops : StopsAt (fun d => continuesWord d || d == '.') rest) :
      Form (.token .number) (c :: body) rest
  | word {c body rest} (starts : startsWord c) (plain : ¬ OpensNational c (body ++ rest))
      (inside : ∀ d ∈ body, continuesWord d) (stops : StopsAt continuesWord rest) :
      Form (.token .word) (c :: body) rest
  | symbol {c rest} (single : ¬ Opens c rest) : Form (.token .symbol) [c] rest

/-- A text begins with pieces, each a lexeme given all that follows it, and `left` is left over. -/
inductive Split : List Char → List (LexemeKind × List Char) → List Char → Prop
  | nil {left} : Split left [] left
  | cons {kind piece rest pieces left} (form : Form kind piece rest)
      (others : Split rest pieces left) : Split (piece ++ rest) ((kind, piece) :: pieces) left

/-- A text begins with a construct that is never closed: every closing delimiter is one of a pair,
or no comment ends. -/
inductive NeverClosed : Unclosed → List Char → Prop
  | delimited {construct opener close kind after}
      (delimited : Delimited construct opener close kind)
      (paired : ∀ body rest, after = body ++ close :: rest → Doubled close body →
        rest.head? = some close) : NeverClosed construct (opener ++ after)
  | blockComment {after}
      (unended : ∀ piece rest, '/' :: '*' :: after = piece ++ rest → ¬ BlockComment piece) :
      NeverClosed .blockComment ('/' :: '*' :: after)

/-- Whether no lexeme of a kind goes on with a character once it is complete: a line comment goes on
with everything but a newline, any other lexeme with no blank. -/
def Ends (kind : LexemeKind) (d : Char) : Prop := d = '\n' ∨ kind ≠ .lineComment ∧ isBlank d

section Blanks

variable {kind : LexemeKind} {c d : Char}

theorem Ends.isBlank (ends : Ends kind d) : isBlank d := by
  rcases ends with rfl | ⟨_, blank⟩
  · rfl
  · exact blank

theorem continuesWord_of_isBlank (blank : isBlank d) : continuesWord d = false := by
  simp only [isBlank, Bool.or_eq_true, beq_iff_eq, or_assoc] at blank
  rcases blank with rfl | rfl | rfl | rfl <;> rfl

theorem ne_of_isBlank (blank : isBlank d) (black : isBlank c = false) : d ≠ c := by
  rintro rfl
  rw [blank] at black
  cases black

end Blanks

namespace StopsAt

variable {p : Char → Bool} {rest rest' : List Char}

@[simp] theorem nil : StopsAt p [] := by
  simp [StopsAt]

@[simp] theorem cons_iff {d : Char} : StopsAt p (d :: rest) ↔ p d = false := by
  simp [StopsAt]

theorem of_head {kind : LexemeKind} (stops : StopsAt p rest)
    (head : ∀ d, rest'.head? = some d → rest.head? = some d ∨ Ends kind d)
    (ends : ∀ d, Ends kind d → p d = false) : StopsAt p rest' := by
  intro d first
  rcases head d first with same | ending
  · exact stops d same
  · exact ends d ending

end StopsAt

namespace Form

variable {kind : LexemeKind} {piece rest rest' more : List Char}

/-- A lexeme stays one when what follows begins as before or with a character that ends it. -/
theorem of_head (form : Form kind piece rest)
    (head : ∀ d, rest'.head? = some d → rest.head? = some d ∨ Ends kind d) :
    Form kind piece rest' := by
  -- What follows begins with a character that is not blank only if it began so before.
  have same {d : Char} (black : isBlank d = false) (first : rest'.head? = some d) :
      rest.head? = some d :=
    (head d first).resolve_right fun ends => ne_of_isBlank ends.isBlank black rfl
  cases form with
  | blank blank => exact .blank blank
  | lineComment inside stops =>
      refine .lineComment inside (stops.of_head head ?_)
      rintro d (rfl | ⟨other, _⟩)
      · rfl
      · exact absurd rfl other
  | blockComment comment => exact .blockComment comment
  | delimited delimited inside closed =>
      refine .delimited delimited inside fun again => closed (same ?_ again)
      cases delimited <;> rfl
  | variableName inside stops =>
      refine .variableName inside (stops.of_head head fun d ends => ?_)
      simp [continuesWord_of_isBlank ends.isBlank, ne_of_isBlank (c := '@') ends.isBlank rfl]
  | number digit inside stops =>
      refine .number digit inside (stops.of_head head fun d ends => ?_)
      simp [continuesWord_of_isBlank ends.isBlank, ne_of_isBlank (c := '.') ends.isBlank rfl]
  | @word c body _ starts plain inside stops =>
      refine .word starts ?_ inside
        (stops.of_head head fun d ends => continuesWord_of_isBlank ends.isBlank)
      -- An `N` alone becomes no marker of a national literal, since a quote is not blank.
      cases body with
      | nil => exact fun ⟨marker, quote⟩ => plain ⟨marker, same rfl quote⟩
      | cons => exact plain
  | symbol single =>
      refine .symbol fun opens => single ?_
      rcases opens with blank | ⟨dash, next⟩ | ⟨slash, next⟩ | opens
      · exact .inl blank
      · exact .inr (.inl ⟨dash, same rfl next⟩)
      · exact .inr (.inr (.inl ⟨slash, same rfl next⟩))
      · exact .inr (.inr (.inr opens))

/-- A piece stays a lexeme when the text is cut off later on. -/
theorem of_append (form : Form kind piece (rest ++ more)) : Form kind piece rest := by
  refine form.of_head fun d first => .inl ?_
  obtain ⟨tail, rfl⟩ := List.head?_eq_some_iff.mp first
  rfl

theorem ne_nil (h : Form kind piece rest) : piece ≠ [] := by
  cases h with
  | blockComment comment =>
      rintro rfl
      obtain ⟨inner, marked, _⟩ := comment
      cases marked
  | delimited => simp
  | blank | lineComment | variableName | number | word | symbol => exact List.cons_ne_nil _ _

end Form

theorem NeverClosed.ne_nil {construct : Unclosed} {text : List Char}
    (h : NeverClosed construct text) : text ≠ [] := by
  cases h with
  | delimited delimited _ => cases delimited <;> exact List.cons_ne_nil _ _
  | blockComment => exact List.cons_ne_nil _ _

namespace Split

variable {text left more : List Char} {pieces : List (LexemeKind × List Char)}

/-- The pieces and what is left make up the text. -/
theorem eq_append (h : Split text pieces left) : text = pieces.flatMap (·.2) ++ left := by
  induction h with
  | nil => rfl
  | cons _ _ ih => simp [ih]

theorem exists_form {kind : LexemeKind} {piece : List Char} (h : Split text pieces left)
    (member : (kind, piece) ∈ pieces) : ∃ rest, Form kind piece rest := by
  induction h with
  | nil => cases member
  | cons form _ ih =>
      rcases List.mem_cons.mp member with same | member
      · cases same
        exact ⟨_, form⟩
      · exact ih member

/-- The text before what is left over is split into the same pieces by itself. -/
theorem of_append (h : Split text pieces left) : Split (pieces.flatMap (·.2)) pieces [] := by
  induction h with
  | nil => exact .nil
  | cons form others ih =>
      rw [others.eq_append] at form
      exact .cons form.of_append ih

end Split

end SqlLint.Lexeme
