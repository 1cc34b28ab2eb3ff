import SqlLint.Proofs.Script.Masking

/-!
# Scripts joined by newlines

A newline ends every lexeme: it closes a line comment, and no other lexeme runs on over it. So a
text that can be cut keeps its lexemes when a newline and more text follow, and what follows is cut
as if it stood alone, only further down. Being further down changes byte offsets and lines; columns
stay, since the newline starts a line of its own.

This makes a batch of scripts the same as its parts: tokens, comments and the place of an error are
those of the part, moved by the length and the lines of what precedes it.

A text that is cut off behind a token keeps its lexemes, too, so more text can be put there in place
of what followed.
-/

namespace SqlLint

namespace Position

/-- The place in the same column, a number of bytes and lines further down. -/
def shift (bytes lines : Nat) (p : Position) : Position :=
  ⟨p.offset + bytes, p.line + lines, p.column⟩

variable {bytes lines : Nat} {p : Position}

@[simp] theorem offset_shift : (p.shift bytes lines).offset = p.offset + bytes := rfl

@[simp] theorem line_shift : (p.shift bytes lines).line = p.line + lines := rfl

@[simp] theorem column_shift : (p.shift bytes lines).column = p.column := rfl

theorem advance_shift (c : Char) :
    (p.shift bytes lines).advance c = (p.advance c).shift bytes lines := by
  simp only [advance, shift]
  split <;> simp only [Position.mk.injEq, and_true] <;> omega

theorem advanceAll_shift (text : List Char) :
    (p.shift bytes lines).advanceAll text = (p.advanceAll text).shift bytes lines := by
  induction text generalizing p with
  | nil => rfl
  | cons c text ih => rw [advanceAll_cons, advance_shift, ih, advanceAll_cons]

/-- The place behind a text and a newline is as far down as the text is long and has lines. -/
theorem advanceAll_newline (text : List Char) :
    start.advanceAll (text ++ ['\n']) =
      start.shift ((utf8 text).length + 1) (text.count '\n' + 1) := by
  have offset : (start.advanceAll (text ++ ['\n'])).offset = 0 + ((utf8 text).length + 1) := by
    rw [offset_advanceAll, utf8_append, List.length_append]
    rfl
  have line : (start.advanceAll (text ++ ['\n'])).line = 1 + (text.count '\n' + 1) := by
    rw [line_advanceAll, List.count_append]
    rfl
  have column : (start.advanceAll (text ++ ['\n'])).column = 1 := by
    rw [advanceAll_append, advanceAll_cons, advance, if_pos rfl]
    rfl
  generalize start.advanceAll (text ++ ['\n']) = place at offset line column
  obtain ⟨_, _, _⟩ := place
  cases offset
  cases line
  cases column
  rfl

end Position

def Token.shift (bytes lines : Nat) (t : Token) : Token :=
  { t with start := t.start.shift bytes lines }

/-- The error a number of lines further down. -/
def LexicalError.shift (lines : Nat) (e : LexicalError) : LexicalError :=
  { e with line := e.line + lines }

namespace Lexeme

def shift (bytes lines : Nat) (l : Lexeme) : Lexeme :=
  { l with start := l.start.shift bytes lines }

section Shifted

variable {bytes lines : Nat} {p : Position}

theorem token?_shift (l : Lexeme) :
    (l.shift bytes lines).token? = l.token?.map (Token.shift bytes lines) := by
  obtain ⟨kind, text, start⟩ := l
  cases kind <;> rfl

theorem commentRange?_shift (l : Lexeme) : (l.shift bytes lines).commentRange? =
    l.commentRange?.map fun range => (range.1 + bytes, range.2 + bytes) := by
  simp only [commentRange?, shift, Position.advanceAll_shift]
  split <;> rfl

theorem placed_shift (pieces : List (LexemeKind × List Char)) :
    placed (p.shift bytes lines) pieces = (placed p pieces).map (shift bytes lines) := by
  induction pieces generalizing p with
  | nil => rfl
  | cons piece pieces ih =>
      rw [placed, Position.advanceAll_shift, ih]
      rfl

/-- What a text is cut into does not depend on how far down it stands. -/
theorem cut_shift (text : List Char) : cut (p.shift bytes lines) text =
    ((cut p text).map (List.map (shift bytes lines))).mapError (LexicalError.shift lines) := by
  obtain ⟨pieces, left, split, rfl | ⟨construct, unclosed⟩⟩ := exists_split text
  · rw [cut_eq_ok_of_split split, cut_eq_ok_of_split split, placed_shift]
    rfl
  · rw [cut_of_split split, cut_of_split split, cut_of_neverClosed unclosed,
      cut_of_neverClosed unclosed]
    simp only [Position.advanceAll_shift, Position.line_shift, Position.column_shift]
    rfl

end Shifted

section Newline

variable {kind : LexemeKind} {piece text rest left : List Char}
variable {pieces : List (LexemeKind × List Char)}

/-- No lexeme runs on over a newline that follows the text. -/
theorem Form.append_newline (form : Form kind piece rest) (more : List Char) :
    Form kind piece (rest ++ '\n' :: more) := by
  refine form.of_head fun d first => ?_
  cases rest with
  | nil => exact .inr (.inl (Option.some.inj first).symm)
  | cons => exact .inl first

/-- A text keeps its lexemes when a newline and more text follow. -/
theorem Split.append_newline (split : Split text pieces left) (more : List Char) :
    Split (text ++ '\n' :: more) pieces (left ++ '\n' :: more) := by
  induction split with
  | nil => exact .nil
  | cons form _ ih =>
      rw [List.append_assoc]
      exact .cons (form.append_newline more) ih

theorem cut_newline (p : Position) (text : List Char) :
    cut p ('\n' :: text) = (cut (p.advanceAll ['\n']) text).map (⟨.blank, ['\n'], p⟩ :: ·) := by
  have front : Split ('\n' :: text) [(.blank, ['\n'])] text := .cons (.blank rfl) .nil
  rw [cut_of_split front]
  rfl

/-- A text that can be cut is cut by itself when a newline and more text follow, and so is what
follows, as far down as it stands. -/
theorem cut_joined {first : List Char} (split : Split first pieces []) (second : List Char) :
    cut .start (first ++ '\n' :: second) =
      ((cut .start second).map fun others =>
        placed .start pieces ++ ⟨.blank, ['\n'], Position.start.advanceAll first⟩ ::
          others.map (shift ((utf8 first).length + 1) (first.count '\n' + 1))).mapError
        (LexicalError.shift (first.count '\n' + 1)) := by
  have whole : pieces.flatMap (·.2) = first := by simpa using split.eq_append.symm
  have apart := cut_of_split (p := .start) (split.append_newline second)
  rw [List.nil_append, whole, cut_newline, ← Position.advanceAll_append,
    Position.advanceAll_newline, cut_shift] at apart
  rw [apart]
  cases cut .start second <;> rfl

end Newline

section Parted

variable {p : Position} {text left : List Char} {pieces others : List (LexemeKind × List Char)}

/-- The first pieces of a text are the pieces of the text that they make up. -/
theorem Split.front (split : Split text (pieces ++ others) left) :
    Split (pieces.flatMap (·.2)) pieces [] := by
  induction pieces generalizing text with
  | nil => exact .nil
  | cons piece pieces ih =>
      rw [List.cons_append] at split
      cases split with
      | cons form rest =>
          have whole := rest.eq_append
          rw [List.flatMap_append, List.append_assoc] at whole
          rw [whole] at form
          exact .cons form.of_append (ih rest)

/-- Where the lexemes of pieces are parted, the pieces are. -/
theorem exists_append_of_placed {first last : List Lexeme}
    (parted : placed p pieces = first ++ last) : ∃ front back, pieces = front ++ back ∧
      placed p front = first ∧ placed (p.advanceAll (front.flatMap (·.2))) back = last := by
  induction first generalizing p pieces with
  | nil => exact ⟨[], pieces, rfl, rfl, parted⟩
  | cons l first ih =>
      cases pieces with
      | nil => cases parted
      | cons piece pieces =>
          obtain ⟨rfl, later⟩ := List.cons.inj parted
          obtain ⟨front, back, rfl, rfl, rfl⟩ := ih later
          exact ⟨piece :: front, back, rfl, rfl, by simp [Position.advanceAll_append]⟩

end Parted

end Lexeme

namespace Script

variable {path root : String} {level : UInt32} {s : Script}

/-- Texts joined by a newline. -/
def joined (first second : String) : String := first ++ "\n" ++ second

theorem toList_joined (first second : String) :
    (joined first second).toList = first.toList ++ '\n' :: second.toList := by
  simp [joined]

theorem utf8ByteSize_joined (first second : String) :
    (joined first second).utf8ByteSize = first.utf8ByteSize + 1 + second.utf8ByteSize := by
  rw [joined, String.utf8ByteSize_append, String.utf8ByteSize_append]
  rfl

theorem ofText_eq_map_cut (text : String) : ofText path root level text =
    (Lexeme.cut .start text.toList).map
      (⟨path, (Path.stripPrefix? root path).getD path, text, level, ·⟩) := by
  rw [ofText]
  cases Lexeme.cut .start text.toList <;> rfl

/-- A script and the script of a second text make up the script of the two texts joined. -/
theorem ofText_joined {first : String} (made : ofText path root level first = .ok s)
    (second : String) : ofText path root level (joined first second) =
      ((ofText path root level second).map fun u =>
        { u with
          text := joined first second
          lexemes := s.lexemes ++
            ⟨.blank, ['\n'], Position.start.advanceAll first.toList⟩ ::
              u.lexemes.map
                (Lexeme.shift (first.utf8ByteSize + 1) (first.toList.count '\n' + 1)) }).mapError
        (LexicalError.shift (first.toList.count '\n' + 1)) := by
  obtain ⟨pieces, split, rfl⟩ := ofText_eq_ok_iff.mp made
  have length : (utf8 first.toList).length = first.utf8ByteSize := by simp [length_utf8]
  rw [ofText_eq_map_cut, ofText_eq_map_cut, toList_joined, Lexeme.cut_joined split, length]
  cases Lexeme.cut .start second.toList <;> rfl

/-- The tokens and comments of two scripts, in order, are those of the script joined from them. -/
theorem exists_joined {first second : String} {u : Script}
    (made : ofText path root level first = .ok s) (made' : ofText path root level second = .ok u) :
    ∃ t, ofText path root level (joined first second) = .ok t ∧
      t.tokens = s.tokens ++
        u.tokens.map (Token.shift (first.utf8ByteSize + 1) (first.toList.count '\n' + 1)) ∧
      t.comments = s.comments ++ u.comments.map fun range =>
        (range.1 + (first.utf8ByteSize + 1), range.2 + (first.utf8ByteSize + 1)) := by
  have apart := ofText_joined made second
  rw [made'] at apart
  refine ⟨_, apart, ?_, ?_⟩
  · simp only [tokens, List.filterMap_append, List.filterMap_cons, List.filterMap_map,
      List.map_filterMap, Function.comp_def, Lexeme.token?_shift]
    rfl
  · simp only [comments, List.filterMap_append, List.filterMap_cons, List.filterMap_map,
      List.map_filterMap, Function.comp_def, Lexeme.commentRange?_shift]
    rfl

section Parted

open Lexeme

variable {text : String} {before after : List Token} {t : Token}

/-- The pieces before a token show the tokens before it. -/
theorem Laid.exists_parted {pieces : List (LexemeKind × List Char)} (h : s.Laid pieces)
    (tokens : s.tokens = before ++ t :: after) : ∃ front back kind piece,
    pieces = front ++ (.token kind, piece) :: back ∧
      t = ⟨kind, String.ofList piece, Position.start.advanceAll (front.flatMap (·.2))⟩ ∧
      (placed .start front).filterMap token? = before := by
  rw [Script.tokens, h.lexemes] at tokens
  obtain ⟨first, last, parted, shown, more⟩ := List.filterMap_eq_append_iff.mp tokens
  obtain ⟨hidden, l, rest, rfl, none, token, _⟩ := List.filterMap_eq_cons_iff.mp more
  rw [← List.append_assoc] at parted
  obtain ⟨front, back, same, placedFront, placedBack⟩ := exists_append_of_placed parted
  cases back with
  | nil => cases placedBack
  | cons piece back =>
      obtain ⟨rfl, -⟩ := List.cons.inj placedBack
      obtain ⟨kind, visible, rfl⟩ := exists_of_token? token
      obtain ⟨_, piece⟩ := piece
      obtain rfl : _ = LexemeKind.token kind := visible
      refine ⟨front, back, kind, piece, same, rfl, ?_⟩
      rw [placedFront, List.filterMap_append, shown, List.filterMap_eq_nil_iff.mpr none,
        List.append_nil]

/-- A script that is cut off behind a token keeps the tokens up to it. -/
theorem exists_cut_behind (made : ofText path root level text = .ok s)
    (tokens : s.tokens = before ++ t :: after) : ∃ front back u,
    text = front ++ t.text ++ back ∧ front.utf8ByteSize = t.start.offset ∧
      ofText path root level (front ++ t.text) = .ok u ∧ u.tokens = before ++ [t] := by
  obtain ⟨pieces, split, rfl⟩ := ofText_eq_ok_iff.mp made
  obtain ⟨front, back, kind, piece, rfl, rfl, rfl⟩ := Laid.exists_parted ⟨split, rfl⟩ tokens
  have whole := split.eq_append
  rw [List.append_cons] at split
  have kept : Split (String.ofList (front.flatMap (·.2)) ++ String.ofList piece).toList
      (front ++ [(.token kind, piece)]) [] := by simpa using split.front
  refine ⟨_, String.ofList (back.flatMap (·.2)), _, ?_, ?_,
    ofText_eq_ok_iff.mpr ⟨_, kept, rfl⟩, ?_⟩
  · rw [← String.ofList_append, ← String.ofList_append, ← String.ofList_toList (s := text), whole]
    simp
  · rw [← length_utf8, Position.offset_advanceAll]
    exact (Nat.zero_add _).symm
  · rw [Script.tokens, placed_append, List.filterMap_append]
    rfl

end Parted

/-- Joining texts by a newline joins their scripts, whatever the last lexeme of the first text is
and whether or not the second text can be cut. When the first text can be cut, the two together can
be cut just if the second can. Then the tokens and comments are those of the first and those of the
second, which are further down by the bytes of the first text and the newline and by their lines,
in the columns where they were. And if the second text is rejected, then the two are rejected for
the same construct in the same column, as many lines further down. -/
theorem joined_by_newline {first : String} (made : ofText path root level first = .ok s)
    (second : String) :
    ((∃ t, ofText path root level (joined first second) = .ok t) ↔
      ∃ u, ofText path root level second = .ok u) ∧
    (∀ t u, ofText path root level (joined first second) = .ok t →
      ofText path root level second = .ok u →
        t.tokens = s.tokens ++
          u.tokens.map (Token.shift (first.utf8ByteSize + 1) (first.toList.count '\n' + 1)) ∧
        t.comments = s.comments ++ u.comments.map fun range =>
          (range.1 + (first.utf8ByteSize + 1), range.2 + (first.utf8ByteSize + 1))) ∧
    ∀ e, ofText path root level second = .error e →
      ofText path root level (joined first second) =
        .error (e.shift (first.toList.count '\n' + 1)) := by
  have apart := ofText_joined made second
  refine ⟨?_, ?_, ?_⟩
  · rw [apart]
    cases ofText path root level second <;> simp [Except.map, Except.mapError]
  · intro t u whole part
    rw [part, whole] at apart
    cases apart
    constructor
    · simp only [tokens, List.filterMap_append, List.filterMap_cons, List.filterMap_map,
        List.map_filterMap, Function.comp_def, Lexeme.token?_shift]
      rfl
    · simp only [comments, List.filterMap_append, List.filterMap_cons, List.filterMap_map,
        List.map_filterMap, Function.comp_def, Lexeme.commentRange?_shift]
      rfl
  · intro e rejected
    rw [apart, rejected]
    rfl

/-- A text on two lines that ends in a line comment with a quote in it. -/
def openEnded : String := "SELECT é\nFROM t -- n'"

theorem joined_by_newline_of_openEnded :
    (∃ t, ofText "q.sql" "" 150 (joined openEnded "/* c */'x' -") = .ok t ∧
      t.tokens.map (fun t => (t.text, t.start.offset, t.start.line, t.start.column)) =
        [("SELECT", 0, 1, 1), ("é", 7, 1, 8), ("FROM", 10, 2, 1), ("t", 15, 2, 6),
          ("'x'", 30, 3, 8), ("-", 34, 3, 12)] ∧
      t.comments = [(17, 22), (23, 30)]) ∧
    ofText "q.sql" "" 150 (joined openEnded "x\n [y") = .error ⟨.bracket, 4, 2⟩ := by
  obtain ⟨s, made, tokens, comments⟩ : ∃ s, ofText "q.sql" "" 150 openEnded = .ok s ∧
      s.tokens.map (fun t => (t.text, t.start.offset, t.start.line, t.start.column)) =
        [("SELECT", 0, 1, 1), ("é", 7, 1, 8), ("FROM", 10, 2, 1), ("t", 15, 2, 6)] ∧
      s.comments = [(17, 22)] := by
    refine ⟨_, by cbv, ?_, ?_⟩ <;> cbv
  obtain ⟨u, made', tokens', comments'⟩ : ∃ u, ofText "q.sql" "" 150 "/* c */'x' -" = .ok u ∧
      u.tokens = [⟨.string false, "'x'", ⟨7, 1, 8⟩⟩, ⟨.symbol, "-", ⟨11, 1, 12⟩⟩] ∧
      u.comments = [(0, 7)] := by
    refine ⟨_, by cbv, ?_, ?_⟩ <;> cbv
  have rejected : ofText "q.sql" "" 150 "x\n [y" = .error ⟨.bracket, 2, 2⟩ := by cbv
  have bytes : openEnded.utf8ByteSize = 22 := by cbv
  have lines : openEnded.toList.count '\n' = 1 := by cbv
  constructor
  · obtain ⟨accepted, apart, _⟩ := joined_by_newline made "/* c */'x' -"
    obtain ⟨t, whole⟩ := accepted.mpr ⟨u, made'⟩
    obtain ⟨own, ownComments⟩ := apart t u whole made'
    refine ⟨t, whole, ?_, ?_⟩
    · rw [own, List.map_append, tokens, tokens', bytes, lines]
      rfl
    · rw [ownComments, comments, comments', bytes]
      rfl
  · obtain ⟨_, _, fails⟩ := joined_by_newline made "x\n [y"
    rw [fails _ rejected, lines]
    rfl

end Script

end SqlLint
