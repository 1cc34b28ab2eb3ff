import SqlLint.Proofs.Script.Places
import SqlLint.Proofs.Text.Utf8

/-!
# Masked texts

Blanking the comments of a script leaves a text that is split into the same tokens, with as many
blanks between them as the comments had bytes. The lexeme before a comment does not run on, since a
blank continues no lexeme, and the marker `N` does not reach a quote behind a comment either, since
a blank is left in between. Bytes and lines keep their places. Columns do so too where the comments
are written in ASCII.
-/

namespace SqlLint

namespace Position

/-- What of a character matters to places: how many bytes it takes, and whether it ends a line. -/
def shape (c : Char) : Nat × Bool := (c.utf8Size, c == '\n')

variable {p q : Position} {c d : Char} {text other : List Char}

theorem advance_congr (same : shape c = shape d) : p.advance c = p.advance d := by
  have size : c.utf8Size = d.utf8Size := congrArg Prod.fst same
  have newline : c = '\n' ↔ d = '\n' := by simpa [shape] using congrArg Prod.snd same
  simp only [advance, size, newline]

/-- Lines and columns shown for an offset depend on the shape of the text. -/
theorem locate_congr (target : Nat) (same : text.map shape = other.map shape) :
    p.locate target text = p.locate target other := by
  induction text generalizing p other with
  | nil =>
      rw [List.map_nil, eq_comm, List.map_eq_nil_iff] at same
      rw [same]
  | cons c text ih =>
      cases other with
      | nil => cases same
      | cons d other =>
          obtain ⟨first, rest⟩ := List.cons.inj same
          have size : c.utf8Size = d.utf8Size := congrArg Prod.fst first
          rw [locate, locate, size, advance_congr first, ih rest]

theorem advanceAll_congr (same : text.map shape = other.map shape) :
    p.advanceAll text = p.advanceAll other := by
  induction text generalizing p other with
  | nil =>
      rw [List.map_nil, eq_comm, List.map_eq_nil_iff] at same
      rw [same]
  | cons c text ih =>
      cases other with
      | nil => cases same
      | cons d other =>
          obtain ⟨first, rest⟩ := List.cons.inj same
          rw [advanceAll_cons, advanceAll_cons, advance_congr first, ih rest]

theorem line_advanceAll (p : Position) (text : List Char) :
    (p.advanceAll text).line = p.line + text.count '\n' := by
  induction text generalizing p with
  | nil => rfl
  | cons c text ih =>
      rw [advanceAll_cons, ih, advance, List.count_cons]
      by_cases newline : c = '\n'
      · simp [newline]
        omega
      · simp [newline]

/-- Whether two places have the same offset and are on the same line. -/
def Level (p q : Position) : Prop := p.offset = q.offset ∧ p.line = q.line

theorem Level.advanceAll (level : p.Level q) (size : (utf8 text).length = (utf8 other).length)
    (lines : text.count '\n' = other.count '\n') :
    (p.advanceAll text).Level (q.advanceAll other) := by
  simp [Level, line_advanceAll, level.1, level.2, size, lines]

end Position

namespace Lexeme

section Blanking

/-- What a character of a comment is replaced with. -/
def blanked (c : Char) : List Char :=
  if c = '\n' then ['\n'] else List.replicate c.utf8Size ' '

/-- What a byte of a comment is replaced with. -/
def blankedByte (b : UInt8) : UInt8 := if b = 0x0A then b else 0x20

variable {c d : Char} {text : List Char}

theorem isBlank_of_mem_blanked (member : d ∈ blanked c) : isBlank d := by
  rw [blanked] at member
  split at member
  · rw [List.mem_singleton.mp member]
    rfl
  · rw [List.eq_of_mem_replicate member]
    rfl

theorem isBlank_of_mem_flatMap_blanked (member : d ∈ text.flatMap blanked) : isBlank d := by
  obtain ⟨c, _, member⟩ := List.mem_flatMap.mp member
  exact isBlank_of_mem_blanked member

/-- Blanking a character is blanking its bytes. -/
theorem utf8_blanked (c : Char) : utf8 (blanked c) = (utf8 [c]).map blankedByte := by
  have spaces (n : Nat) : utf8 (List.replicate n ' ') = List.replicate n 0x20 := by
    induction n with
    | zero => rfl
    | succ n ih =>
        rw [List.replicate_succ, utf8_cons, ih]
        rfl
  by_cases newline : c = '\n'
  · subst newline
    rfl
  · rw [blanked, if_neg newline, spaces, eq_comm, ← length_utf8_singleton, List.map_eq_replicate_iff]
    intro b member
    have other : b ≠ 0x0A := by
      rintro rfl
      have code : c.toNat = 10 := (mem_utf8_iff (by decide)).mp member
      exact newline (Char.toNat_inj.mp code)
    rw [blankedByte, if_neg other]

theorem utf8_flatMap_blanked (text : List Char) :
    utf8 (text.flatMap blanked) = (utf8 text).map blankedByte := by
  induction text with
  | nil => rfl
  | cons c text ih =>
      rw [List.flatMap_cons, utf8_append, ih, utf8_blanked, utf8_cons c text, List.map_append]

theorem count_flatMap_blanked (text : List Char) :
    (text.flatMap blanked).count '\n' = text.count '\n' := by
  induction text with
  | nil => rfl
  | cons c text ih =>
      rw [List.flatMap_cons, List.count_append, ih, List.count_cons, blanked]
      by_cases newline : c = '\n'
      · simp [newline, Nat.add_comm]
      · simp [newline, List.count_replicate]

/-- Blanks take the shape of the characters they replace if those are of ASCII. -/
theorem map_shape_flatMap_blanked (ascii : ∀ c ∈ text, c.utf8Size = 1) :
    (text.flatMap blanked).map Position.shape = text.map Position.shape := by
  induction text with
  | nil => rfl
  | cons c text ih =>
      obtain ⟨single, ascii⟩ := List.forall_mem_cons.mp ascii
      rw [List.flatMap_cons, List.map_append, ih ascii, blanked]
      by_cases newline : c = '\n'
      · simp [newline]
      · simp [newline, single, Position.shape]
        decide

end Blanking

section Pieces

/-- The pieces that a piece of a text is split into when comments are blanked. -/
def blankedPieces : LexemeKind × List Char → List (LexemeKind × List Char)
  | (kind, text) =>
    if kind.isComment then (text.flatMap blanked).map fun c => (.blank, [c]) else [(kind, text)]

variable {kind : LexemeKind} {piece text rest rest' left : List Char}
  {pieces : List (LexemeKind × List Char)} {p q : Position}

theorem blankedPieces_of_comment (comment : kind.isComment = true) :
    blankedPieces (kind, piece) = (piece.flatMap blanked).map fun c => (.blank, [c]) := by
  simp [blankedPieces, comment]

theorem blankedPieces_of_other (other : kind.isComment = false) :
    blankedPieces (kind, piece) = [(kind, piece)] := by
  simp [blankedPieces, other]

@[simp] theorem flatMap_text_blanks (text : List Char) :
    (text.map fun c => (LexemeKind.blank, [c])).flatMap (·.2) = text := by
  simp [List.flatMap_map]

theorem isComment_of_mem_blankedPieces {piece piece' : LexemeKind × List Char}
    (member : piece' ∈ blankedPieces piece) : piece'.1.isComment = false := by
  obtain ⟨kind, text⟩ := piece
  cases comment : kind.isComment with
  | true =>
      rw [blankedPieces_of_comment comment] at member
      obtain ⟨c, _, rfl⟩ := List.mem_map.mp member
      rfl
  | false =>
      rw [blankedPieces_of_other comment, List.mem_singleton] at member
      rw [member]
      exact comment

/-- Whether a text begins as another one does, or with a space. -/
def Fronts (rest rest' : List Char) : Prop := rest'.head? = rest.head? ∨ rest'.head? = some ' '

/-- A lexeme does not run on when a space follows in place of something else. -/
theorem Form.of_fronts (form : Form kind piece rest) (other : kind.isComment = false)
    (front : Fronts rest rest') : Form kind piece rest' := by
  refine form.of_head fun d first => ?_
  rcases front with same | space
  · exact .inl (same ▸ first)
  · rw [space] at first
    cases first
    refine .inr (.inr ⟨?_, rfl⟩)
    rintro rfl
    cases other

theorem Form.exists_of_isComment (form : Form kind piece rest) (comment : kind.isComment = true) :
    ∃ c body, piece = c :: body ∧ blanked c = [' '] := by
  cases form with
  | @lineComment body _ inside stops => exact ⟨'-', '-' :: body, rfl, rfl⟩
  | blockComment block =>
      obtain ⟨body, rfl, _⟩ := blockComment_iff.mp block
      exact ⟨'/', '*' :: body, rfl, rfl⟩
  | blank | delimited | variableName | number | word | symbol => cases comment

/-- A text with blanked comments begins as before, or with a space. -/
theorem Split.fronts (split : Split text pieces left) :
    Fronts text ((pieces.flatMap blankedPieces).flatMap (·.2) ++ left) := by
  cases split with
  | nil => exact .inl rfl
  | @cons kind piece rest pieces _ form _ =>
      rw [List.flatMap_cons, List.flatMap_append]
      cases comment : kind.isComment with
      | true =>
          obtain ⟨c, body, rfl, space⟩ := form.exists_of_isComment comment
          refine .inr ?_
          rw [blankedPieces_of_comment comment, flatMap_text_blanks, List.flatMap_cons, space]
          rfl
      | false =>
          obtain ⟨c, body, rfl⟩ := List.exists_cons_of_ne_nil form.ne_nil
          refine .inl ?_
          rw [blankedPieces_of_other comment]
          rfl

theorem Split.blanks_append (blank : ∀ c ∈ text, isBlank c) (split : Split rest pieces left) :
    Split (text ++ rest) ((text.map fun c => (.blank, [c])) ++ pieces) left := by
  induction text with
  | nil => exact split
  | cons c text ih =>
      obtain ⟨first, blank⟩ := List.forall_mem_cons.mp blank
      exact .cons (.blank first) (ih blank)

/-- Blanking the comments of a text leaves a text that is split into the same tokens and blanks. -/
theorem Split.masked (split : Split text pieces left) :
    Split ((pieces.flatMap blankedPieces).flatMap (·.2) ++ left)
      (pieces.flatMap blankedPieces) left := by
  induction split with
  | nil => exact .nil
  | @cons kind piece rest pieces left form others ih =>
      rw [List.flatMap_cons, List.flatMap_append, List.append_assoc]
      cases comment : kind.isComment with
      | true =>
          rw [blankedPieces_of_comment comment, flatMap_text_blanks]
          exact ih.blanks_append fun c => isBlank_of_mem_flatMap_blanked
      | false =>
          rw [blankedPieces_of_other comment, List.flatMap_singleton, List.singleton_append]
          exact .cons (form.of_fronts comment others.fronts) ih

theorem placed_append (p : Position) (pieces others : List (LexemeKind × List Char)) :
    placed p (pieces ++ others) =
      placed p pieces ++ placed (p.advanceAll (pieces.flatMap (·.2))) others := by
  induction pieces generalizing p with
  | nil => rfl
  | cons piece pieces ih => simp [placed, ih, Position.advanceAll_append]

theorem kind_of_mem_placed {l : Lexeme} (member : l ∈ placed p pieces) :
    ∃ piece ∈ pieces, l.kind = piece.1 := by
  obtain ⟨before, after, rfl, _⟩ := mem_placed member
  exact ⟨(l.kind, l.text), by simp, rfl⟩

theorem flatMap_masked_placed (p : Position) (pieces : List (LexemeKind × List Char)) :
    (placed p pieces).flatMap Lexeme.masked = (pieces.flatMap blankedPieces).flatMap (·.2) := by
  induction pieces generalizing p with
  | nil => rfl
  | cons piece pieces ih =>
      obtain ⟨kind, text⟩ := piece
      rw [placed, List.flatMap_cons, ih, List.flatMap_cons, List.flatMap_append]
      congr 1
      cases comment : kind.isComment with
      | true =>
          rw [blankedPieces_of_comment comment, flatMap_text_blanks, Lexeme.masked, if_pos comment]
          rfl
      | false => simp [blankedPieces_of_other comment, Lexeme.masked, comment]

theorem flatMap_blankedPieces_blankedPieces (pieces : List (LexemeKind × List Char)) :
    (pieces.flatMap blankedPieces).flatMap blankedPieces = pieces.flatMap blankedPieces := by
  rw [List.flatMap_assoc]
  refine congrArg (List.flatMap · pieces) (funext fun piece => ?_)
  have same : ∀ piece' ∈ blankedPieces piece, blankedPieces piece' = [piece'] :=
    fun piece' member => blankedPieces_of_other (isComment_of_mem_blankedPieces member)
  rw [List.flatMap_congr same, List.flatMap_singleton']

/-- The tokens between blanked comments are the tokens between the comments. Where they begin is
related by what relates places after the same text, and after a comment and its blanks. -/
theorem forall₂_tokens_blankedPieces (pieces : List (LexemeKind × List Char))
    (Related : Position → Position → Prop)
    (same : ∀ p q text, Related p q → Related (p.advanceAll text) (q.advanceAll text))
    (comment : ∀ piece ∈ pieces, piece.1.isComment → ∀ p q, Related p q →
      Related (p.advanceAll piece.2) (q.advanceAll (piece.2.flatMap blanked)))
    (start : Related p q) :
    List.Forall₂ (fun t u : Token => t.kind = u.kind ∧ t.text = u.text ∧ Related t.start u.start)
      ((placed p pieces).filterMap Lexeme.token?)
      ((placed q (pieces.flatMap blankedPieces)).filterMap Lexeme.token?) := by
  have noToken (q : Position) (text : List Char) :
      (placed q (text.map fun c => (.blank, [c]))).filterMap Lexeme.token? = [] := by
    induction text generalizing q with
    | nil => rfl
    | cons c text ih => exact ih _
  induction pieces generalizing p q with
  | nil => exact .nil
  | cons piece pieces ih =>
      obtain ⟨kind, text⟩ := piece
      obtain ⟨first, others⟩ := List.forall_mem_cons.mp comment
      cases isComment : kind.isComment with
      | true =>
          have none : Lexeme.token? ⟨kind, text, p⟩ = none := by
            cases kind <;> first | rfl | cases isComment
          rw [placed, List.filterMap_cons_none none, List.flatMap_cons, placed_append,
            List.filterMap_append, blankedPieces_of_comment isComment, noToken, List.nil_append,
            flatMap_text_blanks]
          exact ih others (first isComment p q start)
      | false =>
          rw [List.flatMap_cons, blankedPieces_of_other isComment, List.singleton_append, placed,
            placed]
          have rest := ih others (same p q text start)
          cases kind with
          | blank => exact rest
          | lineComment | blockComment => cases isComment
          | token kind => exact .cons ⟨rfl, rfl, start⟩ rest

variable {hides : Nat → Bool}

theorem mapIdx_utf8_masked {l : Lexeme}
    (hidden : ∀ i, l.range.1 ≤ i → i < l.range.2 → hides i = l.kind.isComment) :
    ((utf8 l.text).mapIdx fun i b => if hides (i + l.start.offset) then blankedByte b else b)
      = utf8 l.masked := by
  have same : ((utf8 l.text).mapIdx fun i b =>
      if hides (i + l.start.offset) then blankedByte b else b)
        = (utf8 l.text).map fun b => if l.kind.isComment then blankedByte b else b := by
    rw [List.mapIdx_eq_iff]
    intro i
    rw [List.getElem?_map]
    cases found : (utf8 l.text)[i]? with
    | none => rfl
    | some b =>
        obtain ⟨inside, _⟩ := List.getElem?_eq_some_iff.mp found
        have := hidden (i + l.start.offset) (by simp [range]) (by simp [range]; omega)
        simp only [Option.map_some, this]
  rw [same, masked]
  cases l.kind.isComment with
  | true => exact (utf8_flatMap_blanked l.text).symm
  | false => simp

/-- Blanking the bytes that comments hide is masking one lexeme after the other. -/
theorem mapIdx_utf8_placed (hidden : ∀ l ∈ placed p pieces, ∀ i, l.range.1 ≤ i → i < l.range.2 →
      hides i = l.kind.isComment) :
    ((utf8 (pieces.flatMap (·.2))).mapIdx fun i b =>
        if hides (i + p.offset) then blankedByte b else b)
      = utf8 ((placed p pieces).flatMap masked) := by
  induction pieces generalizing p with
  | nil => rfl
  | cons piece pieces ih =>
      obtain ⟨kind, text⟩ := piece
      obtain ⟨first, others⟩ := List.forall_mem_cons.mp hidden
      have rest := ih others
      rw [List.flatMap_cons, utf8_append, List.mapIdx_append, mapIdx_utf8_masked first, placed,
        List.flatMap_cons, utf8_append, ← rest]
      congr 2
      funext i b
      rw [Position.offset_advanceAll, Nat.add_assoc, Nat.add_comm p.offset]

end Pieces

end Lexeme

namespace Script

open Lexeme

variable {path root text : String} {level : UInt32} {s : Script}
  {pieces : List (LexemeKind × List Char)}

/-- Whether a byte belongs to a comment. -/
def hides (s : Script) (i : Nat) : Bool := s.comments.any fun range => range.1 ≤ i && i < range.2

/-- The bytes of the text, where each byte of a comment, newlines apart, is a space. -/
def maskedBytes (s : Script) : List UInt8 :=
  (bytes s.text).mapIdx fun i b => if s.hides i then blankedByte b else b

/-- Whether all comments are written in ASCII. -/
def PlainComments (s : Script) : Prop :=
  ∀ range ∈ s.comments, ∀ b ∈ s.slice range, b.toNat < 128

namespace Laid

variable (h : s.Laid pieces)
include h

theorem hides_eq_isComment {l : Lexeme} {i : Nat} (member : l ∈ s.lexemes) (low : l.range.1 ≤ i)
    (high : i < l.range.2) : s.hides i = l.kind.isComment := by
  rw [Bool.eq_iff_iff, hides, List.any_eq_true]
  constructor
  · rintro ⟨range, inside, covering⟩
    obtain ⟨l', member', comment⟩ := List.mem_filterMap.mp inside
    obtain ⟨isComment, rfl⟩ := commentRange?_eq_some_iff.mp comment
    obtain ⟨low', high'⟩ : l'.range.1 ≤ i ∧ i < l'.range.2 := by simpa using covering
    have same : l = l' := by
      by_contra other
      have := h.apart member member' other
      omega
    rwa [same]
  · intro isComment
    exact ⟨l.range, List.mem_filterMap.mpr ⟨l, member, commentRange?_eq_some_iff.mpr
      ⟨isComment, rfl⟩⟩, by simpa using ⟨low, high⟩⟩

/-- Blanking the bytes of the comments is blanking their characters. -/
theorem maskedBytes_eq : s.maskedBytes = utf8 s.masked := by
  rw [maskedBytes, h.bytes_text, masked, h.lexemes]
  refine mapIdx_utf8_placed (p := .start) fun l member i low high => ?_
  rw [← h.lexemes] at member
  exact h.hides_eq_isComment member low high

theorem masked_eq : s.masked = (pieces.flatMap blankedPieces).flatMap (·.2) := by
  rw [masked, h.lexemes, flatMap_masked_placed]

/-- Comments are written in ASCII if their characters are encoded as one byte each. -/
theorem plainComments_iff : s.PlainComments ↔
    ∀ l ∈ s.lexemes, l.kind.isComment → ∀ c ∈ l.text, c.utf8Size = 1 := by
  have byte_of {l : Lexeme} (member : l ∈ s.lexemes) :
      (∀ b ∈ s.slice l.range, b.toNat < 128) ↔ ∀ c ∈ l.text, c.utf8Size = 1 := by
    rw [h.slice_range member]
    simp only [utf8Size_eq_one_iff, utf8, List.mem_flatMap, List.flatMap_singleton]
    constructor
    · exact fun ascii c inside b byte => ascii b ⟨c, inside, byte⟩
    · rintro ascii b ⟨c, inside, byte⟩
      exact ascii c inside b byte
  constructor
  · intro plain l member comment
    exact (byte_of member).mp (plain l.range (List.mem_filterMap.mpr
      ⟨l, member, commentRange?_eq_some_iff.mpr ⟨comment, rfl⟩⟩))
  · intro ascii range covered
    obtain ⟨l, member, found⟩ := List.mem_filterMap.mp covered
    obtain ⟨comment, rfl⟩ := commentRange?_eq_some_iff.mp found
    exact (byte_of member).mpr (ascii l member comment)

theorem utf8Size_of_plainComments (plain : s.PlainComments) :
    ∀ piece ∈ pieces, piece.1.isComment → ∀ c ∈ piece.2, c.utf8Size = 1 := by
  intro piece member
  obtain ⟨l, laid, rfl⟩ : ∃ l ∈ s.lexemes, (l.kind, l.text) = piece := by
    rw [h.lexemes, ← List.mem_map, map_placed]
    exact member
  exact h.plainComments_iff.mp plain l laid

/-- Where the comments are plain, the masked text has the shape of the text. -/
theorem map_shape_masked (plain : s.PlainComments) :
    s.masked.map Position.shape = s.text.toList.map Position.shape := by
  rw [h.masked_eq, h.text_eq, String.toList_ofList, List.flatMap_assoc, List.map_flatMap,
    List.map_flatMap]
  refine List.flatMap_congr fun piece member => ?_
  obtain ⟨kind, text⟩ := piece
  cases comment : kind.isComment with
  | true =>
      rw [blankedPieces_of_comment comment, flatMap_text_blanks]
      exact map_shape_flatMap_blanked (h.utf8Size_of_plainComments plain _ member comment)
  | false => rw [blankedPieces_of_other comment, List.flatMap_singleton]

end Laid

/-- A script in which no lexeme is a comment has no comments. -/
theorem comments_eq_nil {p : Position} {pieces : List (LexemeKind × List Char)}
    (lexemes : s.lexemes = placed p pieces) (plain : ∀ piece ∈ pieces, piece.1.isComment = false) :
    s.comments = [] := by
  rw [comments, lexemes, List.filterMap_eq_nil_iff]
  intro l member
  obtain ⟨piece, inside, kind⟩ := kind_of_mem_placed member
  simp [commentRange?, kind, plain piece inside]

/-- What of a token does not depend on how wide the characters before it are. -/
def outline (t : Token) : TokenKind × String × Nat × Nat :=
  (t.kind, t.text, t.start.offset, t.start.line)

/-- The masked text of a script is a script without comments and with the same tokens, up to their
columns. Where the comments are plain, the columns are the same, too. -/
theorem exists_masked (made : ofText path root level text = .ok s) :
    ∃ s', ofText path root level (String.ofList s.masked) = .ok s' ∧ s'.comments = [] ∧
      s'.tokens.map outline = s.tokens.map outline ∧ s'.masked = s.masked ∧
      (s.PlainComments → s'.tokens = s.tokens) := by
  obtain ⟨pieces, h⟩ := exists_laid made
  have split := h.split.masked
  rw [List.append_nil, ← h.masked_eq] at split
  refine ⟨_, ofText_eq_ok_iff.mpr ⟨_, by rwa [String.toList_ofList], rfl⟩, ?_, ?_, ?_, ?_⟩
  · refine comments_eq_nil rfl fun piece member => ?_
    obtain ⟨_, _, inside⟩ := List.mem_flatMap.mp member
    exact isComment_of_mem_blankedPieces inside
  · have level := forall₂_tokens_blankedPieces pieces Position.Level
      (fun p q text level => level.advanceAll rfl rfl)
      (fun piece _ _ p q level => level.advanceAll
        (by rw [utf8_flatMap_blanked, List.length_map]) (count_flatMap_blanked _).symm)
      (⟨rfl, rfl⟩ : Position.start.Level Position.start)
    rw [eq_comm, ← List.forall₂_eq_eq_eq, List.forall₂_map_left_iff, List.forall₂_map_right_iff,
      tokens, tokens, h.lexemes]
    refine level.imp ?_
    rintro t u ⟨kind, text, offset, line⟩
    simp [outline, kind, text, offset, line]
  · rw [masked, flatMap_masked_placed, flatMap_blankedPieces_blankedPieces, h.masked_eq]
  · intro plain
    have equal := forall₂_tokens_blankedPieces pieces Eq (fun p q text same => by rw [same])
      (fun piece member comment p q same => by
        rw [same]
        exact (Position.advanceAll_congr (map_shape_flatMap_blanked
          (h.utf8Size_of_plainComments plain piece member comment))).symm)
      (rfl : Position.start = Position.start)
    rw [eq_comm, ← List.forall₂_eq_eq_eq, tokens, tokens, h.lexemes]
    refine equal.imp ?_
    rintro ⟨_, _, _⟩ ⟨_, _, _⟩ ⟨rfl, rfl, rfl⟩
    rfl

end Script
end SqlLint
