import SqlLint.Proofs.Script.Acceptance
import SqlLint.Proofs.Script.Places

/-!
# Inserting into a script

Text is inserted into a script at places, each the line and the column of a boundary of lexemes.
What is inserted before tokens becomes tokens of its own if it begins with a blank and is complete:
the lexeme before it ends there as it did before, for it is no line comment, which would take up the
token too.
-/

namespace SqlLint

namespace Position

def place (p : Position) : Nat × Nat := (p.line, p.column)

variable {p q : Position} {text : List Char}

theorem Precedes.place_ne (h : p.Precedes q) : p.place ≠ q.place := by
  intro same
  simp only [place, Prod.mk.injEq] at same
  unfold Precedes at h
  omega

theorem Precedes.advanceAll (h : q.Precedes p) (text : List Char) :
    q.Precedes (p.advanceAll text) := by
  by_cases none : text = []
  · rwa [none]
  · exact h.trans (precedes_advanceAll none)

end Position

section Insertion

variable {α : Type} {places : List (Nat × Nat)}

/-- What stands before a place, if it is one of those at which something is inserted. -/
def insertion (places : List (Nat × Nat)) (more : List α) (p : Position) : List α :=
  if p.place ∈ places then more else []

/-- A text, read on from `p`, with more inserted at some places. -/
def inserted (places : List (Nat × Nat)) (more : List Char) (p : Position) : List Char → List Char
  | [] => insertion places more p
  | c :: rest => insertion places more p ++ c :: inserted places more (p.advance c) rest

end Insertion

namespace Lexeme

variable {places : List (Nat × Nat)} {more piece rest text : List Char} {p : Position}
variable {pieces extra : List (LexemeKind × List Char)}

/-- Nothing is inserted into a piece in which there is no place for it. -/
theorem inserted_append (plain : ∀ front back, piece = front ++ back → back ≠ [] →
      (p.advanceAll front).place ∉ places) :
    inserted places more p (piece ++ rest) =
      piece ++ inserted places more (p.advanceAll piece) rest := by
  induction piece generalizing p with
  | nil => rfl
  | cons c piece ih =>
      have here : p.place ∉ places := plain [] (c :: piece) rfl (List.cons_ne_nil _ _)
      have later := ih fun front back split some => plain (c :: front) back (by simp [split]) some
      rw [List.cons_append, inserted, later, insertion, if_neg here]
      rfl

/-- Where all places are boundaries of lexemes or lie before them, a text with insertions consists
of the lexemes and what is inserted before them, and at the end. -/
theorem inserted_eq (split : Split text pieces [])
    (boundaries : ∀ place ∈ places, (∃ q : Position, q.Precedes p ∧ q.place = place) ∨
      (∃ l ∈ placed p pieces, l.start.place = place) ∨ (p.advanceAll text).place = place) :
    inserted places more p text =
      (placed p pieces).flatMap (fun l => insertion places more l.start ++ l.text) ++
        insertion places more (p.advanceAll text) := by
  induction pieces generalizing p text with
  | nil =>
      cases split
      rfl
  | cons piece pieces ih =>
      cases split with
      | @cons kind piece rest _ _ form others =>
      obtain ⟨c, body, rfl⟩ := List.exists_cons_of_ne_nil form.ne_nil
      have moved : p.Precedes (p.advanceAll (c :: body)) :=
        Position.precedes_advanceAll (List.cons_ne_nil c body)
      have later := ih (p := p.advanceAll (c :: body)) others fun place member => by
        rcases boundaries place member with ⟨q, early, same⟩ | ⟨l, inside, same⟩ | same
        · exact .inl ⟨q, early.trans moved, same⟩
        · rcases List.mem_cons.mp inside with rfl | inside
          · exact .inl ⟨p, moved, same⟩
          · exact .inr (.inl ⟨l, inside, same⟩)
        · rw [Position.advanceAll_append] at same
          exact .inr (.inr same)
      -- No boundary is inside of the lexeme.
      have plain (front back : List Char) (whole : body = front ++ back) (some : back ≠ []) :
          ((p.advance c).advanceAll front).place ∉ places := by
        intro member
        let q : Position := (p.advance c).advanceAll front
        have behind : p.Precedes q := (p.precedes_advance c).advanceAll front
        have before : q.Precedes (p.advanceAll (c :: body)) := by
          rw [whole, Position.advanceAll_cons, Position.advanceAll_append]
          exact Position.precedes_advanceAll some
        rcases boundaries _ member with ⟨_, early, same⟩ | ⟨l, inside, same⟩ | same
        · exact (early.trans behind).place_ne same
        · rcases List.mem_cons.mp inside with rfl | inside
          · exact behind.place_ne same
          · obtain ⟨_, _, _, start⟩ := mem_placed inside
            exact (start ▸ before.advanceAll _).place_ne same.symm
        · rw [Position.advanceAll_append] at same
          exact (before.advanceAll rest).place_ne same.symm
      rw [List.cons_append, inserted, inserted_append plain, ← Position.advanceAll_cons, later]
      simp [placed, Position.advanceAll_append]

/-- A token does not begin with a blank. -/
theorem isBlank_eq_false_of_form {kind : TokenKind} {c : Char} {body : List Char}
    (form : Form (.token kind) (c :: body) rest) : isBlank c = false := by
  have read := scan_of_form form
  by_contra blank
  rw [scan, if_pos (by simpa using blank)] at read
  cases read

/-- No token follows a line comment. -/
theorem ne_lineComment_of_token {kind : LexemeKind} {visible : TokenKind} {next : List Char}
    (form : Form kind piece (next ++ rest)) (token : Form (.token visible) next rest) :
    kind ≠ .lineComment := by
  rintro rfl
  obtain ⟨c, body, rfl⟩ := List.exists_cons_of_ne_nil token.ne_nil
  cases form with
  | lineComment _ stops =>
      obtain rfl : c = '\n' := by simpa using stops
      have black := isBlank_eq_false_of_form token
      cases black

variable {c : Char} {body : List Char}

/-- A lexeme ends where it ended before, when pieces that begin with a blank are put before
tokens. -/
theorem Split.form_inserted {kind : LexemeKind} (blank : isBlank c) (form : Form kind piece rest)
    (split : Split rest pieces [])
    (tokens : ∀ l ∈ placed p pieces, l.start.place ∈ places → ∃ kind, l.kind = .token kind) :
    Form kind piece
      ((placed p pieces).flatMap fun l => insertion places (c :: body) l.start ++ l.text) := by
  refine form.of_head fun d first => ?_
  cases split with
  | nil => cases first
  | @cons visible next rest pieces _ form' others =>
      rw [placed, List.flatMap_cons, insertion] at first
      split at first
      case isTrue member =>
        obtain rfl := Option.some.inj first
        obtain ⟨_, rfl⟩ := tokens _ List.mem_cons_self member
        exact .inr (.inr ⟨ne_lineComment_of_token form form', blank⟩)
      case isFalse =>
        obtain ⟨e, more, rfl⟩ := List.exists_cons_of_ne_nil form'.ne_nil
        exact .inl first

/-- Pieces that begin with a blank and are complete can be put before tokens: all lexemes are read
as they were before. -/
theorem Split.inserted (blank : isBlank c)
    (complete : ∀ {rest pieces}, Split rest pieces [] →
      Split (c :: body ++ rest) (extra ++ pieces) [])
    (split : Split text pieces [])
    (tokens : ∀ l ∈ placed p pieces, l.start.place ∈ places → ∃ kind, l.kind = .token kind) :
    Split ((placed p pieces).flatMap fun l => insertion places (c :: body) l.start ++ l.text)
      ((placed p pieces).flatMap fun l => insertion places extra l.start ++ [(l.kind, l.text)])
      [] := by
  induction pieces generalizing p text with
  | nil => exact .nil
  | cons piece pieces ih =>
      cases split with
      | @cons kind piece rest _ _ form others =>
      obtain ⟨first, later⟩ := List.forall_mem_cons.mp tokens
      have ends : Form kind piece
          ((placed (p.advanceAll piece) pieces).flatMap fun l =>
            insertion places (c :: body) l.start ++ l.text) :=
        Split.form_inserted blank form others later
      have read := Split.cons ends (ih others later)
      rw [placed, List.flatMap_cons, List.flatMap_cons, List.append_assoc, List.append_assoc,
        insertion, insertion]
      split
      case isTrue => exact complete read
      case isFalse => exact read

end Lexeme

namespace Script

open Lexeme

variable {path root text : String} {level : UInt32} {s : Script}
variable {places : List (Nat × Nat)} {pieces extra : List (LexemeKind × List Char)}

/-- Lexemes that begin at the same place are the same. -/
theorem Laid.eq_of_place {a b : Lexeme} (h : s.Laid pieces) (ha : a ∈ s.lexemes)
    (hb : b ∈ s.lexemes) (same : a.start.place = b.start.place) : a = b := by
  let Apart (a b : Lexeme) : Prop := a.start.place ≠ b.start.place
  have : Std.Symm Apart := ⟨fun _ _ => Ne.symm⟩
  have allApart : s.lexemes.Pairwise Apart := h.pairwise_start.imp Position.Precedes.place_ne
  by_contra other
  exact allApart.forall ha hb other same

/-- A token is that of a lexeme which begins where it does. -/
theorem exists_lexeme {t : Token} (member : t ∈ s.tokens) : ∃ l ∈ s.lexemes,
    l.token? = some t ∧ l.start = t.start ∧ ∃ kind, l.kind = .token kind := by
  obtain ⟨l, inside, found⟩ := List.mem_filterMap.mp member
  obtain ⟨kind, visible, rfl⟩ := exists_of_token? found
  exact ⟨l, inside, found, rfl, kind, visible⟩

/-- Tokens that begin at the same place are the same. -/
theorem Laid.token_eq_of_place {t u : Token} (h : s.Laid pieces) (first : t ∈ s.tokens)
    (second : u ∈ s.tokens) (same : t.start.place = u.start.place) : t = u := by
  obtain ⟨a, ha, found, startA, _⟩ := exists_lexeme first
  obtain ⟨b, hb, found', startB, _⟩ := exists_lexeme second
  obtain rfl := h.eq_of_place ha hb (by rw [startA, startB, same])
  exact Option.some.inj (found.symm.trans found')

theorem Laid.nodup_tokens (h : s.Laid pieces) : s.tokens.Nodup := by
  refine h.pairwise_tokens.imp ?_
  rintro t _ ordered rfl
  exact ordered.place_ne rfl

theorem Laid.start_precedes_end {l : Lexeme} (h : s.Laid pieces) (member : l ∈ s.lexemes) :
    l.start.Precedes (Position.start.advanceAll s.text.toList) := by
  obtain ⟨_, form⟩ := h.exists_form member
  have whole := h.split.eq_append
  rw [h.lexemes] at member
  obtain ⟨before, after, rfl, start⟩ := mem_placed member
  rw [whole, start]
  simp only [List.flatMap_append, List.flatMap_cons, List.append_assoc, Position.advanceAll_append]
  exact ((Position.precedes_advanceAll form.ne_nil).advanceAll _).advanceAll _

/-- The tokens of pieces are those of the lexemes, with those of the insertions before them. -/
theorem filterMap_tokenOf?_inserted {lexemes : List Lexeme}
    (visible : ∀ l ∈ lexemes, l.start.place ∈ places → ∃ kind, l.kind = .token kind) :
    (lexemes.flatMap fun l =>
      insertion places extra l.start ++ [(l.kind, l.text)]).filterMap tokenOf? =
    (lexemes.filterMap Lexeme.token?).flatMap fun t =>
      insertion places (extra.filterMap tokenOf?) t.start ++ [(t.kind, t.text)] := by
  induction lexemes with
  | nil => rfl
  | cons l lexemes ih =>
      obtain ⟨first, later⟩ := List.forall_mem_cons.mp visible
      have inside : (insertion places extra l.start).filterMap tokenOf? =
          insertion places (extra.filterMap tokenOf?) l.start := by
        rw [insertion, insertion]
        split <;> rfl
      rw [List.flatMap_cons, List.filterMap_append, ih later, List.filterMap_append, inside]
      obtain ⟨kind, text, start⟩ := l
      cases kind with
      | token kind => simp [Lexeme.token?, tokenOf?]
      | blank | lineComment | blockComment =>
          have other : start.place ∉ places := by
            intro member
            obtain ⟨_, visible⟩ := first member
            cases visible
          rw [insertion, if_neg other]
          rfl

/-- A script with more text at some places. -/
def withInserted (s : Script) (places : List (Nat × Nat)) (more : String) : String :=
  String.ofList (inserted places more.toList .start s.text.toList)

/-- Complete pieces that begin with a blank are inserted before tokens as the tokens they show. -/
theorem exists_inserted (made : ofText path root level text = .ok s) {more : String} {c : Char}
    {body : List Char} (whole : more.toList = c :: body) (blank : isBlank c)
    (complete : ∀ {rest pieces}, Split rest pieces [] →
      Split (c :: body ++ rest) (extra ++ pieces) [])
    (tokens : ∀ place ∈ places, ∃ t ∈ s.tokens, t.start.place = place)
    (path' root' : String) (level' : UInt32) :
    ∃ u, ofText path' root' level' (s.withInserted places more) = .ok u ∧
      u.tokens.map (fun t => (t.kind, t.text)) = s.tokens.flatMap fun t =>
        insertion places (extra.filterMap tokenOf?) t.start ++ [(t.kind, t.text)] := by
  obtain ⟨pieces, laid⟩ := exists_laid made
  have boundaries (place : Nat × Nat) (member : place ∈ places) :
      ∃ l ∈ s.lexemes, l.start.place = place ∧ ∃ kind, l.kind = .token kind := by
    obtain ⟨t, token, same⟩ := tokens place member
    obtain ⟨l, inside, _, start, visible⟩ := exists_lexeme token
    exact ⟨l, inside, by rw [start, same], visible⟩
  have visible (l : Lexeme) (member : l ∈ s.lexemes) (marked : l.start.place ∈ places) :
      ∃ kind, l.kind = .token kind := by
    obtain ⟨l', inside, same, visible⟩ := boundaries _ marked
    obtain rfl := laid.eq_of_place inside member same
    exact visible
  have parts : inserted places more.toList .start s.text.toList =
      (placed .start pieces).flatMap (fun l => insertion places more.toList l.start ++ l.text) ++
        insertion places more.toList (Position.start.advanceAll s.text.toList) := by
    refine inserted_eq laid.split fun place member => .inr (.inl ?_)
    obtain ⟨l, inside, same, _⟩ := boundaries place member
    exact ⟨l, laid.lexemes ▸ inside, same⟩
  have none : insertion places more.toList (Position.start.advanceAll s.text.toList) = [] := by
    refine if_neg fun member => ?_
    obtain ⟨l, inside, same, _⟩ := boundaries _ member
    exact (laid.start_precedes_end inside).place_ne same
  have split := Split.inserted blank complete laid.split (laid.lexemes ▸ visible)
  rw [none, List.append_nil, whole, ← laid.lexemes] at parts
  rw [← laid.lexemes, ← parts, ← whole] at split
  refine ⟨_, ofText_eq_ok_iff.mpr ⟨_, by rwa [withInserted, String.toList_ofList], rfl⟩, ?_⟩
  rw [(Shows.of_placed rfl).tokens]
  exact filterMap_tokenOf?_inserted visible

end Script
end SqlLint
