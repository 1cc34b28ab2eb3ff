import SqlLint.Proofs.Script.Insertion

/-!
# Inserting right behind tokens

A place at which a token ends is one at which the next lexeme begins, or the end of the text. What
is inserted there becomes tokens of its own if it is complete and the token does not go on with it,
for the other lexemes are followed by what followed them before.
-/

namespace SqlLint

def Token.stop (t : Token) : Position := t.start.advanceAll t.text.toList

namespace Lexeme

variable {places : List (Nat × Nat)} {more piece rest text : List Char} {p : Position}
variable {pieces extra : List (LexemeKind × List Char)} {l : Lexeme} {t : Token}

def stop (l : Lexeme) : Position := l.start.advanceAll l.text

theorem stop_of_token? (h : l.token? = some t) : t.stop = l.stop := by
  obtain ⟨_, _, rfl⟩ := exists_of_token? h
  simp [Token.stop, stop]

/-- A lexeme ends where the next one begins, or at the end of the text. -/
theorem exists_of_stop (member : l ∈ placed p pieces) :
    (∃ m ∈ placed p pieces, m.start = l.stop) ∨ p.advanceAll (pieces.flatMap (·.2)) = l.stop := by
  induction pieces generalizing p with
  | nil => cases member
  | cons piece pieces ih =>
      rw [List.flatMap_cons, Position.advanceAll_append]
      rcases List.mem_cons.mp member with rfl | later
      · cases pieces with
        | nil => exact .inr rfl
        | cons next pieces =>
            exact .inl ⟨_, List.mem_cons_of_mem _ List.mem_cons_self, rfl⟩
      · rcases ih later with ⟨m, inside, same⟩ | same
        · exact .inl ⟨m, List.mem_cons_of_mem _ inside, same⟩
        · exact .inr same

/-- A lexeme ends behind the place at which the text begins. -/
theorem Split.precedes_stop (split : Split text pieces []) (member : l ∈ placed p pieces) :
    p.Precedes l.stop := by
  obtain ⟨before, after, rfl, start⟩ := mem_placed member
  have inside : (l.kind, l.text) ∈ before ++ (l.kind, l.text) :: after := by simp
  obtain ⟨_, form⟩ := split.exists_form inside
  rw [stop, start, ← Position.advanceAll_append]
  exact Position.precedes_advanceAll (by simp [form.ne_nil])

/-- Lexemes that follow each other end at increasing places. -/
theorem Split.pairwise_stop (p : Position) (split : Split text pieces []) :
    (placed p pieces).Pairwise fun a b => a.stop.Precedes b.stop := by
  induction pieces generalizing p text with
  | nil => exact .nil
  | cons piece pieces ih =>
      cases split with
      | cons form others => exact .cons (fun l member => others.precedes_stop member) (ih _ others)

/-- What is inserted before the lexemes and at the end stands behind the lexemes, apart from what
is inserted at the front. -/
theorem flatMap_insertion_start (p : Position) (pieces : List (LexemeKind × List Char)) :
    (placed p pieces).flatMap (fun l => insertion places more l.start ++ l.text) ++
        insertion places more (p.advanceAll (pieces.flatMap (·.2))) =
      insertion places more p ++
        (placed p pieces).flatMap fun l => l.text ++ insertion places more l.stop := by
  induction pieces generalizing p with
  | nil => exact (List.append_nil _).symm
  | cons piece pieces ih =>
      rw [placed, List.flatMap_cons, List.flatMap_cons, List.flatMap_cons,
        Position.advanceAll_append, List.append_assoc, ih (p.advanceAll piece.2), stop,
        List.append_assoc, List.append_assoc]

/-- A word stays one before a character that neither goes on with it nor opens a literal. -/
theorem Form.of_word {d : Char} (form : Form (.token .word) piece rest)
    (stops : continuesWord d = false) (noQuote : d ≠ '\'') :
    Form (.token .word) piece (d :: text) := by
  cases form with
  | @word c body _ starts plain inside =>
      refine .word starts ?_ inside (StopsAt.cons_iff.mpr stops)
      cases body with
      | nil => exact fun ⟨_, quote⟩ => noQuote (Option.some.inj quote)
      | cons => exact plain
  | delimited delimited => cases delimited

/-- Complete pieces with which no lexeme goes on can be put behind lexemes: all of these are read as
they were before. -/
theorem Split.attached
    (complete : ∀ {rest pieces}, Split rest pieces [] →
      Split (more ++ rest) (extra ++ pieces) [])
    (split : Split text pieces [])
    (ends : ∀ l ∈ placed p pieces, l.stop.place ∈ places →
      ∀ rest, Form l.kind l.text (more ++ rest)) :
    Split ((placed p pieces).flatMap fun l => l.text ++ insertion places more l.stop)
      ((placed p pieces).flatMap fun l => (l.kind, l.text) :: insertion places extra l.stop)
      [] := by
  induction pieces generalizing p text with
  | nil => exact .nil
  | cons piece pieces ih =>
      cases split with
      | @cons kind piece rest _ _ form others =>
      obtain ⟨first, later⟩ := List.forall_mem_cons.mp ends
      have read := ih others later
      rw [placed, List.flatMap_cons, List.flatMap_cons, List.append_assoc, List.cons_append]
      refine .cons ?_ ?_
      · rw [insertion]
        split
        case isTrue member => exact first member _
        case isFalse =>
          refine form.of_head fun d front => .inl ?_
          cases others with
          | nil => cases front
          | cons next others =>
              obtain ⟨e, tail, rfl⟩ := List.exists_cons_of_ne_nil next.ne_nil
              exact front
      · rw [insertion, insertion]
        split
        case isTrue => exact complete read
        case isFalse => exact read

end Lexeme

namespace Script

open Lexeme

variable {path root text : String} {level : UInt32} {s : Script} {t : Token}
variable {marked : List Token} {pieces extra : List (LexemeKind × List Char)}

/-- Lexemes that end at the same place are the same. -/
theorem Laid.eq_of_stop {a b : Lexeme} (h : s.Laid pieces) (ha : a ∈ s.lexemes)
    (hb : b ∈ s.lexemes) (same : a.stop.place = b.stop.place) : a = b := by
  let Apart (a b : Lexeme) : Prop := a.stop.place ≠ b.stop.place
  have : Std.Symm Apart := ⟨fun _ _ => Ne.symm⟩
  have allApart : s.lexemes.Pairwise Apart := by
    rw [h.lexemes]
    exact (h.split.pairwise_stop .start).imp Position.Precedes.place_ne
  by_contra other
  exact allApart.forall ha hb other same

/-- A lexeme ends where a marked token does just if it is that token. -/
theorem Laid.stop_mem_iff {l : Lexeme} (h : s.Laid pieces) (part : marked ⊆ s.tokens)
    (member : l ∈ s.lexemes) :
    l.stop.place ∈ marked.map (·.stop.place) ↔ ∃ t ∈ marked, l.token? = some t := by
  constructor
  · intro place
    obtain ⟨t, found, same⟩ := List.mem_map.mp place
    obtain ⟨m, inside, token⟩ := List.mem_filterMap.mp (part found)
    rw [stop_of_token? token] at same
    obtain rfl := h.eq_of_stop inside member same
    exact ⟨t, found, token⟩
  · rintro ⟨t, found, token⟩
    rw [← stop_of_token? token]
    exact List.mem_map_of_mem found

/-- The tokens of pieces are those of the lexemes, with those of the insertions behind them. -/
theorem filterMap_tokenOf?_attached {places : List (Nat × Nat)} {lexemes : List Lexeme}
    (same : ∀ l ∈ lexemes, l.stop.place ∈ places ↔ ∃ t ∈ marked, l.token? = some t) :
    (lexemes.flatMap fun l =>
      (l.kind, l.text) :: insertion places extra l.stop).filterMap tokenOf? =
    (lexemes.filterMap Lexeme.token?).flatMap fun t =>
      (t.kind, t.text) :: if t ∈ marked then extra.filterMap tokenOf? else [] := by
  induction lexemes with
  | nil => rfl
  | cons l lexemes ih =>
      obtain ⟨first, later⟩ := List.forall_mem_cons.mp same
      rw [List.flatMap_cons, List.filterMap_append, ih later, insertion]
      simp only [first]
      obtain ⟨kind, text, start⟩ := l
      cases kind with
      | token kind =>
          simp only [Lexeme.token?, Option.some.injEq, exists_eq_right', tokenOf?,
            List.filterMap_cons, List.flatMap_cons]
          split <;> simp
      | blank | lineComment | blockComment =>
          simp only [Lexeme.token?, reduceCtorEq, and_false, exists_false, if_false]
          rfl

/-- Complete pieces are inserted right behind marked tokens that do not go on with them, as the
tokens that they show. -/
theorem exists_attached (made : ofText path root level text = .ok s) {more : String}
    (complete : ∀ {rest pieces}, Split rest pieces [] →
      Split (more.toList ++ rest) (extra ++ pieces) [])
    (part : marked ⊆ s.tokens)
    (ends : ∀ t ∈ marked, ∀ before, Form (.token t.kind) t.text.toList before →
      ∀ rest, Form (.token t.kind) t.text.toList (more.toList ++ rest))
    (path' root' : String) (level' : UInt32) :
    ∃ u, ofText path' root' level' (s.withInserted (marked.map (·.stop.place)) more) = .ok u ∧
      u.tokens.map (fun t => (t.kind, t.text)) = s.tokens.flatMap fun t =>
        (t.kind, t.text) :: if t ∈ marked then extra.filterMap tokenOf? else [] := by
  obtain ⟨pieces, laid⟩ := exists_laid made
  let places := marked.map (·.stop.place)
  have whole : s.text.toList = pieces.flatMap (·.2) := by simpa using laid.split.eq_append
  have same (l : Lexeme) (member : l ∈ s.lexemes) := laid.stop_mem_iff part member
  have boundaries (place : Nat × Nat) (member : place ∈ places) :
      ∃ l ∈ placed .start pieces, l.stop.place = place := by
    obtain ⟨t, found, rfl⟩ := List.mem_map.mp member
    obtain ⟨l, inside, token⟩ := List.mem_filterMap.mp (part found)
    exact ⟨l, laid.lexemes ▸ inside, by rw [stop_of_token? token]⟩
  have parts : inserted places more.toList .start s.text.toList =
      (placed .start pieces).flatMap (fun l => insertion places more.toList l.start ++ l.text) ++
        insertion places more.toList (Position.start.advanceAll s.text.toList) := by
    refine inserted_eq laid.split fun place member => .inr ?_
    obtain ⟨l, inside, rfl⟩ := boundaries place member
    rcases exists_of_stop inside with ⟨m, next, start⟩ | last
    · exact .inl ⟨m, next, by rw [start]⟩
    · exact .inr (by rw [whole, last])
  have front : insertion places more.toList .start = [] := by
    refine if_neg fun member => ?_
    obtain ⟨l, inside, same⟩ := boundaries _ member
    exact (laid.split.precedes_stop inside).place_ne same.symm
  have split : Split ((placed .start pieces).flatMap fun l =>
        l.text ++ insertion places more.toList l.stop)
      ((placed .start pieces).flatMap fun l => (l.kind, l.text) :: insertion places extra l.stop)
      [] := by
    refine Split.attached complete laid.split fun l member marked => ?_
    rw [← laid.lexemes] at member
    obtain ⟨t, found, token⟩ := (same l member).mp marked
    obtain ⟨before, form⟩ := laid.exists_form member
    obtain ⟨kind, visible, rfl⟩ := exists_of_token? token
    have ends := ends _ found before
    rw [String.toList_ofList] at ends
    rw [visible] at form ⊢
    exact ends form
  rw [whole, flatMap_insertion_start, front, List.nil_append, ← whole] at parts
  rw [← parts, ← laid.lexemes] at split
  refine ⟨_, ofText_eq_ok_iff.mpr ⟨_, by rwa [withInserted, String.toList_ofList], rfl⟩, ?_⟩
  rw [(Shows.of_placed rfl).tokens]
  exact filterMap_tokenOf?_attached same

end Script
end SqlLint
