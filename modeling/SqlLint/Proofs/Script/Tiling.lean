import SqlLint.Proofs.Script.Ranges

/-!
# Nothing of a text is lost

The tokens and the comments of a script lie in its text without touching each other, and what they
leave uncovered is blank. Put in the order of their offsets, the texts of the tokens, the slices of
the comments and the uncovered bytes are the text again.
-/

namespace SqlLint

/-- The bytes of the script that a token takes up. -/
def Token.span (t : Token) : Nat × Nat :=
  (t.start.offset, t.start.offset + t.text.utf8ByteSize)

namespace Script

/-- The spans of the tokens and the ranges of the comments. -/
def ranges (s : Script) : List (Nat × Nat) := s.tokens.map Token.span ++ s.comments

/-- Whether a byte belongs to a token or to a comment. -/
def covers (s : Script) (i : Nat) : Bool := s.ranges.any fun range => range.1 ≤ i && i < range.2

/-- The bytes of the text in a range. -/
def slice (s : Script) (range : Nat × Nat) : List UInt8 :=
  (bytes s.text).extract range.1 range.2

/-- The texts of the tokens, the slices of the comments and the bytes outside of them, each with
its offset. -/
def fragments (s : Script) : List (Nat × List UInt8) :=
  s.tokens.map (fun t => (t.start.offset, bytes t.text)) ++
    s.comments.map (fun range => (range.1, s.slice range)) ++
    ((List.range (bytes s.text).length).filter (!s.covers ·)).map fun i => (i, s.slice (i, i + 1))

/-- A script consists of its tokens, its comments and the blanks around them. -/
structure Tiled (s : Script) : Prop where
  nonempty : ∀ range ∈ s.ranges, range.1 < range.2
  boundaries : ∀ range ∈ s.ranges, String.Pos.Raw.IsValid s.text ⟨range.1⟩ ∧
    String.Pos.Raw.IsValid s.text ⟨range.2⟩
  tokens : (s.tokens.map Token.span).Pairwise fun a b => a.2 ≤ b.1
  comments : s.comments.Pairwise fun a b => a.2 ≤ b.1
  disjoint : ∀ t ∈ s.tokens, ∀ range ∈ s.comments, t.span.2 ≤ range.1 ∨ range.2 ≤ t.span.1
  blanks : ∀ i b, (bytes s.text)[i]? = some b → s.covers i = false →
    b = 0x20 ∨ b = 0x09 ∨ b = 0x0D ∨ b = 0x0A
  slices : ∀ t ∈ s.tokens, bytes t.text = s.slice t.span
  rebuilt : (s.fragments.mergeSort fun a b => a.1 ≤ b.1).flatMap (·.2) = bytes s.text

end Script

namespace Lexeme

variable {l : Lexeme} {t : Token}

/-- A lexeme as a fragment of its script. -/
def fragment (l : Lexeme) : Nat × List UInt8 := (l.start.offset, utf8 l.text)

theorem exists_of_token? (h : l.token? = some t) :
    ∃ kind, l.kind = .token kind ∧ t = ⟨kind, String.ofList l.text, l.start⟩ := by
  rw [token?] at h
  split at h
  · cases h
    exact ⟨_, ‹_›, rfl⟩
  · cases h

theorem span_of_token? (h : l.token? = some t) : t.span = l.range := by
  obtain ⟨kind, _, rfl⟩ := exists_of_token? h
  simp [Token.span, range, length_utf8]

theorem isComment_of_token? (h : l.token? = some t) : l.kind.isComment = false := by
  obtain ⟨kind, visible, _⟩ := exists_of_token? h
  rw [visible]
  rfl

theorem fragment_of_token? (h : l.token? = some t) :
    (t.start.offset, bytes t.text) = l.fragment := by
  obtain ⟨kind, _, rfl⟩ := exists_of_token? h
  simp [fragment, bytes_eq]

/-- A blank takes up one byte. -/
theorem utf8_of_isBlank {c : Char} (blank : isBlank c) :
    ∃ b, utf8 [c] = [b] ∧ (b = 0x20 ∨ b = 0x09 ∨ b = 0x0D ∨ b = 0x0A) := by
  simp only [isBlank, Bool.or_eq_true, beq_iff_eq] at blank
  obtain ((rfl | rfl) | rfl) | rfl := blank
  · exact ⟨0x20, rfl, .inl rfl⟩
  · exact ⟨0x09, rfl, .inr (.inl rfl)⟩
  · exact ⟨0x0D, rfl, .inr (.inr (.inl rfl))⟩
  · exact ⟨0x0A, rfl, .inr (.inr (.inr rfl))⟩

theorem perm_by_kind (ls : List Lexeme) :
    (ls.filter (fun l => l.token?.isSome) ++ ls.filter (fun l => l.kind.isComment) ++
      ls.filter (fun l => l.kind == .blank)).Perm ls := by
  induction ls with
  | nil => exact .refl _
  | cons l ls ih =>
      cases kind : l.kind with
      | blank =>
          simpa [token?, LexemeKind.isComment, kind] using List.perm_middle.trans (ih.cons l)
      | lineComment | blockComment =>
          rw [List.append_assoc] at ih
          simpa [token?, LexemeKind.isComment, kind] using List.perm_middle.trans (ih.cons l)
      | token k =>
          simpa [token?, LexemeKind.isComment, kind] using ih.cons l

theorem commentRange?_eq_some_iff {covered : Nat × Nat} :
    l.commentRange? = some covered ↔ l.kind.isComment ∧ l.range = covered := by
  simp [commentRange?, range]

theorem le_length_of_scan {c : Char} {tail : List Char} {kind : LexemeKind} {n : Nat}
    (h : scan c tail = .ok (kind, n)) : n ≤ tail.length := by
  obtain ⟨body, rest, rfl, rfl, _⟩ := scan_eq_ok_iff.mp h
  simp

end Lexeme

namespace Script

open Lexeme

/-- The lexemes of a script are the pieces of its text, one after the other. -/
structure Laid (s : Script) (pieces : List (LexemeKind × List Char)) : Prop where
  split : Split s.text.toList pieces []
  lexemes : s.lexemes = placed .start pieces

variable {s : Script} {pieces : List (LexemeKind × List Char)} {l : Lexeme} {i : Nat}

theorem mem_ranges_iff {range : Nat × Nat} :
    range ∈ s.ranges ↔ ∃ l ∈ s.lexemes, l.kind ≠ .blank ∧ l.range = range := by
  simp only [ranges, tokens, comments, List.mem_append, List.mem_map, List.mem_filterMap]
  constructor
  · rintro (⟨t, ⟨l, member, token⟩, rfl⟩ | ⟨l, member, comment⟩)
    · refine ⟨l, member, ?_, (span_of_token? token).symm⟩
      intro blank
      simp [token?, blank] at token
    · obtain ⟨comment, same⟩ := commentRange?_eq_some_iff.mp comment
      refine ⟨l, member, ?_, same⟩
      intro blank
      simp [blank, LexemeKind.isComment] at comment
  · rintro ⟨l, member, visible, rfl⟩
    cases kind : l.kind with
    | blank => exact absurd kind visible
    | lineComment | blockComment =>
        exact .inr ⟨l, member, commentRange?_eq_some_iff.mpr ⟨by rw [kind]; rfl, rfl⟩⟩
    | token k =>
        have token : l.token? = some ⟨k, String.ofList l.text, l.start⟩ := by simp [token?, kind]
        exact .inl ⟨_, ⟨l, member, token⟩, span_of_token? token⟩

theorem covers_eq_true_iff : s.covers i = true ↔
    ∃ l ∈ s.lexemes, l.kind ≠ .blank ∧ l.range.1 ≤ i ∧ i < l.range.2 := by
  simp only [covers, List.any_eq_true, mem_ranges_iff, Bool.and_eq_true, decide_eq_true_eq]
  constructor
  · rintro ⟨_, ⟨l, member, visible, rfl⟩, covering⟩
    exact ⟨l, member, visible, covering⟩
  · rintro ⟨l, member, visible, covering⟩
    exact ⟨_, ⟨l, member, visible, rfl⟩, covering⟩

theorem fragments_tokens :
    s.tokens.map (fun t => (t.start.offset, bytes t.text)) =
      (s.lexemes.filter fun l => l.token?.isSome).map fragment := by
  rw [tokens, List.map_filterMap, ← List.filterMap_eq_filter, List.map_filterMap]
  apply List.filterMap_congr
  intro l _
  cases token : l.token? with
  | none => simp [Option.guard, token]
  | some t => simp [Option.guard, token, fragment_of_token? token]

namespace Laid

variable (h : s.Laid pieces)
include h

theorem text_eq : s.text = String.ofList (pieces.flatMap (·.2)) := by
  have whole := h.split.eq_append
  rw [List.append_nil] at whole
  rw [← whole, String.ofList_toList]

theorem bytes_text : bytes s.text = utf8 (pieces.flatMap (·.2)) := by
  rw [bytes_eq, h.text_eq, String.toList_ofList]

theorem slice_range (member : l ∈ s.lexemes) : s.slice l.range = utf8 l.text := by
  rw [h.lexemes] at member
  rw [slice, h.bytes_text]
  exact extract_range member

theorem exists_form (member : l ∈ s.lexemes) : ∃ rest, Form l.kind l.text rest := by
  rw [h.lexemes] at member
  obtain ⟨before, after, same, _⟩ := mem_placed member
  exact h.split.exists_form (by simp [same])

theorem range_lt (member : l ∈ s.lexemes) : l.range.1 < l.range.2 := by
  obtain ⟨rest, form⟩ := h.exists_form member
  have := length_utf8_pos form.ne_nil
  simp [range, this]

theorem pairwise : s.lexemes.Pairwise fun a b => a.range.2 ≤ b.range.1 := by
  rw [h.lexemes]
  exact pairwise_placed _ _

theorem apart {a b : Lexeme} (ha : a ∈ s.lexemes) (hb : b ∈ s.lexemes) (other : a ≠ b) :
    a.range.2 ≤ b.range.1 ∨ b.range.2 ≤ a.range.1 := by
  let Apart (a b : Lexeme) : Prop := a.range.2 ≤ b.range.1 ∨ b.range.2 ≤ a.range.1
  have : Std.Symm Apart := ⟨fun _ _ => Or.symm⟩
  have allApart : s.lexemes.Pairwise Apart := h.pairwise.imp Or.inl
  exact allApart.forall ha hb other

theorem range_le (member : l ∈ s.lexemes) : l.range.2 ≤ (bytes s.text).length := by
  rw [h.lexemes] at member
  obtain ⟨before, after, rfl, start⟩ := mem_placed member
  simp [h.bytes_text, range, start, Position.start]

theorem exists_covering (inside : i < (bytes s.text).length) :
    ∃ l ∈ s.lexemes, l.range.1 ≤ i ∧ i < l.range.2 := by
  rw [h.lexemes]
  apply Lexeme.exists_covering (Nat.zero_le i)
  simpa [h.bytes_text, Position.start] using inside

theorem exists_blank (member : l ∈ s.lexemes) (blank : l.kind = .blank) :
    ∃ b, utf8 l.text = [b] ∧ (b = 0x20 ∨ b = 0x09 ∨ b = 0x0D ∨ b = 0x0A) := by
  obtain ⟨rest, form⟩ := h.exists_form member
  rw [blank] at form
  generalize l.text = piece at form
  cases form with
  | blank blank => exact utf8_of_isBlank blank

theorem range_of_blank (member : l ∈ s.lexemes) (blank : l.kind = .blank) :
    l.range = (l.start.offset, l.start.offset + 1) := by
  obtain ⟨b, single, _⟩ := h.exists_blank member blank
  simp [range, single]

theorem fragment_of_blank (member : l ∈ s.lexemes) (blank : l.kind = .blank) :
    l.fragment = (l.start.offset, s.slice (l.start.offset, l.start.offset + 1)) := by
  rw [← h.range_of_blank member blank, h.slice_range member]
  rfl

/-- What is left uncovered is blank. -/
theorem uncovered_iff : i < (bytes s.text).length ∧ s.covers i = false ↔
    ∃ l ∈ s.lexemes, l.kind = .blank ∧ l.start.offset = i := by
  constructor
  · rintro ⟨inside, uncovered⟩
    obtain ⟨l, member, low, high⟩ := h.exists_covering inside
    have blank : l.kind = .blank := by
      apply Classical.byContradiction
      intro visible
      have covered := covers_eq_true_iff.mpr ⟨l, member, visible, low, high⟩
      rw [uncovered] at covered
      cases covered
    rw [h.range_of_blank member blank] at low high
    exact ⟨l, member, blank, by simp at low high; omega⟩
  · rintro ⟨l, member, blank, rfl⟩
    have range := h.range_of_blank member blank
    have below := h.range_le member
    rw [range] at below
    refine ⟨below, Bool.eq_false_iff.mpr ?_⟩
    intro covered
    obtain ⟨other, member', visible, low, high⟩ := covers_eq_true_iff.mp covered
    have different : other ≠ l := by
      rintro rfl
      exact visible blank
    have := h.apart member' member different
    rw [range] at this
    omega

theorem pairwise_fragment :
    (s.lexemes.map fragment).Pairwise fun a b => a.1 < b.1 := by
  rw [List.pairwise_map]
  refine h.pairwise.imp_of_mem ?_
  intro a b ha _ ordered
  exact Nat.lt_of_lt_of_le (h.range_lt ha) ordered

theorem fragments_comments :
    s.comments.map (fun range => (range.1, s.slice range)) =
      (s.lexemes.filter fun l => l.kind.isComment).map fragment := by
  rw [comments, List.map_filterMap, ← List.filterMap_eq_filter, List.map_filterMap]
  apply List.filterMap_congr
  intro l member
  have same : (l.range.1, s.slice l.range) = l.fragment := by
    rw [h.slice_range member]
    rfl
  cases comment : l.kind.isComment with
  | false => simp [Option.guard, commentRange?, comment]
  | true =>
      rw [commentRange?_eq_some_iff.mpr ⟨comment, rfl⟩]
      simp [Option.guard, comment, same]

theorem fragments_blanks :
    (((List.range (bytes s.text).length).filter (!s.covers ·)).map
        fun i => (i, s.slice (i, i + 1))).Perm
      ((s.lexemes.filter fun l => l.kind == .blank).map fragment) := by
  rw [List.perm_ext_iff_of_nodup]
  · rintro ⟨i, b⟩
    simp only [List.mem_map, List.mem_filter, List.mem_range, Bool.not_eq_true', beq_iff_eq]
    constructor
    · rintro ⟨i, uncovered, same⟩
      obtain ⟨l, member, blank, rfl⟩ := h.uncovered_iff.mp uncovered
      exact ⟨l, ⟨member, blank⟩, (h.fragment_of_blank member blank).trans same⟩
    · rintro ⟨l, ⟨member, blank⟩, same⟩
      exact ⟨_, h.uncovered_iff.mpr ⟨l, member, blank, rfl⟩,
        (h.fragment_of_blank member blank).symm.trans same⟩
  · refine (List.nodup_range.filter _).map ?_
    intro i j same
    exact congrArg Prod.fst same
  · refine (h.pairwise_fragment.sublist (List.filter_sublist.map _)).imp ?_
    rintro a b ordered rfl
    exact Nat.lt_irrefl _ ordered

/-- The fragments are the lexemes in another order. -/
theorem fragments_perm : s.fragments.Perm (s.lexemes.map fragment) := by
  rw [fragments, fragments_tokens, h.fragments_comments]
  refine (h.fragments_blanks.append_left _).trans ?_
  rw [← List.map_append, ← List.map_append]
  exact (perm_by_kind s.lexemes).map _

theorem mergeSort_fragments :
    (s.fragments.mergeSort fun a b => a.1 ≤ b.1) = s.lexemes.map fragment := by
  have perm := (List.mergeSort_perm s.fragments fun a b => a.1 ≤ b.1).trans h.fragments_perm
  have ordered : (s.fragments.mergeSort fun a b => a.1 ≤ b.1).Pairwise fun a b => a.1 ≤ b.1 := by
    refine List.Pairwise.imp ?_ (List.pairwise_mergeSort ?_ ?_ s.fragments)
    · simp
    · simp
      omega
    · simp
      omega
  refine perm.eq_of_pairwise ?_ ordered (h.pairwise_fragment.imp Nat.le_of_lt)
  intro a b ha hb below above
  obtain ⟨l, member, rfl⟩ := List.mem_map.mp (perm.mem_iff.mp ha)
  obtain ⟨l', member', rfl⟩ := List.mem_map.mp hb
  -- Two lexemes that begin at the same offset are the same.
  apply congrArg fragment
  apply Classical.byContradiction
  intro other
  have := h.apart member member' other
  have := h.range_lt member
  have := h.range_lt member'
  simp only [fragment, range] at *
  omega

/-- A script whose lexemes are laid one after the other is tiled by what they show. -/
theorem tiled : s.Tiled where
  nonempty range inside := by
    obtain ⟨l, member, _, rfl⟩ := mem_ranges_iff.mp inside
    exact h.range_lt member
  boundaries range inside := by
    obtain ⟨l, member, _, rfl⟩ := mem_ranges_iff.mp inside
    rw [h.lexemes] at member
    rw [h.text_eq]
    exact isValid_range member
  tokens := by
    rw [List.pairwise_map, Script.tokens, List.pairwise_filterMap]
    refine h.pairwise.imp ?_
    intro a b ordered t ht u hu
    rwa [span_of_token? ht, span_of_token? hu]
  comments := by
    rw [Script.comments, List.pairwise_filterMap]
    refine h.pairwise.imp ?_
    intro a b ordered range hr range' hr'
    obtain ⟨_, rfl⟩ := commentRange?_eq_some_iff.mp hr
    obtain ⟨_, rfl⟩ := commentRange?_eq_some_iff.mp hr'
    exact ordered
  disjoint t ht range hr := by
    obtain ⟨l, member, token⟩ := List.mem_filterMap.mp ht
    obtain ⟨l', member', comment⟩ := List.mem_filterMap.mp hr
    obtain ⟨isComment, rfl⟩ := commentRange?_eq_some_iff.mp comment
    rw [span_of_token? token]
    apply h.apart member member'
    rintro rfl
    rw [isComment_of_token? token] at isComment
    cases isComment
  blanks i b found uncovered := by
    obtain ⟨inside, rfl⟩ := List.getElem?_eq_some_iff.mp found
    obtain ⟨l, member, blank, rfl⟩ := h.uncovered_iff.mp ⟨inside, uncovered⟩
    obtain ⟨b, single, isBlank⟩ := h.exists_blank member blank
    have slice := h.slice_range member
    rw [h.range_of_blank member blank, single] at slice
    have same : (bytes s.text)[l.start.offset] = b := by
      simpa [Script.slice, List.take_one_drop_eq_of_lt_length inside] using slice
    rwa [same]
  slices t ht := by
    obtain ⟨l, member, token⟩ := List.mem_filterMap.mp ht
    rw [span_of_token? token, h.slice_range member]
    exact congrArg Prod.snd (fragment_of_token? token)
  rebuilt := by
    rw [h.mergeSort_fragments, h.lexemes, List.flatMap_map, h.bytes_text]
    exact flatMap_utf8_placed _ _

end Laid

end Script
end SqlLint
