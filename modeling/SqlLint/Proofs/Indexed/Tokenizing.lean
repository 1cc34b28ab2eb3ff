import SqlLint.Proofs.Indexed.Scanning

/-!
# Tokenizing by bytes

At the boundary of two lexemes, reading bytes finds the lexeme that scanning characters finds, and
it ends at such a boundary again. So every offset at which a piece is cut out of the text is a
boundary, the tokens and comments are those of the lexemes, and their ranges lie inside of the text.
-/

namespace SqlLint.Indexed

open Lexeme (scan runLength marker cut)

variable {c : Char} {before rest : List Char}

/-- The reading that a scan amounts to which finds `c` with `rest` behind it. -/
def readingOf (before : List Char) (c : Char) (rest : List Char) :
    Except Unclosed (LexemeKind × Nat) → Reading
  | .ok (kind, n) => .ok (kind, (utf8 (before ++ c :: rest.take n)).length)
  | .error construct => .error (construct, (utf8 (before ++ marker construct (c :: rest))).length)

theorem closing_eq (construct : Unclosed) (kind : LexemeKind) (n? : Option Nat) {opened : Nat}
    (place : opened = (utf8 (before ++ marker construct (c :: rest))).length) :
    Reading.closing construct opened kind
        (n?.map fun n => (utf8 (before ++ c :: rest.take n)).length) =
      readingOf before c rest
        (match n? with | some n => .ok (kind, n) | none => .error construct) := by
  subst place
  cases n? <;> rfl

theorem take_runLength (p : Char → Bool) (text : List Char) :
    text.take (runLength p text) = text.takeWhile p :=
  (List.prefix_iff_eq_take.mp (List.takeWhile_prefix p)).symm

section Ends

variable {close : Char}

theorem lineEnd_append (before rest : List Char) :
    lineEnd (before ++ rest) (utf8 before).length =
      .ok (utf8 (before ++ rest.takeWhile (· ≠ '\n'))).length := by
  rw [lineEnd, dropBytes_append]
  by_cases ended : '\n' ∈ rest
  · simp [newline?, ended]
  · have whole : rest.takeWhile (· ≠ '\n') = rest :=
      List.takeWhile_eq_self_iff.mpr fun c member => by
        rw [decide_eq_true_eq]
        rintro rfl
        exact ended member
    rw [whole]
    simp [newline?, ended]

/-- The end of a construct opened by `c`. -/
theorem quotedEnd_behind (opens : c.toNat < 128) (closes : close.toNat < 128)
    (before rest : List Char) :
    quotedEnd close.toUInt8 (utf8 (before ++ c :: rest)) ((utf8 before).length + 1) =
      .ok ((Lexeme.closeLength? close 0 rest).map fun n =>
        (utf8 (before ++ c :: rest.take n)).length) := by
  have ended := quotedEnd_eq closes 0 (before ++ [c]) rest
  have next : (utf8 (before ++ [c])).length = (utf8 before).length + 1 := by
    simp [utf8Size_of_ascii opens]
  rw [next] at ended
  simpa using ended

/-- The end of a construct opened by `c` and a delimiter. -/
theorem quotedEnd_behind_marker (opens : c.toNat < 128) (closes : close.toNat < 128)
    (before rest : List Char) :
    quotedEnd close.toUInt8 (utf8 (before ++ c :: close :: rest)) ((utf8 before).length + 2) =
      .ok ((Lexeme.closeLength? close 1 rest).map fun n =>
        (utf8 (before ++ c :: (close :: rest).take n)).length) := by
  have ended := quotedEnd_eq closes 1 (before ++ [c] ++ [close]) rest
  have next : (utf8 (before ++ [c] ++ [close])).length = (utf8 before).length + 2 := by
    simp [utf8Size_of_ascii opens, utf8Size_of_ascii closes]
  have counted := map_take_append (before ++ [c]) [close] rest
    (show ∀ n, Lexeme.closeLength? close 1 rest = some n → 0 + 1 ≤ n from
      fun _ => le_of_closeLength?_eq_some)
  rw [next] at ended
  simpa using ended.trans (congrArg Except.ok counted)

theorem commentEnd_behind (before rest : List Char) :
    commentEnd (utf8 (before ++ '/' :: '*' :: rest)) 0 (utf8 before).length =
      .ok ((Lexeme.commentLength? 0 1 rest).map fun n =>
        (utf8 (before ++ '/' :: ('*' :: rest).take n)).length) := by
  have ended := commentEnd_eq 0 1 (before ++ ['/'] ++ ['*']) rest
  have next : (utf8 (before ++ ['/'] ++ ['*'])).length = (utf8 before).length + 2 := by
    rw [utf8_append, List.length_append, utf8_append, List.length_append]
    rfl
  have counted := map_take_append (before ++ ['/']) ['*'] rest
    (show ∀ n, Lexeme.commentLength? 0 1 rest = some n → 0 + 1 ≤ n from
      fun _ => le_of_commentLength?_eq_some)
  rw [next] at ended
  rw [commentEnd_opening]
  simpa using ended.trans (congrArg Except.ok counted)

theorem runEnd_behind {p : UInt8 → Bool} {q : Char → Bool} (told : Tells p q)
    (opens : c.toNat < 128) (before rest : List Char) :
    runEnd p (utf8 (before ++ c :: rest)) ((utf8 before).length + 1) =
      .ok (utf8 (before ++ c :: rest.takeWhile q)).length := by
  have ended := runEnd_eq told (before ++ [c]) rest
  have next : (utf8 (before ++ [c])).length = (utf8 before).length + 1 := by
    simp [utf8Size_of_ascii opens]
  rw [next] at ended
  simpa using ended

theorem runEnd_from {p : UInt8 → Bool} {q : Char → Bool} (told : Tells p q) (first : q c)
    (before rest : List Char) :
    runEnd p (utf8 (before ++ c :: rest)) (utf8 before).length =
      .ok (utf8 (before ++ c :: rest.takeWhile q)).length := by
  rw [runEnd_eq told, List.takeWhile_cons_of_pos first]

end Ends

section Classes

theorem isAscii_of_isBlank (blank : Lexeme.isBlank c) : c.toNat < 128 := by
  simp only [Lexeme.isBlank, Bool.or_eq_true, beq_iff_eq] at blank
  obtain ((rfl | rfl) | rfl) | rfl := blank <;> decide

theorem isAscii_of_not_startsWord (plain : ¬ Lexeme.startsWord c) : c.toNat < 128 := by
  rw [Lexeme.startsWord] at plain
  simp only [Bool.or_eq_true, decide_eq_true_eq, not_or, ge_iff_le, UInt32.le_iff_toNat_le,
    Nat.not_le] at plain
  exact plain.2

theorem continuesWord_of_startsWord (starts : Lexeme.startsWord c) : Lexeme.continuesWord c := by
  simp only [Lexeme.startsWord, Lexeme.continuesWord, Char.isAlphanum, Bool.or_eq_true] at *
  tauto

theorem continuesWord_of_isDigit (digit : c.isDigit) : Lexeme.continuesWord c := by
  simp [Lexeme.continuesWord, Char.isAlphanum, digit]

end Classes

theorem readAt_append (before : List Char) (c : Char) (rest : List Char) :
    readAt (before ++ c :: rest) (utf8 before).length =
      .ok (readingOf before c rest (scan c rest)) := by
  obtain ⟨b, more, bytes, found⟩ := item_utf8_append before rest c
  have member : b ∈ utf8 [c] := by simp [bytes]
  have is (d : Char) (ascii : d.toNat < 128) : b = d.toUInt8 ↔ c = d := by
    have told := Tells.is ascii c b member
    rwa [Bool.eq_iff_iff, beq_iff_eq, beq_iff_eq] at told
  have pair (d e : Char) (ascii : d.toNat < 128) (ascii' : e.toNat < 128) :
      (b = d.toUInt8 ∧ (utf8 (before ++ c :: rest))[(utf8 before).length + 1]? = some e.toUInt8) ↔
        (c = d ∧ rest.head? = some e) := marker_iff ascii ascii' member before rest
  have national : ((b = 'N'.toUInt8 ∨ b = 'n'.toUInt8) ∧
      (utf8 (before ++ c :: rest))[(utf8 before).length + 1]? = some '\''.toUInt8) ↔
        ((c = 'N' ∨ c = 'n') ∧ rest.head? = some '\'') := by
    rw [or_and_right, or_and_right, pair 'N' '\'' (by decide) (by decide),
      pair 'n' '\'' (by decide) (by decide)]
  -- The same questions are asked of the first byte and of the character, in the same order.
  rw [readAt, scan]
  simp only [found, Checked.ok_bind, Tells.isBlank c b member, Tells.isDigit c b member,
    Tells.startsWord c b member, pair '-' '-' (by decide) (by decide),
    pair '/' '*' (by decide) (by decide), is '\'' (by decide), national, is '[' (by decide),
    is '"' (by decide), is '@' (by decide), apply_ite (readingOf before c rest),
    apply_ite (Except.ok : Reading → Checked Reading)]
  refine ite_congr rfl (fun blank => ?blank) fun _ =>
    ite_congr rfl (fun opens => ?line) fun _ => ite_congr rfl (fun opens => ?block) fun _ =>
    ite_congr rfl (fun opens => ?string) fun _ => ite_congr rfl (fun opens => ?national) fun _ =>
    ite_congr rfl (fun opens => ?bracket) fun _ => ite_congr rfl (fun opens => ?double) fun _ =>
    ite_congr rfl (fun opens => ?sign) fun _ => ite_congr rfl (fun digit => ?digit) fun _ =>
    ite_congr rfl (fun starts => ?word) fun noWord => ?symbol
  case blank =>
    have single := utf8Size_of_ascii (isAscii_of_isBlank blank)
    simp [readingOf, single]
  case line =>
    obtain ⟨rfl, _⟩ := opens
    rw [lineEnd_append, readingOf, take_runLength]
    simp
  case block =>
    obtain ⟨rfl, next⟩ := opens
    obtain ⟨rest, rfl⟩ := List.head?_eq_some_iff.mp next
    rw [commentEnd_behind]
    exact congrArg Except.ok (closing_eq .blockComment _ _ (by simp [marker]))
  case string =>
    subst opens
    rw [quotedEnd_behind (by decide) (by decide)]
    exact congrArg Except.ok (closing_eq (.string false) _ _ (by simp [marker]))
  case national =>
    obtain ⟨letter, next⟩ := opens
    obtain ⟨rest, rfl⟩ := List.head?_eq_some_iff.mp next
    have small : c.toNat < 128 := by obtain rfl | rfl := letter <;> decide
    rw [quotedEnd_behind_marker small (by decide)]
    exact congrArg Except.ok
      (closing_eq (.string true) _ _ (by simp [marker, utf8Size_of_ascii small]))
  case bracket =>
    subst opens
    rw [quotedEnd_behind (by decide) (by decide)]
    exact congrArg Except.ok (closing_eq .bracket _ _ (by simp [marker]))
  case double =>
    subst opens
    rw [quotedEnd_behind (by decide) (by decide)]
    exact congrArg Except.ok (closing_eq .doubleQuote _ _ (by simp [marker]))
  case sign =>
    subst opens
    rw [runEnd_behind ((Tells.is (by decide)).or .continuesWord) (by decide), ← take_runLength]
    rfl
  case digit =>
    have word := continuesWord_of_isDigit digit
    rw [runEnd_from (Tells.continuesWord.or (Tells.is (by decide))) (by simp [word]),
      ← take_runLength]
    rfl
  case word =>
    rw [runEnd_from .continuesWord (continuesWord_of_startsWord starts), ← take_runLength]
    rfl
  case symbol =>
    have single := utf8Size_of_ascii (isAscii_of_not_startsWord noWord)
    simp [readingOf, single]

/-- The tokens and the ranges of the comments among lexemes. -/
def shown (lexemes : List Lexeme) : List Token × List (Nat × Nat) :=
  (lexemes.filterMap Lexeme.token?, lexemes.filterMap Lexeme.commentRange?)

theorem exists_eq_marker_append (construct : Unclosed) (text : List Char) :
    ∃ rest, text = marker construct text ++ rest := by
  fun_cases marker construct text with
  | case1 => exact ⟨text.drop 1, (List.take_append_drop 1 text).symm⟩
  | case2 => exact ⟨text, rfl⟩

theorem offset_advanceAll_start (text : List Char) :
    (Position.start.advanceAll text).offset = (utf8 text).length := by
  simp [Position.start]

theorem length_lt_of_cons (before : List Char) (c : Char) (rest : List Char) :
    (utf8 before).length < (utf8 (before ++ c :: rest)).length := by
  have := length_utf8_pos (List.cons_ne_nil c rest)
  rw [utf8_append, List.length_append]
  omega

variable {kind : LexemeKind} {body after : List Char}

theorem cut_cons {p : Position} (found : scan c (body ++ after) = .ok (kind, body.length)) :
    cut p (c :: (body ++ after)) =
      (cut (p.advanceAll (c :: body)) after).map (⟨kind, c :: body, p⟩ :: ·) := by
  rw [cut, found]
  simp only [List.take_left, List.drop_left]
  cases cut (p.advanceAll (c :: body)) after <;> rfl

theorem tokenizeFrom_error {construct : Unclosed} (failed : scan c rest = .error construct) :
    tokenizeFrom (before ++ c :: rest) (utf8 before).length =
      .ok ((cut (Position.start.advanceAll before) (c :: rest)).map shown) := by
  obtain ⟨after, split⟩ := exists_eq_marker_append construct (c :: rest)
  have place := position_append (before ++ marker construct (c :: rest)) after
  rw [List.append_assoc, ← split] at place
  rw [tokenizeFrom, if_pos (length_lt_of_cons before c rest), readAt_append, failed, readingOf,
    Lexeme.cut_of_neverClosed (Lexeme.scan_eq_error_iff.mp failed), ← Position.advanceAll_append,
    Position.line_advanceAll_start, Position.column_advanceAll_start]
  simp only [Checked.ok_bind, Checked.pure_eq_ok, place, Except.map]

theorem tokenizeFrom_ok {others : Except LexicalError (List Lexeme)}
    (found : scan c (body ++ after) = .ok (kind, body.length))
    (rest : tokenizeFrom (before ++ c :: (body ++ after)) (utf8 (before ++ c :: body)).length =
      .ok (others.map shown)) :
    tokenizeFrom (before ++ c :: (body ++ after)) (utf8 before).length =
      .ok ((others.map (⟨kind, c :: body, Position.start.advanceAll before⟩ :: ·)).map shown) := by
  have offset := offset_advanceAll_start before
  have place : position (before ++ c :: (body ++ after)) (utf8 before).length = .ok
      ((Position.start.advanceAll before).line, (Position.start.advanceAll before).column) := by
    rw [position_append, Position.line_advanceAll_start, Position.column_advanceAll_start]
  have text : slice (before ++ c :: (body ++ after)) (utf8 before).length
      (utf8 (before ++ c :: body)).length = .ok (c :: body) := slice_append rfl rfl
  have stop : ((Position.start.advanceAll before).advanceAll (c :: body)).offset =
      (utf8 (before ++ c :: body)).length := by
    rw [← Position.advanceAll_append, offset_advanceAll_start]
  rw [tokenizeFrom, if_pos (length_lt_of_cons before c (body ++ after)), readAt_append, found,
    readingOf]
  simp only [Checked.ok_bind, List.take_left, if_pos (length_lt_of_cons before c body)]
  cases kind with
  | blank =>
      simp only [rest]
      cases others <;> rfl
  | lineComment | blockComment =>
      simp only [rest, Checked.ok_bind, Checked.pure_eq_ok]
      rw [← offset, ← stop]
      cases others <;> rfl
  | token kind =>
      simp only [rest, place, text, Checked.ok_bind, Checked.pure_eq_ok]
      rw [← offset]
      cases others <;> rfl

/-- From a boundary of lexemes on, bytes are tokenized as characters are cut. -/
theorem tokenizeFrom_append (before rest : List Char) :
    tokenizeFrom (before ++ rest) (utf8 before).length =
      .ok ((cut (Position.start.advanceAll before) rest).map shown) := by
  induction n : rest.length using Nat.strongRecOn generalizing before rest with
  | ind n ih =>
      subst n
      cases rest with
      | nil =>
          rw [tokenizeFrom, if_neg (by simp), cut]
          rfl
      | cons c rest =>
          cases found : scan c rest with
          | error construct => exact tokenizeFrom_error found
          | ok read =>
              obtain ⟨kind, n⟩ := read
              obtain ⟨body, after, rfl, rfl, _⟩ := Lexeme.scan_eq_ok_iff.mp found
              have others := ih after.length (by simp) (before ++ c :: body) after rfl
              rw [List.append_assoc, List.cons_append, Position.advanceAll_append] at others
              rw [cut_cons found]
              exact tokenizeFrom_ok found others

variable {path root text : String} {level : UInt32} {s : Script}

/-- Tokenizing by bytes yields the tokens and comments of a script, or its error. -/
theorem tokenize_eq (path root : String) (level : UInt32) (text : String) :
    tokenize text = .ok ((Script.ofText path root level text).map fun s =>
      (s.tokens, s.comments)) := by
  rw [tokenize, Script.ofText]
  refine (tokenizeFrom_append [] text.toList).trans ?_
  rw [Position.advanceAll_nil]
  cases cut .start text.toList <;> rfl

theorem blankedByte_blankedByte (b : UInt8) :
    Lexeme.blankedByte (Lexeme.blankedByte b) = Lexeme.blankedByte b := by
  by_cases newline : b = 0x0A
  · simp [Lexeme.blankedByte, newline]
  · simp [Lexeme.blankedByte, newline]

theorem foldlM_maskRange {ranges : List (Nat × Nat)} {bytes : List UInt8}
    (inside : ∀ range ∈ ranges, range.1 ≤ range.2 ∧ range.2 ≤ bytes.length) :
    ranges.foldlM maskRange bytes = .ok (bytes.mapIdx fun i b =>
      if ranges.any (fun range => range.1 ≤ i && i < range.2) then Lexeme.blankedByte b
      else b) := by
  induction ranges generalizing bytes with
  | nil =>
      refine congrArg Except.ok (List.ext_getElem? fun i => ?_)
      simp
  | cons range ranges ih =>
      obtain ⟨first, others⟩ := List.forall_mem_cons.mp inside
      rw [List.foldlM_cons, maskRange, if_pos first, Checked.ok_bind, ih (by simpa using others),
        List.mapIdx_mapIdx]
      congr 2
      funext i b
      rw [List.any_cons]
      cases (decide (range.1 ≤ i) && decide (i < range.2)) with
      | true => simp [blankedByte_blankedByte]
      | false => rfl

/-- Masking by bytes masks the text. -/
theorem masked_eq (made : Script.ofText path root level text = .ok s) :
    masked text s.comments = .ok (utf8 s.masked) := by
  obtain ⟨_, laid⟩ := Script.exists_laid made
  obtain ⟨_, _, shown⟩ := Script.ofText_eq_ok_iff.mp made
  have same : text = s.text := by rw [shown]
  rw [← laid.maskedBytes_eq, masked, same]
  refine foldlM_maskRange fun range covered => ?_
  obtain ⟨l, member, comment⟩ := List.mem_filterMap.mp covered
  obtain ⟨_, rfl⟩ := Lexeme.commentRange?_eq_some_iff.mp comment
  exact ⟨Nat.le_of_lt (laid.range_lt member), laid.range_le member⟩

end SqlLint.Indexed
