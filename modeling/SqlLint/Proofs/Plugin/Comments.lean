import SqlLint.Proofs.Plugin.Places

/-!
# What pattern rules see of comments

Of a comment, the masked text has nothing left but spaces and newlines. So a pattern rule reports
nothing from inside of a comment if its pattern matches something else each time, and what it may
report from there is white space: a pattern for spaces matches the spaces that stand for a comment.
-/

namespace SqlLint

namespace Script

variable {s : Script} {pieces : List (LexemeKind × List Char)} {i : Nat} {c : Char}

/-- The masked text has a space or a newline wherever a comment covers the text. -/
theorem Laid.blank_of_hides (h : s.Laid pieces) (found : s.masked[i]? = some c)
    (hidden : s.hides (utf8 (s.masked.take i)).length) : c = ' ' ∨ c = '\n' := by
  obtain ⟨inside, rfl⟩ := List.getElem?_eq_some_iff.mp found
  set c := s.masked[i]
  obtain ⟨b, more, first⟩ : ∃ b more, utf8 [c] = b :: more := by
    refine List.exists_cons_of_ne_nil (List.ne_nil_of_length_pos ?_)
    exact length_utf8_pos (List.cons_ne_nil c [])
  have byte : s.maskedBytes[(utf8 (s.masked.take i)).length]? = some b := by
    have split : s.masked = s.masked.take i ++ c :: s.masked.drop (i + 1) := by
      rw [List.cons_getElem_drop_succ, List.take_append_drop]
    rw [h.maskedBytes_eq]
    nth_rewrite 1 [split]
    rw [utf8_append, List.getElem?_append_right (Nat.le_refl _), Nat.sub_self, utf8_cons, first]
    rfl
  rw [maskedBytes, List.getElem?_mapIdx] at byte
  obtain ⟨b', _, masked⟩ := Option.map_eq_some_iff.mp byte
  rw [if_pos hidden] at masked
  have member : b ∈ utf8 [c] := by simp [first]
  by_cases newline : b' = 0x0A
  · right
    rw [← masked, Lexeme.blankedByte, if_pos newline, newline, mem_utf8_iff (by decide)] at member
    exact Char.toNat_inj.mp member
  · left
    rw [← masked, Lexeme.blankedByte, if_neg newline, mem_utf8_iff (by decide)] at member
    exact Char.toNat_inj.mp member

end Script

namespace PatternRule

/-- The characters that a match covers. -/
def matched (s : Script) (m : Match) : List Char := s.masked.extract m.start m.stop

/-- The bytes that a match covers. -/
def span (s : Script) (m : Match) : Nat × Nat :=
  (offset s m, byteLength (s.masked.take m.stop))

/-- Whether a match lies inside of a range of bytes. -/
def LiesIn (s : Script) (m : Match) (range : Nat × Nat) : Prop :=
  range.1 ≤ (span s m).1 ∧ (span s m).2 ≤ range.2

section Inside

variable {r : PatternRule} {s : Script} {pieces : List (LexemeKind × List Char)} {m : Match}
  {range : Nat × Nat} {c : Char}

/-- All that a match inside of a comment covers are spaces and newlines. -/
theorem blank_of_liesIn (h : s.Laid pieces) (comment : range ∈ s.comments)
    (inside : LiesIn s m range) (member : c ∈ matched s m) : c = ' ' ∨ c = '\n' := by
  obtain ⟨k, found⟩ := List.mem_iff_getElem?.mp member
  rw [matched, List.extract_eq_take_drop, List.getElem?_take] at found
  split at found
  case isFalse => cases found
  case isTrue short =>
    rw [List.getElem?_drop] at found
    refine h.blank_of_hides found (List.any_eq_true.mpr ⟨range, comment, ?_⟩)
    obtain ⟨within, _⟩ := List.getElem?_eq_some_iff.mp found
    -- The character begins no earlier than the match, and before it ends.
    have low : range.1 ≤ (utf8 (s.masked.take (m.start + k))).length := by
      refine inside.1.trans ?_
      rw [span, offset, byteLength_eq]
      exact length_utf8_take_le (Nat.le_add_right _ _) _
    have high : (utf8 (s.masked.take (m.start + k))).length < range.2 := by
      refine lt_of_lt_of_le ?_ inside.2
      rw [span, byteLength_eq]
      exact (length_utf8_take_lt (Nat.lt_succ_self _) within).trans_le
        (length_utf8_take_le (by omega) _)
    simpa using ⟨low, high⟩

end Inside

/-- Every finding of a pattern rule comes from a match. If the match lies inside of a comment, all
that it covers are spaces and newlines. So a rule reports only from outside of the comments if each
of its matches covers something else. -/
theorem reports_no_text_of_comments {path root text : String} {level : UInt32} {s : Script}
    (r : PatternRule) (made : Script.ofText path root level text = .ok s) :
    (∀ f ∈ r.toRule.check s, ∃ m ∈ r.find s.masked, f = r.findingOf s m ∧
      ∀ range ∈ s.comments, LiesIn s m range → ∀ c ∈ matched s m, c = ' ' ∨ c = '\n') ∧
    ((∀ m ∈ r.find s.masked, ∃ c ∈ matched s m, c ≠ ' ' ∧ c ≠ '\n') →
      ∀ f ∈ r.toRule.check s, ∃ m ∈ r.find s.masked, f = r.findingOf s m ∧
        ∀ range ∈ s.comments, ¬ LiesIn s m range) := by
  obtain ⟨pieces, laid⟩ := Script.exists_laid made
  have source : ∀ f ∈ r.toRule.check s, ∃ m ∈ r.find s.masked, f = r.findingOf s m := by
    intro f member
    cases admitted : r.appliesTo s.relativePath with
    | false =>
        rw [check_of_not_appliesTo admitted] at member
        cases member
    | true =>
        rw [check_of_appliesTo admitted] at member
        obtain ⟨m, found, rfl⟩ := List.mem_map.mp member
        exact ⟨m, found, rfl⟩
  constructor
  · intro f member
    obtain ⟨m, found, same⟩ := source f member
    exact ⟨m, found, same, fun range comment inside c => blank_of_liesIn laid comment inside⟩
  · intro visible f member
    obtain ⟨m, found, same⟩ := source f member
    refine ⟨m, found, same, fun range comment inside => ?_⟩
    obtain ⟨c, covered, notSpace, notNewline⟩ := visible m found
    rcases blank_of_liesIn laid comment inside covered with space | newline
    · exact notSpace space
    · exact notNewline newline

/-- A word in a comment and outside of it. -/
theorem reports_no_text_of_comments_of_keyword : ∃ regex s, Regex.ofText? "x" = some regex ∧
    Script.ofText "a.sql" "" 120 "--x\nx" = .ok s ∧ s.comments = [(0, 3)] ∧
    (ofRegex regex).toRule.check s = [⟨"a.sql", 2, 1, "r1", .error, "m"⟩] ∧
    ∀ f ∈ (ofRegex regex).toRule.check s, ∃ m ∈ (ofRegex regex).find s.masked,
      f = (ofRegex regex).findingOf s m ∧ ∀ range ∈ s.comments, ¬ LiesIn s m range := by
  obtain ⟨regex, s, read, made, comments, reported, found, visible⟩ : ∃ regex s,
      Regex.ofText? "x" = some regex ∧ Script.ofText "a.sql" "" 120 "--x\nx" = .ok s ∧
      s.comments = [(0, 3)] ∧
      (ofRegex regex).toRule.check s = [⟨"a.sql", 2, 1, "r1", .error, "m"⟩] ∧
      (ofRegex regex).find s.masked = [⟨4, 5⟩] ∧ matched s ⟨4, 5⟩ = ['x'] := by
    refine ⟨_, _, by cbv, by cbv, ?_, ?_, ?_, ?_⟩ <;> cbv
  have shown : ∀ m ∈ (ofRegex regex).find s.masked, ∃ c ∈ matched s m, c ≠ ' ' ∧ c ≠ '\n' := by
    intro m member
    rw [found, List.mem_singleton] at member
    rw [member, visible]
    exact ⟨'x', List.mem_singleton_self _, by decide, by decide⟩
  exact ⟨regex, s, read, made, comments, reported,
    (reports_no_text_of_comments (ofRegex regex) made).2 shown⟩

/-- A pattern for spaces matches what is left of a comment. -/
theorem reports_spaces_for_comment : ∃ regex s m, Regex.ofText? "[ ]+$" = some regex ∧
    Script.ofText "a.sql" "" 120 "SELECT 1;--x" = .ok s ∧ (9, 12) ∈ s.comments ∧
    m ∈ (ofRegex regex).find s.masked ∧ LiesIn s m (9, 12) ∧
    (ofRegex regex).findingOf s m ∈ (ofRegex regex).toRule.check s := by
  obtain ⟨regex, s, read, made, comments, found, span⟩ : ∃ regex s,
      Regex.ofText? "[ ]+$" = some regex ∧
      Script.ofText "a.sql" "" 120 "SELECT 1;--x" = .ok s ∧ s.comments = [(9, 12)] ∧
      (ofRegex regex).find s.masked = [⟨9, 12⟩] ∧ span s ⟨9, 12⟩ = (9, 12) := by
    refine ⟨_, _, by cbv, by cbv, ?_, ?_, ?_⟩ <;> cbv
  refine ⟨regex, s, ⟨9, 12⟩, read, made, by simp [comments], by simp [found], ?_, ?_⟩
  · rw [LiesIn, span]
    exact ⟨Nat.le_refl _, Nat.le_refl _⟩
  · rw [check_of_appliesTo rfl, found]
    exact List.mem_singleton_self _

end PatternRule
end SqlLint
