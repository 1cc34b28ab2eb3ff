import SqlLint.Proofs.Script.Acceptance
import SqlLint.Proofs.Script.Masking

/-!
# Printing tokens

The tokens of a script can be printed one after the other, with separators of blanks in between, and
read back. A token is complete in front of a blank: a name or a number goes on only with characters
that are not blank, a literal has been closed, and what looks like the beginning of a comment or of a
national literal needs its second character at once. So a single blank keeps any two tokens apart,
and reading the printed text finds the tokens and nothing else.
-/

namespace SqlLint

/-- What may stand between two tokens: blanks, at least one. -/
structure Separator where
  text : String
  nonempty : text.toList ≠ []
  blank : ∀ c ∈ text.toList, Lexeme.isBlank c

theorem Separator.isBlank_of_head? (separator : Separator) (more : List Char) {d : Char}
    (first : (separator.text.toList ++ more).head? = some d) : Lexeme.isBlank d := by
  obtain ⟨c, rest, text⟩ := List.exists_cons_of_ne_nil separator.nonempty
  have blank := separator.blank c (by simp [text])
  rw [text] at first
  cases first
  exact blank

namespace Script

open Lexeme

/-- The texts of tokens one after the other. The separators are taken in turn, one behind each token
but the last. -/
def printed (separators : Nat → Separator) : List Token → String
  | [] => ""
  | [t] => t.text
  | t :: u :: rest =>
    t.text ++ (separators 0).text ++ printed (fun i => separators (i + 1)) (u :: rest)

theorem Laid.exists_form_of_token {s : Script} {pieces : List (LexemeKind × List Char)} {t : Token}
    (h : s.Laid pieces) (member : t ∈ s.tokens) :
    ∃ rest, Form (.token t.kind) t.text.toList rest := by
  obtain ⟨l, inside, found⟩ := List.mem_filterMap.mp member
  obtain ⟨kind, visible, rfl⟩ := exists_of_token? found
  obtain ⟨rest, form⟩ := h.exists_form inside
  rw [visible] at form
  exact ⟨rest, by simpa using form⟩

/-- Printed tokens are split into themselves and the blanks between them. -/
theorem exists_split_printed (separators : Nat → Separator) (tokens : List Token)
    (forms : ∀ t ∈ tokens, ∃ rest, Form (.token t.kind) t.text.toList rest) :
    ∃ pieces, Split (printed separators tokens).toList pieces [] ∧
      pieces.filterMap tokenOf? = tokens.map (fun t => (t.kind, t.text)) ∧
      ∀ piece ∈ pieces, piece.1.isComment = false := by
  fun_induction printed separators tokens with
  | case1 => exact ⟨[], .nil, rfl, by simp⟩
  | case2 _ t =>
      obtain ⟨rest, form⟩ := forms t (List.mem_singleton_self t)
      have last : Form (.token t.kind) t.text.toList [] := form.of_head (by simp)
      refine ⟨[(.token t.kind, t.text.toList)], ?_, by simp [tokenOf?],
        by simp [LexemeKind.isComment]⟩
      simpa using Split.cons last .nil
  | case3 separators t u rest ih =>
      obtain ⟨⟨_, form⟩, others⟩ := List.forall_mem_cons.mp forms
      obtain ⟨pieces, split, shown, plain⟩ := ih others
      let blanks : List (LexemeKind × List Char) :=
        (separators 0).text.toList.map fun c => (.blank, [c])
      -- The token is complete in front of the separator, whatever followed it in the script.
      have complete (more : List Char) :
          Form (.token t.kind) t.text.toList ((separators 0).text.toList ++ more) :=
        form.of_head fun d first =>
          .inr (.inr ⟨by simp, (separators 0).isBlank_of_head? more first⟩)
      refine ⟨(.token t.kind, t.text.toList) :: (blanks ++ pieces), ?_, ?_, ?_⟩
      · simpa [List.append_assoc] using
          Split.cons (complete _) (split.blanks_append (separators 0).blank)
      · simp [tokenOf?, shown, blanks, List.filterMap_map, Function.comp_def]
      · simp only [List.mem_cons, List.mem_append, blanks, List.mem_map]
        rintro piece (rfl | ⟨c, _, rfl⟩ | member)
        · rfl
        · rfl
        · exact plain piece member

variable {path root text : String} {level : UInt32} {s : Script}

/-- Printing the tokens of a script with any separators and reading the print gives a script with
the same tokens, in kind and text, and without comments. -/
theorem printed_tokens_read_back (made : ofText path root level text = .ok s)
    (separators : Nat → Separator) (path' root' : String) (level' : UInt32) :
    ∃ t, ofText path' root' level' (printed separators s.tokens) = .ok t ∧
      t.tokens.map (fun t => (t.kind, t.text)) = s.tokens.map (fun t => (t.kind, t.text)) ∧
      t.comments = [] := by
  obtain ⟨_, laid⟩ := exists_laid made
  obtain ⟨pieces, split, shown, plain⟩ :=
    exists_split_printed separators s.tokens fun _ => laid.exists_form_of_token
  refine ⟨_, ofText_eq_ok_iff.mpr ⟨pieces, split, rfl⟩, ?_, comments_eq_nil rfl plain⟩
  exact (Shows.of_placed rfl).tokens.trans shown

/-- Tokens without blanks between them: an `N` that a comment keeps from a quote, a literal on two
lines, a number with points in it and quoted names with their closing delimiters doubled. -/
def crowded : String := "-N--\n'it''s\n--'@@x,1.5.$/[a]]/*]\"\"\"\"*"

/-- A space and a new line, in turn. -/
def spacesAndLines (i : Nat) : Separator :=
  if i % 2 = 0 then ⟨" ", by simp, by simp [Lexeme.isBlank]⟩
  else ⟨"\r\n\t", by simp, by simp [Lexeme.isBlank]⟩

theorem printed_tokens_read_back_of_crowded : ∃ s t,
    ofText "q.sql" "" 120 crowded = .ok s ∧ s.comments = [(2, 4)] ∧
    printed spacesAndLines s.tokens =
      "- N\r\n\t'it''s\n--' @@x\r\n\t, 1.5.$\r\n\t/ [a]]/*]\r\n\t\"\"\"\" *" ∧
    ofText "p.sql" "" 150 (printed spacesAndLines s.tokens) = .ok t ∧
    t.tokens.map (fun t => (t.kind, t.text)) = s.tokens.map (fun t => (t.kind, t.text)) ∧
    t.comments = [] := by
  obtain ⟨s, made, comments, print⟩ : ∃ s, ofText "q.sql" "" 120 crowded = .ok s ∧
      s.comments = [(2, 4)] ∧ printed spacesAndLines s.tokens =
        "- N\r\n\t'it''s\n--' @@x\r\n\t, 1.5.$\r\n\t/ [a]]/*]\r\n\t\"\"\"\" *" := by
    refine ⟨_, by cbv, ?_, ?_⟩ <;> cbv
  obtain ⟨t, read, same, none⟩ := printed_tokens_read_back made spacesAndLines "p.sql" "" 150
  exact ⟨s, t, made, comments, print, read, same, none⟩

end Script
end SqlLint
