import SqlLint.Proofs.Script.Joining

/-!
# Quoted contents

Any text can be quoted: its closing delimiters are doubled, and delimiters are put around it. Read
from the left, the doubled delimiters come in pairs, so the one at the end is the first that closes.
A quoted text is therefore a single token, whatever is quoted: comment markers, other delimiters and
newlines in it are characters like any other.
-/

namespace SqlLint

/-- The ways to quote a text. -/
inductive Quoting
  | string
  | national
  | bracket
  | doubleQuote
deriving DecidableEq, Repr

namespace Quoting

/-- What stands before the quoted text. -/
def opener : Quoting → List Char
  | string => ['\'']
  | national => ['N', '\'']
  | bracket => ['[']
  | doubleQuote => ['"']

/-- The delimiter behind the quoted text. -/
def close : Quoting → Char
  | string | national => '\''
  | bracket => ']'
  | doubleQuote => '"'

def kind : Quoting → TokenKind
  | string => .string false
  | national => .string true
  | bracket | doubleQuote => .quoted

/-- A text with every closing delimiter written twice. -/
def escape (q : Quoting) (content : List Char) : List Char :=
  content.flatMap fun c => if c = q.close then [c, c] else [c]

/-- A text in quotes. -/
def quote (q : Quoting) (content : String) : String :=
  String.ofList (q.opener ++ q.escape content.toList ++ [q.close])

open Lexeme

theorem exists_delimited (q : Quoting) :
    ∃ construct, Delimited construct q.opener q.close q.kind := by
  cases q with
  | string => exact ⟨_, .string⟩
  | national => exact ⟨_, .national (.inl rfl)⟩
  | bracket => exact ⟨_, .bracket⟩
  | doubleQuote => exact ⟨_, .doubleQuote⟩

theorem doubled_escape (q : Quoting) (content : List Char) :
    Doubled q.close (q.escape content) := by
  induction content with
  | nil => exact .nil
  | cons c content ih =>
      rw [escape, List.flatMap_cons, ← escape]
      split
      case isTrue closing =>
        subst closing
        exact .pair ih
      case isFalse other => exact .plain other ih

/-- A text in quotes is a lexeme, unless the closing delimiter is doubled by what follows. -/
theorem form_quote (q : Quoting) (content : String) {rest : List Char}
    (closed : rest.head? ≠ some q.close) :
    Form (.token q.kind) (q.quote content).toList rest := by
  obtain ⟨_, delimited⟩ := q.exists_delimited
  rw [quote, String.toList_ofList]
  exact .delimited delimited (q.doubled_escape content.toList) closed

end Quoting

namespace Script

open Lexeme

variable {path root : String} {level : UInt32} {s u : Script}

/-- A text in quotes is a script of one token. -/
theorem ofText_quote (q : Quoting) (content : String) : ofText path root level (q.quote content) =
    .ok ⟨path, (Path.stripPrefix? root path).getD path, q.quote content, level,
      [⟨.token q.kind, (q.quote content).toList, .start⟩]⟩ := by
  refine ofText_eq_ok_iff.mpr ⟨[(.token q.kind, (q.quote content).toList)], ?_, rfl⟩
  have form : Form (.token q.kind) (q.quote content).toList [] := q.form_quote content (by simp)
  have whole := Split.cons form .nil
  rwa [List.append_nil] at whole

theorem snd_le_of_mem_comments {first : String} (made : ofText path root level first = .ok s)
    {range : Nat × Nat} (member : range ∈ s.comments) : range.2 ≤ first.utf8ByteSize := by
  obtain ⟨_, laid⟩ := exists_laid made
  have text : s.text = first := by
    obtain ⟨_, _, rfl⟩ := ofText_eq_ok_iff.mp made
    rfl
  obtain ⟨l, inside, found⟩ := List.mem_filterMap.mp member
  obtain ⟨_, rfl⟩ := commentRange?_eq_some_iff.mp found
  simpa [text, bytes_eq, length_utf8] using laid.range_le inside

/-- Quoted content never leaks. Between two scripts, on lines of its own, a text in quotes is one
token of its kind; the tokens and comments of the script above stay, and those of the script below
are only further down. No comment begins inside of the quotes or reaches into them. -/
theorem quoted_is_one_token {first second : String} (made : ofText path root level first = .ok s)
    (made' : ofText path root level second = .ok u) (q : Quoting) (content : String) :
    ∃ t, ofText path root level (joined (joined first (q.quote content)) second) = .ok t ∧
      t.tokens = s.tokens ++
        ⟨q.kind, q.quote content,
          ⟨first.utf8ByteSize + 1, first.toList.count '\n' + 2, 1⟩⟩ ::
        u.tokens.map (Token.shift ((joined first (q.quote content)).utf8ByteSize + 1)
          ((joined first (q.quote content)).toList.count '\n' + 1)) ∧
      t.comments = s.comments ++ u.comments.map (fun range =>
        (range.1 + ((joined first (q.quote content)).utf8ByteSize + 1),
          range.2 + ((joined first (q.quote content)).utf8ByteSize + 1))) ∧
      ∀ range ∈ t.comments, range.2 < first.utf8ByteSize + 1 ∨
        first.utf8ByteSize + 1 + (q.quote content).utf8ByteSize < range.1 := by
  obtain ⟨v, above, tokens, comments⟩ := exists_joined made (ofText_quote q content)
  obtain ⟨t, whole, tokens', comments'⟩ := exists_joined above made'
  have quoted : v.tokens = s.tokens ++ [⟨q.kind, q.quote content,
      ⟨first.utf8ByteSize + 1, first.toList.count '\n' + 2, 1⟩⟩] := by
    rw [tokens]
    simp [Script.tokens, token?, Token.shift, Position.shift, Position.start]
    omega
  have unchanged : v.comments = s.comments := by
    rw [comments]
    simp [Script.comments, commentRange?, LexemeKind.isComment]
  refine ⟨t, whole, ?_, ?_, ?_⟩
  · rw [tokens', quoted, List.append_assoc]
    rfl
  · rw [comments', unchanged]
  · intro range member
    rw [comments', unchanged, List.mem_append, List.mem_map] at member
    rcases member with upper | ⟨range, _, rfl⟩
    · exact .inl (Nat.lt_succ_of_le (snd_le_of_mem_comments made upper))
    · refine .inr ?_
      rw [utf8ByteSize_joined]
      omega

/-- Delimiters at both ends, another delimiter twice, and markers of comments on two lines. -/
def smuggled : String := "''é]]/*\n--'"

theorem quoted_is_one_token_of_smuggled : ∃ t,
    ofText "q.sql" "" 120
      (joined (joined "x --y'" (Quoting.national.quote smuggled)) "/*c*/z") = .ok t ∧
    t.tokens = [⟨.word, "x", ⟨0, 1, 1⟩⟩, ⟨.string true, "N'''''é]]/*\n--'''", ⟨7, 2, 1⟩⟩,
      ⟨.word, "z", ⟨31, 4, 6⟩⟩] ∧
    t.comments = [(2, 6), (26, 31)] := by
  obtain ⟨s, made, tokens, comments⟩ : ∃ s, ofText "q.sql" "" 120 "x --y'" = .ok s ∧
      s.tokens = [⟨.word, "x", ⟨0, 1, 1⟩⟩] ∧ s.comments = [(2, 6)] := by
    refine ⟨_, by cbv, ?_, ?_⟩ <;> cbv
  obtain ⟨u, made', tokens', comments'⟩ : ∃ u, ofText "q.sql" "" 120 "/*c*/z" = .ok u ∧
      u.tokens = [⟨.word, "z", ⟨5, 1, 6⟩⟩] ∧ u.comments = [(0, 5)] := by
    refine ⟨_, by cbv, ?_, ?_⟩ <;> cbv
  have quoted : Quoting.national.quote smuggled = "N'''''é]]/*\n--'''" := by cbv
  obtain ⟨t, whole, inOrder, ranges, _⟩ := quoted_is_one_token made made' .national smuggled
  refine ⟨t, whole, ?_, ?_⟩
  · rw [inOrder, tokens, tokens', quoted]
    cbv
  · rw [ranges, comments, comments', quoted]
    cbv

end Script
end SqlLint
