import SqlLint.Proofs.Script.Cut

/-!
# Which texts are scripts

A text is a script exactly when the grammar splits it to its end, and its tokens are those of the
split. Any other text is rejected for the one construct at the boundary of two lexemes that is
opened and never closed. What precedes that construct is a script by itself.
-/

namespace SqlLint.Script

open Lexeme

/-- The kind and text of the token that a piece is, unless it is blank or a comment. -/
def tokenOf? : LexemeKind × List Char → Option (TokenKind × String)
  | (.token kind, text) => some (kind, String.ofList text)
  | _ => none

/-- The lexemes and the tokens of a script are the pieces of a split. -/
structure Shows (s : Script) (pieces : List (LexemeKind × List Char)) : Prop where
  lexemes : s.lexemes.map (fun l => (l.kind, l.text)) = pieces
  tokens : s.tokens.map (fun t => (t.kind, t.text)) = pieces.filterMap tokenOf?

/-- An error tells of a construct at the front of `left`, where `before` precedes it: that it is
never closed, and where its opening delimiter stands. -/
structure Reports (e : LexicalError) (before left : List Char) : Prop where
  unclosed : NeverClosed e.construct left
  line : e.line = lineAfter (before ++ marker e.construct left)
  column : e.column = columnAfter (before ++ marker e.construct left)
  message : e.message = e.construct.message ++ " at " ++
    toString (lineAfter (before ++ marker e.construct left)) ++ ":" ++
    toString (columnAfter (before ++ marker e.construct left))

variable {path root text : String} {level : UInt32} {s : Script}
variable {pieces : List (LexemeKind × List Char)}

theorem map_tokens (s : Script) : s.tokens.map (fun t => (t.kind, t.text)) =
    (s.lexemes.map (fun l => (l.kind, l.text))).filterMap tokenOf? := by
  rw [tokens, List.map_filterMap, List.filterMap_map]
  congr 1
  funext l
  obtain ⟨kind, text, start⟩ := l
  cases kind <;> rfl

theorem Shows.of_placed {p : Position} (h : s.lexemes = placed p pieces) : Shows s pieces := by
  have shown : s.lexemes.map (fun l => (l.kind, l.text)) = pieces := by rw [h, map_placed]
  exact ⟨shown, by rw [map_tokens, shown]⟩

end SqlLint.Script
