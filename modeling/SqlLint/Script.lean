import SqlLint.Path
import SqlLint.Script.Lexeme

/-!
# Scripts

A script is the text of one file together with its lexemes and the file's place: the path it was
read from and the path relative to the source root. Cutting into lexemes is the only step that can
reject a text. Everything rules ask of a script is derived from the lexemes: the tokens, the byte
ranges of the comments, and the text with the comments blanked out.
-/

namespace SqlLint

/-- The text of one file, cut into lexemes. -/
structure Script where
  path : String
  /-- The path relative to the source root, or the whole path when it lies elsewhere. -/
  relativePath : String
  text : String
  level : UInt32
  lexemes : List Lexeme

namespace Script

def ofText (path root : String) (level : UInt32) (text : String) : Except LexicalError Script := do
  let lexemes ← Lexeme.cut .start text.toList
  return ⟨path, (Path.stripPrefix? root path).getD path, text, level, lexemes⟩

def tokens (s : Script) : List Token :=
  s.lexemes.filterMap Lexeme.token?

/-- The byte ranges of the comments, in order. -/
def comments (s : Script) : List (Nat × Nat) :=
  s.lexemes.filterMap Lexeme.commentRange?

/-- The text with every byte of a comment, newlines apart, replaced by a space. Byte offsets and
line breaks are those of the text, so a place found here is a place of the script. -/
def masked (s : Script) : List Char :=
  s.lexemes.flatMap Lexeme.masked

/-- Line and column shown for a byte offset. -/
def locate (s : Script) (offset : Nat) : Nat × Nat :=
  Position.start.locate offset s.text.toList

end Script
end SqlLint
