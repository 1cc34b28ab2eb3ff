import SqlLint.Rule
import SqlLint.Syntax.Keyword

/-!
# Capitalization of keywords

Reserved words are written in upper case, which keeps them apart from the names of objects. A
reserved word behind a dot is the name of a member and may be spelt as it likes.
-/

namespace SqlLint.Rules.Capitalization

/-- Whether the site is a bare reserved word with a lower case letter in it. -/
def isLowered (s : Site) : Bool :=
  s.token.kind == .word && !s.isMember && s.token.text.toList.any Char.isLower
    && s.token.isAnyKeyword Keyword.reserved

/-- The sites of reserved words that are not in upper case. -/
def flags (tokens : List Token) : List Flag :=
  ((Site.all tokens).filter isLowered).map fun s =>
    ⟨s, s!"Expected TSQL Keyword to be capitalized: {s.token.text.toUpper}"⟩

end Capitalization

/-- Asks for reserved words in upper case. -/
def keywordCapitalization : Rule :=
  .ofFlags ⟨"keyword-capitalization", "Capitalize T-SQL keywords", .codeStyle, .warning⟩
    Capitalization.flags

end SqlLint.Rules
