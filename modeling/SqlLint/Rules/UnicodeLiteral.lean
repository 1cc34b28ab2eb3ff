import SqlLint.Rule

/-!
# Text outside ASCII in string literals

A literal without the `N` marker is converted through the code page of the database and may lose
characters on the way.
-/

namespace SqlLint.Rules

def unicodeString : Rule :=
  .ofFlags ⟨"unicode-string", "Prefix unicode string literals with N", .errorProne, .error⟩
    (flagWhere "Use of unicode characters in a non unicode string" fun s =>
      s.token.kind == .string false && !Ascii.isAscii s.token.text)

end SqlLint.Rules
