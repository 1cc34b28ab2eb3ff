import SqlLint.Rule
import SqlLint.Syntax.Keyword

/-!
# Session options near the top of a script

Some `SET` options are captured when a module is created, others affect every data statement, so
they have to precede the first statement of that sort. The rules speak once, at the first such
statement, unless the option stands before it.
-/

namespace SqlLint.Rules

/-- An option and the statements it has to precede. -/
structure SessionOption where
  setting : List String
  triggers : List String
  message : String

namespace SessionOption

/-- The first triggering statement, unless the option is set before it. -/
def flags (o : SessionOption) (tokens : List Token) : List Flag :=
  match (Site.all tokens).find? (·.token.isAnyKeyword o.triggers) with
  | none => []
  | some s => if Keyword.occurs o.setting s.before.reverse then [] else [⟨s, o.message⟩]

/-- The option `SET NOCOUNT ON` before the first data statement. -/
def noCount : SessionOption :=
  ⟨["SET", "NOCOUNT", "ON"], Keyword.dataStatements, "Expected SET NOCOUNT ON near top of file"⟩

/-- The option `SET ANSI_NULLS ON` before the first definition. -/
def ansiNulls : SessionOption :=
  ⟨["SET", "ANSI_NULLS", "ON"], Keyword.definitionStatements,
    "Expected SET ANSI_NULLS ON near top of file"⟩

/-- The option `SET QUOTED_IDENTIFIER ON` before the first definition. -/
def quotedIdentifier : SessionOption :=
  ⟨["SET", "QUOTED_IDENTIFIER", "ON"], Keyword.definitionStatements,
    "Expected SET QUOTED_IDENTIFIER ON near top of file"⟩

/-- The option `SET TRANSACTION ISOLATION LEVEL`, whatever the level, before the first data
statement. -/
def isolationLevel : SessionOption :=
  ⟨["SET", "TRANSACTION", "ISOLATION", "LEVEL"], Keyword.dataStatements,
    "Expected SET TRANSACTION ISOLATION LEVEL near top of file"⟩

end SessionOption

def setNoCount : Rule :=
  .ofFlags ⟨"set-nocount", "Require SET NOCOUNT ON", .errorProne, .error⟩
    SessionOption.noCount.flags

def setAnsi : Rule :=
  .ofFlags ⟨"set-ansi", "Require SET ANSI_NULLS ON", .errorProne, .error⟩
    SessionOption.ansiNulls.flags

def setQuotedIdentifier : Rule :=
  .ofFlags ⟨"set-quoted-identifier", "Require SET QUOTED_IDENTIFIER ON", .errorProne, .error⟩
    SessionOption.quotedIdentifier.flags

def setIsolationLevel : Rule :=
  .ofFlags ⟨"set-transaction-isolation-level", "Require SET TRANSACTION ISOLATION LEVEL",
      .errorProne, .error⟩
    SessionOption.isolationLevel.flags

end SqlLint.Rules
