import SqlLint.Rules.Call
import SqlLint.Rules.Capitalization
import SqlLint.Rules.ObjectReference
import SqlLint.Rules.SchemaQualification
import SqlLint.Rules.SessionOption
import SqlLint.Rules.Star
import SqlLint.Rules.Statement
import SqlLint.Rules.Transaction
import SqlLint.Rules.TypeLength
import SqlLint.Rules.UnicodeLiteral

/-!
# The built-in rules
-/

namespace SqlLint.Rules

def builtIn : List Rule :=
  [crossDatabaseTransaction, dataTypeLength, disallowCursors, fullText, informationSchema,
    keywordCapitalization, linkedServer, objectProperty, printStatement, schemaQualify, selectStar,
    setAnsi, setNoCount, setQuotedIdentifier, setIsolationLevel, setVariable, unicodeString,
    upperLower]

end SqlLint.Rules
