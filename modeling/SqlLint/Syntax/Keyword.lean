import SqlLint.Token

/-!
# Keywords

The lists of T-SQL keywords that rules ask about, all in upper case, and the search for keywords
that stand one after the other.
-/

namespace SqlLint.Keyword

/-- Keywords that start a data manipulation statement. -/
def dataStatements : List String := ["SELECT", "INSERT", "UPDATE", "DELETE", "MERGE"]

/-- Keywords that start a statement defining an object. -/
def definitionStatements : List String := ["CREATE", "ALTER"]

/-- Words that can be neither a table name nor an alias. -/
def clauses : List String :=
  ["AS", "CROSS", "DELETE", "ELSE", "END", "EXCEPT", "EXEC", "EXECUTE", "FOR", "FROM", "FULL",
    "GO", "GROUP", "HAVING", "IF", "INNER", "INSERT", "INTERSECT", "INTO", "JOIN", "LEFT", "MERGE",
    "ON", "OPTION", "ORDER", "OUTER", "OUTPUT", "PIVOT", "RETURN", "RIGHT", "SELECT", "SET",
    "UNION", "UNPIVOT", "UPDATE", "USING", "VALUES", "WHEN", "WHERE", "WITH"]

/-- The reserved words of the language. -/
def reserved : List String :=
  ["ADD", "ALL", "ALTER", "AND", "ANY", "AS", "ASC", "AUTHORIZATION", "BACKUP", "BEGIN",
    "BETWEEN", "BREAK", "BROWSE", "BULK", "BY", "CASCADE", "CASE", "CHECK", "CHECKPOINT",
    "CLOSE", "CLUSTERED", "COALESCE", "COLLATE", "COLUMN", "COMMIT", "COMPUTE", "CONSTRAINT",
    "CONTAINS", "CONTAINSTABLE", "CONTINUE", "CONVERT", "CREATE", "CROSS", "CURRENT_DATE",
    "CURRENT_TIME", "CURRENT_TIMESTAMP", "CURRENT_USER", "CURSOR", "DATABASE", "DBCC",
    "DEALLOCATE", "DECLARE", "DEFAULT", "DELETE", "DENY", "DESC", "DISTINCT", "DISTRIBUTED",
    "DROP", "ELSE", "END", "ERRLVL", "ESCAPE", "EXCEPT", "EXEC", "EXECUTE", "EXISTS",
    "EXTERNAL", "FETCH", "FILLFACTOR", "FOR", "FOREIGN", "FREETEXT", "FREETEXTTABLE", "FROM",
    "FULL", "FUNCTION", "GOTO", "GRANT", "GROUP", "HAVING", "HOLDLOCK", "IDENTITY",
    "IDENTITY_INSERT", "IDENTITYCOL", "IF", "IN", "INDEX", "INNER", "INSERT", "INTERSECT",
    "INTO", "IS", "JOIN", "KEY", "KILL", "LEFT", "LIKE", "LINENO", "MERGE", "NOCHECK",
    "NONCLUSTERED", "NOT", "NULL", "NULLIF", "OF", "OFF", "OFFSETS", "ON", "OPEN",
    "OPENDATASOURCE", "OPENQUERY", "OPENROWSET", "OPENXML", "OPTION", "OR", "ORDER", "OUTER",
    "OVER", "PERCENT", "PIVOT", "PRECISION", "PRIMARY", "PRINT", "PROC", "PROCEDURE",
    "RAISERROR", "READTEXT", "RECONFIGURE", "REFERENCES", "REPLICATION", "RESTORE", "RESTRICT",
    "RETURN", "REVERT", "REVOKE", "RIGHT", "ROLLBACK", "ROWCOUNT", "ROWGUIDCOL", "SCHEMA",
    "SECURITYAUDIT", "SELECT", "SESSION_USER", "SET", "SETUSER", "SHUTDOWN", "SOME",
    "STATISTICS", "SYSTEM_USER", "TABLE", "TABLESAMPLE", "TEXTSIZE", "THEN", "TO", "TOP",
    "TRAN", "TRANSACTION", "TRIGGER", "TRUNCATE", "TRY_CONVERT", "TSEQUAL", "UNION", "UNIQUE",
    "UNPIVOT", "UPDATE", "UPDATETEXT", "USE", "VALUES", "VARYING", "VIEW", "WAITFOR", "WHEN",
    "WHERE", "WHILE", "WITH", "WRITETEXT"]

/-- Whether `tokens` begins with the words `sequence`, in any case. -/
def startsWith : List String → List Token → Bool
  | [], _ => true
  | _ :: _, [] => false
  | keyword :: sequence, token :: tokens => token.isKeyword keyword && startsWith sequence tokens

/-- Whether the words `sequence` stand one after the other somewhere in `tokens`. There have to be
words: no place is found for none. -/
def occurs (sequence : List String) : List Token → Bool
  | [] => false
  | token :: tokens =>
    !sequence.isEmpty && startsWith sequence (token :: tokens) || occurs sequence tokens

end SqlLint.Keyword
