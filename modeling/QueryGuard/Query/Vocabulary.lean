import QueryGuard.Pattern.Basic

/-!
# QueryGuard.Query.Vocabulary

The words by which the gate tells reads from other statements, and the patterns that are made of
them.

A keyword counts only where it stands as a token, between characters that belong to no identifier.
Between the name of a function and its parenthesis there may be blanks and comments, and a call is
found through them.
-/

namespace QueryGuard

open Pattern

/-! ## words -/

/-- The words that are refused wherever they stand as tokens, in the order in which they are
sought. -/
def deniedKeywords : List String :=
  ["DELETE", "DROP", "UPDATE", "INSERT", "ALTER", "CREATE",
    "TRUNCATE", "EXEC", "EXECUTE", "MERGE", "REPLACE",
    "GRANT", "REVOKE", "COMMIT", "ROLLBACK", "TRANSACTION",
    "BEGIN", "DECLARE", "SET", "USE", "BACKUP",
    "RESTORE", "KILL", "SHUTDOWN", "WAITFOR", "OPENROWSET",
    "OPENDATASOURCE", "OPENQUERY", "OPENXML", "BULK", "INTO"]

/-- The verbs that begin a write. -/
def writeVerbs : List String :=
  ["DELETE", "DROP", "UPDATE", "INSERT", "ALTER", "CREATE", "TRUNCATE", "EXEC", "EXECUTE"]

/-- The verbs that may not follow a semicolon. -/
def separatedVerbs : List String := writeVerbs ++ ["MERGE", "REPLACE", "GRANT", "REVOKE"]

/-- The functions that turn numbers into text and back. -/
def charFunctions : List String := ["CHAR", "NCHAR", "ASCII", "CHR"]

/-- The names of the current user that need no parentheses. -/
def userNames : List String := ["SYSTEM_USER", "SESSION_USER", "CURRENT_USER"]

/-- The functions that tell who and where the user is. -/
def identityFunctions : List String :=
  ["USER_NAME", "USER_ID", "SUSER_NAME", "SUSER_SNAME", "SUSER_ID", "DB_NAME", "HOST_NAME"]

/-! ## patterns -/

/-- Where a token may begin. -/
def tokenStart : Pattern := .unlessAfter .identifier

/-- Where a token may end. -/
def tokenEnd : Pattern := .unlessBefore .identifier

/-- A word that stands as a token. -/
def keyword (word : String) : Pattern := inRow [tokenStart, text word, tokenEnd]

/-- The first token of a read. -/
def leadingVerb : Pattern := .seq (oneOf ["SELECT", "WITH"]) tokenEnd

/-- Blanks and comments in any number and order. -/
def callGap : Pattern :=
  .many (anyOf [
    .one .blank,
    inRow [text "/*", anything, text "*/"],
    inRow [text "--", restOfLine, .one (.letter '\n')]])

/-- A call of one of the functions. -/
def callOf (names : List String) : Pattern := inRow [oneOf names, callGap, text "("]

/-- A call of a function that turns numbers into text. -/
def charConversion : Pattern := .seq tokenStart (callOf charFunctions)

end QueryGuard
