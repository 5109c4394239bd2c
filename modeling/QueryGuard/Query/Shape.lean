import QueryGuard.Query.Vocabulary

/-!
# QueryGuard.Query.Shape

The shapes of text by which writes, administration and disguised calls are recognised.  A shape is
sought in a query as it is, comments included, since a comment is one of the places where it may
hide.
-/

namespace QueryGuard

open Pattern

/-- The shapes of text that are refused. -/
inductive Shape
  /-- A read that fills a table. -/
  | selectInto
  /-- A verb after a semicolon. -/
  | separatorKeyword
  /-- A write behind a union. -/
  | unionInjection
  /-- A write verb in a line comment. -/
  | lineCommentKeyword
  /-- A write verb in a block comment. -/
  | blockCommentKeyword
  /-- A call of `EXEC`. -/
  | execCall
  /-- The name of a system procedure. -/
  | procedurePrefix
  /-- A bulk load. -/
  | bulkInsert
  /-- A remote row set. -/
  | openRowset
  /-- A remote data source. -/
  | openDatasource
  /-- A system variable. -/
  | systemVariable
  /-- A question for the current user. -/
  | identityFunction
  /-- A timed wait. -/
  | waitforDelay
  /-- Text after a semicolon. -/
  | multipleStatements
  /-- Text put together from character codes. -/
  | charConcat
deriving DecidableEq, Repr

namespace Shape

/-- All shapes, in the order in which they are sought. -/
def all : List Shape :=
  [selectInto, separatorKeyword, unionInjection, lineCommentKeyword, blockCommentKeyword,
    execCall, procedurePrefix, bulkInsert, openRowset, openDatasource, systemVariable,
    identityFunction, waitforDelay, multipleStatements, charConcat]

theorem mem_all (shape : Shape) : shape ∈ all := by cases shape <;> decide

/-- The name of a shape in logs. -/
def tag : Shape → String
  | selectInto => "select_into"
  | separatorKeyword => "separator_keyword"
  | unionInjection => "union_injection"
  | lineCommentKeyword => "line_comment_keyword"
  | blockCommentKeyword => "block_comment_keyword"
  | execCall => "exec_call"
  | procedurePrefix => "procedure_prefix"
  | bulkInsert => "bulk_insert"
  | openRowset => "openrowset"
  | openDatasource => "opendatasource"
  | systemVariable => "system_variable"
  | identityFunction => "identity_function"
  | waitforDelay => "waitfor_delay"
  | multipleStatements => "multiple_statements"
  | charConcat => "char_concat"

/-- The text by which a shape is recognised. -/
def pattern : Shape → Pattern
  | selectInto =>
      inRow [text "SELECT", someBlanks, restOfLine, someBlanks, text "INTO", someBlanks]
  | separatorKeyword => inRow [text ";", blanks, oneOf separatedVerbs]
  | unionInjection =>
      inRow [text "UNION", someBlanks, optional (.seq (text "ALL") someBlanks), text "SELECT",
        restOfLine, oneOf writeVerbs]
  | lineCommentKeyword => inRow [text "--", restOfLine, oneOf writeVerbs]
  | blockCommentKeyword => inRow [text "/*", anything, oneOf writeVerbs, anything, text "*/"]
  | execCall => inRow [text "EXEC", optional (text "UTE"), blanks, text "("]
  | procedurePrefix => inRow [.edge, oneOf ["sp", "xp"], text "_"]
  | bulkInsert => inRow [text "BULK", someBlanks, text "INSERT"]
  | openRowset => text "OPENROWSET"
  | openDatasource => text "OPENDATASOURCE"
  | systemVariable => text "@@"
  | identityFunction =>
      .seq tokenStart (.alt (.seq (oneOf userNames) tokenEnd) (callOf identityFunctions))
  | waitforDelay => inRow [text "WAITFOR", someBlanks, oneOf ["DELAY", "TIME"]]
  | multipleStatements => inRow [text ";", blanks, .one .word]
  | charConcat => inRow [oneOf ["+", "||"], blanks, callOf charFunctions]

end Shape

end QueryGuard
