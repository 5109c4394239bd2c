import QueryGuard.Query.Shape
import QueryGuard.Text.Grouped

/-!
# QueryGuard.Query.Verdict

What the gate says of a query: accepted, or rejected under a rule.  A rule has a *label* for logs,
which may name the shape that was found, and a *reason* for the caller, which never does.
-/

namespace QueryGuard

/-- A query of more characters than this is rejected. -/
def maxQueryLength : Nat := 10000

/-- Why a query is rejected. -/
inductive Rule
  /-- There is no text, or only blanks. -/
  | empty
  /-- The text is longer than `maxQueryLength`. -/
  | length
  /-- Nothing is left of the text but comments. -/
  | commentOnly
  /-- The first token is no reading verb. -/
  | leadingVerb
  /-- A denied keyword occurs. -/
  | keyword (word : String)
  /-- A refused shape occurs. -/
  | shape (s : Shape)
  /-- There is more than one statement. -/
  | multiStatement
  /-- A function that turns numbers into text is called. -/
  | charConversion
deriving DecidableEq, Repr

namespace Rule

/-- The name of a rule in logs. -/
def label : Rule → String
  | empty => "empty"
  | length => "length"
  | commentOnly => "comment_only"
  | leadingVerb => "leading_verb"
  | keyword _ => "keyword"
  | shape s => "pattern:" ++ s.tag
  | multiStatement => "multi_statement"
  | charConversion => "char_conversion"

/-- The explanation given to the caller. -/
def reason : Rule → String
  | empty => "Query must be a non-empty string"
  | length =>
      "Query is too long. Maximum allowed length is " ++
        String.ofList (Text.Grouped.ofNat maxQueryLength) ++ " characters."
  | commentOnly => "Query cannot be empty after removing comments"
  | leadingVerb => "Query must start with SELECT (or WITH for CTEs) for security reasons"
  | keyword word =>
      "Dangerous keyword '" ++ word ++ "' detected in query. Only SELECT operations are allowed."
  | shape _ =>
      "Potentially malicious SQL pattern detected. Only simple SELECT queries are allowed."
  | multiStatement =>
      "Multiple SQL statements are not allowed. Use only a single SELECT statement."
  | charConversion =>
      "Character conversion functions are not allowed as they may be used for obfuscation."

end Rule

/-- The answer of the gate. -/
inductive Verdict
  | accepted
  | rejected (rule : Rule)
deriving DecidableEq, Repr

namespace Verdict

/-- Whether the query may run. -/
def isAccepted : Verdict → Bool
  | accepted => true
  | rejected _ => false

/-- The rule that the query breaks. -/
def rule? : Verdict → Option Rule
  | accepted => none
  | rejected rule => some rule

end Verdict

end QueryGuard
