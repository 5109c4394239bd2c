import QueryGuard.Text.Case
import QueryGuard.Text.Infix

/-!
# QueryGuard.Fault

What may go wrong in a call to the outside, and how much of it a caller may see.

The text of a fault may name files, hosts and statements.  It is passed on only if it reports a
missing table or column, which it does if it holds one of `missingObjectMarkers` in any letter
case; otherwise a fixed text takes its place.
-/

namespace QueryGuard

/-- The kinds of fault. -/
inductive FaultKind
  /-- The engine cannot carry out the statement. -/
  | operational
  /-- A constraint would be broken. -/
  | integrity
  /-- The database itself is at fault. -/
  | database
  /-- The engine is used wrongly. -/
  | programming
  /-- The interface to the engine is used wrongly. -/
  | interface
  /-- A warning raised as a fault. -/
  | warning
  /-- Any fault at run time. -/
  | runtime
  /-- A value is not acceptable. -/
  | value
  /-- A connection fails. -/
  | connection
  /-- The operating system reports an error. -/
  | system
  /-- The operating system denies access. -/
  | permission
  /-- A name or place that does not exist is asked for. -/
  | lookup
  /-- A number cannot be computed. -/
  | arithmetic
  /-- A number is too large. -/
  | overflow
deriving DecidableEq, Repr

/-- A fault: its kind and its text. -/
structure Fault where
  kind : FaultKind
  text : String
deriving DecidableEq, Repr

/-- Small texts that are only found in reports of a missing table or column. -/
def missingObjectMarkers : List String :=
  ["no such table", "no such column", "invalid object name", "invalid column name"]

/-- What a caller is told of a failed read. -/
def readFailureText : String := "Database query execution failed"

/-- What a caller is told of any other failed operation. -/
def operationFailureText : String := "Database operation failed"

namespace Fault

/-- Whether the text of a fault reports a missing table or column. -/
def namesMissingObject (fault : Fault) : Bool :=
  let small := Text.lowered fault.text.toList
  missingObjectMarkers.any fun marker => Text.contains marker.toList small

/-- What a caller is told of a fault: its text if it reports a missing object, else `fallback`. -/
def publicText (fault : Fault) (fallback : String) : String :=
  if fault.namesMissingObject then fault.text else fallback

end Fault

end QueryGuard
