import QueryGuard.Reading.Feed
import QueryGuard.Value

/-!
# QueryGuard.Database.Script

What the engine will answer.  The engine is an outside dependency: for all that the library knows of
it, it is a list of replies, one for each statement, and the faults of the calls that are no
statements.
-/

namespace QueryGuard

/-- Where a statement fails. -/
inductive Failure
  /-- When it is executed. -/
  | atOnce (fault : Fault)
  /-- Once some of its rows are fetched. -/
  | afterRows (count : Nat) (fault : Fault)

/-- The engine's reply to one statement: the column names if it has any, the rows, the number of
rows it changed, and its failure. -/
structure Reply where
  columns : Option (List String)
  rows : List (List Value)
  rowCount : Int
  failure? : Option Failure

namespace Reply

/-- The reply of a statement that delivers nothing. -/
def nothing : Reply := ⟨none, [], -1, none⟩

/-- The fault that executing the statement ends in. -/
def executeFault? (reply : Reply) : Option Fault :=
  match reply.failure? with
  | some (.atOnce fault) => some fault
  | _ => none

/-- What fetching the rows of the statement delivers. -/
def feed (reply : Reply) : Feed (List Value) :=
  match reply.failure? with
  | some (.afterRows count fault) => .ofList (some fault) (reply.rows.take count)
  | _ => .ofList none reply.rows

end Reply

/-- The answers of the engine: the replies to the statements in the order in which they come, and
the faults of the other calls.  Statements beyond the last reply deliver nothing. -/
structure Script where
  replies : List Reply
  connectFault? : Option Fault
  pragmaFault? : Option Fault
  commitFault? : Option Fault
  rollbackFault? : Option Fault
  closeCursorFault? : Option Fault
  closeFault? : Option Fault

/-- The script of an engine that is not used. -/
def Script.empty : Script := ⟨[], none, none, none, none, none, none⟩

end QueryGuard
