import QueryGuard.Database.Rows
import QueryGuard.Database.Write
import QueryGuard.Query.Gate
import QueryGuard.Reading.Bounded
import QueryGuard.Session.Basic
import QueryGuard.Text.Quoted
import QueryGuard.Tool.Basic
import QueryGuard.Tool.Envelope

/-!
# QueryGuard.Tool.Run

What the tools do.  A fault of the engine ends in an envelope: it is noted in the log with its text,
and the caller is told no more of it than `Fault.publicText` lets through.  A fault of the tool
itself, as when a number has to be written that is too long, is raised.

Two independent conditions guard the database.  A query submitted for reading has to pass the gate
before anything else happens, and a statement submitted for writing is refused while the settings
are read-only.
-/

namespace QueryGuard.Tool

/-- What a caller submits for a query: a text, or something else. -/
inductive Submission
  | text (sql : String)
  | missing
  | flag (b : Bool)
  | whole (n : Int)
  | fraction (x : Binary64)
deriving DecidableEq, Repr

namespace Submission

/-- How much of a text a log line shows. -/
def previewLength : Nat := 100

/-- What a log line shows of a submission: the first characters of a text, and all of anything
else. -/
def preview : Submission → Except Fault String
  | text sql => .ok (String.ofList (sql.toList.take previewLength))
  | missing => .ok LogLine.nothing
  | flag b => .ok (LogLine.flag b)
  | whole n => Decimal.write n
  | fraction x => .ok (LogLine.fraction x)

/-- The verdict on a submission; what is no text is rejected as empty. -/
def verdict : Submission → Verdict
  | text sql => Query.judge sql.toList
  | _ => .rejected .empty

end Submission

/-! ## answers to faults -/

/-- Notes a fault of an operation and answers with a failure. -/
def fail (operation : String) (fault : Fault) : Action Envelope := do
  Turn.log ⟨.error, .server, operation ++ ": " ++ fault.text⟩
  return .failure (fault.publicText operationFailureText)

/-- Runs a computation of the engine on the database of the settings and answers with its result;
a fault is one of the operation named. -/
def answering {α : Type} (operation : String) (answer : α → Envelope) (x : String → EngineM α) :
    Action Envelope :=
  tryCatch
    (do
      let path ← Turn.databasePath none
      return answer (← Turn.attempt (x path)))
    (fail operation)

/-! ## reading -/

/-- Lists the tables of the database. -/
def runListTables : Action Envelope :=
  answering "ListTables failed" (fun names => .answered (.names names) none) Engine.listTableNames

/-- The answer to what is found of a table. -/
def schemaAnswer (table : String) : Option Schema → Envelope
  | some schema => .answered (.schema schema) none
  | none => .failure ("Table '" ++ table ++ "' does not exist in the database.")

/-- Describes a table. -/
def runDescribeTable (table : String) : Action Envelope :=
  answering ("DescribeTable failed for " ++ String.ofList (Text.Quoted.encode table.toList))
    (schemaAnswer table) (Engine.describeTable · table)

/-- Reads rows under the limit of the settings. -/
def runQuery (sql : String) : Action Envelope := do
  let settings ← Turn.settings
  let reading ← Turn.attempt
    (readBounded (Engine.rowSource settings.databasePath) sql settings.maxRecordCount)
  if let some line := reading.logLine? then
    Turn.log line
  match reading.error? with
  | some error => return .failure error
  | none => return .answered (.rows reading.rows) reading.note?

/-- Notes that the gate rejected what was submitted, and answers with the reason. -/
def refuseQuery (rule : Rule) (submission : Submission) : Action Envelope := do
  let preview ← submission.preview
  Turn.log ⟨.warning, .server,
    "Security validation failed (" ++ rule.label ++ ") for query: " ++ preview⟩
  return .failure ("Security validation failed: " ++ rule.reason)

/-- Runs a query that passes the gate; any other leaves one log line and nothing else. -/
def runReadData : Submission → Action Envelope
  | .text sql => match Query.judge sql.toList with
    | .accepted => runQuery sql
    | .rejected rule => refuseQuery rule (.text sql)
  | submission => refuseQuery .empty submission

/-! ## writing -/

/-- The answer to a write while the settings are read-only. -/
def readOnlyText : String :=
  "This operation is not allowed in read-only mode. Set READONLY=false to enable write operations."

/-- The refusal of a write, if the settings are read-only. -/
def refuseWrite? : StateM Turn (Option Envelope) := do
  if (← Turn.settings).readOnly then return some (.failure readOnlyText) else return none

/-- What a write answers with the number of rows that it changed, which it tells if `reportRows` is
set. -/
def changedAnswer (message : String) (reportRows : Bool) (count : Int) : Envelope :=
  .changed message (if reportRows then some count else none)

/-- Runs a write, named `operation` in the log; `message` is the answer to success, with the number
of rows changed if `reportRows` is set. -/
def runWrite (operation sql message : String) (reportRows : Bool) : Action Envelope := do
  match ← refuseWrite? with
  | some refusal => return refusal
  | none =>
      answering (operation ++ " failed") (changedAnswer message reportRows)
        (Engine.executeWrite · sql)

/-- Creates a table. -/
def runCreateTable (sql : String) : Action Envelope :=
  runWrite "CreateTable" sql "Table created successfully." false

/-- Drops a table. -/
def runDropTable (sql : String) : Action Envelope :=
  runWrite "DropTable" sql "Table dropped successfully." false

/-- Inserts rows. -/
def runInsertData (sql : String) : Action Envelope :=
  runWrite "InsertData" sql "Data inserted successfully." true

/-- Updates rows. -/
def runUpdateData (sql : String) : Action Envelope :=
  runWrite "UpdateData" sql "Data updated successfully." true

/-- Runs a tool on the text given for its parameter; the list of tables takes none. -/
def run : Tool → String → Action Envelope
  | listTables, _ => runListTables
  | describeTable, table => runDescribeTable table
  | readData, sql => runReadData (.text sql)
  | createTable, sql => runCreateTable sql
  | insertData, sql => runInsertData sql
  | updateData, sql => runUpdateData sql
  | dropTable, sql => runDropTable sql

end QueryGuard.Tool
