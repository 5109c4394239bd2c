import QueryGuard.Database.Script
import QueryGuard.Reading.Source

/-!
# QueryGuard.Database.Engine

The calls that the library makes of the engine, and the trace they leave.

Every call is noted before it ends, with the connection it is made on and the fault it ends in, so
that a trace shows failed calls as well.
-/

namespace QueryGuard

/-- A connection to a database, told from others by its number. -/
structure Connection where
  number : Nat
deriving DecidableEq, Repr

/-- A call of the engine. -/
inductive Call
  /-- Opens a connection to a database file. -/
  | connect (path : String)
  /-- Executes a statement, with values for its placeholders if it has any. -/
  | execute (sql : String) (params : List String)
  /-- Asks for the next row of a statement. -/
  | fetch
  /-- Ends a transaction and keeps its changes. -/
  | commit
  /-- Ends a transaction and undoes its changes. -/
  | rollback
  /-- Releases a statement that delivered some rows. -/
  | closeCursor (delivered : Nat)
  /-- Releases the connection. -/
  | close
deriving DecidableEq, Repr

/-- A call in the trace. -/
structure Event where
  connection : Connection
  call : Call
  fault? : Option Fault
deriving DecidableEq, Repr

/-- The engine: its answers to come, the number of connections asked for, and the trace. -/
structure Engine where
  script : Script
  connections : Nat
  events : Array Event

/-- An engine that has not been called. -/
def Engine.start (script : Script) : Engine := ⟨script, 0, #[]⟩

/-- A computation that calls the engine. -/
abbrev EngineM := Attempt Engine

/-- The rows of an executed statement and the number of rows it changed. -/
structure Cursor where
  connection : Connection
  columns : Option (List String)
  rowCount : Int
  rows : Feed (List Value)

/-- The statement that makes a connection refuse writes. -/
def queryOnlyPragma : String := "PRAGMA query_only = ON"

namespace Engine

/-! ## single calls -/

/-- Notes a call in the trace. -/
def note (conn : Connection) (call : Call) (fault? : Option Fault) : StateM Engine Unit :=
  modify fun engine => { engine with events := engine.events.push ⟨conn, call, fault?⟩ }

/-- Makes a call that ends in the given fault, if there is one. -/
def perform (conn : Connection) (call : Call) (fault? : Option Fault) : EngineM Unit := do
  note conn call fault?
  Attempt.raise? fault?

/-- Opens a connection. -/
def connect (path : String) : EngineM Connection := do
  let engine ← get
  let conn : Connection := ⟨engine.connections⟩
  set { engine with connections := engine.connections + 1 }
  perform conn (.connect path) engine.script.connectFault?
  return conn

/-- Takes the next reply of the script. -/
def nextReply : EngineM Reply := do
  let engine ← get
  match engine.script.replies with
  | [] => return .nothing
  | reply :: replies =>
      set { engine with script := { engine.script with replies } }
      return reply

/-- Executes a statement.  The pragma that refuses writes takes no reply from the script. -/
def execute (conn : Connection) (sql : String) (params : List String) : EngineM Cursor := do
  if sql = queryOnlyPragma then
    perform conn (.execute sql params) (← get).script.pragmaFault?
    return ⟨conn, none, -1, .done⟩
  else
    let reply ← nextReply
    perform conn (.execute sql params) reply.executeFault?
    return ⟨conn, reply.columns, reply.rowCount, reply.feed⟩

/-- Notes a request for a row. -/
def noteFetch (conn : Connection) (fault? : Option Fault) : StateM Engine Unit :=
  note conn .fetch fault?

/-- Keeps the changes of the transaction. -/
def commit (conn : Connection) : EngineM Unit := do
  perform conn .commit (← get).script.commitFault?

/-- Undoes the changes of the transaction. -/
def rollback (conn : Connection) : EngineM Unit := do
  perform conn .rollback (← get).script.rollbackFault?

/-- Releases a statement. -/
def closeCursor (conn : Connection) (delivered : Nat) : EngineM Unit := do
  perform conn (.closeCursor delivered) (← get).script.closeCursorFault?

/-- Releases a connection. -/
def close (conn : Connection) : EngineM Unit := do
  perform conn .close (← get).script.closeFault?

/-! ## calls that belong together -/

/-- Opens a connection, which refuses writes if `queryOnly` is set. -/
def openConnection (path : String) (queryOnly : Bool) : EngineM Connection := do
  let conn ← connect path
  if queryOnly then
    let _ ← execute conn queryOnlyPragma []
  return conn

/-- Opens a connection, uses it, and closes it whatever the use ends in. -/
def withConnection {α : Type} (path : String) (queryOnly : Bool) (body : Connection → EngineM α) :
    EngineM α := do
  let conn ← openConnection path queryOnly
  (body conn).thenRelease (close conn)

/-- Runs `body` as one transaction: its changes are kept if it ends well and undone if it ends in a
fault.  If they cannot be kept they are undone, and that is a fault. -/
def transaction {α : Type} (conn : Connection) (body : EngineM α) : EngineM α := do
  let a ← body.orRelease (rollback conn)
  (commit conn).orRelease (rollback conn)
  return a

/-- Fetches rows, up to `limit` of them, and reads each by `f`. -/
def fetch {β : Type} (cursor : Cursor) (limit : Option Nat)
    (f : List Value → Except Fault β) : EngineM (List β) :=
  ExceptT.mk do
    let progress ← cursor.rows.consume (noteFetch cursor.connection)
      (fun acc row => return acc.push (← f row)) limit (.start #[])
    match progress.fault? with
    | some fault => return .error fault
    | none => return .ok progress.result.toList

end Engine

end QueryGuard
