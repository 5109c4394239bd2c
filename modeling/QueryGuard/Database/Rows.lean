import QueryGuard.Database.Engine

/-!
# QueryGuard.Database.Rows

The engine as a source of rows for a query.

The query runs on a connection of its own that refuses writes.  Rows are fetched one at a time as
the reader asks for them; on release the statement is closed and then the connection.
-/

namespace QueryGuard.Engine

/-- The rows that the engine delivers for a query to a database file. -/
def rowSource (path : String) : RowSource Engine Connection where
  enter query := do
    let conn ← openConnection path true
    let cursor ← (execute conn query []).orRelease (close conn)
    return (conn, cursor.rows.map (Row.ofColumns (cursor.columns.getD [])))
  ask := noteFetch
  exit conn delivered := (closeCursor conn delivered).thenRelease (close conn)

/-- Fetches the rows of a query, up to `take` of them, or ends in `inside` before any is asked
for. -/
def pullRows (path query : String) (take : Option Nat) (inside : Option Fault) :
    EngineM (List Row) :=
  ExceptT.mk do
    let progress ← (rowSource path).use query #[] fun ask feed =>
      match inside with
      | some fault => pure ((Progress.start #[]).stop fault)
      | none => feed.consume ask (fun rows row => .ok (rows.push row)) take (.start #[])
    match progress.fault? with
    | some fault => return .error fault
    | none => return .ok progress.result.toList

end QueryGuard.Engine
