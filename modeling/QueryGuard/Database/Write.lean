import QueryGuard.Database.Engine

/-!
# QueryGuard.Database.Write

Writes: one statement in a transaction of its own.
-/

namespace QueryGuard.Engine

/-- Executes a statement on a connection that allows writes and keeps its changes.  The answer is
the number of rows changed. -/
def executeWrite (path sql : String) : EngineM Int :=
  withConnection path false fun conn =>
    transaction conn do
      let cursor ← execute conn sql []
      return cursor.rowCount

end QueryGuard.Engine
