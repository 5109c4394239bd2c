import QueryGuard.Attempt
import QueryGuard.Reading.Feed
import QueryGuard.Row

/-!
# QueryGuard.Reading.Source

Sources of rows, and their use: a source is opened for a query, read, and released.

A fault on opening means that there is nothing to release.  Once a source is open it is released
whatever happens, and a fault on release takes the place of any fault that stopped the reading.
-/

namespace QueryGuard

/-- A way to obtain rows for a query in a world of type `σ`; while it is open, a source holds a
`handle` of type `η`. -/
structure RowSource (σ η : Type) where
  /-- Opens the source. -/
  enter : String → Attempt σ (η × Feed Row)
  /-- Notes a request for a row, and the fault that answers it, if one does. -/
  ask : η → Option Fault → StateM σ Unit
  /-- Releases the source, of which some rows have been read. -/
  exit : η → Nat → Attempt σ Unit

namespace RowSource

variable {σ η β : Type}

/-- Opens a source, lets `body` read it, and releases it. -/
def use (source : RowSource σ η) (query : String) (start : β)
    (body : (Option Fault → StateM σ Unit) → Feed Row → StateM σ (Progress β)) :
    StateM σ (Progress β) := do
  match ← (source.enter query).run with
  | .error fault => return (Progress.start start).stop fault
  | .ok (handle, feed) =>
      let progress ← body (source.ask handle) feed
      match ← (source.exit handle progress.seen).run with
      | .ok () => return progress
      | .error fault => return progress.stop fault

/-- Reads a source, up to `limit` rows. -/
def read (source : RowSource σ η) (query : String) (limit : Option Nat)
    (step : β → Row → Except Fault β) (start : β) : StateM σ (Progress β) :=
  source.use query start fun ask feed => feed.consume ask step limit (.start start)

end RowSource

end QueryGuard
