import QueryGuard.Reading.Source

/-!
# QueryGuard.Reading.Scripted

A source of rows that is laid out beforehand, with a record of the use made of it.
-/

namespace QueryGuard

/-- The use made of a source: the query it was opened with, the rows taken from it, and whether it
was released. -/
structure Usage where
  openedWith : Option String
  pulled : Nat
  released : Bool
deriving DecidableEq, Repr

/-- The record of a source that was not used. -/
def Usage.none : Usage := ⟨.none, 0, false⟩

/-- A source laid out beforehand: the faults of opening and release, the rows, and the fault after
the last of them. -/
structure ScriptedSource where
  openFault? : Option Fault
  rows : List Row
  rowFault? : Option Fault
  closeFault? : Option Fault

namespace ScriptedSource

/-- The source that a script describes. -/
def source (script : ScriptedSource) : RowSource Usage Unit where
  enter query := do
    modify fun usage => { usage with openedWith := some query }
    Attempt.raise? script.openFault?
    return ((), .ofList script.rowFault? script.rows)
  ask _ _ := pure ()
  exit _ seen := do
    modify fun usage => { usage with pulled := seen, released := true }
    Attempt.raise? script.closeFault?

end ScriptedSource

end QueryGuard
