import QueryGuard.Fault

/-!
# QueryGuard.Attempt

Computations that change a world and may end in a fault, and the release of what they hold.
-/

namespace QueryGuard

/-- A computation on a world of type `σ` that may end in a fault; what it did to the world before
the fault remains done. -/
abbrev Attempt (σ : Type) := ExceptT Fault (StateM σ)

namespace Attempt

variable {σ α : Type}

/-- Ends in a fault if there is one. -/
def raise? : Option Fault → Attempt σ Unit
  | some fault => throw fault
  | none => pure ()

/-- Runs `body` and then `release`, whatever `body` ends in.  A fault of `release` takes the place
of a fault of `body`. -/
def thenRelease (body : Attempt σ α) (release : Attempt σ Unit) : Attempt σ α :=
  ExceptT.mk do
    let outcome ← body.run
    match ← release.run with
    | .ok () => return outcome
    | .error fault => return .error fault

/-- Runs `body`, and `release` if `body` ends in a fault. -/
def orRelease (body : Attempt σ α) (release : Attempt σ Unit) : Attempt σ α :=
  ExceptT.mk do
    match ← body.run with
    | .ok a => return .ok a
    | .error fault => (release *> throw fault : Attempt σ α).run

end Attempt

end QueryGuard
