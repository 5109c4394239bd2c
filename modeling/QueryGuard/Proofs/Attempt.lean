import QueryGuard.Attempt

/-!
# QueryGuard.Proofs.Attempt

Computations run to their end, part by part.

What comes after a part goes on from where it ended: `run_bind_of_run` for computations without
faults, `attempt_bind_of_run` and `attempt_bind_of_error` for those that may end in one, and
`run_thenRelease` for what is released in any case.
-/

namespace QueryGuard

variable {σ α β : Type} {s t u : σ}

/-! ## results -/

/-- A result that a fault of the release takes the place of. -/
def orFault (result : Except Fault α) : Option Fault → Except Fault α
  | none => result
  | some fault => .error fault

@[simp] theorem orFault_none (result : Except Fault α) : orFault result none = result := rfl

@[simp] theorem orFault_some (result : Except Fault α) (fault : Fault) :
    orFault result (some fault) = .error fault := rfl

@[simp] theorem map_orFault (f : α → β) (result : Except Fault α) (fault? : Option Fault) :
    (orFault result fault?).map f = orFault (result.map f) fault? := by
  cases fault? <;> rfl

@[simp] theorem orFault_eq_ok_iff {result : Except Fault α} {fault? : Option Fault} {a : α} :
    orFault result fault? = .ok a ↔ result = .ok a ∧ fault? = none := by
  cases fault? <;> simp

/-! ## ways to go on -/

/-- A computation goes on from where an earlier part of it ended. -/
theorem run_bind_of_run {x : StateM σ α} {f : α → StateM σ β} {a : α}
    (h : x.run s = (a, t)) : (x >>= f).run s = (f a).run t := by
  rw [StateT.run_bind, h]
  rfl

section

variable {x : Attempt σ α} {f : α → Attempt σ β}

/-- An attempt goes on from where an earlier part of it ended. -/
theorem attempt_bind_of_run {a : α} (h : x.run.run s = (.ok a, t)) :
    (x >>= f).run.run s = (f a).run.run t := by
  rw [ExceptT.run_bind, run_bind_of_run h]

/-- An attempt ends where an earlier part of it ended in a fault. -/
theorem attempt_bind_of_error {fault : Fault} (h : x.run.run s = (.error fault, t)) :
    (x >>= f).run.run s = (.error fault, t) := by
  rw [ExceptT.run_bind, run_bind_of_run h]
  rfl

/-- An attempt ends where an earlier part of it ended in a fault and a release. -/
theorem attempt_bind_of_stop {fault : Fault} {fault? : Option Fault}
    (h : x.run.run s = (orFault (.error fault) fault?, t)) :
    (x >>= f).run.run s = (orFault (.error fault) fault?, t) := by
  cases fault? with
  | none => exact attempt_bind_of_error h
  | some other => exact attempt_bind_of_error h

/-- A computation that ends in no fault, as an attempt. -/
theorem attempt_lift_of_run {y : StateM σ α} {a : α} (h : y.run s = (a, t)) :
    (liftM y : Attempt σ α).run.run s = (.ok a, t) := by
  show (Except.ok <$> y).run s = _
  rw [StateT.run_map, h]
  rfl

/-- What is made of the result of an attempt. -/
theorem attempt_return_of_run {g : α → β} {result : Except Fault α}
    (h : x.run.run s = (result, t)) :
    (do return g (← x) : Attempt σ β).run.run s = (result.map g, t) := by
  cases result with
  | ok a => exact attempt_bind_of_run h
  | error fault => exact attempt_bind_of_error h

/-- What is released after an attempt is released whatever the attempt ended in. -/
theorem run_thenRelease {release : Attempt σ Unit} {result : Except Fault α} {fault? : Option Fault}
    (h : x.run.run s = (result, t)) (releases : release.run.run t = (orFault (.ok ()) fault?, u)) :
    (x.thenRelease release).run.run s = (orFault result fault?, u) := by
  refine (run_bind_of_run h).trans ((run_bind_of_run releases).trans ?_)
  cases fault? with
  | none => rfl
  | some fault => rfl

end

end QueryGuard
