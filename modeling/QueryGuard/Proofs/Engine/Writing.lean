import QueryGuard.Database.Write
import QueryGuard.Proofs.Engine.Calls
import QueryGuard.Proofs.Engine.Reads

/-!
# QueryGuard.Proofs.Engine.Writing

A write from the opening of its connection to its closing, for every script of the engine:

```
written   = connect ++ execute ++ commit ++ close
          | connect ++ execute ++ commit that failed ++ rollback ++ close
          | connect ++ execute that failed ++ rollback ++ close
          | connect that failed
```

* `run_transaction_of_ok` and its siblings — the ways a transaction can go;
* `Written` — the calls above with their faults, and what the write ends in;
* `written_executeWrite` — every write is one of these;
* `Script.Keeps` — nothing stops the write, which is when it has an answer (`Written.eq_ok_iff`).
-/

namespace QueryGuard

/-- The script of an engine on which nothing stops a write. -/
structure Script.Keeps (script : Script) (sql : String) : Prop where
  connect : script.connectFault? = none
  execute : (script.replyTo sql).executeFault? = none
  commit : script.commitFault? = none
  close : script.closeFault? = none

namespace Engine

variable {α β : Type} {engine used : Engine} {fault : Fault}

/-! ## transactions -/

/-- What ends in a fault is undone. -/
theorem run_transaction_of_error {body : EngineM α} (conn : Connection)
    (h : body.run.run engine = (.error fault, used)) :
    (transaction conn body).run.run engine =
      (orFault (.error fault) used.script.rollbackFault?,
        used.adding [⟨conn, .rollback, used.script.rollbackFault?⟩]) :=
  attempt_bind_of_stop (run_orRelease_of_error h (run_rollback used conn))

/-- What cannot be kept is undone. -/
theorem run_transaction_of_unkept {body : EngineM α} {a : α} (conn : Connection)
    (h : body.run.run engine = (.ok a, used)) (fails : used.script.commitFault? = some fault) :
    (transaction conn body).run.run engine =
      (orFault (.error fault) used.script.rollbackFault?,
        used.adding
          [⟨conn, .commit, some fault⟩, ⟨conn, .rollback, used.script.rollbackFault?⟩]) := by
  have commits := run_commit used conn
  rw [fails] at commits
  have undone := run_orRelease_of_error commits (run_rollback _ conn)
  rw [adding_adding] at undone
  exact (attempt_bind_of_run (run_orRelease_of_ok h _)).trans (attempt_bind_of_stop undone)

/-- What ends well is kept. -/
theorem run_transaction_of_ok {body : EngineM α} {a : α} (conn : Connection)
    (h : body.run.run engine = (.ok a, used)) (keeps : used.script.commitFault? = none) :
    (transaction conn body).run.run engine = (.ok a, used.adding [⟨conn, .commit, none⟩]) := by
  have commits := run_commit used conn
  rw [keeps] at commits
  refine (attempt_bind_of_run (run_orRelease_of_ok h _)).trans ?_
  exact attempt_bind_of_run (run_orRelease_of_ok commits _)

/-! ## writes -/

/-- The calls of a write whose changes are kept. -/
def keeping (conn : Connection) (path sql : String) : List Event :=
  [⟨conn, .connect path, none⟩, ⟨conn, .execute sql [], none⟩, ⟨conn, .commit, none⟩,
    ⟨conn, .close, none⟩]

/-- The calls of a write with their faults, and what the write ends in.  A fault of the statement or
of the commit is the one that is told, unless what is done to release the connection fails too. -/
inductive Written (script : Script) (conn : Connection) (path sql : String) :
    Except Fault Int → List Event → Prop
  | unopened {fault : Fault} (refused : script.connectFault? = some fault) :
      Written script conn path sql (.error fault) [⟨conn, .connect path, some fault⟩]
  | undone {fault : Fault} (connects : script.connectFault? = none)
      (fails : (script.replyTo sql).executeFault? = some fault) :
      Written script conn path sql
        (orFault (orFault (.error fault) script.rollbackFault?) script.closeFault?)
        [⟨conn, .connect path, none⟩, ⟨conn, .execute sql [], some fault⟩,
          ⟨conn, .rollback, script.rollbackFault?⟩, ⟨conn, .close, script.closeFault?⟩]
  | unkept {fault : Fault} (connects : script.connectFault? = none)
      (executes : (script.replyTo sql).executeFault? = none)
      (fails : script.commitFault? = some fault) :
      Written script conn path sql
        (orFault (orFault (.error fault) script.rollbackFault?) script.closeFault?)
        [⟨conn, .connect path, none⟩, ⟨conn, .execute sql [], none⟩,
          ⟨conn, .commit, some fault⟩, ⟨conn, .rollback, script.rollbackFault?⟩,
          ⟨conn, .close, script.closeFault?⟩]
  | kept (connects : script.connectFault? = none)
      (executes : (script.replyTo sql).executeFault? = none)
      (commits : script.commitFault? = none) :
      Written script conn path sql (orFault (.ok (script.replyTo sql).rowCount) script.closeFault?)
        [⟨conn, .connect path, none⟩, ⟨conn, .execute sql [], none⟩, ⟨conn, .commit, none⟩,
          ⟨conn, .close, script.closeFault?⟩]

namespace Written

variable {script : Script} {conn : Connection} {path sql : String} {result : Except Fault Int}
  {events : List Event}

/-- A write opens one connection and does nothing on any other.  If it can be opened, the statement
is executed once, as it was given, and no other statement is. -/
theorem begins (h : Written script conn path sql result events) :
    ∃ later, events = ⟨conn, .connect path, script.connectFault?⟩ :: later ∧
      (∀ e ∈ later, e.connection = conn ∧ ∀ other, e.call ≠ .connect other) ∧
      later.filterMap Event.statement? =
        if script.connectFault? = none then [(sql, [])] else [] := by
  cases h with
  | unopened refused => exact ⟨_, by rw [refused], by simp, by simp [refused]⟩
  | undone connects | unkept connects | kept connects =>
      exact ⟨_, by rw [connects], by simp, by simp [connects, Event.statement?]⟩

/-- A write has an answer exactly if nothing stops it: the number of rows that it changed. -/
theorem eq_ok_iff (h : Written script conn path sql result events) {count : Int} :
    result = .ok count ↔ script.Keeps sql ∧ count = (script.replyTo sql).rowCount := by
  cases h with
  | unopened refused =>
      refine iff_of_false (by simp) fun kept => ?_
      cases refused.symm.trans kept.1.connect
  | undone _ fails =>
      refine iff_of_false (by simp) fun kept => ?_
      cases fails.symm.trans kept.1.execute
  | unkept _ _ fails =>
      refine iff_of_false (by simp) fun kept => ?_
      cases fails.symm.trans kept.1.commit
  | kept connects executes commits =>
      rw [orFault_eq_ok_iff, Except.ok.injEq, eq_comm, and_comm]
      exact and_congr_left fun _ => ⟨fun closes => ⟨connects, executes, commits, closes⟩, (·.close)⟩

/-- A write has a result exactly if the script keeps it. -/
theorem exists_eq_ok_iff (h : Written script conn path sql result events) :
    (∃ count, result = .ok count) ↔ script.Keeps sql := by
  simp only [h.eq_ok_iff]
  exact ⟨fun ends => ends.elim fun _ kept => kept.1, fun keeps => ⟨_, keeps, rfl⟩⟩

/-- The changes are kept, and nothing is undone, before the connection is closed. -/
theorem eq_keeping (h : Written script conn path sql result events) (keeps : script.Keeps sql) :
    events = keeping conn path sql := by
  cases h with
  | unopened refused => cases refused.symm.trans keeps.connect
  | undone _ fails => cases fails.symm.trans keeps.execute
  | unkept _ _ fails => cases fails.symm.trans keeps.commit
  | kept => rw [keeps.close, keeping]

/-- A connection that cannot be opened is not used. -/
theorem eq_unopened (h : Written script conn path sql result events) {fault : Fault}
    (refused : script.connectFault? = some fault) :
    result = .error fault ∧ events = [⟨conn, .connect path, some fault⟩] := by
  cases h with
  | unopened refused' =>
      cases refused.symm.trans refused'
      exact ⟨rfl, rfl⟩
  | undone connects | unkept connects | kept connects => cases refused.symm.trans connects

/-- What a statement did before it failed is undone before the connection is closed. -/
theorem eq_undoing (h : Written script conn path sql result events)
    (connects : script.connectFault? = none) {fault : Fault}
    (fails : (script.replyTo sql).executeFault? = some fault) :
    result = orFault (orFault (.error fault) script.rollbackFault?) script.closeFault? ∧
      events = [⟨conn, .connect path, none⟩, ⟨conn, .execute sql [], some fault⟩,
        ⟨conn, .rollback, script.rollbackFault?⟩, ⟨conn, .close, script.closeFault?⟩] := by
  cases h with
  | unopened refused => cases refused.symm.trans connects
  | undone _ fails' =>
      cases fails.symm.trans fails'
      exact ⟨rfl, rfl⟩
  | unkept _ executes | kept _ executes => cases fails.symm.trans executes

/-- What cannot be kept is undone before the connection is closed. -/
theorem eq_unkept (h : Written script conn path sql result events)
    (connects : script.connectFault? = none)
    (executes : (script.replyTo sql).executeFault? = none) {fault : Fault}
    (fails : script.commitFault? = some fault) :
    result = orFault (orFault (.error fault) script.rollbackFault?) script.closeFault? ∧
      events = [⟨conn, .connect path, none⟩, ⟨conn, .execute sql [], none⟩,
        ⟨conn, .commit, some fault⟩, ⟨conn, .rollback, script.rollbackFault?⟩,
        ⟨conn, .close, script.closeFault?⟩] := by
  cases h with
  | unopened refused => cases refused.symm.trans connects
  | undone _ stops => cases stops.symm.trans executes
  | unkept _ _ fails' =>
      cases fails.symm.trans fails'
      exact ⟨rfl, rfl⟩
  | kept _ _ commits => cases fails.symm.trans commits

end Written

/-- A statement that is executed for the number of rows that it changes. -/
theorem run_rowCount (engine : Engine) {sql : String} {fault? : Option Fault}
    (executes : (engine.script.replyTo sql).executeFault? = fault?) (conn : Connection) :
    (do return (← execute conn sql []).rowCount : EngineM Int).run.run engine =
      (orFault (.ok (engine.script.replyTo sql).rowCount) fault?,
        ({ engine with script := engine.script.after sql }).adding
          [⟨conn, .execute sql [], fault?⟩]) := by
  have executed := run_execute (rfl : engine.script.replyTo sql = _) conn []
  rw [executes] at executed
  cases fault? with
  | none => exact attempt_bind_of_run executed
  | some fault => exact attempt_bind_of_error executed

/-- **Every write goes one of the four ways of a write.** -/
theorem written_executeWrite (path sql : String) (engine : Engine) :
    let ran := (executeWrite path sql).run.run engine
    ∃ events, ran.2.trace = engine.trace ++ events ∧
      Written engine.script ⟨engine.connections⟩ path sql ran.1 events := by
  let conn : Connection := ⟨engine.connections⟩
  intro ran
  cases connects : engine.script.connectFault? with
  | some fault =>
      have opens := run_connect engine path
      rw [connects] at opens
      have stopped : ran = _ := attempt_bind_of_error (attempt_bind_of_error opens)
      rw [stopped]
      exact ⟨_, trace_adding _ _, .unopened connects⟩
  | none =>
      let opened := ({ engine with connections := engine.connections + 1 }).adding
        (opening conn path false)
      let executed := { opened with script := engine.script.after sql }
      have opens : (openConnection path false).run.run engine = (.ok conn, opened) :=
        run_openConnection engine connects (by simp) path
      have trace : executed.trace = engine.trace ++ [⟨conn, .connect path, none⟩] :=
        trace_adding _ _
      -- whatever the transaction ends in, the connection is closed, and that is all
      have ended {result : Except Fault Int} {events : List Event}
          (transacted : (transaction conn do
            return (← execute conn sql []).rowCount).run.run opened =
              (result, executed.adding events)) :
          ran = (orFault result engine.script.closeFault?,
            executed.adding (events ++ [⟨conn, .close, engine.script.closeFault?⟩])) := by
        rw [← adding_adding]
        exact (attempt_bind_of_run opens).trans (run_thenRelease transacted (run_close _ conn))
      cases executes : (engine.script.replyTo sql).executeFault? with
      | some fault =>
          have failed := run_rowCount opened executes conn
          have undone := run_transaction_of_error conn failed
          rw [adding_adding] at undone
          rw [ended undone, trace_adding, trace, List.append_assoc]
          exact ⟨_, rfl, .undone connects executes⟩
      | none =>
          have counted := run_rowCount opened executes conn
          cases commits : engine.script.commitFault? with
          | some fault =>
              have unkept := run_transaction_of_unkept conn counted commits
              rw [adding_adding] at unkept
              rw [ended unkept, trace_adding, trace, List.append_assoc]
              exact ⟨_, rfl, .unkept connects executes commits⟩
          | none =>
              have kept := run_transaction_of_ok conn counted commits
              rw [adding_adding] at kept
              rw [ended kept, trace_adding, trace, List.append_assoc]
              exact ⟨_, rfl, .kept connects executes commits⟩

end Engine

end QueryGuard
