import QueryGuard.Proofs.Engine.Use
import QueryGuard.Proofs.Reading.Limit

/-!
# QueryGuard.Proofs.Engine.Calls

Each call of the engine run to its end, told from the script of the engine.

A call adds itself to the trace with the fault that the script has for it, and ends in that fault or
in its answer (`run_connect`, `run_execute` and their siblings).  What is to be released after a
fault only is released then (`run_orRelease_of_ok` and `run_orRelease_of_error`).
-/

namespace QueryGuard

variable {α β : Type}

/-! ## scripts -/

/-- The reply of an engine to the statement that it executes next.  The pragma that refuses writes
delivers nothing and fails at once if it fails. -/
def Script.replyTo (script : Script) (sql : String) : Reply :=
  if sql = queryOnlyPragma then { Reply.nothing with failure? := script.pragmaFault?.map .atOnce }
  else script.replies.head?.getD .nothing

theorem Script.replyTo_pragma (script : Script) :
    script.replyTo queryOnlyPragma =
      { Reply.nothing with failure? := script.pragmaFault?.map .atOnce } := if_pos rfl

theorem Script.replyTo_of_ne (script : Script) {sql : String} (other : sql ≠ queryOnlyPragma) :
    script.replyTo sql = script.replies.head?.getD .nothing := if_neg other

/-- What is left of a script once a statement is executed.  The pragma that refuses writes takes no
reply. -/
def Script.after (script : Script) (sql : String) : Script :=
  { script with replies := if sql = queryOnlyPragma then script.replies else script.replies.tail }

theorem Script.after_pragma (script : Script) : script.after queryOnlyPragma = script := by
  rw [after, if_pos rfl]

theorem Script.after_of_ne (script : Script) {sql : String} (other : sql ≠ queryOnlyPragma) :
    script.after sql = { script with replies := script.replies.tail } := by
  rw [after, if_neg other]

namespace Engine

/-- The engine with further calls in its trace. -/
def adding (engine : Engine) (events : List Event) : Engine :=
  { engine with events := engine.events ++ events }

theorem trace_adding (engine : Engine) (events : List Event) :
    (engine.adding events).trace = engine.trace ++ events := Array.toList_appendList

theorem adding_adding (engine : Engine) (events later : List Event) :
    (engine.adding events).adding later = engine.adding (events ++ later) := by
  have same : engine.events ++ events ++ later = engine.events ++ (events ++ later) := by
    apply Array.toList_inj.mp
    rw [Array.toList_appendList, Array.toList_appendList, Array.toList_appendList,
      List.append_assoc]
  rw [adding, adding, adding, same]

/-! ## releases -/

variable {engine used released : Engine} {fault fault' : Fault} {fault? : Option Fault}

/-- What is released after a fault stays as it is after a result. -/
theorem run_orRelease_of_ok {body : EngineM α} {a : α} (h : body.run.run engine = (.ok a, used))
    (release : EngineM Unit) : (body.orRelease release).run.run engine = (.ok a, used) :=
  run_bind_of_run h

/-- After a fault what is held is released, and a fault of the release is told then. -/
theorem run_orRelease_of_error {body : EngineM α} {release : EngineM Unit}
    (h : body.run.run engine = (.error fault, used))
    (releases : release.run.run used = (orFault (.ok ()) fault?, released)) :
    (body.orRelease release).run.run engine = (orFault (.error fault) fault?, released) := by
  refine (run_bind_of_run h).trans ?_
  cases fault? with
  | none => exact attempt_bind_of_run (a := ()) releases
  | some other => exact attempt_bind_of_error releases

/-! ## calls -/

/-- A call is noted and ends in its fault, if it has one. -/
theorem run_perform (conn : Connection) (call : Call) (fault? : Option Fault) (engine : Engine) :
    (perform conn call fault?).run.run engine =
      (orFault (.ok ()) fault?, engine.adding [⟨conn, call, fault?⟩]) := by
  cases fault? with
  | none => rfl
  | some fault => rfl

/-- A call with an answer. -/
theorem run_performReturn (conn : Connection) (call : Call) (fault? : Option Fault) (a : α)
    (engine : Engine) :
    (do perform conn call fault?; return a : EngineM α).run.run engine =
      (orFault (.ok a) fault?, engine.adding [⟨conn, call, fault?⟩]) := by
  cases fault? with
  | none => rfl
  | some fault => rfl

theorem run_connect (engine : Engine) (path : String) :
    let conn : Connection := ⟨engine.connections⟩
    (connect path).run.run engine = (orFault (.ok conn) engine.script.connectFault?,
      ({ engine with connections := engine.connections + 1 }).adding
        [⟨conn, .connect path, engine.script.connectFault?⟩]) :=
  run_performReturn _ _ _ _ { engine with connections := engine.connections + 1 }

/-- A statement is executed as the script replies to it. -/
theorem run_execute {engine : Engine} {sql : String} {reply : Reply}
    (replies : engine.script.replyTo sql = reply) (conn : Connection) (params : List String) :
    (execute conn sql params).run.run engine =
      (orFault (.ok ⟨conn, reply.columns, reply.rowCount, reply.feed⟩) reply.executeFault?,
        ({ engine with script := engine.script.after sql }).adding
          [⟨conn, .execute sql params, reply.executeFault?⟩]) := by
  subst replies
  obtain ⟨⟨replies, connectFault?, pragmaFault?, _, _, _, _⟩, connections, events⟩ := engine
  rw [execute]
  by_cases pragma : sql = queryOnlyPragma
  · simp only [pragma, if_true, Script.replyTo_pragma, Script.after_pragma]
    cases pragmaFault? with
    | none => rfl
    | some fault => rfl
  · simp only [if_neg pragma, Script.replyTo_of_ne _ pragma, Script.after_of_ne _ pragma]
    cases replies with
    | nil => rfl
    | cons first later => exact run_performReturn conn _ _ _ _

/-- A commit ends in the fault that the script has for it. -/
theorem run_commit (engine : Engine) (conn : Connection) :
    (commit conn).run.run engine = (orFault (.ok ()) engine.script.commitFault?,
      engine.adding [⟨conn, .commit, engine.script.commitFault?⟩]) :=
  run_perform conn .commit _ engine

/-- A rollback ends in the fault that the script has for it. -/
theorem run_rollback (engine : Engine) (conn : Connection) :
    (rollback conn).run.run engine = (orFault (.ok ()) engine.script.rollbackFault?,
      engine.adding [⟨conn, .rollback, engine.script.rollbackFault?⟩]) :=
  run_perform conn .rollback _ engine

/-- The close of a cursor ends in the fault that the script has for it. -/
theorem run_closeCursor (engine : Engine) (conn : Connection) (delivered : Nat) :
    (closeCursor conn delivered).run.run engine =
      (orFault (.ok ()) engine.script.closeCursorFault?,
        engine.adding [⟨conn, .closeCursor delivered, engine.script.closeCursorFault?⟩]) :=
  run_perform conn (.closeCursor delivered) _ engine

/-- The close of a connection ends in the fault that the script has for it. -/
theorem run_close (engine : Engine) (conn : Connection) :
    (close conn).run.run engine = (orFault (.ok ()) engine.script.closeFault?,
      engine.adding [⟨conn, .close, engine.script.closeFault?⟩]) :=
  run_perform conn .close _ engine

/-! ## opening a connection -/

/-- The statement that makes a connection refuse writes has a cursor without rows. -/
theorem run_executePragma (engine : Engine) (conn : Connection) :
    (execute conn queryOnlyPragma []).run.run engine =
      (orFault (.ok ⟨conn, none, -1, .done⟩) engine.script.pragmaFault?,
        engine.adding [⟨conn, .execute queryOnlyPragma [], engine.script.pragmaFault?⟩]) := by
  have executed := run_execute engine.script.replyTo_pragma conn []
  rw [Script.after_pragma] at executed
  obtain ⟨⟨_, _, pragmaFault?, _, _, _, _⟩, connections, events⟩ := engine
  cases pragmaFault? with
  | none => exact executed
  | some fault => exact executed

/-- A connection is opened if it can be, and can be made to refuse writes if it is asked to. -/
theorem run_openConnection (engine : Engine) (connects : engine.script.connectFault? = none)
    {queryOnly : Bool} (refuses : queryOnly = true → engine.script.pragmaFault? = none)
    (path : String) :
    let conn : Connection := ⟨engine.connections⟩
    (openConnection path queryOnly).run.run engine = (.ok conn,
      ({ engine with connections := engine.connections + 1 }).adding
        (opening conn path queryOnly)) := by
  intro conn
  let connected := ({ engine with connections := engine.connections + 1 }).adding
    [⟨conn, .connect path, none⟩]
  have opens := run_connect engine path
  rw [connects] at opens
  refine (attempt_bind_of_run opens).trans ?_
  cases queryOnly with
  | false => rfl
  | true =>
      have refuses' := run_executePragma connected conn
      have clean : connected.script.pragmaFault? = none := refuses rfl
      rw [clean, adding_adding] at refuses'
      exact attempt_bind_of_run refuses'

end Engine

end QueryGuard
