import QueryGuard.Proofs.Engine.Calls

/-!
# QueryGuard.Proofs.Engine.Connections

A connection that is opened, used and closed, told from the script of the engine.

* `Script.Opens`, `Engine.opened` — a connection can be opened for reading, and the engine once it
  is;
* `run_withConnection`, `trace_withConnection` — what is done on the connection stands between its
  opening and its closing;
* `run_withConnection_of_not_opens` — a connection that cannot be opened is not used.
-/

namespace QueryGuard

variable {α : Type}

/-- The engine on which a connection can be opened for reading. -/
structure Script.Opens (script : Script) : Prop where
  connect : script.connectFault? = none
  pragma : script.pragmaFault? = none

namespace Engine

/-- The engine once a connection is opened. -/
def opened (engine : Engine) (path : String) (queryOnly : Bool) : Engine :=
  ({ engine with connections := engine.connections + 1 }).adding
    (opening ⟨engine.connections⟩ path queryOnly)

theorem trace_opened (engine : Engine) (path : String) (queryOnly : Bool) :
    (engine.opened path queryOnly).trace =
      engine.trace ++ opening ⟨engine.connections⟩ path queryOnly := trace_adding _ _

theorem trace_opened_adding (engine : Engine) (path : String) (queryOnly : Bool) (script : Script)
    (events : List Event) :
    (({ engine.opened path queryOnly with script }).adding events).trace =
      engine.trace ++ (opening ⟨engine.connections⟩ path queryOnly ++ events) := by
  rw [trace_adding, ← List.append_assoc, ← trace_opened]
  rfl

variable {engine used : Engine}

/-- Where the script lets it, a connection is opened. -/
theorem run_openConnection_of_opens (opens : engine.script.Opens) (path : String)
    (queryOnly : Bool) :
    (openConnection path queryOnly).run.run engine =
      (.ok ⟨engine.connections⟩, engine.opened path queryOnly) :=
  run_openConnection engine opens.connect (fun _ => opens.pragma) path

/-- What is done on a connection that can be opened, and its closing. -/
theorem run_withConnection (opens : engine.script.Opens) {path : String} {queryOnly : Bool}
    {body : Connection → EngineM α} {result : Except Fault α}
    (h : (body ⟨engine.connections⟩).run.run (engine.opened path queryOnly) = (result, used)) :
    (withConnection path queryOnly body).run.run engine =
      (orFault result used.script.closeFault?,
        used.adding [⟨⟨engine.connections⟩, .close, used.script.closeFault?⟩]) :=
  (attempt_bind_of_run (run_openConnection_of_opens opens path queryOnly)).trans
    (run_thenRelease h (run_close used _))

/-- A connection that can be opened leaves the calls of its use between those of its opening and its
closing. -/
theorem trace_withConnection (opens : engine.script.Opens) {path : String} {queryOnly : Bool}
    (body : Connection → EngineM α) {events : List Event}
    (h : ((body ⟨engine.connections⟩).run.run (engine.opened path queryOnly)).2.trace =
      (engine.opened path queryOnly).trace ++ events) :
    ∃ closed?, ((withConnection path queryOnly body).run.run engine).2.trace = engine.trace ++
      (opening ⟨engine.connections⟩ path queryOnly ++
        (events ++ [⟨⟨engine.connections⟩, .close, closed?⟩])) := by
  obtain ⟨⟨result, used⟩, ran⟩ : ∃ ended,
      (body ⟨engine.connections⟩).run.run (engine.opened path queryOnly) = ended := ⟨_, rfl⟩
  rw [ran] at h
  rw [run_withConnection opens ran, trace_adding, h, trace_opened, List.append_assoc,
    List.append_assoc]
  exact ⟨_, rfl⟩

/-- A connection that cannot be opened for reading is neither used nor closed. -/
theorem run_withConnection_of_not_opens (closed : ¬ engine.script.Opens) (path : String)
    (body : Connection → EngineM α) :
    ∃ fault events later, (withConnection path true body).run.run engine = (.error fault, later) ∧
      later.trace = engine.trace ++ events ∧
      Opening path true (.error fault : Except Fault Connection) events := by
  let conn : Connection := ⟨engine.connections⟩
  have connects := run_connect engine path
  cases refused : engine.script.connectFault? with
  | some fault =>
      rw [refused] at connects
      have stopped := attempt_bind_of_error (f := fun conn => do
        let _ ← execute conn queryOnlyPragma []
        return conn) connects
      exact ⟨fault, _, _, attempt_bind_of_error stopped, trace_adding _ _, .refused conn fault⟩
  | none =>
      rw [refused] at connects
      let connected := ({ engine with connections := engine.connections + 1 }).adding
        [⟨conn, .connect path, none⟩]
      have protects := run_executePragma connected conn
      cases unprotected : engine.script.pragmaFault? with
      | none => exact absurd ⟨refused, unprotected⟩ closed
      | some fault =>
          have fails : connected.script.pragmaFault? = some fault := unprotected
          rw [fails, adding_adding] at protects
          have stopped : (openConnection path true).run.run engine = _ :=
            (attempt_bind_of_run connects).trans (attempt_bind_of_error protects)
          exact ⟨fault, _, _, attempt_bind_of_error stopped, trace_adding _ _,
            .unprotected conn fault rfl⟩

end Engine

end QueryGuard
