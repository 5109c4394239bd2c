import QueryGuard.Database.Engine
import QueryGuard.Proofs.Engine.Emits

/-!
# QueryGuard.Proofs.Engine.Use

The trace of a connection that is opened, used and closed.

* `Opening` — the calls that open a connection;
* `Use` — the same with what is done on the connection, and its closing;
* `emits_withConnection` — what is done on a connection has such a trace.
-/

namespace QueryGuard.Engine

variable {α β : Type}

/-! ## opening a connection -/

/-- The calls that have opened a connection. -/
def opening (conn : Connection) (path : String) (queryOnly : Bool) : List Event :=
  ⟨conn, .connect path, none⟩ ::
    if queryOnly then [⟨conn, .execute queryOnlyPragma [], none⟩] else []

/-- The calls by which a connection is opened, and what they end in. -/
inductive Opening (path : String) (queryOnly : Bool) : Except Fault Connection → List Event → Prop
  | refused (conn : Connection) (fault : Fault) :
      Opening path queryOnly (.error fault) [⟨conn, .connect path, some fault⟩]
  | unprotected (conn : Connection) (fault : Fault) (asked : queryOnly = true) :
      Opening path queryOnly (.error fault)
        [⟨conn, .connect path, none⟩, ⟨conn, .execute queryOnlyPragma [], some fault⟩]
  | opened (conn : Connection) :
      Opening path queryOnly (.ok conn) (opening conn path queryOnly)

/-- A connection is opened as `Opening` tells. -/
theorem emits_openConnection (path : String) (queryOnly : Bool) :
    Emits trace (openConnection path queryOnly).run (Opening path queryOnly) := by
  rw [openConnection]
  refine Emits.attemptBind (emits_connect path) ?_ ?_
  · intro fault events told
    obtain ⟨conn, fault?, ends, rfl⟩ := told
    cases fault? with
    | none => cases ends
    | some fault =>
        cases ends
        exact .refused conn fault
  · intro conn events told
    obtain ⟨conn, fault?, ends, rfl⟩ := told
    cases fault? with
    | some fault => cases ends
    | none =>
        cases ends
        cases queryOnly with
        | false => exact Emits.pure (.opened conn)
        | true =>
            refine Emits.attemptBind (emits_execute conn queryOnlyPragma []) ?_ ?_
            · intro fault events told
              obtain ⟨cursor, fault?, _, ends, rfl⟩ := told
              cases fault? with
              | none => cases ends
              | some fault =>
                  cases ends
                  exact .unprotected conn fault rfl
            · intro _ events told
              obtain ⟨cursor, fault?, _, ends, rfl⟩ := told
              cases fault? with
              | some fault => cases ends
              | none => exact Emits.pure (.opened conn)

/-! ## a connection in use -/

/-- The trace of a connection that is opened, used and closed.  A connection that cannot be opened
is not used, and one that cannot be protected against writes is neither used nor closed. -/
inductive Use (path : String) (queryOnly : Bool)
    (Body : Connection → Except Fault α → List Event → Prop) : Except Fault α → List Event → Prop
  | unopened {fault : Fault} {events : List Event}
      (failed : Opening path queryOnly (.error fault) events) :
      Use path queryOnly Body (.error fault) events
  | used {conn : Connection} {result : Except Fault α} {events : List Event}
      (body : Body conn result events) (fault? : Option Fault) :
      Use path queryOnly Body (orFault result fault?)
        (opening conn path queryOnly ++ (events ++ [⟨conn, .close, fault?⟩]))

/-- What is done on a connection leaves the trace of a connection in use. -/
theorem emits_withConnection {path : String} {queryOnly : Bool} {body : Connection → EngineM α}
    {Body : Connection → Except Fault α → List Event → Prop}
    (h : ∀ conn, Emits trace (body conn).run (Body conn)) :
    Emits trace (withConnection path queryOnly body).run (Use path queryOnly Body) := by
  rw [withConnection]
  refine Emits.attemptBind (emits_openConnection path queryOnly) (fun _ _ => .unopened) ?_
  intro conn events opened
  cases opened
  refine Emits.thenRelease (h conn) (emits_close conn) ?_
  intro result events fault? later told toldClose
  subst toldClose
  exact .used told fault?

end QueryGuard.Engine
