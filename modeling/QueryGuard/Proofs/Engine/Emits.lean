import QueryGuard.Database.Engine
import QueryGuard.Proofs.Attempt

/-!
# QueryGuard.Proofs.Engine.Emits

What computations add to the trace.

`Emits trace x T` says of a computation that it keeps the trace it finds and adds events to it that
stand in the relation `T` to its result.  The lemmas of this module follow the ways in which
computations are put together, so that the trace of a computation is found without running it: one
lemma for each call of the engine, one for each way to go on after a computation, and one for each
way to release what it holds.
-/

namespace QueryGuard

variable {σ α β : Type}

/-- A computation adds to the trace, and its result and what it adds stand in a relation. -/
def Emits (trace : σ → List Event) (x : StateM σ α) (T : α → List Event → Prop) : Prop :=
  ∀ s, ∃ events, trace (x.run s).2 = trace s ++ events ∧ T (x.run s).1 events

namespace Emits

variable {trace : σ → List Event} {x : StateM σ α} {T U : α → List Event → Prop}

/-! ## computations -/

/-- What follows from the result and the events is emitted as well. -/
theorem mono (h : Emits trace x T) (weaker : ∀ a events, T a events → U a events) :
    Emits trace x U := by
  intro s
  obtain ⟨events, added, told⟩ := h s
  exact ⟨events, added, weaker _ _ told⟩

theorem pure {a : α} (h : T a []) : Emits trace (Pure.pure a) T := by
  intro s
  exact ⟨[], (List.append_nil _).symm, h⟩

/-- A computation that leaves the trace as it is. -/
theorem quiet (h : ∀ s, trace (x.run s).2 = trace s) :
    Emits trace x fun _ events => events = [] := by
  intro s
  exact ⟨[], by rw [h, List.append_nil], rfl⟩

/-- A computation that goes on after another emits its events after those of the other. -/
theorem bind {f : α → StateM σ β} {V : β → List Event → Prop} (hx : Emits trace x T)
    (hf : ∀ a events, T a events → Emits trace (f a) fun b later => V b (events ++ later)) :
    Emits trace (x >>= f) V := by
  intro s
  obtain ⟨events, added, told⟩ := hx s
  obtain ⟨later, addedLater, toldLater⟩ := hf _ _ told (x.run s).2
  refine ⟨events ++ later, ?_, toldLater⟩
  show trace ((f (x.run s).1).run (x.run s).2).2 = trace s ++ (events ++ later)
  rw [addedLater, added, List.append_assoc]

/-- A computation is followed by one that leaves the trace as it is. -/
theorem thenQuiet {f : α → StateM σ β} {P : List Event → Prop}
    (hx : Emits trace x fun _ events => P events)
    (hf : ∀ a, Emits trace (f a) fun _ events => events = []) :
    Emits trace (x >>= f) fun _ events => P events := by
  refine bind hx fun a events told => (hf a).mono fun _ later quiet => ?_
  rw [quiet, List.append_nil]
  exact told

/-! ## attempts -/

/-- A computation as an attempt that ends in no fault. -/
theorem lift (h : Emits trace x T) :
    Emits trace (liftM x : Attempt σ α).run fun result events =>
      ∃ a, result = .ok a ∧ T a events := by
  intro s
  obtain ⟨events, added, told⟩ := h s
  exact ⟨events, added, _, rfl, told⟩

/-- A result that is there already. -/
theorem liftExcept {result : Except Fault α} {V : Except Fault α → List Event → Prop}
    (h : V result []) : Emits trace (liftExcept result : Attempt σ α).run V := by
  cases result with
  | ok a => exact pure h
  | error fault => exact pure h

/-- An attempt goes on after a result, and ends with a fault. -/
theorem attemptBind {x : Attempt σ α} {f : α → Attempt σ β} {T : Except Fault α → List Event → Prop}
    {V : Except Fault β → List Event → Prop} (hx : Emits trace x.run T)
    (stops : ∀ fault events, T (.error fault) events → V (.error fault) events)
    (hf : ∀ a events, T (.ok a) events →
      Emits trace (f a).run fun b later => V b (events ++ later)) :
    Emits trace (x >>= f).run V := by
  rw [ExceptT.run_bind]
  refine bind hx fun result events told => ?_
  cases result with
  | ok a => exact hf a events told
  | error fault => exact pure (by rw [List.append_nil]; exact stops fault events told)

/-- What is made of the result of an attempt adds nothing to the trace. -/
theorem attemptReturn {x : Attempt σ α} {f : α → β} {P : List Event → Prop}
    (h : Emits trace x.run fun _ events => P events) :
    Emits trace (do return f (← x) : Attempt σ β).run fun _ events => P events := by
  refine attemptBind h (fun _ _ told => told) fun a events told => pure ?_
  rw [List.append_nil]
  exact told

/-- An attempt goes on after a computation that does not call the engine and ends in no fault. -/
theorem attemptAfter {x : Attempt σ α} {f : α → Attempt σ β}
    {V : Except Fault β → List Event → Prop}
    (hx : Emits trace x.run fun result events => (∃ a, result = .ok a) ∧ events = [])
    (hf : ∀ a, Emits trace (f a).run V) : Emits trace (x >>= f).run V := by
  refine attemptBind hx ?_ ?_
  · intro fault events told
    obtain ⟨⟨a, impossible⟩, _⟩ := told
    cases impossible
  · intro a events told
    obtain ⟨_, rfl⟩ := told
    exact hf a

/-- What is released after an attempt is released whatever the attempt ends in. -/
theorem thenRelease {body : Attempt σ α} {release : Attempt σ Unit}
    {T : Except Fault α → List Event → Prop} {R : Option Fault → List Event → Prop}
    {V : Except Fault α → List Event → Prop} (hbody : Emits trace body.run T)
    (hrelease : Emits trace release.run fun result events =>
      ∃ fault?, result = orFault (.ok ()) fault? ∧ R fault? events)
    (both : ∀ result events fault? later, T result events → R fault? later →
      V (orFault result fault?) (events ++ later)) :
    Emits trace (body.thenRelease release).run V := by
  refine bind hbody fun result events told => bind hrelease fun released later toldLater => ?_
  obtain ⟨fault?, rfl, toldRelease⟩ := toldLater
  have told := both result events fault? later told toldRelease
  cases fault? with
  | none => exact pure (by simpa using told)
  | some fault => exact pure (by simpa using told)

/-- What is released after a fault is released only then. -/
theorem orRelease {body : Attempt σ α} {release : Attempt σ Unit}
    {T : Except Fault α → List Event → Prop} {R : Option Fault → List Event → Prop}
    {V : Except Fault α → List Event → Prop} (hbody : Emits trace body.run T)
    (hrelease : Emits trace release.run fun result events =>
      ∃ fault?, result = orFault (.ok ()) fault? ∧ R fault? events)
    (goesOn : ∀ a events, T (.ok a) events → V (.ok a) events)
    (stops : ∀ fault events fault? later, T (.error fault) events → R fault? later →
      V (orFault (.error fault) fault?) (events ++ later)) :
    Emits trace (body.orRelease release).run V := by
  refine bind hbody fun result events told => ?_
  cases result with
  | ok a => exact pure (by rw [List.append_nil]; exact goesOn a events told)
  | error fault =>
      refine attemptBind hrelease ?_ ?_
      · intro other later toldLater
        obtain ⟨fault?, ends, toldRelease⟩ := toldLater
        cases fault? with
        | none => cases ends
        | some other' =>
            cases ends
            exact stops fault events (some other) later told toldRelease
      · intro _ later toldLater
        obtain ⟨fault?, ends, toldRelease⟩ := toldLater
        cases fault? with
        | none => exact pure (by simpa using stops fault events none later told toldRelease)
        | some other => cases ends

end Emits

/-! ## calls of the engine -/

namespace Engine

/-- The trace of an engine. -/
def trace (engine : Engine) : List Event := engine.events.toList

/-- Looking at the engine emits nothing. -/
theorem emits_get : Emits trace (get : EngineM Engine).run fun result events =>
    (∃ engine, result = .ok engine) ∧ events = [] := by
  intro engine
  exact ⟨[], (List.append_nil _).symm, ⟨engine, rfl⟩, rfl⟩

/-- Taking a reply emits nothing. -/
theorem emits_nextReply : Emits trace nextReply.run fun result events =>
    (∃ reply, result = .ok reply) ∧ events = [] := by
  intro engine
  obtain ⟨script, connections, events⟩ := engine
  obtain ⟨replies, _, _, _, _, _, _⟩ := script
  cases replies with
  | nil => exact ⟨[], (List.append_nil _).symm, ⟨.nothing, rfl⟩, rfl⟩
  | cons reply replies => exact ⟨[], (List.append_nil _).symm, ⟨reply, rfl⟩, rfl⟩

/-- A fetch is noted as one event. -/
theorem emits_noteFetch (conn : Connection) (fault? : Option Fault) :
    Emits trace (noteFetch conn fault?) fun _ events => events = [⟨conn, .fetch, fault?⟩] := by
  intro engine
  exact ⟨_, Array.toList_push, rfl⟩

/-- A call is one event, with its fault. -/
theorem emits_perform (conn : Connection) (call : Call) (fault? : Option Fault) :
    Emits trace (perform conn call fault?).run fun result events =>
      result = orFault (.ok ()) fault? ∧ events = [⟨conn, call, fault?⟩] := by
  intro engine
  refine ⟨[⟨conn, call, fault?⟩], ?_, ?_, rfl⟩
  · cases fault? <;> exact Array.toList_push
  · cases fault? <;> rfl

/-- A call with an answer. -/
theorem emits_performReturn (conn : Connection) (call : Call) (fault? : Option Fault) (a : α) :
    Emits trace (do perform conn call fault?; return a : EngineM α).run fun result events =>
      result = orFault (.ok a) fault? ∧ events = [⟨conn, call, fault?⟩] := by
  intro engine
  refine ⟨[⟨conn, call, fault?⟩], ?_, ?_, rfl⟩
  · cases fault? <;> exact Array.toList_push
  · cases fault? <;> rfl

/-- A call whose fault the script gives. -/
theorem emits_performScripted (conn : Connection) (call : Call)
    (faultOf : Engine → Option Fault) :
    Emits trace (do perform conn call (faultOf (← get)) : EngineM Unit).run fun result events =>
      ∃ fault?, result = orFault (.ok ()) fault? ∧ events = [⟨conn, call, fault?⟩] :=
  Emits.attemptAfter emits_get fun engine =>
    (emits_perform conn call (faultOf engine)).mono fun _ _ told => ⟨_, told⟩

/-- The close of a connection is one event, and ends in its fault. -/
theorem emits_close (conn : Connection) :
    Emits trace (close conn).run fun result events =>
      ∃ fault?, result = orFault (.ok ()) fault? ∧ events = [⟨conn, .close, fault?⟩] :=
  emits_performScripted conn .close (·.script.closeFault?)

/-- The close of a cursor is one event, and ends in its fault. -/
theorem emits_closeCursor (conn : Connection) (delivered : Nat) :
    Emits trace (closeCursor conn delivered).run fun result events =>
      ∃ fault?, result = orFault (.ok ()) fault? ∧
        events = [⟨conn, .closeCursor delivered, fault?⟩] :=
  emits_performScripted conn (.closeCursor delivered) (·.script.closeCursorFault?)

/-- A connection is opened in one event, and this ends in its fault. -/
theorem emits_connect (path : String) :
    Emits trace (connect path).run fun result events =>
      ∃ conn fault?, result = orFault (.ok conn) fault? ∧
        events = [⟨conn, .connect path, fault?⟩] := by
  intro engine
  let conn : Connection := ⟨engine.connections⟩
  obtain ⟨events, added, told⟩ := emits_performReturn conn (.connect path)
    engine.script.connectFault? conn { engine with connections := engine.connections + 1 }
  exact ⟨events, added, conn, _, told⟩

/-- A statement is one event, and leads to a cursor of its connection or to its fault. -/
theorem emits_execute (conn : Connection) (sql : String) (params : List String) :
    Emits trace (execute conn sql params).run fun result events =>
      ∃ cursor fault?, cursor.connection = conn ∧ result = orFault (.ok cursor) fault? ∧
        events = [⟨conn, .execute sql params, fault?⟩] := by
  rw [execute]
  by_cases pragma : sql = queryOnlyPragma
  · rw [if_pos pragma]
    exact Emits.attemptAfter emits_get fun engine =>
      (emits_performReturn conn _ _ _).mono fun _ _ told => ⟨_, _, rfl, told⟩
  · rw [if_neg pragma]
    exact Emits.attemptAfter emits_nextReply fun reply =>
      (emits_performReturn conn _ _ _).mono fun _ _ told => ⟨_, _, rfl, told⟩

/-! ## rows -/

/-- Requests for rows on one connection; none of them fails unless the reading does. -/
def Fetches (conn : Connection) (fault? : Option Fault) (events : List Event) : Prop :=
  (∀ e ∈ events, e.connection = conn ∧ e.call = .fetch) ∧
    (fault? = none → ∀ e ∈ events, e.fault? = none)

theorem Fetches.nil (conn : Connection) (fault? : Option Fault) : Fetches conn fault? [] := by
  simp [Fetches]

theorem Fetches.cons {conn : Connection} {fault? asked? : Option Fault} {events : List Event}
    (h : Fetches conn fault? events) (own : fault? = none → asked? = none) :
    Fetches conn fault? (⟨conn, .fetch, asked?⟩ :: events) := by
  simp only [Fetches, List.mem_cons, forall_eq_or_imp, true_and]
  exact ⟨h.1, fun clean => ⟨own clean, h.2 clean⟩⟩

/-- A request for a row, and what is done with the answer to it. -/
theorem emits_ask {conn : Connection} {asked? : Option Fault} {x : StateM Engine (Progress β)}
    (hx : Emits trace x fun ended events =>
      Fetches conn ended.fault? events ∧ (ended.fault? = none → asked? = none)) :
    Emits trace (do noteFetch conn asked?; x) fun ended events =>
      Fetches conn ended.fault? events := by
  refine (emits_noteFetch conn asked?).bind fun _ events told => hx.mono fun ended later h => ?_
  subst told
  exact h.1.cons h.2

/-- Reading a feed only asks for rows. -/
theorem emits_consume (conn : Connection) (step : β → α → Except Fault β) (feed : Feed α)
    (limit : Option Nat) (progress : Progress β) :
    Emits trace (feed.consume (noteFetch conn) step limit progress) fun ended events =>
      Fetches conn ended.fault? events := by
  induction feed generalizing limit progress with
  | done =>
      by_cases full : limit = some 0
      · rw [full]
        exact Emits.pure (Fetches.nil conn _)
      · rw [Feed.consume.eq_2 _ _ _ _ full]
        exact emits_ask (Emits.pure ⟨Fetches.nil conn _, fun _ => rfl⟩)
  | broken fault =>
      by_cases full : limit = some 0
      · rw [full]
        exact Emits.pure (Fetches.nil conn _)
      · rw [Feed.consume.eq_3 _ _ _ _ _ full]
        exact emits_ask (Emits.pure ⟨Fetches.nil conn _, fun clean => by cases clean⟩)
  | item a rest ih =>
      by_cases full : limit = some 0
      · rw [full]
        exact Emits.pure (Fetches.nil conn _)
      · rw [Feed.consume.eq_4 _ _ _ _ _ _ full]
        refine emits_ask ?_
        dsimp only
        cases step progress.result a with
        | ok result => exact (ih _ _).mono fun _ _ told => ⟨told, fun _ => rfl⟩
        | error fault => exact Emits.pure ⟨Fetches.nil conn _, fun _ => rfl⟩

end Engine

end QueryGuard
