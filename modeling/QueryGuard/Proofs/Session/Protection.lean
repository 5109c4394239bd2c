import QueryGuard.Proofs.Engine.Rows
import QueryGuard.Proofs.Session.Requests

/-!
# QueryGuard.Proofs.Session.Protection

Requests that read run their statements on connections that refuse writes.

`Step.reads` tells which requests those are.  Each of them opens at most one connection, does no
more than harmless calls on it, and closes it, which leaves a `Protected` trace
(`protected_of_use`); `run_protected` says so of every such request in a run.
-/

namespace QueryGuard

open Engine

variable {α : Type}

/-- A trace in which every statement, apart from the one that makes a connection refuse writes, is
executed on a connection that was made so before; no statement is executed after a fault, whichever
call it came from, and nothing is committed. -/
structure Protected (events : List Event) : Prop where
  guarded : ∀ before e after, events = before ++ e :: after →
    ∀ sql params, e.call = .execute sql params → sql ≠ queryOnlyPragma →
      ⟨e.connection, .execute queryOnlyPragma [], none⟩ ∈ before
  stops : ∀ before e after, events = before ++ e :: after → e.fault? ≠ none →
    ∀ later ∈ after, later.statement? = none
  noCommit : ∀ e ∈ events, e.call ≠ .commit

/-! ## connections in use -/

theorem protected_nil : Protected [] := by
  refine ⟨?_, ?_, by simp⟩
  · intro before e after h
    simp at h
  · intro before e after h
    simp at h

/-- If no statement follows a fault anywhere, then none comes after one that is singled out. -/
theorem pairwise_stops {events : List Event}
    (h : events.Pairwise fun e later => e.fault? ≠ none → later.statement? = none) :
    ∀ before e after, events = before ++ e :: after → e.fault? ≠ none →
      ∀ later ∈ after, later.statement? = none := by
  intro before e after split fault later hl
  rw [split, List.pairwise_append, List.pairwise_cons] at h
  exact h.2.1.1 later hl fault

/-- A connection that cannot be opened or protected is not used. -/
theorem protected_of_opening {path : String} {fault : Fault} {events : List Event}
    (h : Opening path true (.error fault) events) : Protected events := by
  cases h with
  | refused conn =>
      refine ⟨?_, pairwise_stops (List.pairwise_singleton _ _), by simp⟩
      intro before e after split sql params call other
      have mem : e ∈ [⟨conn, .connect path, some fault⟩] := by simp [split]
      rw [List.mem_singleton.mp mem] at call
      cases call
  | unprotected conn =>
      refine ⟨?_, pairwise_stops (by simp), by simp⟩
      intro before e after split sql params call other
      have mem : e ∈ [⟨conn, .connect path, none⟩,
          ⟨conn, .execute queryOnlyPragma [], some fault⟩] := by simp [split]
      obtain rfl | mem := List.mem_cons.mp mem
      · cases call
      · rw [List.mem_singleton.mp mem] at call
        cases call
        contradiction

/-- A connection that refuses writes protects all that is done on it. -/
theorem protected_of_harmless {conn : Connection} {path : String} {events : List Event}
    (h : Harmless conn events) (closed? : Option Fault) :
    Protected (opening conn path true ++ (events ++ [⟨conn, .close, closed?⟩])) := by
  have close : Harmless conn [⟨conn, .close, closed?⟩] := .single conn (by simp) closed?
  have released := h.append close (.inr fun e he => by rw [List.mem_singleton.mp he]; rfl)
  have started : opening conn path true =
      [⟨conn, .connect path, none⟩, ⟨conn, .execute queryOnlyPragma [], none⟩] := rfl
  rw [started]
  refine ⟨?_, pairwise_stops ?_, ?_⟩
  · intro before e after split sql params call other
    -- the first two calls open the connection, so the second of them stands before any other
    -- statement
    cases before with
    | nil =>
        obtain ⟨rfl, _⟩ := List.cons.inj split
        cases call
    | cons first before =>
        obtain ⟨_, split⟩ := List.cons.inj split
        cases before with
        | nil =>
            obtain ⟨rfl, _⟩ := List.cons.inj split
            cases call
            contradiction
        | cons second before =>
            obtain ⟨same, split⟩ := List.cons.inj split
            have used : events ++ [⟨conn, .close, closed?⟩] = before ++ e :: after := split
            have mem : e ∈ events ++ [⟨conn, .close, closed?⟩] := by simp [used]
            rw [released.onConnection e mem, ← same]
            simp
  · simp only [List.cons_append, List.nil_append, List.pairwise_cons]
    simpa using released.stops
  · intro e he
    simp only [List.cons_append, List.nil_append, List.mem_cons] at he
    obtain rfl | rfl | he := he
    · simp
    · simp
    · exact released.noCommit e he

/-- A use of a connection that refuses writes is protected if its body is harmless. -/
theorem protected_of_use {path : String} {Body : Connection → Except Fault α → List Event → Prop}
    {result : Except Fault α} {events : List Event}
    (harmless : ∀ conn result events, Body conn result events → Harmless conn events)
    (h : Use path true Body result events) : Protected events := by
  cases h with
  | unopened failed => exact protected_of_opening failed
  | used body fault? => exact protected_of_harmless (harmless _ _ _ body) fault?

/-! ## requests that read -/

theorem protected_listTableNames (path : String) :
    Emits Engine.trace (listTableNames path).run fun _ => Protected :=
  (emits_listTableNames path).mono fun _ _ => protected_of_use fun _ _ _ reads => reads.harmless

/-- Describing a table is protected. -/
theorem protected_describeTable (path table : String) :
    Emits Engine.trace (Engine.describeTable path table).run fun _ => Protected :=
  (emits_describeTable path table).mono fun _ _ =>
    protected_of_use fun _ _ _ reads => reads.harmless

/-- Pulling rows is protected. -/
theorem protected_pullRows (path query : String) (take : Option Nat) (inside : Option Fault) :
    Emits Engine.trace (pullRows path query take inside).run fun _ => Protected :=
  (emits_pullRows path query take inside).mono fun _ _ told => by
    obtain ⟨ended, _, used⟩ := told
    exact protected_of_use (fun _ _ _ rows => rows.harmless) used

/-- A bounded reading is protected. -/
theorem protected_readBounded (path query : String) (limit : Int) :
    Emits Engine.trace (readBounded (rowSource path) query limit).run fun _ => Protected :=
  (emits_readBounded path query limit).mono fun _ _ told => by
    obtain ⟨ended, used⟩ := told
    exact protected_of_use (fun _ _ _ rows => rows.harmless) used

/-- Each way to read is protected. -/
theorem readsLeave_protected : ReadsLeave Protected where
  nothing := protected_nil
  listTableNames := protected_listTableNames
  describeTable := protected_describeTable
  pullRows := protected_pullRows
  readBounded := protected_readBounded

/-- A request that reads leaves a protected trace. -/
theorem protected_step {step : Step} (reads : step.reads = true) :
    Emits Turn.trace step.run.run fun _ => Protected := readsLeave_protected.step reads

/-- **In every run, each request that reads executes its statements on a connection that refuses
writes, executes none after a fault, and commits nothing.** -/
theorem run_protected (session : Session) (steps : List (Step × Script)) :
    ∀ made ∈ steps.zip (session.run steps), made.1.1.reads = true →
      Protected made.2.turn.trace := by
  have each : ∀ (session : Session) (step : Step) (script : Script), step.reads = true →
      Protected (session.perform step script).turn.trace := fun session step script reads =>
    Session.trace_perform (protected_step reads) session script
  exact Session.forall_run (P := fun step outcome =>
    step.reads = true → Protected outcome.turn.trace) each session steps

/-- Listing the tables after a variable is set makes five calls, and is protected. -/
theorem run_protected_listTableNames :
    let steps := [(Step.setVariable "READONLY" "false", Script.empty),
      (.listTableNames (some "app.db"), Script.empty)]
    ∃ made ∈ steps.zip ((Session.start .empty id).run steps), made.1.1.reads = true ∧
      Protected made.2.turn.trace ∧ made.2.turn.trace.length = 5 := by
  intro steps
  have mem := List.mem_cons_of_mem (steps.zip ((Session.start .empty id).run steps))[0]
    (List.mem_singleton_self (steps.zip ((Session.start .empty id).run steps))[1])
  exact ⟨_, mem, rfl, run_protected _ steps _ mem rfl, rfl⟩

end QueryGuard
