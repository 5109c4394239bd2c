import QueryGuard.Database.Schema
import QueryGuard.Proofs.Engine.Use

/-!
# QueryGuard.Proofs.Engine.Reads

What the functions that look into the schema of a database do on the connection that they open:
statements and requests for their rows, up to the first fault.

* `Harmless` — calls on one connection, none of them a commit and no statement after a fault;
* `Reads` — the same, told together with the result, so that it can be put together from parts.
-/

namespace QueryGuard

/-- The statement that a call executes, with the values for its placeholders. -/
def Event.statement? (event : Event) : Option (String × List String) :=
  match event.call with
  | .execute sql params => some (sql, params)
  | _ => none

namespace Engine

variable {α β γ : Type}

/-! ## harmless use -/

/-- Calls on one connection that keep no changes, with no statement after a fault. -/
structure Harmless (conn : Connection) (events : List Event) : Prop where
  onConnection : ∀ e ∈ events, e.connection = conn
  noCommit : ∀ e ∈ events, e.call ≠ .commit
  stops : events.Pairwise fun e later => e.fault? ≠ none → later.statement? = none

/-- Harmless calls go on with harmless calls, if no fault came before or no statement comes
after. -/
theorem Harmless.append {conn : Connection} {events later : List Event}
    (h : Harmless conn events) (hl : Harmless conn later)
    (goesOn : (∀ e ∈ events, e.fault? = none) ∨ ∀ e ∈ later, e.statement? = none) :
    Harmless conn (events ++ later) := by
  refine ⟨?_, ?_, List.pairwise_append.mpr ⟨h.stops, hl.stops, ?_⟩⟩
  · intro e he
    obtain he | he := List.mem_append.mp he
    · exact h.onConnection e he
    · exact hl.onConnection e he
  · intro e he
    obtain he | he := List.mem_append.mp he
    · exact h.noCommit e he
    · exact hl.noCommit e he
  · intro e he l hl' fault
    obtain clean | none := goesOn
    · exact absurd (clean e he) fault
    · exact none l hl'

/-- One call that is no commit is harmless. -/
theorem Harmless.single (conn : Connection) {call : Call} (noCommit : call ≠ .commit)
    (fault? : Option Fault) : Harmless conn [⟨conn, call, fault?⟩] := by
  refine ⟨?_, ?_, List.pairwise_singleton _ _⟩
  · intro e he
    rw [List.mem_singleton.mp he]
  · intro e he
    rwa [List.mem_singleton.mp he]

/-- Fetches are no statements. -/
theorem Fetches.noStatement {conn : Connection} {fault? : Option Fault} {events : List Event}
    (h : Fetches conn fault? events) : ∀ e ∈ events, e.statement? = none := by
  intro e he
  rw [Event.statement?, (h.1 e he).2]

/-- Requests for rows are harmless, whatever they end in. -/
theorem Fetches.harmless {conn : Connection} {fault? : Option Fault} {events : List Event}
    (h : Fetches conn fault? events) : Harmless conn events := by
  refine ⟨fun e he => (h.1 e he).1, ?_, ?_⟩
  · intro e he
    rw [(h.1 e he).2]
    simp
  · exact List.pairwise_of_forall_mem_list fun _ _ later hl _ => h.noStatement later hl

/-! ## statements and their rows -/

/-- Harmless calls without a fault, unless the result is one. -/
structure Reads (conn : Connection) (result : Except Fault α) (events : List Event) : Prop where
  harmless : Harmless conn events
  clean : ∀ a, result = .ok a → ∀ e ∈ events, e.fault? = none

theorem Reads.nil (conn : Connection) (result : Except Fault α) : Reads conn result [] :=
  ⟨⟨by simp, by simp, List.Pairwise.nil⟩, by simp⟩

/-- Readings follow each other. -/
theorem Reads.append {conn : Connection} {a : α} {result : Except Fault β}
    {events later : List Event} (h : Reads conn (.ok a) events) (hl : Reads conn result later) :
    Reads conn result (events ++ later) := by
  have clean := h.clean a rfl
  refine ⟨h.harmless.append hl.harmless (.inl clean), ?_⟩
  intro b hb e he
  obtain he | he := List.mem_append.mp he
  · exact clean e he
  · exact hl.clean b hb e he

/-- Computations that read do so one after another. -/
theorem emits_reads_bind {conn : Connection} {x : EngineM α} {f : α → EngineM β}
    (hx : Emits trace x.run (Reads conn)) (hf : ∀ a, Emits trace (f a).run (Reads conn)) :
    Emits trace (x >>= f).run (Reads conn) := by
  refine Emits.attemptBind hx ?_ ?_
  · intro fault events told
    exact ⟨told.harmless, fun b hb => by cases hb⟩
  · intro a events told
    exact (hf a).mono fun result later toldLater => told.append toldLater

/-- A statement, and what is done with its rows. -/
theorem emits_reads_execute {conn : Connection} {sql : String} {params : List String}
    {f : Cursor → EngineM β}
    (hf : ∀ cursor, cursor.connection = conn → Emits trace (f cursor).run (Reads conn)) :
    Emits trace (do f (← execute conn sql params) : EngineM β).run (Reads conn) := by
  have noCommit : Call.execute sql params ≠ .commit := by simp
  refine Emits.attemptBind (emits_execute conn sql params) ?_ ?_
  · intro fault events told
    obtain ⟨cursor, fault?, _, _, rfl⟩ := told
    exact ⟨.single conn noCommit fault?, fun b hb => by cases hb⟩
  · intro cursor events told
    obtain ⟨cursor, fault?, same, ends, rfl⟩ := told
    cases fault? with
    | some fault => cases ends
    | none =>
        cases ends
        refine (hf cursor same).mono fun result later toldLater => ?_
        have first : Reads conn (.ok ()) [⟨conn, .execute sql params, none⟩] := by
          refine ⟨.single conn noCommit none, fun _ _ e he => ?_⟩
          rw [List.mem_singleton.mp he]
        exact first.append toldLater

/-- Fetching from a cursor is reading. -/
theorem emits_fetch (cursor : Cursor) (limit : Option Nat)
    (f : List Value → Except Fault γ) :
    Emits trace (fetch cursor limit f).run (Reads cursor.connection) := by
  refine (emits_consume cursor.connection _ cursor.rows limit _).bind fun ended events told => ?_
  cases hf : ended.fault? with
  | some fault =>
      refine Emits.pure ?_
      rw [List.append_nil]
      exact ⟨told.harmless, fun b hb => by cases hb⟩
  | none =>
      refine Emits.pure ?_
      rw [List.append_nil]
      exact ⟨told.harmless, fun _ _ => told.2 hf⟩

/-! ## the schema -/

/-- Listing the tables reads on a connection that refuses writes. -/
theorem emits_listTableNames (path : String) :
    Emits trace (listTableNames path).run (Use path true Reads) := by
  refine emits_withConnection fun conn => emits_reads_execute fun cursor same => ?_
  subst same
  exact emits_reads_bind (emits_fetch cursor none .ok) fun rows =>
    Emits.liftExcept (Reads.nil cursor.connection _)

/-- Looking for a table is reading. -/
theorem emits_tableExists (conn : Connection) (table : String) :
    Emits trace (tableExists conn table).run (Reads conn) := by
  refine emits_reads_execute fun cursor same => ?_
  subst same
  exact emits_reads_bind (emits_fetch cursor (some 1) .ok) fun found =>
    Emits.pure (Reads.nil cursor.connection _)

/-- Reading one of the lists of a table is reading. -/
theorem emits_listOf (conn : Connection) (what table : String)
    (read : List String → List Value → Except Fault γ) :
    Emits trace (listOf conn what table read).run (Reads conn) := by
  refine emits_reads_execute fun cursor same => ?_
  subst same
  exact emits_fetch cursor none _

/-- Describing a table reads on a connection that refuses writes. -/
theorem emits_describeTable (path table : String) :
    Emits trace (describeTable path table).run (Use path true Reads) := by
  refine emits_withConnection fun conn => emits_reads_bind (emits_tableExists conn table) ?_
  intro found
  cases found with
  | false => exact Emits.pure (Reads.nil conn _)
  | true =>
      refine emits_reads_bind (emits_listOf conn _ table _) fun columns => ?_
      refine emits_reads_bind (emits_listOf conn _ table _) fun indexes => ?_
      refine emits_reads_bind (emits_listOf conn _ table _) fun foreignKeys => ?_
      exact Emits.pure (Reads.nil conn _)

end Engine

end QueryGuard
