import QueryGuard.Database.Write
import QueryGuard.Proofs.Engine.Rows

/-!
# QueryGuard.Proofs.Engine.Lifetime

The connections in a trace, from their opening to their closing:

```
opening   = connect, and the statement that makes the connection refuse writes if it is asked for
lifetime  = opening ++ calls inside ++ close
          | an opening that failed
```

* `Inside` — calls on one connection that neither open nor close one; the functions that run on a
  connection make no other (`inside_tableExists`, `inside_listOf`, `inside_transaction`);
* `Lifetime` — the traces above, and the empty one; each function of the database leaves one
  (`lifetime_listTableNames` and its siblings);
* `Lifetime.pragma_follows` — what comes right after the opening of a connection;
* `Lifetime.closedOnce_iff` — which connections are closed.
-/

namespace QueryGuard.Engine

variable {α β γ : Type} {conn : Connection}

/-! ## calls inside -/

/-- Calls on one connection that neither open nor close one. -/
def Inside (conn : Connection) (events : List Event) : Prop :=
  ∀ e ∈ events, e.connection = conn ∧ e.call ≠ .close ∧ ∀ path, e.call ≠ .connect path

theorem Inside.nil (conn : Connection) : Inside conn [] := by simp [Inside]

/-- A call on the connection that neither opens nor closes one may come first. -/
theorem Inside.cons {call : Call} {fault? : Option Fault} {events : List Event}
    (h : Inside conn events) (notClose : call ≠ .close)
    (notConnect : ∀ path, call ≠ .connect path) :
    Inside conn (⟨conn, call, fault?⟩ :: events) := by
  simp only [Inside, List.mem_cons, forall_eq_or_imp, true_and]
  exact ⟨⟨notClose, notConnect⟩, h⟩

theorem Inside.append {events later : List Event} (h : Inside conn events)
    (hl : Inside conn later) : Inside conn (events ++ later) := by
  intro e he
  rw [List.mem_append] at he
  exact he.elim (h e) (hl e)

/-- Fetches stay inside of their connection. -/
theorem Fetches.inside {fault? : Option Fault} {events : List Event}
    (h : Fetches conn fault? events) : Inside conn events := by
  intro e he
  obtain ⟨same, call⟩ := h.1 e he
  simp [same, call]

/-- What a query does stays inside of its connection. -/
theorem Rows.inside {query : String} {result : Except Fault α} {events : List Event}
    (h : Rows query conn result events) : Inside conn events := by
  cases h with
  | refused fault => exact (Inside.nil conn).cons (by simp) (by simp)
  | delivered asked n fault? =>
      have release : Inside conn [⟨conn, .closeCursor n, fault?⟩] :=
        (Inside.nil conn).cons (by simp) (by simp)
      exact (asked.inside.append release).cons (by simp) (by simp)

/-! ## functions that run on a connection -/

/-- What stays inside of a connection does so one after another. -/
theorem inside_bind {x : EngineM α} {f : α → EngineM β}
    (hx : Emits trace x.run fun _ => Inside conn)
    (hf : ∀ a, Emits trace (f a).run fun _ => Inside conn) :
    Emits trace (x >>= f).run fun _ => Inside conn := by
  refine Emits.attemptBind hx (fun _ _ told => told) fun a events told => ?_
  exact (hf a).mono fun _ _ toldLater => told.append toldLater

/-- A statement, and what is done with its rows. -/
theorem inside_execute {sql : String} {params : List String} {f : Cursor → EngineM β}
    (hf : ∀ cursor, cursor.connection = conn → Emits trace (f cursor).run fun _ => Inside conn) :
    Emits trace (do f (← execute conn sql params) : EngineM β).run fun _ => Inside conn := by
  have executed : ∀ fault?, Inside conn [⟨conn, .execute sql params, fault?⟩] :=
    fun _ => (Inside.nil conn).cons (by simp) (by simp)
  refine Emits.attemptBind (emits_execute conn sql params) ?_ ?_
  · intro fault events told
    obtain ⟨_, fault?, _, _, rfl⟩ := told
    exact executed fault?
  · intro cursor events told
    obtain ⟨_, fault?, same, ends, rfl⟩ := told
    cases fault? with
    | some fault => cases ends
    | none =>
        cases ends
        exact (hf cursor same).mono fun _ _ later => (executed none).append later

/-- Fetching from a cursor stays inside of its connection. -/
theorem inside_fetch {cursor : Cursor} (same : cursor.connection = conn) (limit : Option Nat)
    (f : List Value → Except Fault γ) :
    Emits trace (fetch cursor limit f).run fun _ => Inside conn := by
  subst same
  refine (emits_consume cursor.connection _ cursor.rows limit _).bind fun ended events told => ?_
  cases ended.fault? with
  | some fault => exact Emits.pure (by simpa using told.inside)
  | none => exact Emits.pure (by simpa using told.inside)

/-- Looking for a table stays inside of its connection. -/
theorem inside_tableExists (conn : Connection) (table : String) :
    Emits trace (tableExists conn table).run fun _ => Inside conn :=
  inside_execute fun _ same =>
    inside_bind (inside_fetch same (some 1) .ok) fun _ => Emits.pure (Inside.nil conn)

/-- Reading one of the lists of a table stays inside of its connection. -/
theorem inside_listOf (conn : Connection) (what table : String)
    (read : List String → List Value → Except Fault γ) :
    Emits trace (listOf conn what table read).run fun _ => Inside conn :=
  inside_execute fun _ same => inside_fetch same none _

/-- A call that ends a transaction. -/
theorem inside_performScripted {call : Call} (notClose : call ≠ .close)
    (notConnect : ∀ path, call ≠ .connect path) (faultOf : Engine → Option Fault) :
    Emits trace (do perform conn call (faultOf (← get)) : EngineM Unit).run fun result events =>
      ∃ fault?, result = orFault (.ok ()) fault? ∧ Inside conn events := by
  refine (emits_performScripted conn call faultOf).mono fun result events told => ?_
  obtain ⟨fault?, ends, rfl⟩ := told
  exact ⟨fault?, ends, (Inside.nil conn).cons notClose notConnect⟩

/-- What is undone after a fault stays on the connection. -/
theorem inside_orRollback {body : EngineM α} (h : Emits trace body.run fun _ => Inside conn) :
    Emits trace (body.orRelease (rollback conn)).run fun _ => Inside conn :=
  Emits.orRelease h (inside_performScripted (by simp) (by simp) _) (fun _ _ told => told)
    fun _ _ _ _ told undone => told.append undone

/-- A transaction stays inside of its connection. -/
theorem inside_transaction {body : EngineM α} (h : Emits trace body.run fun _ => Inside conn) :
    Emits trace (transaction conn body).run fun _ => Inside conn := by
  have commits : Emits trace (commit conn).run fun _ => Inside conn :=
    (inside_performScripted (by simp) (by simp) (·.script.commitFault?)).mono
      fun _ _ told => told.elim fun _ h => h.2
  refine inside_bind (inside_orRollback h) fun a => ?_
  exact inside_bind (inside_orRollback commits) fun _ => Emits.pure (Inside.nil conn)

/-! ## lifetimes -/

/-- The trace of one connection, from its opening on.  A connection that was to refuse writes and
could not be made to is left as it is. -/
inductive Lifetime (queryOnly : Bool) : List Event → Prop
  | unused : Lifetime queryOnly []
  | refused (conn : Connection) (path : String) (fault : Fault) :
      Lifetime queryOnly [⟨conn, .connect path, some fault⟩]
  | unprotected (conn : Connection) (path : String) (fault : Fault) (asked : queryOnly = true) :
      Lifetime queryOnly
        [⟨conn, .connect path, none⟩, ⟨conn, .execute queryOnlyPragma [], some fault⟩]
  | closed {conn : Connection} (path : String) {events : List Event} (inside : Inside conn events)
      (fault? : Option Fault) :
      Lifetime queryOnly (opening conn path queryOnly ++ (events ++ [⟨conn, .close, fault?⟩]))

/-- A use of a connection is the lifetime of one, if its body stays inside. -/
theorem lifetime_of_use {path : String} {queryOnly : Bool}
    {Body : Connection → Except Fault α → List Event → Prop} {result : Except Fault α}
    {events : List Event}
    (inside : ∀ conn result events, Body conn result events → Inside conn events)
    (h : Use path queryOnly Body result events) : Lifetime queryOnly events := by
  cases h with
  | unopened failed =>
      cases failed with
      | refused conn => exact .refused conn path _
      | unprotected conn _ asked => exact .unprotected conn path _ asked
  | used body fault? => exact .closed path (inside _ _ _ body) fault?

/-- What is done on a connection of its own leaves the trace of that connection. -/
theorem lifetime_withConnection {path : String} {queryOnly : Bool} {body : Connection → EngineM α}
    (h : ∀ conn, Emits trace (body conn).run fun _ => Inside conn) :
    Emits trace (withConnection path queryOnly body).run fun _ => Lifetime queryOnly :=
  (emits_withConnection h).mono fun _ _ => lifetime_of_use fun _ _ _ inside => inside

/-- Listing the tables is the lifetime of one connection that refuses writes. -/
theorem lifetime_listTableNames (path : String) :
    Emits trace (listTableNames path).run fun _ => Lifetime true :=
  lifetime_withConnection fun conn => inside_execute fun _ same =>
    inside_bind (inside_fetch same none .ok) fun _ => Emits.liftExcept (Inside.nil conn)

/-- Describing a table is the lifetime of one connection that refuses writes. -/
theorem lifetime_describeTable (path table : String) :
    Emits trace (describeTable path table).run fun _ => Lifetime true := by
  refine lifetime_withConnection fun conn => inside_bind (inside_tableExists conn table) ?_
  intro found
  cases found with
  | false => exact Emits.pure (Inside.nil conn)
  | true =>
      refine inside_bind (inside_listOf conn _ table _) fun columns => ?_
      refine inside_bind (inside_listOf conn _ table _) fun indexes => ?_
      refine inside_bind (inside_listOf conn _ table _) fun foreignKeys => ?_
      exact Emits.pure (Inside.nil conn)

/-- Pulling rows is the lifetime of one connection that refuses writes. -/
theorem lifetime_pullRows (path query : String) (take : Option Nat) (inside : Option Fault) :
    Emits trace (pullRows path query take inside).run fun _ => Lifetime true :=
  (emits_pullRows path query take inside).mono fun _ _ told => by
    obtain ⟨_, _, used⟩ := told
    exact lifetime_of_use (fun _ _ _ rows => rows.inside) used

/-- A bounded reading is the lifetime of one connection that refuses writes. -/
theorem lifetime_readBounded (path query : String) (limit : Int) :
    Emits trace (readBounded (rowSource path) query limit).run fun _ => Lifetime true :=
  (emits_readBounded path query limit).mono fun _ _ told => by
    obtain ⟨_, used⟩ := told
    exact lifetime_of_use (fun _ _ _ rows => rows.inside) used

/-- Executing a write is the lifetime of one connection for writing. -/
theorem lifetime_executeWrite (path sql : String) :
    Emits trace (executeWrite path sql).run fun _ => Lifetime false :=
  lifetime_withConnection fun conn =>
    inside_transaction (inside_execute fun _ _ => Emits.pure (Inside.nil conn))

/-! ## what follows an opening -/

/-- A connection is opened, and the given call is the next one, if there is a next one. -/
def FollowsOpening (conn : Connection) (next? : Option Event) (events : List Event) : Prop :=
  ∃ before path after, events = before ++ ⟨conn, .connect path, none⟩ :: after ∧
    after.head? = next?

/-- Something or nothing follows the opening of a connection. -/
theorem followsOpening_of_mem {path : String} {events : List Event}
    (opened : ⟨conn, .connect path, none⟩ ∈ events) :
    ∃ next?, FollowsOpening conn next? events := by
  obtain ⟨before, after, split⟩ := List.append_of_mem opened
  exact ⟨_, before, path, after, split, rfl⟩

/-- If only the first call opens a connection, only the second can follow an opening. -/
theorem followsOpening_cons {first : Event} {rest : List Event} {next? : Option Event}
    (once : ∀ e ∈ rest, ∀ path, e.call ≠ .connect path)
    (h : FollowsOpening conn next? (first :: rest)) :
    first.connection = conn ∧ first.fault? = none ∧ rest.head? = next? := by
  obtain ⟨before, path, after, split, rfl⟩ := h
  cases before with
  | nil =>
      obtain ⟨rfl, rfl⟩ := List.cons.inj split
      exact ⟨rfl, rfl, rfl⟩
  | cons e before =>
      obtain ⟨_, rfl⟩ := List.cons.inj split
      exact absurd rfl (once ⟨conn, .connect path, none⟩ (by simp) path)

/-- What is done with a connection after it was opened does not open one. -/
theorem not_connect_of_inside (queryOnly : Bool) {events : List Event} (inside : Inside conn events)
    (closed? : Option Fault) :
    ∀ e ∈ (if queryOnly then [⟨conn, .execute queryOnlyPragma [], none⟩] else []) ++
      (events ++ [⟨conn, .close, closed?⟩]), ∀ path, e.call ≠ .connect path := by
  intro e he
  simp only [List.mem_append, List.mem_ite_nil_right, List.mem_singleton] at he
  obtain ⟨_, rfl⟩ | he | rfl := he
  · simp
  · exact (inside e he).2.2
  · simp

/-- A connection that refuses writes is asked to right after it is opened. -/
theorem Lifetime.pragma_follows {events : List Event} {next? : Option Event}
    (h : Lifetime true events) (opened : FollowsOpening conn next? events) :
    ∃ fault?, next? = some ⟨conn, .execute queryOnlyPragma [], fault?⟩ := by
  cases h with
  | unused => simp [FollowsOpening] at opened
  | refused other path fault =>
      have impossible := (followsOpening_cons (by simp) opened).2.1
      cases impossible
  | unprotected other path fault =>
      obtain ⟨rfl, _, rfl⟩ := followsOpening_cons (by simp) opened
      exact ⟨some fault, rfl⟩
  | closed path inside closed? =>
      obtain ⟨rfl, _, rfl⟩ := followsOpening_cons (not_connect_of_inside true inside closed?) opened
      exact ⟨none, rfl⟩

/-! ## what is closed -/

/-- A connection is closed once, after it was opened. -/
def ClosedOnce (conn : Connection) (events : List Event) : Prop :=
  ∃ before fault? after, events = before ++ ⟨conn, .close, fault?⟩ :: after ∧
    (∃ path, ⟨conn, .connect path, none⟩ ∈ before) ∧
    ∀ e ∈ before ++ after, ¬ (e.connection = conn ∧ e.call = .close)

/-- Without a close a connection is not closed once. -/
theorem not_closedOnce {events : List Event} (noClose : ∀ e ∈ events, e.call ≠ .close) :
    ¬ ClosedOnce conn events := by
  intro closed
  obtain ⟨before, fault?, after, rfl, _⟩ := closed
  exact noClose ⟨conn, .close, fault?⟩ (by simp) rfl

/-- A connection that is closed at the end of its use is closed once. -/
theorem closedOnce_of_inside (path : String) (queryOnly : Bool) {events : List Event}
    (inside : Inside conn events) (closed? : Option Fault) :
    ClosedOnce conn (opening conn path queryOnly ++ (events ++ [⟨conn, .close, closed?⟩])) := by
  refine ⟨opening conn path queryOnly ++ events, closed?, [], by simp,
    ⟨path, by simp [opening]⟩, ?_⟩
  intro e he closes
  simp only [opening, List.append_nil, List.cons_append, List.mem_cons, List.mem_append,
    List.mem_ite_nil_right, List.not_mem_nil, or_false] at he
  obtain rfl | ⟨_, rfl⟩ | he := he
  · simp at closes
  · simp at closes
  · exact (inside e he).2.1 closes.2

/-- **A connection is closed once unless it was to refuse writes and could not be made to.** -/
theorem Lifetime.closedOnce_iff {queryOnly : Bool} {path : String} {events : List Event}
    (h : Lifetime queryOnly events) (opened : ⟨conn, .connect path, none⟩ ∈ events) :
    ClosedOnce conn events ↔ ¬ (queryOnly = true ∧ ∃ fault,
      FollowsOpening conn (some ⟨conn, .execute queryOnlyPragma [], some fault⟩) events) := by
  obtain ⟨next?, follows⟩ := followsOpening_of_mem opened
  cases h with
  | unused => simp at opened
  | refused other path fault => simp at opened
  | unprotected other path fault asked =>
      obtain ⟨rfl, _, rfl⟩ := followsOpening_cons (by simp) follows
      refine iff_of_false (not_closedOnce (by simp)) fun kept => kept ⟨asked, fault, follows⟩
  | closed path inside closed? =>
      have once := not_connect_of_inside queryOnly inside closed?
      obtain ⟨rfl, _, _⟩ := followsOpening_cons once follows
      refine iff_of_true (closedOnce_of_inside path queryOnly inside closed?) ?_
      intro lost
      obtain ⟨rfl, fault, lost⟩ := lost
      have next := (followsOpening_cons once lost).2.2
      cases next

end QueryGuard.Engine
