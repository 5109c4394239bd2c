import QueryGuard.Database.Write
import QueryGuard.Proofs.Engine.SideBySide
import QueryGuard.Proofs.Reading.Limit

/-!
# QueryGuard.Proofs.Engine.Agreement

What the functions of the database make of two engines that fail at the same places.

* `EndAlike` — an attempt makes the same calls of both engines and ends alike;
* `endAlike_listTableNames`, `endAlike_describeTable`, `endAlike_executeWrite` — so do the functions
  of the database;
* `agree_readBounded` — a reading under a limit is the same for both engines, or failed at the same
  row with the faults of one and the same call.
-/

namespace QueryGuard

variable {α β : Type} {R : Fault → Fault → Prop}

/-- Two executed statements with the same rows. -/
structure Cursor.Alike (R : Fault → Fault → Prop) (cursor cursor' : Cursor) : Prop where
  connection : cursor.connection = cursor'.connection
  columns : cursor.columns = cursor'.columns
  rowCount : cursor.rowCount = cursor'.rowCount
  rows : Feed.Alike R cursor.rows cursor'.rows

/-- Two readers got as far as each other, and were stopped alike if at all. -/
inductive Progress.Alike (R : Fault → Fault → Prop) :
    Progress β → Progress β → List (Event × Event) → Prop
  | same (progress : Progress β) (events : List (Event × Event)) : Alike R progress progress events
  | stopped (progress : Progress β) {fault fault' : Fault} {events : List (Event × Event)}
      (raised : Raised R fault fault' events) :
      Alike R (progress.stop fault) (progress.stop fault') events

/-- Two readings under a limit are the same, or failed at the same row with the faults of one and
the same call. -/
inductive Reading.Alike (R : Fault → Fault → Prop) :
    Reading → Reading → List (Event × Event) → Prop
  | same (reading : Reading) (events : List (Event × Event)) : Alike R reading reading events
  | failed (total : Nat) {fault fault' : Fault} {events : List (Event × Event)}
      (raised : Raised R fault fault' events) :
      Alike R (.failed total fault) (.failed total fault') events

namespace Progress.Alike

variable {progress progress' : Progress β} {events later : List (Event × Event)}

/-- What was alike stays so with more events. -/
theorem mono (h : Alike R progress progress' events) (kept : events ⊆ later) :
    Alike R progress progress' later := by
  cases h with
  | same progress => exact .same progress _
  | stopped progress raised => exact .stopped progress (raised.mono kept)

/-- Progress that is alike has seen as many items. -/
theorem seen_eq (h : Alike R progress progress' events) : progress.seen = progress'.seen := by
  cases h with
  | same progress => rfl
  | stopped progress raised => rfl

/-- Readers that were stopped by a fault are stopped alike by another one. -/
theorem stop (h : Alike R progress progress' events) (fault : Fault) :
    progress.stop fault = progress'.stop fault := by
  cases h with
  | same progress => rfl
  | stopped progress raised => rfl

end Progress.Alike

namespace Engine

/-- An attempt on each of two engines that are alike makes the same calls, and the two end alike. -/
abbrev EndAlike (R : Fault → Fault → Prop) (S : α → α → Prop) (x y : EngineM α) : Prop :=
  Agree trace (Alike R) x.run y.run (Ends R S)

/-! ## calls -/

/-- A fetch is noted on both sides, each with its own fault. -/
theorem agree_noteFetch (conn : Connection) (fault? fault?' : Option Fault) :
    Agree trace (Alike R) (noteFetch conn fault?) (noteFetch conn fault?') fun _ _ events =>
      events = [(⟨conn, .fetch, fault?⟩, ⟨conn, .fetch, fault?'⟩)] := by
  intro engine engine' alike
  exact ⟨[(⟨conn, .fetch, fault?⟩, ⟨conn, .fetch, fault?'⟩)], Array.toList_push, Array.toList_push,
    ⟨alike.script, alike.connections⟩, rfl⟩

theorem endAlike_get : EndAlike R (Alike R) (get : EngineM Engine) get :=
  Agree.quiet fun _ _ alike => ⟨rfl, rfl, alike, .ok alike⟩

/-- A call with faults that are alike ends alike. -/
theorem endAlike_perform (conn : Connection) (call : Call) {fault? fault?' : Option Fault}
    (h : Option.Rel R fault? fault?') :
    EndAlike R Eq (perform conn call fault?) (perform conn call fault?') := by
  intro engine engine' alike
  have after : Alike R (perform conn call fault? |>.run.run engine).2
      (perform conn call fault?' |>.run.run engine').2 := by
    cases h with
    | none => exact ⟨alike.script, alike.connections⟩
    | some related => exact ⟨alike.script, alike.connections⟩
  refine ⟨[(⟨conn, call, fault?⟩, ⟨conn, call, fault?'⟩)], ?_, ?_, after, ?_⟩
  · cases fault? <;> exact Array.toList_push
  · cases fault?' <;> exact Array.toList_push
  · cases h with
    | none => exact .ok rfl
    | some related => exact .raised ⟨related, conn, call, List.mem_singleton_self _⟩

/-- A call whose fault the script gives. -/
theorem endAlike_performScripted (conn : Connection) (call : Call) {faultOf : Script → Option Fault}
    (h : ∀ script script', Script.Alike R script script' →
      Option.Rel R (faultOf script) (faultOf script')) :
    EndAlike R Eq (do perform conn call (faultOf (← get).script))
      (do perform conn call (faultOf (← get).script)) :=
  Agree.attemptBind endAlike_get fun _ _ alike => endAlike_perform conn call (h _ _ alike.script)

theorem endAlike_commit (conn : Connection) : EndAlike R Eq (commit conn) (commit conn) :=
  endAlike_performScripted conn .commit fun _ _ alike => alike.commit

theorem endAlike_rollback (conn : Connection) : EndAlike R Eq (rollback conn) (rollback conn) :=
  endAlike_performScripted conn .rollback fun _ _ alike => alike.rollback

theorem endAlike_closeCursor (conn : Connection) (delivered : Nat) :
    EndAlike R Eq (closeCursor conn delivered) (closeCursor conn delivered) :=
  endAlike_performScripted conn (.closeCursor delivered) fun _ _ alike => alike.closeCursor

theorem endAlike_close (conn : Connection) : EndAlike R Eq (close conn) (close conn) :=
  endAlike_performScripted conn .close fun _ _ alike => alike.close

/-- A connection to one path is opened alike. -/
theorem endAlike_connect (path : String) : EndAlike R Eq (connect path) (connect path) := by
  intro engine engine' alike
  obtain ⟨script, connections, events⟩ := engine
  obtain ⟨script', connections', events'⟩ := engine'
  obtain rfl : connections = connections' := alike.connections
  let conn : Connection := ⟨connections⟩
  have connected : EndAlike R Eq
      (do perform conn (.connect path) script.connectFault?; return conn)
      (do perform conn (.connect path) script'.connectFault?; return conn) :=
    Agree.attemptAfter (endAlike_perform conn _ alike.script.connect) fun _ =>
      Agree.attemptPure rfl
  exact connected ⟨script, connections + 1, events⟩ ⟨script', connections + 1, events'⟩
    ⟨alike.script, rfl⟩

/-- The replies taken next are alike. -/
theorem endAlike_nextReply : EndAlike R (Reply.Alike R) nextReply nextReply := by
  refine Agree.quiet fun engine engine' alike => ?_
  obtain ⟨⟨replies, _, _, _, _, _, _⟩, connections, events⟩ := engine
  obtain ⟨⟨replies', _, _, _, _, _, _⟩, connections', events'⟩ := engine'
  obtain ⟨⟨same, connect, pragma, commit, rollback, closeCursor, close⟩, opened⟩ := alike
  cases same with
  | nil =>
      exact ⟨rfl, rfl, ⟨⟨.nil, connect, pragma, commit, rollback, closeCursor, close⟩, opened⟩,
        .ok Reply.alike_nothing⟩
  | cons first rest =>
      exact ⟨rfl, rfl, ⟨⟨rest, connect, pragma, commit, rollback, closeCursor, close⟩, opened⟩,
        .ok first⟩

/-- One statement leads to cursors that are alike. -/
theorem endAlike_execute (conn : Connection) (sql : String) (params : List String) :
    EndAlike R (Cursor.Alike R) (execute conn sql params) (execute conn sql params) := by
  rw [execute]
  by_cases pragma : sql = queryOnlyPragma
  · rw [if_pos pragma]
    refine Agree.attemptBind endAlike_get fun engine engine' alike => ?_
    refine Agree.attemptAfter (endAlike_perform conn _ alike.script.pragma) fun _ => ?_
    exact Agree.attemptPure ⟨rfl, rfl, rfl, .done⟩
  · rw [if_neg pragma]
    refine Agree.attemptBind endAlike_nextReply fun reply reply' alike => ?_
    refine Agree.attemptAfter (endAlike_perform conn _ alike.executeFault?) fun _ => ?_
    exact Agree.attemptPure ⟨rfl, alike.columns, alike.rowCount, alike.feed⟩

/-! ## calls that belong together -/

/-- Opening a connection of one kind ends alike. -/
theorem endAlike_openConnection (path : String) (queryOnly : Bool) :
    EndAlike R Eq (openConnection path queryOnly) (openConnection path queryOnly) := by
  refine Agree.attemptAfter (endAlike_connect path) fun conn => ?_
  cases queryOnly with
  | false => exact Agree.attemptPure rfl
  | true =>
      exact Agree.attemptBind (endAlike_execute conn queryOnlyPragma []) fun _ _ _ =>
        Agree.attemptPure rfl

/-- What ends alike on each connection ends alike with one that is opened for it. -/
theorem endAlike_withConnection {path : String} {queryOnly : Bool} {body : Connection → EngineM α}
    {S : α → α → Prop} (h : ∀ conn, EndAlike R S (body conn) (body conn)) :
    EndAlike R S (withConnection path queryOnly body) (withConnection path queryOnly body) := by
  refine Agree.attemptAfter (endAlike_openConnection path queryOnly) fun conn => ?_
  exact Agree.thenRelease (h conn) (endAlike_close conn)

/-- What ends alike does so in a transaction. -/
theorem endAlike_transaction (conn : Connection) {body : EngineM α} {S : α → α → Prop}
    (h : EndAlike R S body body) :
    EndAlike R S (transaction conn body) (transaction conn body) := by
  have undone : EndAlike R Eq (rollback conn) (rollback conn) := endAlike_rollback conn
  refine Agree.attemptBind (Agree.orRelease h undone) fun a b related => ?_
  refine Agree.attemptAfter (Agree.orRelease (endAlike_commit conn) undone) fun _ => ?_
  exact Agree.attemptPure related

/-- The same reader of two feeds that break alike. -/
theorem agree_consume (conn : Connection) (step : β → α → Except Fault β) {feed feed' : Feed α}
    (alike : Feed.Alike R feed feed') (limit : Option Nat) (progress : Progress β) :
    Agree trace (Alike R) (feed.consume (noteFetch conn) step limit progress)
      (feed'.consume (noteFetch conn) step limit progress) (Progress.Alike R) := by
  have none : Agree trace (Alike R) (Pure.pure progress) (Pure.pure progress) (Progress.Alike R) :=
    Agree.pure (.same progress [])
  induction alike generalizing limit progress with
  | done =>
      by_cases full : limit = some 0
      · rw [full]
        exact none
      · rw [Feed.consume.eq_2 _ _ _ _ full]
        exact (agree_noteFetch conn .none .none).bind fun _ _ _ _ => Agree.pure (.same progress _)
  | @broken fault fault' related =>
      by_cases full : limit = some 0
      · rw [full]
        exact none
      · rw [Feed.consume.eq_3 _ _ _ _ _ full, Feed.consume.eq_3 _ _ _ _ _ full]
        refine (agree_noteFetch conn (some fault) (some fault')).bind fun _ _ events told => ?_
        subst told
        exact Agree.pure (.stopped progress ⟨related, conn, .fetch, List.mem_singleton_self _⟩)
  | item a _ ih =>
      by_cases full : limit = some 0
      · rw [full]
        exact none
      · rw [Feed.consume.eq_4 _ _ _ _ _ _ full, Feed.consume.eq_4 _ _ _ _ _ _ full]
        refine (agree_noteFetch conn .none .none).bind fun _ _ events _ => ?_
        dsimp only
        cases step progress.result a with
        | error fault => exact Agree.pure (.same _ _)
        | ok result =>
            exact (ih _ _ (Agree.pure (.same _ []))).mono fun _ _ later told =>
              told.mono (List.subset_append_right events later)

/-- Fetching from cursors that are alike ends alike. -/
theorem endAlike_fetch {cursor cursor' : Cursor} (alike : Cursor.Alike R cursor cursor')
    (limit : Option Nat) (f : List Value → Except Fault β) :
    EndAlike R Eq (fetch cursor limit f) (fetch cursor' limit f) := by
  rw [fetch, fetch, alike.connection]
  refine (agree_consume cursor'.connection _ alike.rows limit _).bind ?_
  intro progress progress' events told
  cases told with
  | stopped progress raised => exact Agree.pure (.raised (raised.mono (by simp)))
  | same =>
      cases progress.fault? with
      | some fault => exact Agree.pure (.own fault _)
      | none => exact Agree.pure (.ok rfl)

/-! ## functions of the database -/

/-- Listing the tables ends alike. -/
theorem endAlike_listTableNames (path : String) :
    EndAlike R Eq (listTableNames path) (listTableNames path) :=
  endAlike_withConnection fun conn =>
    Agree.attemptBind (endAlike_execute conn listTablesQuery []) fun _ _ alike =>
      Agree.attemptAfter (endAlike_fetch alike none .ok) fun _ => Agree.liftExcept

/-- Looking for a table ends alike. -/
theorem endAlike_tableExists (conn : Connection) (table : String) :
    EndAlike R Eq (tableExists conn table) (tableExists conn table) := by
  refine Agree.attemptBind (endAlike_execute conn findTableQuery [table]) fun _ _ alike => ?_
  refine Agree.attemptAfter (endAlike_fetch alike (some 1) .ok) fun found => ?_
  exact Agree.attemptPure rfl

/-- Reading one of the lists of a table ends alike. -/
theorem endAlike_listOf (conn : Connection) (what table : String)
    (read : List String → List Value → Except Fault β) :
    EndAlike R Eq (listOf conn what table read) (listOf conn what table read) := by
  refine Agree.attemptBind (endAlike_execute conn _ []) fun cursor cursor' alike => ?_
  rw [alike.columns]
  exact endAlike_fetch alike none _

/-- Describing a table ends alike. -/
theorem endAlike_describeTable (path table : String) :
    EndAlike R Eq (describeTable path table) (describeTable path table) := by
  refine endAlike_withConnection fun conn => ?_
  refine Agree.attemptAfter (endAlike_tableExists conn table) fun found => ?_
  cases found with
  | false => exact Agree.attemptPure rfl
  | true =>
      refine Agree.attemptAfter (endAlike_listOf conn _ table _) fun columns => ?_
      refine Agree.attemptAfter (endAlike_listOf conn _ table _) fun indexes => ?_
      refine Agree.attemptAfter (endAlike_listOf conn _ table _) fun foreignKeys => ?_
      exact Agree.attemptPure rfl

/-- Executing a write ends alike. -/
theorem endAlike_executeWrite (path sql : String) :
    EndAlike R Eq (executeWrite path sql) (executeWrite path sql) := by
  refine endAlike_withConnection fun conn => endAlike_transaction conn ?_
  refine Agree.attemptBind (endAlike_execute conn sql []) fun cursor cursor' alike => ?_
  exact Agree.attemptPure alike.rowCount

/-! ## the source of rows -/

/-- The source of rows opens to the same connection and to feeds that are alike. -/
theorem endAlike_enter (path query : String) :
    EndAlike R (fun opened opened' => opened.1 = opened'.1 ∧ Feed.Alike R opened.2 opened'.2)
      ((rowSource path).enter query) ((rowSource path).enter query) := by
  refine Agree.attemptAfter (endAlike_openConnection path true) fun conn => ?_
  have executed := Agree.orRelease (endAlike_execute (R := R) conn query []) (endAlike_close conn)
  refine Agree.attemptBind executed fun cursor cursor' alike => ?_
  rw [alike.columns]
  exact Agree.attemptPure ⟨rfl, alike.rows.map _⟩

theorem endAlike_exit (path : String) (conn : Connection) (delivered : Nat) :
    EndAlike R Eq ((rowSource path).exit conn delivered) ((rowSource path).exit conn delivered) :=
  Agree.thenRelease (endAlike_closeCursor conn delivered) (endAlike_close conn)

/-- Reading from the source of rows makes progress that is alike. -/
theorem agree_read (path query : String) (limit : Option Nat) (step : β → Row → Except Fault β)
    (start : β) :
    Agree trace (Alike R) ((rowSource path).read query limit step start)
      ((rowSource path).read query limit step start) (Progress.Alike R) := by
  refine (endAlike_enter path query).bind fun entered entered' events told => ?_
  cases told with
  | own fault => exact Agree.pure (.same _ _)
  | raised raised => exact Agree.pure (.stopped _ (raised.mono (by simp)))
  | @ok opened opened' _ related =>
      obtain ⟨conn, feed⟩ := opened
      obtain ⟨conn', feed'⟩ := opened'
      obtain ⟨rfl, alike⟩ := related
      refine (agree_consume conn step alike limit _).bind fun progress progress' fetches got => ?_
      rw [got.seen_eq]
      refine (endAlike_exit path conn progress'.seen).bind fun _ _ later released => ?_
      cases released with
      | ok _ => exact Agree.pure (got.mono (by simp))
      | own fault =>
          dsimp only
          rw [got.stop fault]
          exact Agree.pure (.same _ _)
      | @raised fault fault' _ raised =>
          dsimp only
          rw [got.stop fault]
          exact Agree.pure (.stopped progress' (raised.mono (by simp)))

/-- Gathering rows ends in readings that are alike. -/
theorem agree_gatherRows (path query : String) (limit : Int) :
    Agree trace (Alike R) (gatherRows (rowSource path) query limit)
      (gatherRows (rowSource path) query limit) (Reading.Alike R) := by
  refine (agree_read path query none _ #[]).bind fun progress progress' events told => ?_
  cases told with
  | stopped progress raised => exact Agree.pure (.failed _ (raised.mono (by simp)))
  | same =>
      cases progress.fault? with
      | some fault => exact Agree.pure (.same _ _)
      | none => exact Agree.pure (.same _ _)

/-- Both readings come to a note on rows left out, or both raise the fault of not making one. -/
theorem agree_readBounded (path query : String) (limit : Int) :
    Agree trace (Alike R) (readBounded (rowSource path) query limit).run
      (readBounded (rowSource path) query limit).run fun result result' events =>
        ∃ reading reading', result = reading.told ∧ result' = reading'.told ∧
          Reading.Alike R reading reading' events := by
  rw [readBounded_run]
  refine (agree_gatherRows path query limit).bind fun reading reading' events alike => ?_
  refine Agree.pure ⟨reading, reading', rfl, rfl, ?_⟩
  rw [List.append_nil]
  exact alike

end Engine

end QueryGuard
