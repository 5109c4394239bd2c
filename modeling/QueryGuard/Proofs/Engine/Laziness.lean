import QueryGuard.Database.Rows
import QueryGuard.Proofs.Engine.Connections
import QueryGuard.Proofs.Engine.Fetching

/-!
# QueryGuard.Proofs.Engine.Laziness

The source of rows in the hands of a visitor, who takes some rows and may then raise a fault:

```
visit  = opening ++ execute ++ fetches ++ closeCursor ++ close
       | opening ++ execute ++ close                            if the statement fails
```

* `visit` — opens the source, takes rows up to a limit, raises a fault if there is one to raise, and
  releases the source;
* `run_enter_of_executes`, `run_enter_of_fails`, `run_release` — the source is opened, and released,
  as the script of the engine has it;
* `run_use_of_executes`, `run_use_of_fails` — whatever is done with the source in between;
* `visit_lazy` — no row is fetched unless the visitor asks for it, and the statement is closed
  before the connection whatever happens.
-/

namespace QueryGuard

variable {α β : Type}

theorem orFault_orFault (result : Except Fault α) (first? last? : Option Fault) :
    orFault (orFault result first?) last? = orFault result (last?.or first?) := by
  cases last? <;> rfl

/-- A source that is opened is used and then released. -/
theorem RowSource.use_run {σ η : Type} {source : RowSource σ η} {query : String} (start : β)
    {body : (Option Fault → StateM σ Unit) → Feed Row → StateM σ (Progress β)} {handle : η}
    {feed : Feed Row} {progress : Progress β} {fault? : Option Fault} {s opened read released : σ}
    (enters : (source.enter query).run.run s = (.ok (handle, feed), opened))
    (reads : (body (source.ask handle) feed).run opened = (progress, read))
    (exits : (source.exit handle progress.seen).run.run read =
      (orFault (.ok ()) fault?, released)) :
    (source.use query start body).run s =
      ({ progress with fault? := fault?.or progress.fault? }, released) := by
  rw [use, run_bind_of_run enters]
  dsimp only
  rw [run_bind_of_run reads, run_bind_of_run exits]
  cases fault? <;> rfl

/-! ## feeds of rows -/

namespace Feed

variable (f : α → β) (feed : Feed α) (limit : Option Nat)

/-- The fault of a feed does not depend on what is made of its items. -/
theorem fault?_map : (feed.map f).fault? = feed.fault? := by
  induction feed with
  | done | broken fault => rfl
  | item a rest ih => exact ih

/-- Whether a feed is exhausted does not depend on what is made of its items. -/
theorem isExhausted_map : (feed.map f).isExhausted limit = feed.isExhausted limit := by
  cases limit with
  | none => rfl
  | some count => rw [isExhausted, isExhausted, items_map, List.length_map]

theorem met?_map : (feed.map f).met? limit = feed.met? limit := by
  rw [met?, met?, isExhausted_map, fault?_map]

theorem fetches_map (conn : Connection) :
    (feed.map f).fetches conn limit = feed.fetches conn limit := by
  rw [fetches, fetches, isExhausted_map, fault?_map, items_map, upTo_map, List.length_map]

/-- A reader who stops within the items asks for no more than it is given. -/
theorem fetches_of_le (conn : Connection) {count : Nat} (within : count ≤ feed.items.length) :
    feed.fetches conn (some count) = List.replicate count ⟨conn, .fetch, none⟩ := by
  have stops : feed.isExhausted (some count) = false := decide_eq_false (Nat.not_lt.mpr within)
  rw [fetches, stops, if_neg Bool.false_ne_true, List.append_nil, upTo_some,
    List.length_take_of_le within]

variable {feed limit}

/-- A reader who goes on beyond the items asks once more. -/
theorem fetches_of_beyond (conn : Connection)
    (beyond : ∀ count, limit = some count → feed.items.length < count) :
    feed.fetches conn limit = List.replicate feed.items.length ⟨conn, .fetch, none⟩ ++
      [⟨conn, .fetch, feed.fault?⟩] := by
  cases limit with
  | none => rfl
  | some count =>
      have more := beyond count rfl
      have goesOn : feed.isExhausted (some count) = true := decide_eq_true more
      rw [fetches, goesOn, if_pos rfl, upTo_some, List.take_of_length_le (Nat.le_of_lt more)]

end Feed

/-- A limit beyond the last item leaves all of them. -/
theorem upTo_of_beyond {limit : Option Nat} {as : List α}
    (beyond : ∀ count, limit = some count → as.length < count) : upTo limit as = as := by
  cases limit with
  | none => rfl
  | some count => exact List.take_of_length_le (Nat.le_of_lt (beyond count rfl))

/-- The rows that a reply delivers, as rows of an answer. -/
def Reply.rowFeed (reply : Reply) : Feed Row :=
  reply.feed.map (Row.ofColumns (reply.columns.getD []))

namespace Reply

variable (reply : Reply) (limit : Option Nat)

theorem length_rowFeed : reply.rowFeed.items.length = reply.feed.items.length := by
  rw [rowFeed, Feed.items_map, List.length_map]

theorem met?_rowFeed : reply.rowFeed.met? limit = reply.feed.met? limit := Feed.met?_map _ _ _

theorem fetches_rowFeed (conn : Connection) :
    reply.rowFeed.fetches conn limit = reply.feed.fetches conn limit := Feed.fetches_map _ _ _ conn

end Reply

namespace Engine

/-! ## visits -/

/-- Takes rows up to a limit, and raises a fault if there is one to raise and none was met. -/
def takeThenRaise (take : Option Nat) (raised? : Option Fault)
    (ask : Option Fault → StateM Engine Unit) (feed : Feed Row) :
    StateM Engine (Progress (Array Row)) := do
  let progress ← feed.consume ask (fun rows row => .ok (rows.push row)) take (.start #[])
  return { progress with fault? := progress.fault?.or raised? }

/-- Opens the source of rows for a query, takes rows up to a limit and raises a fault if there is
one to raise, and releases the source. -/
def visit (path query : String) (take : Option Nat) (raised? : Option Fault) : EngineM (List Row) :=
  ExceptT.mk do
    let progress ← (rowSource path).use query #[] (takeThenRaise take raised?)
    match progress.fault? with
    | some fault => return .error fault
    | none => return .ok progress.result.toList

/-- To fetch rows is to visit the source; a fault that ends the visit before any row is asked for is
one raised by a visitor who takes none. -/
theorem pullRows_eq_visit (path query : String) (take : Option Nat) (inside : Option Fault) :
    pullRows path query take inside =
      visit path query (if inside.isSome then some 0 else take) inside := by
  cases inside with
  | some fault =>
      have same : takeThenRaise (some 0) (some fault) =
          fun _ _ => pure ((Progress.start #[]).stop fault) := by
        funext ask feed
        rw [takeThenRaise, Feed.consume.eq_1]
        rfl
      rw [visit, Option.isSome_some, if_pos rfl, same]
      rfl
  | none =>
      have same : takeThenRaise take none = fun ask feed =>
          feed.consume ask (fun rows row => .ok (rows.push row)) take (.start #[]) := by
        funext ask feed
        simp [takeThenRaise]
      rw [visit, Option.isSome_none, if_neg Bool.false_ne_true, same]
      rfl

/-! ## opening and release -/

section

variable {engine : Engine} {query : String} {reply : Reply}

/-- The source of rows opens to a feed if the connection and the statement do without a fault. -/
theorem run_enter_of_executes (opens : engine.script.Opens)
    (replies : engine.script.replyTo query = reply) (executes : reply.executeFault? = none)
    (path : String) :
    ((rowSource path).enter query).run.run engine =
      (.ok ((⟨engine.connections⟩ : Connection), reply.rowFeed),
        ({ engine.opened path true with script := engine.script.after query }).adding
          [⟨⟨engine.connections⟩, .execute query [], none⟩]) := by
  let conn : Connection := ⟨engine.connections⟩
  have connected := run_openConnection_of_opens opens path true
  have left : (engine.opened path true).script.replyTo query = reply := replies
  have executed := run_execute left conn []
  rw [executes] at executed
  refine (attempt_bind_of_run connected).trans ?_
  exact attempt_bind_of_run (run_orRelease_of_ok executed (close conn))

/-- Where the statement fails, the source of rows closes its connection. -/
theorem run_enter_of_fails (opens : engine.script.Opens)
    (replies : engine.script.replyTo query = reply) {fault : Fault}
    (fails : reply.executeFault? = some fault) (path : String) :
    ((rowSource path).enter query).run.run engine =
      (orFault (.error fault) engine.script.closeFault?,
        ({ engine.opened path true with script := engine.script.after query }).adding
          [⟨⟨engine.connections⟩, .execute query [], some fault⟩,
            ⟨⟨engine.connections⟩, .close, engine.script.closeFault?⟩]) := by
  let conn : Connection := ⟨engine.connections⟩
  have connected := run_openConnection_of_opens opens path true
  have left : (engine.opened path true).script.replyTo query = reply := replies
  have executed := run_execute left conn []
  rw [fails] at executed
  refine (attempt_bind_of_run connected).trans ?_
  have closed := run_orRelease_of_error executed (run_close _ conn)
  rw [adding_adding] at closed
  exact attempt_bind_of_stop closed

/-- The statement is closed first, and then the connection. -/
theorem run_release (engine : Engine) (path : String) (conn : Connection) (taken : Nat) :
    ((rowSource path).exit conn taken).run.run engine =
      (orFault (orFault (.ok ()) engine.script.closeCursorFault?) engine.script.closeFault?,
        engine.adding [⟨conn, .closeCursor taken, engine.script.closeCursorFault?⟩,
          ⟨conn, .close, engine.script.closeFault?⟩]) := by
  have released := run_thenRelease (run_closeCursor engine conn taken) (run_close _ conn)
  rw [adding_adding] at released
  exact released

/-! ## visits from their beginning to their end -/

/-- The calls of a visit whose statement is executed. -/
def visited (conn : Connection) (path query : String) (fetches : List Event) (taken : Nat)
    (script : Script) : List Event :=
  opening conn path true ++ ⟨conn, .execute query [], none⟩ ::
    (fetches ++ [⟨conn, .closeCursor taken, script.closeCursorFault?⟩,
      ⟨conn, .close, script.closeFault?⟩])

/-- A source whose statement is executed is used as the body uses it, and released; of several
faults the one that comes last counts. -/
theorem run_use_of_executes (opens : engine.script.Opens)
    (replies : engine.script.replyTo query = reply) (executes : reply.executeFault? = none)
    (path : String) (start : β)
    {body : (Option Fault → StateM Engine Unit) → Feed Row → StateM Engine (Progress β)}
    {progress : Progress β} {fetches : List Event}
    (reads : ∀ opened : Engine, (body (noteFetch ⟨engine.connections⟩) reply.rowFeed).run opened =
      (progress, opened.adding fetches)) :
    ∃ released, ((rowSource path).use query start body).run engine =
        (⟨progress.result, progress.seen, engine.script.closeFault?.or
          (engine.script.closeCursorFault?.or progress.fault?)⟩, released) ∧
      released.trace = engine.trace ++
        visited ⟨engine.connections⟩ path query fetches progress.seen engine.script := by
  let conn : Connection := ⟨engine.connections⟩
  let executed := ({ engine.opened path true with script := engine.script.after query }).adding
    [⟨conn, .execute query [], none⟩]
  have entered := run_enter_of_executes opens replies executes path
  have released := run_release (executed.adding fetches) path conn progress.seen
  rw [orFault_orFault] at released
  have used := RowSource.use_run start entered (reads executed) released
  rw [Option.or_assoc] at used
  refine ⟨_, used, ?_⟩
  rw [trace_adding, trace_adding, trace_opened_adding, visited]
  simp only [List.append_assoc, List.cons_append, List.nil_append]
  rfl

/-- A source whose statement fails is not used; its connection is closed. -/
theorem run_use_of_fails (opens : engine.script.Opens)
    (replies : engine.script.replyTo query = reply) {fault : Fault}
    (fails : reply.executeFault? = some fault) (path : String) (start : β)
    (body : (Option Fault → StateM Engine Unit) → Feed Row → StateM Engine (Progress β)) :
    ∃ closed, ((rowSource path).use query start body).run engine =
        (⟨start, 0, some (engine.script.closeFault?.getD fault)⟩, closed) ∧
      closed.trace = engine.trace ++ (opening ⟨engine.connections⟩ path true ++
        [⟨⟨engine.connections⟩, .execute query [], some fault⟩,
          ⟨⟨engine.connections⟩, .close, engine.script.closeFault?⟩]) := by
  have entered := run_enter_of_fails opens replies fails path
  refine ⟨_, (run_bind_of_run entered).trans ?_,
    trace_opened_adding engine path true (engine.script.after query) _⟩
  cases engine.script.closeFault? <;> rfl

/-- A visitor fetches as many rows as it takes and then raises what it has to. -/
theorem run_takeThenRaise (conn : Connection) (take : Option Nat) (raised? : Option Fault)
    (feed : Feed Row) (engine : Engine) :
    (takeThenRaise take raised? (noteFetch conn) feed).run engine =
      (⟨(upTo take feed.items).toArray, (upTo take feed.items).length,
        (feed.met? take).or raised?⟩, engine.adding (feed.fetches conn take)) := by
  have gathered : (upTo take feed.items).foldlM
      (fun rows row => (.ok (rows.push row) : Except Fault (Array Row))) #[] =
        .ok (upTo take feed.items).toArray := by
    refine (foldlM_push (f := .ok) (List.forall₂_same.mpr fun row _ => rfl) #[]).trans ?_
    simp
  have taken := run_consume conn _ feed take (.start #[]) gathered engine
  rw [takeThenRaise, run_bind_of_run taken, Progress.start, Option.or_none, Nat.zero_add]
  rfl

/-- A visit ends in the fault of the use, or in the rows that it took. -/
theorem run_visit_of_use {path : String} {take : Option Nat} {raised? fault? : Option Fault}
    (rows : List Row) {seen : Nat} {used : Engine}
    (h : ((rowSource path).use query #[] (takeThenRaise take raised?)).run engine =
      (⟨rows.toArray, seen, fault?⟩, used)) :
    (visit path query take raised?).run.run engine = (orFault (.ok rows) fault?, used) := by
  refine (run_bind_of_run h).trans ?_
  cases fault? <;> rfl

/-- A visit ends in its rows unless there is a fault. -/
theorem run_visit_of_executes (opens : engine.script.Opens)
    (replies : engine.script.replyTo query = reply) (executes : reply.executeFault? = none)
    (path : String) (take : Option Nat) (raised? : Option Fault) :
    let conn : Connection := ⟨engine.connections⟩
    let rows := upTo take reply.rowFeed.items
    let ran := (visit path query take raised?).run.run engine
    ran.1 = orFault (.ok rows) (engine.script.closeFault?.or
        (engine.script.closeCursorFault?.or ((reply.feed.met? take).or raised?))) ∧
      ran.2.trace = engine.trace ++
        visited conn path query (reply.feed.fetches conn take) rows.length engine.script := by
  intro conn rows ran
  obtain ⟨released, used, left⟩ := run_use_of_executes opens replies executes path #[]
    (run_takeThenRaise conn take raised? reply.rowFeed)
  have ended : ran = _ := run_visit_of_use rows used
  rw [ended, ← reply.met?_rowFeed, ← reply.fetches_rowFeed]
  exact ⟨rfl, left⟩

/-- A visit whose statement fails takes no rows and has no statement to close. -/
theorem run_visit_of_fails (opens : engine.script.Opens)
    (replies : engine.script.replyTo query = reply) {fault : Fault}
    (fails : reply.executeFault? = some fault) (path : String) (take : Option Nat)
    (raised? : Option Fault) :
    let conn : Connection := ⟨engine.connections⟩
    let ran := (visit path query take raised?).run.run engine
    ran.1 = .error (engine.script.closeFault?.getD fault) ∧
      ran.2.trace = engine.trace ++ (opening conn path true ++
        [⟨conn, .execute query [], some fault⟩, ⟨conn, .close, engine.script.closeFault?⟩]) := by
  intro conn ran
  obtain ⟨closed, stopped, left⟩ := run_use_of_fails opens replies fails path #[]
    (takeThenRaise take raised?)
  have ended : ran = _ := run_visit_of_use [] stopped
  rw [ended]
  exact ⟨rfl, left⟩

end

/-- **No row is fetched before it is asked for, and the statement is closed before the connection.**
A visitor who stops at some rows leaves one request for each of them; one who goes on to the end
leaves one more.  Whatever the visit ends in, the statement is closed once, and then the connection;
a fault that the visitor raises ends the visit unchanged if that goes well.  A statement that fails
is not closed, but its connection is. -/
theorem visit_lazy (path query : String) (take : Option Nat) (raised? : Option Fault)
    {engine : Engine} (opens : engine.script.Opens) :
    let conn : Connection := ⟨engine.connections⟩
    let script := engine.script
    let reply := script.replyTo query
    let rows := reply.rowFeed.items
    let ran := (visit path query take raised?).run.run engine
    let leaves := fun events => ran.2.trace = engine.trace ++ events
    (reply.executeFault? = none →
      (∀ k ≤ rows.length, take = some k →
        leaves (visited conn path query (List.replicate k ⟨conn, .fetch, none⟩) k script)) ∧
      ((∀ k, take = some k → rows.length < k) →
        leaves (visited conn path query
          (List.replicate rows.length ⟨conn, .fetch, none⟩ ++ [⟨conn, .fetch, reply.feed.fault?⟩])
          rows.length script)) ∧
      ran.1 = orFault (.ok (upTo take rows)) (script.closeFault?.or
        (script.closeCursorFault?.or ((reply.feed.met? take).or raised?)))) ∧
    (∀ fault, raised? = some fault → reply.fault? take = none → script.closeCursorFault? = none →
      script.closeFault? = none → ran.1 = .error fault) ∧
    ∀ fault, reply.executeFault? = some fault →
      ran.1 = .error (script.closeFault?.getD fault) ∧
        leaves (opening conn path true ++
          [⟨conn, .execute query [], some fault⟩, ⟨conn, .close, script.closeFault?⟩]) := by
  intro conn script reply rows ran leaves
  have length : rows.length = reply.feed.items.length := reply.length_rowFeed
  refine ⟨fun executes => ?_, fun fault raised clean released closed => ?_, fun fault fails =>
    run_visit_of_fails opens rfl fails path take raised?⟩
  · obtain ⟨ended, left⟩ := run_visit_of_executes opens rfl executes path take raised?
    refine ⟨fun k within takes => ?_, fun beyond => ?_, ended⟩
    · subst takes
      rw [Feed.fetches_of_le _ conn (length ▸ within), upTo_some,
        List.length_take_of_le within] at left
      exact left
    · rw [Feed.fetches_of_beyond conn (length ▸ beyond), upTo_of_beyond beyond] at left
      rw [length] at left ⊢
      exact left
  · obtain ⟨executes, met⟩ := Option.or_eq_none_iff.mp clean
    obtain ⟨ended, -⟩ := run_visit_of_executes opens rfl executes path take raised?
    have last : script.closeFault?.or (script.closeCursorFault?.or
        ((reply.feed.met? take).or raised?)) = some fault := by
      rw [closed, released, met, raised]
      rfl
    rw [last] at ended
    exact ended

/-- A visitor takes one row of two and raises a fault. -/
theorem visit_lazy_of_one_row :
    let script : Script :=
      { Script.empty with replies := [⟨some ["n"], [[.int 1], [.int 2]], -1, none⟩] }
    let fault : Fault := ⟨.runtime, "stopped"⟩
    let ran := (visit "app.db" "SELECT n FROM t" (some 1) (some fault)).run.run (.start script)
    ran.1 = .error fault ∧ ran.2.trace = [
      ⟨⟨0⟩, .connect "app.db", none⟩, ⟨⟨0⟩, .execute "PRAGMA query_only = ON" [], none⟩,
      ⟨⟨0⟩, .execute "SELECT n FROM t" [], none⟩, ⟨⟨0⟩, .fetch, none⟩,
      ⟨⟨0⟩, .closeCursor 1, none⟩, ⟨⟨0⟩, .close, none⟩] := by
  intro script fault ran
  have opens : (start script).script.Opens := ⟨rfl, rfl⟩
  obtain ⟨visits, raises, -⟩ :=
    visit_lazy "app.db" "SELECT n FROM t" (some 1) (some fault) opens
  have reply : (start script).script.replyTo "SELECT n FROM t" =
      ⟨some ["n"], [[.int 1], [.int 2]], -1, none⟩ := Script.replyTo_of_ne _ (by decide)
  rw [reply] at visits raises
  exact ⟨raises fault rfl rfl rfl rfl, (visits rfl).1 1 (by decide) rfl⟩

end Engine

end QueryGuard
