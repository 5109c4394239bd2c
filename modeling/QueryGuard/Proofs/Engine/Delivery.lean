import QueryGuard.Proofs.Engine.Laziness
import QueryGuard.Proofs.Engine.Rows
import QueryGuard.Proofs.Reading.Limit

/-!
# QueryGuard.Proofs.Engine.Delivery

An engine that delivers the rows of a query without a fault, and how it is read.

* `Script.Delivers` — the engine is scripted to do so;
* `run_gatherRows_of_clean` — all the rows of a query that meets no fault are gathered under a
  limit;
* `run_gatherRows` — the same of an engine that is scripted to deliver;
* `emits_gatherRows_of_complete` — and only if no call of the engine fails is a reading complete.
-/

namespace QueryGuard

variable {α : Type}

/-- The script of an engine that delivers rows under column names, with no fault on the way. -/
structure Script.Delivers (script : Script) (columns : List String) (rows : List (List Value)) :
    Prop where
  connect : script.connectFault? = none
  pragma : script.pragmaFault? = none
  reply : ∃ rowCount later, script.replies = ⟨some columns, rows, rowCount, none⟩ :: later
  closeCursor : script.closeCursorFault? = none
  close : script.closeFault? = none

namespace Engine

/-- A feed without a fault is asked for its items without a fault. -/
theorem emits_askAll (conn : Connection) (feed : Feed α) :
    Emits trace (feed.askAll (noteFetch conn)) fun _ events =>
      feed.fault? = none → ∀ e ∈ events, e.fault? = none := by
  induction feed with
  | done => exact (emits_noteFetch conn none).mono fun _ _ told => by simp [told]
  | broken fault =>
      exact (emits_noteFetch conn (some fault)).mono fun _ _ _ clean => by cases clean
  | item a rest ih =>
      refine (emits_noteFetch conn none).bind fun _ events told => ?_
      refine ih.mono fun _ later clean ends => ?_
      subst told
      exact List.forall_mem_cons.mpr ⟨rfl, clean ends⟩

/-! ## readings under a limit -/

/-- A reader that keeps rows under a limit takes all of them. -/
theorem run_consume_keepRow (conn : Connection) (limit : Int) (feed : Feed Row)
    (engine : Engine) :
    (feed.consume (noteFetch conn) (fun kept row => .ok (keepRow limit kept row)) none
      (.start #[])).run engine =
        (⟨feed.items.foldl (keepRow limit) #[], feed.items.length, feed.met? none⟩,
          engine.adding (feed.fetches conn none)) := by
  have works : feed.items.foldlM
      (fun kept row => (.ok (keepRow limit kept row) : Except Fault (Array Row))) #[] =
        .ok (feed.items.foldl (keepRow limit) #[]) := List.foldlM_pure
  have taken := run_consume conn _ feed none (.start #[]) works engine
  rw [Progress.start, Nat.zero_add, Option.or_none] at taken
  exact taken

/-- All the rows are gathered from an engine without a fault, and the first ones are kept. -/
theorem run_gatherRows_of_clean {engine : Engine} {query : String} {reply : Reply}
    (opens : engine.script.Opens) (replies : engine.script.replyTo query = reply)
    (clean : reply.fault? none = none) (released : engine.script.closeCursorFault? = none)
    (closed : engine.script.closeFault? = none) (path : String) (limit : Int) :
    let conn : Connection := ⟨engine.connections⟩
    let rows := reply.rowFeed.items
    ∃ later, (gatherRows (rowSource path) query limit).run engine =
        (.complete (rows.take limit.toNat) rows.length limit, later) ∧
      later.trace = engine.trace ++
        visited conn path query (reply.feed.fetches conn none) rows.length engine.script := by
  intro conn rows
  obtain ⟨executes, met⟩ := Option.or_eq_none_iff.mp clean
  let body (ask : Option Fault → StateM Engine Unit) (feed : Feed Row) :=
    feed.consume ask (fun kept row => .ok (keepRow limit kept row)) none (.start #[])
  have reads : ∀ opened : Engine, (body (noteFetch conn) reply.rowFeed).run opened = _ :=
    run_consume_keepRow conn limit reply.rowFeed
  obtain ⟨later, used, left⟩ := run_use_of_executes opens replies executes path #[] reads
  rw [closed, released, reply.met?_rowFeed, met, Option.none_or, Option.none_or] at used
  rw [reply.fetches_rowFeed] at left
  have kept : (rows.foldl (keepRow limit) #[]).toList = rows.take limit.toNat :=
    toList_foldl_keepRow limit rows #[] (Nat.zero_le _)
  refine ⟨later, (run_bind_of_run used).trans ?_, left⟩
  rw [← kept]
  rfl

/-- The calls by which all the rows of a query are taken from the engine. -/
def delivery (conn : Connection) (path sql : String) (count : Nat) : List Event :=
  opening conn path true ++ ⟨conn, .execute sql [], none⟩ ::
    (List.replicate (count + 1) ⟨conn, .fetch, none⟩ ++
      [⟨conn, .closeCursor count, none⟩, ⟨conn, .close, none⟩])

/-- All the rows are gathered from an engine that delivers them, and the first ones are kept. -/
theorem run_gatherRows {script : Script} {columns : List String} {rows : List (List Value)}
    (delivers : script.Delivers columns rows) {sql : String} (other : sql ≠ queryOnlyPragma)
    (path : String) (limit : Int) :
    ∃ engine, (gatherRows (rowSource path) sql limit).run (.start script) =
        (.complete ((rows.map (Row.ofColumns columns)).take limit.toNat) rows.length limit,
          engine) ∧
      engine.trace = delivery ⟨0⟩ path sql rows.length := by
  obtain ⟨rowCount, later, next⟩ := delivers.reply
  let reply : Reply := ⟨some columns, rows, rowCount, none⟩
  have replies : script.replyTo sql = reply := by
    rw [Script.replyTo_of_ne _ other, next]
    rfl
  have clean : reply.feed.fault? = none := Feed.fault?_ofList none rows
  have delivered : reply.feed.items = rows := Feed.items_ofList none rows
  have found : reply.rowFeed.items = rows.map (Row.ofColumns columns) := by
    rw [Reply.rowFeed, Feed.items_map, delivered]
    rfl
  have opens : (start script).script.Opens := ⟨delivers.connect, delivers.pragma⟩
  obtain ⟨engine, read, left⟩ := run_gatherRows_of_clean opens replies clean
    delivers.closeCursor delivers.close path limit
  rw [found, List.length_map] at read left
  refine ⟨engine, read, left.trans ?_⟩
  have asked : reply.feed.fetches ⟨0⟩ none =
      List.replicate (rows.length + 1) ⟨⟨0⟩, .fetch, none⟩ := by
    rw [Feed.fetches_of_beyond ⟨0⟩ (by simp), delivered, clean, List.replicate_succ']
  show [] ++ visited ⟨0⟩ path sql (reply.feed.fetches ⟨0⟩ none) rows.length script = _
  rw [List.nil_append, asked, visited, delivery, delivers.closeCursor, delivers.close]

end Engine

end QueryGuard
