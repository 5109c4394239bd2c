import Mathlib.Data.List.Forall2
import QueryGuard.Proofs.Engine.Calls
import QueryGuard.Proofs.Engine.Reads

/-!
# QueryGuard.Proofs.Engine.Fetching

The rows of a statement as a reader asks for them, one at a time:

```
calls     = execute that failed | execute ++ fetches
fetches   = one request for each row that is taken, and one more if the reader goes to the end
```

* `upTo`, `Feed.met?`, `Feed.fetches` — what a reader with a limit is given of a feed, the fault
  that it meets, and its requests;
* `run_consume` — a reader makes just these requests;
* `Reply.fault?`, `Reply.calls` — the same for a statement and its rows;
* `run_statement` — a statement is executed and its rows are read.
-/

namespace QueryGuard

variable {α β : Type}

/-! ## statements in a trace -/

/-- The statements that a trace shows, in the order in which they are executed. -/
def executed (events : List Event) : List (String × List String) :=
  events.filterMap Event.statement?

@[simp] theorem executed_append (events later : List Event) :
    executed (events ++ later) = executed events ++ executed later := List.filterMap_append

/-- Calls that execute nothing show no statement. -/
theorem executed_eq_nil {events : List Event} (none : ∀ e ∈ events, e.statement? = none) :
    executed events = [] := List.filterMap_eq_nil_iff.mpr none

/-! ## limits -/

/-- What a reader with a limit takes of a list. -/
def upTo : Option Nat → List α → List α
  | none, as => as
  | some count, as => as.take count

@[simp] theorem upTo_some (count : Nat) (as : List α) : upTo (some count) as = as.take count := rfl

@[simp] theorem upTo_nil (limit : Option Nat) : upTo limit ([] : List α) = [] := by
  cases limit with
  | none => rfl
  | some count => exact List.take_nil

/-- The first items up to a limit that is not zero begin with the first one. -/
theorem upTo_cons (a : α) (as : List α) {limit : Option Nat} (asks : limit ≠ some 0) :
    upTo limit (a :: as) = a :: upTo (limit.map (· - 1)) as := by
  match limit, asks with
  | none, _ => rfl
  | some (count + 1), _ => rfl

theorem upTo_map (f : α → β) (limit : Option Nat) (as : List α) :
    upTo limit (as.map f) = (upTo limit as).map f := by
  cases limit with
  | none => rfl
  | some count => exact List.map_take.symm

namespace Feed

/-! ## what a reader meets -/

/-- Whether a reader asks for more than the items that there are. -/
def isExhausted : Option Nat → Feed α → Bool
  | none, _ => true
  | some count, feed => feed.items.length < count

/-- The fault that a reader meets.  The one behind the last item is met only by a reader that asks
for more. -/
def met? (limit : Option Nat) (feed : Feed α) : Option Fault :=
  if feed.isExhausted limit then feed.fault? else none

/-- The requests of a reader on a connection: one for each item that it is given, and one more if it
asks for more than there are. -/
def fetches (conn : Connection) (limit : Option Nat) (feed : Feed α) : List Event :=
  List.replicate (upTo limit feed.items).length ⟨conn, .fetch, none⟩ ++
    if feed.isExhausted limit then [⟨conn, .fetch, feed.fault?⟩] else []

section

variable {feed : Feed α} {limit : Option Nat}

/-- A feed without items is exhausted once it is asked. -/
theorem isExhausted_of_items_eq_nil (empty : feed.items = []) (asks : limit ≠ some 0) :
    feed.isExhausted limit = true := by
  cases limit with
  | none => rfl
  | some count =>
      have positive : 0 < count := Nat.pos_of_ne_zero fun zero => asks (congrArg some zero)
      simpa [isExhausted, empty] using positive

/-- A reader meets at once what stands in the place of items. -/
theorem met?_of_items_eq_nil (empty : feed.items = []) (asks : limit ≠ some 0) :
    feed.met? limit = feed.fault? := if_pos (isExhausted_of_items_eq_nil empty asks)

/-- A feed without items is asked once, and that has its fault. -/
theorem fetches_of_items_eq_nil (conn : Connection) (empty : feed.items = [])
    (asks : limit ≠ some 0) : feed.fetches conn limit = [⟨conn, .fetch, feed.fault?⟩] := by
  rw [fetches, empty, upTo_nil, if_pos (isExhausted_of_items_eq_nil empty asks)]
  rfl

variable (a : α) (rest : Feed α)

/-- Whether a feed is exhausted depends on what comes after its first item. -/
theorem isExhausted_item (asks : limit ≠ some 0) :
    (item a rest).isExhausted limit = rest.isExhausted (limit.map (· - 1)) := by
  match limit, asks with
  | none, _ => rfl
  | some (count + 1), _ => simp [isExhausted, items]

/-- The fault that is met comes after the first item. -/
theorem met?_item (asks : limit ≠ some 0) :
    (item a rest).met? limit = rest.met? (limit.map (· - 1)) := by
  rw [met?, isExhausted_item a rest asks, met?]
  rfl

/-- The first item is fetched without a fault, and then the others are. -/
theorem fetches_item (conn : Connection) (asks : limit ≠ some 0) :
    (item a rest).fetches conn limit =
      ⟨conn, .fetch, none⟩ :: rest.fetches conn (limit.map (· - 1)) := by
  rw [fetches, items, upTo_cons a rest.items asks, isExhausted_item a rest asks, List.length_cons,
    List.replicate_succ, List.cons_append, fetches]
  rfl

end

/-- No request fails of a reader that meets no fault. -/
theorem forall_fetches_iff (conn : Connection) (limit : Option Nat) (feed : Feed α) :
    (∀ e ∈ feed.fetches conn limit, e.fault? = none) ↔ feed.met? limit = none := by
  rw [fetches, List.forall_mem_append, met?]
  split <;> simp

/-- Requests for rows are no statements. -/
theorem executed_fetches (conn : Connection) (limit : Option Nat) (feed : Feed α) :
    executed (feed.fetches conn limit) = [] := by
  apply executed_eq_nil
  rw [fetches, List.forall_mem_append]
  refine ⟨fun e he => ?_, fun e he => ?_⟩
  · rw [List.eq_of_mem_replicate he]
    rfl
  · rw [List.eq_of_mem_singleton (List.mem_ite_nil_right.mp he).2]
    rfl

end Feed

namespace Engine

/-! ## readers -/

theorem adding_nil (engine : Engine) : engine.adding [] = engine := by
  rw [adding, Array.appendList_nil]

/-- A reader that takes nothing makes no request. -/
theorem run_consume_nothing (conn : Connection) (step : β → α → Except Fault β) (feed : Feed α)
    (progress : Progress β) (engine : Engine) :
    (feed.consume (noteFetch conn) step (some 0) progress).run engine =
      (progress, engine.adding (feed.fetches conn (some 0))) := by
  have none : feed.fetches conn (some 0) = [] := rfl
  rw [Feed.consume.eq_1, none, adding_nil]
  rfl

/-- A reader that finds no items meets at once what stands in their place. -/
theorem run_consume_empty (conn : Connection) (step : β → α → Except Fault β) {feed : Feed α}
    (empty : feed.items = []) {limit : Option Nat} (asks : limit ≠ some 0) (progress : Progress β)
    (engine : Engine) :
    (feed.consume (noteFetch conn) step limit progress).run engine =
      ({ progress with fault? := feed.fault?.or progress.fault? },
        engine.adding [⟨conn, .fetch, feed.fault?⟩]) := by
  cases feed with
  | done =>
      rw [Feed.consume.eq_2 _ _ _ _ asks]
      rfl
  | broken fault =>
      rw [Feed.consume.eq_3 _ _ _ _ _ asks]
      rfl
  | item a rest => cases empty

/-- A reader is given the items up to its limit, as long as it can work them into its result, and
asks for no more than it is given. -/
theorem run_consume (conn : Connection) (step : β → α → Except Fault β) (feed : Feed α)
    (limit : Option Nat) (progress : Progress β) {result : β}
    (works : (upTo limit feed.items).foldlM step progress.result = .ok result) (engine : Engine) :
    (feed.consume (noteFetch conn) step limit progress).run engine =
      (⟨result, progress.seen + (upTo limit feed.items).length,
        (feed.met? limit).or progress.fault?⟩, engine.adding (feed.fetches conn limit)) := by
  induction feed generalizing limit progress engine with
  | done | broken fault =>
      rw [Feed.items, upTo_nil] at works ⊢
      cases works
      by_cases full : limit = some 0
      · subst full
        exact run_consume_nothing conn step _ progress engine
      · rw [Feed.met?_of_items_eq_nil rfl full, Feed.fetches_of_items_eq_nil conn rfl full]
        exact run_consume_empty conn step rfl full progress engine
  | item a rest ih =>
      by_cases full : limit = some 0
      · subst full
        cases works
        exact run_consume_nothing conn step _ progress engine
      · rw [Feed.items, upTo_cons a rest.items full] at works ⊢
        rw [List.foldlM_cons] at works
        cases worked : step progress.result a with
        | error fault =>
            rw [worked] at works
            cases works
        | ok next =>
            rw [worked] at works
            have asked : (noteFetch conn none).run engine =
                ((), engine.adding [⟨conn, .fetch, none⟩]) := rfl
            have later := ih (limit.map (· - 1)) ⟨next, progress.seen + 1, progress.fault?⟩ works
              (engine.adding [⟨conn, .fetch, none⟩])
            rw [adding_adding] at later
            rw [Feed.consume.eq_4 _ _ _ _ _ _ full, run_bind_of_run asked]
            dsimp only
            rw [worked, Feed.met?_item a rest full, Feed.fetches_item a rest conn full,
              List.length_cons, ← Nat.add_assoc, Nat.add_right_comm]
            exact later

/-- What each row is read as, gathered in order. -/
theorem foldlM_push {f : α → Except Fault β} {as : List α} {bs : List β}
    (reads : List.Forall₂ (fun a b => f a = .ok b) as bs) (acc : Array β) :
    as.foldlM (fun acc a => return acc.push (← f a)) acc = .ok (acc ++ bs) := by
  induction reads generalizing acc with
  | nil => exact congrArg Except.ok Array.appendList_nil.symm
  | @cons a b as bs read _ ih =>
      have pushed : (do return acc.push (← f a) : Except Fault (Array β)) = .ok (acc.push b) := by
        rw [read]
        rfl
      rw [List.foldlM_cons, pushed, Array.appendList_cons]
      exact ih (acc.push b)

/-- Rows are fetched and read, if each of them can be. -/
theorem run_fetch (cursor : Cursor) (limit : Option Nat) {f : List Value → Except Fault β}
    {bs : List β}
    (reads : List.Forall₂ (fun row b => f row = .ok b) (upTo limit cursor.rows.items) bs)
    (engine : Engine) :
    (fetch cursor limit f).run.run engine = (orFault (.ok bs) (cursor.rows.met? limit),
      engine.adding (cursor.rows.fetches cursor.connection limit)) := by
  have consumed := run_consume cursor.connection _ cursor.rows limit (.start #[])
    (foldlM_push reads #[]) engine
  refine (run_bind_of_run consumed).trans ?_
  cases cursor.rows.met? limit with
  | none =>
      have all : (#[] ++ bs : Array β).toList = bs := Array.toList_appendList
      exact congrArg (fun read => (Except.ok read, _)) all
  | some fault => rfl

end Engine

/-! ## statements -/

namespace Reply

/-- The fault that stops a reader of a statement: that of the statement, or one met while its rows
are fetched. -/
def fault? (limit : Option Nat) (reply : Reply) : Option Fault :=
  reply.executeFault?.or (reply.feed.met? limit)

/-- The calls by which a statement is executed and its rows are read. -/
def calls (conn : Connection) (sql : String) (params : List String) (limit : Option Nat)
    (reply : Reply) : List Event :=
  ⟨conn, .execute sql params, reply.executeFault?⟩ ::
    if reply.executeFault? = none then reply.feed.fetches conn limit else []

/-- The calls for a statement are without a fault exactly if its reply is. -/
theorem forall_calls_iff (conn : Connection) (sql : String) (params : List String)
    (limit : Option Nat) (reply : Reply) :
    (∀ e ∈ reply.calls conn sql params limit, e.fault? = none) ↔ reply.fault? limit = none := by
  rw [calls, List.forall_mem_cons, fault?, Option.or_eq_none_iff]
  refine and_congr_right fun executes => ?_
  rw [if_pos executes]
  exact reply.feed.forall_fetches_iff conn limit

/-- The calls for a statement execute that statement and no other. -/
theorem executed_calls (conn : Connection) (sql : String) (params : List String)
    (limit : Option Nat) (reply : Reply) :
    executed (reply.calls conn sql params limit) = [(sql, params)] := by
  have none : executed
      (if reply.executeFault? = none then reply.feed.fetches conn limit else []) = [] := by
    split
    · exact reply.feed.executed_fetches conn limit
    · rfl
  exact congrArg ((sql, params) :: ·) none

/-- Fetching delivers rows of the reply and no others. -/
theorem mem_rows_of_mem_items {reply : Reply} {row : List Value} (mem : row ∈ reply.feed.items) :
    row ∈ reply.rows := by
  obtain ⟨columns, rows, rowCount, failure?⟩ := reply
  match failure? with
  | none | some (.atOnce fault) =>
      rw [feed, Feed.items_ofList] at mem
      exact mem
  | some (.afterRows count fault) =>
      rw [feed, Feed.items_ofList] at mem
      exact List.mem_of_mem_take mem

/-- A reader that meets no fault takes the rows of the reply. -/
theorem upTo_items_feed {limit : Option Nat} {reply : Reply} (clean : reply.fault? limit = none) :
    upTo limit reply.feed.items = upTo limit reply.rows := by
  obtain ⟨columns, rows, rowCount, failure?⟩ := reply
  match failure? with
  | none => exact congrArg (upTo limit) (Feed.items_ofList none rows)
  | some (.atOnce fault) => cases clean
  | some (.afterRows count fault) =>
      have met : (Feed.ofList (some fault) (rows.take count)).met? limit = none := clean
      rw [Feed.met?, Feed.fault?_ofList, ite_eq_right_iff] at met
      have within : (Feed.ofList (some fault) (rows.take count)).isExhausted limit = false :=
        Bool.eq_false_iff.mpr fun exhausted => Option.some_ne_none _ (met exhausted)
      cases limit with
      | none => cases within
      | some taken =>
          have enough : taken ≤ count := by
            simp only [Feed.isExhausted, Feed.items_ofList, decide_eq_false_iff_not, Nat.not_lt,
              List.length_take] at within
            omega
          show (Feed.ofList (some fault) (rows.take count)).items.take taken = rows.take taken
          rw [Feed.items_ofList, List.take_take, Nat.min_eq_left enough]

end Reply

namespace Engine

/-- A statement is executed and its rows are read, if each of those that are taken can be. -/
theorem run_statement {engine : Engine} {sql : String} {reply : Reply}
    (replies : engine.script.replyTo sql = reply) (conn : Connection) (params : List String)
    (limit : Option Nat) (read : List String → List Value → Except Fault β) {bs : List β}
    (reads : List.Forall₂ (fun row b => read (reply.columns.getD []) row = .ok b)
      (upTo limit reply.feed.items) bs) :
    (do
      let cursor ← execute conn sql params
      fetch cursor limit (read (cursor.columns.getD [])) : EngineM (List β)).run.run engine =
        (orFault (.ok bs) (reply.fault? limit),
          ({ engine with script := engine.script.after sql }).adding
            (reply.calls conn sql params limit)) := by
  have executed := run_execute replies conn params
  rw [Reply.fault?, Reply.calls]
  cases fails : reply.executeFault? with
  | some fault =>
      rw [fails] at executed
      exact attempt_bind_of_error executed
  | none =>
      rw [fails] at executed
      refine (attempt_bind_of_run executed).trans ((run_fetch _ limit reads _).trans ?_)
      rw [adding_adding, if_pos rfl]
      rfl

end Engine

end QueryGuard
