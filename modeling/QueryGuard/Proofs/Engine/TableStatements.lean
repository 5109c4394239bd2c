import QueryGuard.Proofs.Engine.Describing

/-!
# QueryGuard.Proofs.Engine.TableStatements

The statements that are executed to describe a table:

```
executed  = lookup ++ listings   if the table is found; the listings up to the first fault
          | lookup               if it is not; up to the first fault
```

* `Executes` — statements of a plan are executed one after the other;
* `emits_executes_describe` — so are those that list something of a table;
* `executed_describeTable` — no statement with the name of a table in it is executed unless the
  table is found.
-/

namespace QueryGuard

variable {α β : Type}

/-- The statements by which a table is looked for on a new connection. -/
def lookupStatements (table : String) : List (String × List String) :=
  [(queryOnlyPragma, []), (findTableQuery, [table])]

/-- The statements that list what belongs to a table. -/
def listingStatements (table : String) : List (String × List String) :=
  tableLists.map fun what => (tablePragma what table, [])

namespace Engine

/-! ## plans -/

/-- The statements of a plan are executed in their order: the first one, and the others unless a
fault comes before. -/
structure Executes (plan : List (String × List String)) (events : List Event) : Prop where
  begins : plan.take 1 <+: executed events
  keeps : executed events <+: plan

variable {plan : List (String × List String)} {statement : String × List String}

theorem Executes.nil : Executes [] [] := ⟨List.prefix_rfl, List.prefix_rfl⟩

/-- A plan begins with the statement of a computation and goes on after it. -/
theorem emits_executes_cons {x : EngineM α} {f : α → EngineM β}
    (hx : Emits trace x.run fun _ events => executed events = [statement])
    (hf : ∀ a, Emits trace (f a).run fun _ => Executes plan) :
    Emits trace (x >>= f).run fun _ => Executes (statement :: plan) := by
  refine Emits.attemptBind hx (fun fault events first => ?_) fun a events first => ?_
  · constructor
    · rw [first]
      exact List.prefix_rfl
    · rw [first]
      exact List.prefix_append [statement] plan
  · refine (hf a).mono fun result later told => ?_
    have all : executed (events ++ later) = statement :: executed later := by
      rw [executed_append, first]
      rfl
    constructor
    · rw [all]
      exact List.prefix_append [statement] _
    · rw [all]
      exact (List.prefix_cons_inj statement).mpr told.keeps

/-- Fetching rows executes no statement. -/
theorem emits_fetch_executed (cursor : Cursor) (limit : Option Nat)
    (f : List Value → Except Fault β) :
    Emits trace (fetch cursor limit f).run fun _ events => executed events = [] := by
  refine Emits.thenQuiet ?_ fun progress => ?_
  · exact (emits_consume _ _ cursor.rows limit _).mono fun _ _ asked =>
      executed_eq_nil asked.noStatement
  · cases progress.fault? <;> exact Emits.pure rfl

/-- A list of a table is asked for by one statement. -/
theorem emits_listOf_executed (conn : Connection) (what table : String)
    (read : List String → List Value → Except Fault β) :
    Emits trace (listOf conn what table read).run fun _ events =>
      executed events = [(tablePragma what table, [])] := by
  refine Emits.attemptBind (emits_execute conn (tablePragma what table) []) ?_ ?_
  · rintro fault _ ⟨cursor, fault?, -, -, rfl⟩
    rfl
  · rintro cursor _ ⟨_, fault?, -, -, rfl⟩
    refine (emits_fetch_executed cursor none _).mono fun _ later none => ?_
    rw [executed_append, none]
    rfl

/-- The lists of a table are asked for one after the other. -/
theorem emits_executes_describe (conn : Connection) (table : String) :
    Emits trace (describe conn table).run fun _ => Executes (listingStatements table) :=
  emits_executes_cons (emits_listOf_executed conn "table_info" table _) fun _ =>
    emits_executes_cons (emits_listOf_executed conn "index_list" table _) fun _ =>
      emits_executes_cons (emits_listOf_executed conn "foreign_key_list" table _) fun _ =>
        Emits.pure Executes.nil

/-! ## descriptions -/

theorem executed_opening (conn : Connection) (path : String) :
    executed (opening conn path true) = [(queryOnlyPragma, [])] := rfl

/-- A connection that cannot be opened is made to refuse writes, if anything. -/
theorem Opening.executed_prefix {path : String} {fault : Fault} {events : List Event}
    (failed : Opening path true (.error fault) events) (table : String) :
    executed events <+: lookupStatements table := by
  cases failed with
  | refused conn => exact List.nil_prefix
  | unprotected conn => exact List.prefix_append [(queryOnlyPragma, [])] [(findTableQuery, [table])]

theorem executed_looking (script : Script) (conn : Connection) (table : String) :
    executed (looking script conn table) = [(findTableQuery, [table])] :=
  Reply.executed_calls conn findTableQuery [table] (some 1) (script.reply 0)

section

variable {engine : Engine} {script : Script} (left : engine.script = script) (conn : Connection)
  (table : String)

include left

/-- A table that is there is asked for its lists once it is looked for. -/
theorem executed_lookAndDescribe_of_row (row : (script.reply 0).DeliversRow) :
    ∃ events, ((lookAndDescribe conn table).run.run engine).2.trace = engine.trace ++ events ∧
      ∃ listed, executed events = (findTableQuery, [table]) :: listed ∧
        (listingStatements table).take 1 <+: listed ∧ listed <+: listingStatements table := by
  let looked := ({ engine with script := script.skip 1 }).adding (looking script conn table)
  obtain ⟨later, added, executes⟩ := emits_executes_describe conn table looked
  have begins : looked.trace = engine.trace ++ looking script conn table := trace_adding _ _
  refine ⟨looking script conn table ++ later, ?_, executed later, ?_, executes.begins,
    executes.keeps⟩
  · rw [run_lookAndDescribe_of_row left row, ← List.append_assoc, ← begins]
    exact added
  · rw [executed_append, executed_looking]
    rfl

/-- A table that is not there is asked for nothing once it is looked for. -/
theorem executed_lookAndDescribe_of_not_row (absent : ¬ (script.reply 0).DeliversRow) :
    ∃ events, ((lookAndDescribe conn table).run.run engine).2.trace = engine.trace ++ events ∧
      executed events = [(findTableQuery, [table])] := by
  rw [run_lookAndDescribe_of_not_row left absent]
  exact ⟨_, trace_adding _ _, executed_looking script conn table⟩

end

/-- **No statement with the name of a table in it is executed unless the table is found.**  If it
is, its lists are asked for in their order, from the first one on. -/
theorem executed_describeTable (path table : String) (engine : Engine) :
    let found := engine.script.FindsTable
    let lookup := lookupStatements table
    let listing := listingStatements table
    ∃ events, ((describeTable path table).run.run engine).2.trace = engine.trace ++ events ∧
      (found → lookup ++ listing.take 1 <+: executed events ∧
        executed events <+: lookup ++ listing) ∧
      (¬ found → executed events <+: lookup) := by
  intro found lookup listing
  let conn : Connection := ⟨engine.connections⟩
  have left : (engine.opened path true).script = engine.script := rfl
  by_cases opens : engine.script.Opens
  · have released (closed? : Option Fault) :
        executed [⟨conn, .close, closed?⟩] = [] := rfl
    by_cases row : (engine.script.reply 0).DeliversRow
    · obtain ⟨events, body, listed, asked, begins, keeps⟩ :=
        executed_lookAndDescribe_of_row left conn table row
      obtain ⟨closed?, used⟩ := trace_withConnection opens
        (fun conn => lookAndDescribe conn table) body
      refine ⟨_, used, fun _ => ?_, fun absent => absurd ⟨opens, row⟩ absent⟩
      have all : executed (opening conn path true ++ (events ++ [⟨conn, .close, closed?⟩])) =
          lookup ++ listed := by
        rw [executed_append, executed_append, executed_opening, asked, released,
          List.append_nil]
        rfl
      rw [all]
      exact ⟨(List.prefix_append_right_inj lookup).mpr begins,
        (List.prefix_append_right_inj lookup).mpr keeps⟩
    · obtain ⟨events, body, asked⟩ :=
        executed_lookAndDescribe_of_not_row left conn table row
      obtain ⟨closed?, used⟩ := trace_withConnection opens
        (fun conn => lookAndDescribe conn table) body
      refine ⟨_, used, fun found => absurd found.row row, fun _ => ?_⟩
      rw [executed_append, executed_append, executed_opening, asked, released]
      exact List.prefix_rfl
  · obtain ⟨fault, events, later, failed, trace, opening⟩ :=
      run_withConnection_of_not_opens opens path fun conn => lookAndDescribe conn table
    rw [describeTable_eq, failed]
    exact ⟨events, trace, fun found => absurd found.opens opens,
      fun _ => opening.executed_prefix table⟩

/-- A table that is described without a fault is asked for all of its lists. -/
theorem Description.executed_eq {script : Script} {conn : Connection} {path table : String}
    {result : Except Fault (Option Schema)} {events : List Event}
    (h : Description script conn path table result events) (faultless : script.Faultless)
    (present : (script.reply 0).rows ≠ []) :
    executed events = lookupStatements table ++ listingStatements table := by
  have listed := listingFault?_eq_none_iff.mpr (faultless.answers.listed present)
  cases h with
  | unopened closed failed => exact absurd faultless.opens closed
  | used opens body =>
      cases body with
      | missing absent => exact absurd ⟨faultless.answers.looked, present⟩ absent
      | found row shows =>
          simp only [executed_append, executed_opening, executed_looking,
            executed_listings conn table listed]
          rfl

end Engine

end QueryGuard
