import QueryGuard.Proofs.Engine.Connections
import QueryGuard.Proofs.Engine.Fetching
import QueryGuard.Proofs.Engine.SchemaRows
import QueryGuard.Proofs.Text.QuotedName

/-!
# QueryGuard.Proofs.Engine.Describing

The description of a table from the opening of its connection to its closing:

```
described  = opening ++ looking ++ listings ++ close     if the table is found
           | opening ++ looking ++ close                 if it is not, or looking for it fails
           | an opening that failed
listings   = columns ++ indexes ++ foreign keys, up to the first that fails
```

* `Script.reply`, `Script.skip` — the replies of an engine to one statement after the other;
* `Described` — what is done on the connection, and what it ends in, told from the script;
* `Description` — the same with the opening of the connection and its closing;
* `run_describeTable` — every description is one of these;
* `Description.clean_iff`, `Description.eq_error`, `Description.exists_schema` — it ends in a schema
  or in none unless a call fails.
-/

namespace QueryGuard

variable {α β : Type}

/-! ## replies one after the other -/

/-- The reply to a statement by its place among those executed, the pragma that refuses writes
left out. -/
def Script.reply (script : Script) (n : Nat) : Reply := script.replies.getD n .nothing

/-- What is left of a script after so many statements. -/
def Script.skip (script : Script) (n : Nat) : Script :=
  { script with replies := script.replies.drop n }

section

variable (script : Script) (n : Nat) {sql : String}

theorem Script.replyTo_skip (other : sql ≠ queryOnlyPragma) :
    (script.skip n).replyTo sql = script.reply n := by
  rw [replyTo_of_ne _ other, reply, skip, List.head?_drop, List.getD_eq_getElem?_getD]

/-- A statement skips one more reply. -/
theorem Script.after_skip (other : sql ≠ queryOnlyPragma) :
    (script.skip n).after sql = script.skip (n + 1) := by
  rw [after_of_ne _ other, skip, List.tail_drop]
  rfl

end

/-! ## rows of a reply -/

namespace Reply

/-- A reply whose rows all have a value for each of some column names. -/
def Carries (names : List String) (reply : Reply) : Prop :=
  ∀ row ∈ reply.rows, QueryGuard.Carries names (reply.columns.getD []) row

instance (names : List String) (reply : Reply) : Decidable (reply.Carries names) :=
  inferInstanceAs (Decidable (∀ row ∈ reply.rows, QueryGuard.Carries names _ row))

/-- A statement that delivers a first row. -/
structure DeliversRow (reply : Reply) : Prop where
  clean : reply.fault? (some 1) = none
  present : reply.rows ≠ []

/-- A reply without a fault has no first row exactly if it has no rows. -/
theorem isEmpty_take_one_iff {reply : Reply} (clean : reply.fault? (some 1) = none) :
    (reply.feed.items.take 1).isEmpty = true ↔ reply.rows = [] := by
  have taken : reply.feed.items.take 1 = reply.rows.take 1 := upTo_items_feed clean
  rw [taken, List.isEmpty_iff, List.take_eq_nil_iff]
  simp

/-- The rows that are fetched are read as what shows them. -/
theorem exists_read {reply : Reply} {names : List String}
    {read : List String → List Value → Except Fault β} {Shows : List String → List Value → β → Prop}
    (reads : ∀ {columns row}, QueryGuard.Carries names columns row →
      ∃ b, read columns row = .ok b ∧ Shows columns row b) (carries : reply.Carries names) :
    ∃ bs, List.Forall₂ (fun row b => read (reply.columns.getD []) row = .ok b) reply.feed.items bs ∧
      List.Forall₂ (Shows (reply.columns.getD [])) reply.feed.items bs := by
  obtain ⟨bs, all⟩ := exists_forall₂ fun row mem => reads (carries row (mem_rows_of_mem_items mem))
  exact ⟨bs, all.imp fun _ _ => And.left, all.imp fun _ _ => And.right⟩

end Reply

namespace Engine

/-! ## lists of a table -/

/-- The calls by which lists of a table are read one after the other, up to the first that is not
read to its end. -/
def listings (conn : Connection) (table : String) : List (String × Reply) → List Event
  | [] => []
  | (what, reply) :: later =>
      reply.calls conn (tablePragma what table) [] none ++
        if reply.fault? none = none then listings conn table later else []

/-- The fault of the first list that is not read to its end. -/
def listingFault? (lists : List (String × Reply)) : Option Fault :=
  lists.findSome? fun list => list.2.fault? none

/-- The calls that read the lists are without a fault exactly if the lists are. -/
theorem forall_listings_iff (conn : Connection) (table : String) (lists : List (String × Reply)) :
    (∀ e ∈ listings conn table lists, e.fault? = none) ↔ listingFault? lists = none := by
  induction lists with
  | nil => simp [listings, listingFault?]
  | cons list lists ih =>
      obtain ⟨what, reply⟩ := list
      rw [listings, List.forall_mem_append, Reply.forall_calls_iff, listingFault?,
        List.findSome?_cons]
      cases clean : reply.fault? none with
      | none => simpa [listingFault?] using ih
      | some fault => simp

theorem listingFault?_eq_none_iff {lists : List (String × Reply)} :
    listingFault? lists = none ↔ ∀ list ∈ lists, list.2.fault? none = none :=
  List.findSome?_eq_none_iff

/-- Lists of a table that are all read to their end are asked for by as many statements. -/
theorem executed_listings (conn : Connection) (table : String) {lists : List (String × Reply)}
    (clean : listingFault? lists = none) :
    executed (listings conn table lists) =
      lists.map fun list => (tablePragma list.1 table, []) := by
  induction lists with
  | nil => rfl
  | cons list lists ih =>
      obtain ⟨what, reply⟩ := list
      rw [listingFault?_eq_none_iff, List.forall_mem_cons, ← listingFault?_eq_none_iff] at clean
      rw [listings, if_pos clean.1, executed_append, Reply.executed_calls, ih clean.2]
      rfl

/-- What remains of a description reads lists of a table one after the other and ends in `a`, or in
the fault of the first list that is not read to its end. -/
def ReadsLists (script : Script) (conn : Connection) (table : String) (n : Nat)
    (lists : List (String × Reply)) (x : EngineM α) (a : α) : Prop :=
  ∀ engine : Engine, engine.script = script.skip n → ∃ later : Engine,
    x.run.run engine = (orFault (.ok a) (listingFault? lists), later) ∧
      later.trace = engine.trace ++ listings conn table lists ∧
      later.script.closeFault? = script.closeFault?

section

variable {script : Script} {conn : Connection} {table : String} {n : Nat}
  {lists : List (String × Reply)}

theorem ReadsLists.pure (a : α) : ReadsLists script conn table n [] (Pure.pure a) a := by
  intro engine left
  refine ⟨engine, rfl, (List.append_nil _).symm, ?_⟩
  rw [left]
  rfl

/-- A statement that lists something of a table does not end as the one does that makes a connection
refuse writes. -/
theorem tablePragma_ne (what table : String) : tablePragma what table ≠ queryOnlyPragma := by
  intro same
  have last : (tablePragma what table).toList.getLast? = some ')' := by
    rw [toList_tablePragma, ← List.append_assoc, List.getLast?_append]
    rfl
  have other : queryOnlyPragma.toList.getLast? = some 'N' := by decide
  rw [same, other] at last
  exact absurd (Option.some.inj last) (by decide)

/-- One more list of the table is read first. -/
theorem ReadsLists.cons {what : String} {read : List String → List Value → Except Fault β}
    {bs : List β} {f : List β → EngineM α} {a : α}
    (later : ReadsLists script conn table (n + 1) lists (f bs) a)
    (reads : List.Forall₂ (fun row b => read ((script.reply n).columns.getD []) row = .ok b)
      (script.reply n).feed.items bs) :
    ReadsLists script conn table n ((what, script.reply n) :: lists)
      (do f (← listOf conn what table read)) a := by
  intro engine left
  have other := tablePragma_ne what table
  have replies : engine.script.replyTo (tablePragma what table) = script.reply n := by
    rw [left, script.replyTo_skip n other]
  have listed := run_statement replies conn [] none read reads
  rw [left, script.after_skip n other] at listed
  rw [listingFault?, List.findSome?_cons, listings]
  cases read : (script.reply n).fault? none with
  | some fault =>
      rw [read] at listed
      refine ⟨_, attempt_bind_of_error listed, ?_, rfl⟩
      rw [trace_adding, if_neg (by simp), List.append_nil]
      rfl
  | none =>
      rw [read] at listed
      let asked := ({ engine with script := script.skip (n + 1) }).adding
        ((script.reply n).calls conn (tablePragma what table) [] none)
      obtain ⟨last, ended, trace, closes⟩ := later asked rfl
      refine ⟨last, (attempt_bind_of_run listed).trans ended, ?_, closes⟩
      rw [trace, trace_adding, if_pos rfl, List.append_assoc]
      rfl

end

end Engine

/-! ## descriptions -/

/-- What the lists of a table are called. -/
def tableLists : List String := ["table_info", "index_list", "foreign_key_list"]

namespace Script

/-- The replies to the statements that ask for the lists of a table. -/
def lists (script : Script) : List (String × Reply) :=
  tableLists.zip [script.reply 1, script.reply 2, script.reply 3]

/-- The rows of the lists of a table have a value for each field of what they are read as. -/
structure CarriesSchema (script : Script) : Prop where
  columns : (script.reply 1).Carries Column.fields
  indexes : (script.reply 2).Carries Index.fields
  foreignKeys : (script.reply 3).Carries ForeignKey.fields

/-- A schema shows the rows of the lists of a table, each row by an entry in its place. -/
structure Shows (script : Script) (table : String) (schema : Schema) : Prop where
  table : schema.table = table
  columns : List.Forall₂ (Column.Shows ((script.reply 1).columns.getD []))
    (script.reply 1).rows schema.columns
  indexes : List.Forall₂ (Index.Shows ((script.reply 2).columns.getD []))
    (script.reply 2).rows schema.indexes
  foreignKeys : List.Forall₂ (ForeignKey.Shows ((script.reply 3).columns.getD []))
    (script.reply 3).rows schema.foreignKeys

/-- Looking for a table ends in no fault, and neither does reading its lists if it is there. -/
structure Answers (script : Script) : Prop where
  looked : (script.reply 0).fault? (some 1) = none
  listed : (script.reply 0).rows ≠ [] → ∀ list ∈ script.lists, list.2.fault? none = none

/-- No call fails by which a table is described. -/
structure Faultless (script : Script) : Prop where
  opens : script.Opens
  answers : script.Answers
  closes : script.closeFault? = none

/-- A table is found: a connection can be opened, and looking for the table delivers a row. -/
structure FindsTable (script : Script) : Prop where
  opens : script.Opens
  row : (script.reply 0).DeliversRow

end Script

namespace Engine

variable {script : Script} {conn : Connection} {path table : String} {engine : Engine}

/-- The calls by which a table is looked for. -/
def looking (script : Script) (conn : Connection) (table : String) : List Event :=
  (script.reply 0).calls conn findTableQuery [table] (some 1)

/-- Reads the lists of a table. -/
def describe (conn : Connection) (table : String) : EngineM (Option Schema) := do
  let columns ← listOf conn "table_info" table Column.ofRow
  let indexes ← listOf conn "index_list" table Index.ofRow
  let foreignKeys ← listOf conn "foreign_key_list" table ForeignKey.ofRow
  return some { table, columns, indexes, foreignKeys }

/-- A table is looked for by one statement with the name as a value, and is there if the statement
has a row. -/
theorem run_tableExists (left : engine.script = script) (conn : Connection) (table : String) :
    (tableExists conn table).run.run engine =
      (orFault (.ok !((script.reply 0).feed.items.take 1).isEmpty)
          ((script.reply 0).fault? (some 1)),
        ({ engine with script := script.skip 1 }).adding (looking script conn table)) := by
  have start : engine.script = script.skip 0 := left
  have other : findTableQuery ≠ queryOnlyPragma := by decide
  have replies : engine.script.replyTo findTableQuery = script.reply 0 := by
    rw [start, script.replyTo_skip 0 other]
  have looked := run_statement replies conn [table] (some 1) (fun _ => .ok)
    (List.forall₂_same.mpr fun row _ => rfl)
  rw [start, script.after_skip 0 other] at looked
  have parts : tableExists conn table = (do
      let found ← (do
        let cursor ← execute conn findTableQuery [table]
        fetch cursor (some 1) .ok)
      return !found.isEmpty) := by
    rw [tableExists, bind_assoc]
  rw [parts, attempt_return_of_run looked, map_orFault]
  rfl

/-- The lists of a table are read one after the other. -/
theorem readsLists_describe (conn : Connection) (table : String) (carries : script.CarriesSchema) :
    ∃ schema, (listingFault? script.lists = none → script.Shows table schema) ∧
      ReadsLists script conn table 1 script.lists (describe conn table) (some schema) := by
  obtain ⟨columns, readColumns, showColumns⟩ :=
    Reply.exists_read Column.exists_ofRow carries.columns
  obtain ⟨indexes, readIndexes, showIndexes⟩ :=
    Reply.exists_read Index.exists_ofRow carries.indexes
  obtain ⟨keys, readKeys, showKeys⟩ :=
    Reply.exists_read ForeignKey.exists_ofRow carries.foreignKeys
  refine ⟨⟨table, columns, indexes, keys⟩, fun clean => ?_,
    .cons (.cons (.cons (.pure _) readKeys) readIndexes) readColumns⟩
  rw [listingFault?_eq_none_iff] at clean
  have delivered {what : String} {n : Nat} (mem : (what, script.reply n) ∈ script.lists) :
      (script.reply n).feed.items = (script.reply n).rows := Reply.upTo_items_feed (clean _ mem)
  rw [delivered (.head _)] at showColumns
  rw [delivered (.tail _ (.head _))] at showIndexes
  rw [delivered (.tail _ (.tail _ (.head _)))] at showKeys
  exact ⟨rfl, showColumns, showIndexes, showKeys⟩

/-- What is done on a connection to describe a table, and what it ends in. -/
inductive Described (script : Script) (conn : Connection) (table : String) :
    Except Fault (Option Schema) → List Event → Prop
  | missing (absent : ¬ (script.reply 0).DeliversRow) :
      Described script conn table (orFault (.ok none) ((script.reply 0).fault? (some 1)))
        (looking script conn table)
  | found (row : (script.reply 0).DeliversRow) {schema : Schema}
      (shows : listingFault? script.lists = none → script.Shows table schema) :
      Described script conn table (orFault (.ok (some schema)) (listingFault? script.lists))
        (looking script conn table ++ listings conn table script.lists)

/-- The calls of the description of a table, and what it ends in. -/
inductive Description (script : Script) (conn : Connection) (path table : String) :
    Except Fault (Option Schema) → List Event → Prop
  | unopened {fault : Fault} {events : List Event} (closed : ¬ script.Opens)
      (failed : Opening path true (.error fault) events) :
      Description script conn path table (.error fault) events
  | used {result : Except Fault (Option Schema)} {events : List Event} (opens : script.Opens)
      (body : Described script conn table result events) :
      Description script conn path table (orFault result script.closeFault?)
        (opening conn path true ++ (events ++ [⟨conn, .close, script.closeFault?⟩]))

/-- Looks for a table and reads its lists if it is there. -/
def lookAndDescribe (conn : Connection) (table : String) : EngineM (Option Schema) := do
  if ← tableExists conn table then describe conn table else return none

theorem describeTable_eq (path table : String) :
    describeTable path table =
      withConnection path true fun conn => lookAndDescribe conn table := rfl

section

variable (left : engine.script = script)

include left

/-- The engine once a table is looked for. -/
theorem run_lookAndDescribe_of_row (row : (script.reply 0).DeliversRow) :
    (lookAndDescribe conn table).run.run engine = (describe conn table).run.run
      (({ engine with script := script.skip 1 }).adding (looking script conn table)) := by
  have there : ((script.reply 0).feed.items.take 1).isEmpty = false :=
    Bool.eq_false_iff.mpr fun empty =>
      row.present ((Reply.isEmpty_take_one_iff row.clean).mp empty)
  have looked := run_tableExists left conn table
  rw [row.clean, there] at looked
  exact attempt_bind_of_run looked

/-- Where no row comes for it, the table is missing, and no more statements are executed. -/
theorem run_lookAndDescribe_of_not_row (absent : ¬ (script.reply 0).DeliversRow) :
    (lookAndDescribe conn table).run.run engine =
      (orFault (.ok none) ((script.reply 0).fault? (some 1)),
        ({ engine with script := script.skip 1 }).adding (looking script conn table)) := by
  have looked := run_tableExists left conn table
  cases fails : (script.reply 0).fault? (some 1) with
  | some fault =>
      rw [fails] at looked
      exact attempt_bind_of_error looked
  | none =>
      have empty : (script.reply 0).rows = [] :=
        Classical.byContradiction fun present => absurd ⟨fails, present⟩ absent
      rw [fails, (Reply.isEmpty_take_one_iff fails).mpr empty] at looked
      exact attempt_bind_of_run looked

/-- Looking for a table and describing it ends as `Described` tells. -/
theorem run_lookAndDescribe (carries : script.CarriesSchema) :
    ∃ result events later, (lookAndDescribe conn table).run.run engine = (result, later) ∧
      later.trace = engine.trace ++ events ∧ later.script.closeFault? = script.closeFault? ∧
      Described script conn table result events := by
  by_cases row : (script.reply 0).DeliversRow
  · obtain ⟨schema, shows, reads⟩ := readsLists_describe conn table carries
    let looked := ({ engine with script := script.skip 1 }).adding (looking script conn table)
    obtain ⟨later, ran, trace, closes⟩ := reads looked rfl
    refine ⟨_, _, later, (run_lookAndDescribe_of_row left row).trans ran, ?_, closes,
      .found row shows⟩
    rw [trace, trace_adding, List.append_assoc]
    rfl
  · exact ⟨_, _, _, run_lookAndDescribe_of_not_row left row, trace_adding _ _, rfl, .missing row⟩

end

/-- **Every description of a table goes one of the ways of a description.** -/
theorem run_describeTable (path table : String) (engine : Engine)
    (carries : engine.script.CarriesSchema) :
    let ran := (describeTable path table).run.run engine
    ∃ events, ran.2.trace = engine.trace ++ events ∧
      Description engine.script ⟨engine.connections⟩ path table ran.1 events := by
  intro ran
  let conn : Connection := ⟨engine.connections⟩
  by_cases opens : engine.script.Opens
  · obtain ⟨result, events, later, body, trace, closes, described⟩ :=
      @run_lookAndDescribe _ conn table (engine.opened path true) rfl carries
    have ended : ran = _ := run_withConnection opens body
    rw [ended, closes]
    refine ⟨_, ?_, .used opens described⟩
    rw [trace_adding, trace, trace_opened, List.append_assoc, List.append_assoc]
    rfl
  · obtain ⟨fault, events, later, failed, trace, opening⟩ :=
      run_withConnection_of_not_opens opens path fun conn => lookAndDescribe conn table
    have ended : ran = _ := failed
    rw [ended]
    exact ⟨events, trace, .unopened opens opening⟩

/-! ## faults -/

variable {result : Except Fault (Option Schema)} {events : List Event}

theorem Opening.not_clean {fault : Fault} (failed : Opening path true (.error fault) events) :
    ¬ ∀ e ∈ events, e.fault? = none := by
  cases failed with
  | refused conn => simp
  | unprotected conn => simp

namespace Described

/-- No call fails if every question on the table is answered, and only then. -/
theorem clean_iff (h : Described script conn table result events) :
    (∀ e ∈ events, e.fault? = none) ↔ script.Answers := by
  have looks : (∀ e ∈ looking script conn table, e.fault? = none) ↔ _ :=
    Reply.forall_calls_iff conn findTableQuery [table] (some 1) (script.reply 0)
  cases h with
  | missing absent =>
      rw [looks]
      exact ⟨fun clean => ⟨clean, fun present => absurd ⟨clean, present⟩ absent⟩, (·.looked)⟩
  | found row shows =>
      rw [List.forall_mem_append, looks, forall_listings_iff, listingFault?_eq_none_iff]
      exact ⟨fun clean => ⟨clean.1, fun _ => clean.2⟩,
        fun answers => ⟨answers.looked, answers.listed row.present⟩⟩

/-- A description ends well if every question on the table is answered, and only then. -/
theorem ok_iff (h : Described script conn table result events) :
    (∃ schema?, result = .ok schema?) ↔ script.Answers := by
  cases h with
  | missing absent =>
      simp only [orFault_eq_ok_iff]
      constructor
      · rintro ⟨_, _, clean⟩
        exact ⟨clean, fun present => absurd ⟨clean, present⟩ absent⟩
      · intro answers
        exact ⟨_, rfl, answers.looked⟩
  | found row shows =>
      simp only [orFault_eq_ok_iff, listingFault?_eq_none_iff]
      constructor
      · rintro ⟨_, _, clean⟩
        exact ⟨row.clean, fun _ => clean⟩
      · intro answers
        exact ⟨_, rfl, answers.listed row.present⟩

end Described

namespace Description

/-- No call of a description fails if the script has none that fails, and only then. -/
theorem clean_iff (h : Description script conn path table result events) :
    (∀ e ∈ events, e.fault? = none) ↔ script.Faultless := by
  cases h with
  | unopened closed failed =>
      exact iff_of_false failed.not_clean fun faultless => closed faultless.opens
  | used opens body =>
      have clean : (∀ e ∈ opening conn path true, e.fault? = none) := by simp [opening]
      rw [List.forall_mem_append, List.forall_mem_append, body.clean_iff, List.forall_mem_singleton]
      exact ⟨fun told => ⟨opens, told.2.1, told.2.2⟩,
        fun faultless => ⟨clean, faultless.answers, faultless.closes⟩⟩

/-- A description with a call that fails ends in a fault. -/
theorem eq_error (h : Description script conn path table result events)
    (faults : ¬ script.Faultless) : ∃ fault, result = .error fault := by
  cases h with
  | unopened closed failed => exact ⟨_, rfl⟩
  | @used result events opens body =>
      cases closes : script.closeFault? with
      | some fault => exact ⟨fault, rfl⟩
      | none =>
          cases result with
          | error fault => exact ⟨fault, rfl⟩
          | ok schema? => exact absurd ⟨opens, body.ok_iff.mp ⟨_, rfl⟩, closes⟩ faults

/-- Without a fault and without a row for it, the table is missing. -/
theorem eq_ok_none (h : Description script conn path table result events)
    (faultless : script.Faultless) (empty : (script.reply 0).rows = []) : result = .ok none := by
  cases h with
  | unopened closed failed => exact absurd faultless.opens closed
  | used opens body =>
      rw [faultless.closes, orFault_none]
      cases body with
      | missing absent => rw [faultless.answers.looked, orFault_none]
      | found row shows => exact absurd empty row.present

/-- Without a fault and with a row for it, the schema shows the replies. -/
theorem exists_schema (h : Description script conn path table result events)
    (faultless : script.Faultless) (present : (script.reply 0).rows ≠ []) :
    ∃ schema, result = .ok (some schema) ∧ script.Shows table schema := by
  have listed := listingFault?_eq_none_iff.mpr (faultless.answers.listed present)
  cases h with
  | unopened closed failed => exact absurd faultless.opens closed
  | used opens body =>
      rw [faultless.closes, orFault_none]
      cases body with
      | missing absent => exact absurd ⟨faultless.answers.looked, present⟩ absent
      | found row shows =>
          rw [listed]
          exact ⟨_, rfl, shows listed⟩

end Description

end Engine

end QueryGuard
