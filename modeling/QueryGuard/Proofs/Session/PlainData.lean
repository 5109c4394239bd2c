import QueryGuard.Proofs.Engine.RowMaps
import QueryGuard.Proofs.Session.Requests

/-!
# QueryGuard.Proofs.Session.PlainData

Which answers of the tools hold no bytes.

* `Row.isPlain_ofColumns` — a row of an answer holds none, since bytes are presented as a text;
* `emits_readBounded_plain` — so neither do the rows of a reading, whatever the engine delivers;
* `plain_run` — the data of a tool holds none unless the tool lists the tables or describes one,
  which pass on what the engine delivers.
-/

namespace QueryGuard

open Engine

/-- A value that is no byte string and no view of one. -/
def Value.IsPlain (value : Value) : Prop := ∀ bytes, value ≠ blob bytes ∧ value ≠ view bytes

/-- Data without a byte string or a view of one. -/
def Payload.IsPlain (data : Payload) : Prop := ∀ value ∈ data.values, value.IsPlain

/-- An envelope whose data, if it has any, holds no bytes. -/
def Envelope.IsPlain (envelope : Envelope) : Prop :=
  ∀ data, envelope.data = some data → data.IsPlain

/-! ## rows -/

/-- What is presented holds no bytes. -/
theorem Value.isPlain_presentable (value : Value) : value.presentable.IsPlain := by
  cases value <;> simp [presentable, IsPlain]

/-- A row made of the values of a statement holds no bytes. -/
theorem Row.isPlain_ofColumns {columns : List String} {values : List Value} {value : Value}
    (mem : value ∈ (ofColumns columns values).values) : value.IsPlain := by
  obtain ⟨entry, found, rfl⟩ := List.mem_map.mp mem
  obtain ⟨i, at_i, -⟩ := exists_last_ofPairs found
  have shown : entry.2 ∈ values.map Value.presentable :=
    (List.of_mem_zip (List.mem_of_getElem? at_i)).2
  obtain ⟨value, -, same⟩ := List.mem_map.mp shown
  exact same ▸ value.isPlain_presentable

/-- Rows of values without bytes are data without bytes. -/
theorem Payload.isPlain_rows {found : List Row}
    (plain : ∀ row ∈ found, ∀ value ∈ row.values, value.IsPlain) : (rows found).IsPlain := by
  intro value mem
  obtain ⟨row, there, mem⟩ := List.mem_flatMap.mp mem
  exact plain row there value mem

namespace Engine

/-- The rows that the engine delivers for a query hold no bytes. -/
theorem emits_enter_plain (path query : String) :
    Emits trace ((rowSource path).enter query).run fun entered _ =>
      ∀ opened, entered = .ok opened → (Payload.rows opened.2.items).IsPlain := by
  refine Emits.attemptBind (emits_openConnection path true) (by simp) fun conn _ _ => ?_
  refine Emits.attemptBind (emits_executeOrClose conn query) (by simp) fun cursor _ _ => ?_
  refine Emits.pure fun opened same => Payload.isPlain_rows fun row mem => ?_
  cases same
  rw [Feed.items_map] at mem
  obtain ⟨values, -, rfl⟩ := List.mem_map.mp mem
  exact fun _ => Row.isPlain_ofColumns

/-- Of rows without bytes, those that a reading keeps are without bytes. -/
theorem isPlain_ended {rows : List Row} (plain : (Payload.rows rows).IsPlain) (limit : Int)
    (fault? : Option Fault) : (Payload.rows (Reading.ended limit rows fault?).rows).IsPlain := by
  cases fault? with
  | some fault => simp [Payload.IsPlain, Reading.ended, Reading.rows, Payload.values]
  | none =>
      intro value mem
      obtain ⟨row, kept, mem⟩ := List.mem_flatMap.mp mem
      exact plain value (List.mem_flatMap.mpr ⟨row, List.mem_of_mem_take kept, mem⟩)

/-- The rows of a reading hold no bytes, whatever the engine delivers. -/
theorem emits_readBounded_plain (path query : String) (limit : Int) :
    Emits trace (readBounded (rowSource path) query limit).run fun result _ =>
      ∀ reading, result = .ok reading → (Payload.rows reading.rows).IsPlain := by
  have gathered : Emits trace (gatherRows (rowSource path) query limit) fun reading _ =>
      (Payload.rows reading.rows).IsPlain := by
    rw [gatherRows_eq]
    refine (emits_enter_plain path query).bind fun entered _ plain => ?_
    cases entered with
    | error fault =>
        exact Emits.pure (isPlain_ended (by simp [Payload.IsPlain, Payload.values]) _ _)
    | ok opened =>
        obtain ⟨conn, feed⟩ := opened
        have items : (Payload.rows feed.items).IsPlain := plain _ rfl
        refine (emits_askAll conn feed).bind fun _ _ _ => ?_
        refine (emits_exit path conn feed.items.length).bind fun released _ _ => ?_
        cases released with
        | ok _ => exact Emits.pure (isPlain_ended items limit _)
        | error fault => exact Emits.pure (isPlain_ended items limit _)
  refine (emits_told gathered).mono fun result _ ⟨reading, told, plain⟩ other same => ?_
  rw [Reading.eq_of_told (told.symm.trans same)]
  exact plain

end Engine

/-! ## tools -/

/-- A reading of rows without bytes is answered without bytes. -/
theorem Reading.isPlain_envelope {reading : Reading}
    (plain : (Payload.rows reading.rows).IsPlain) : reading.envelope.IsPlain := by
  intro data there
  cases reading with
  | complete kept total limit =>
      cases there
      exact plain
  | failed total fault => cases there

/-- An envelope without data holds no bytes. -/
theorem Envelope.isPlain_of_data_eq_none {envelope : Envelope} (none : envelope.data = none) :
    envelope.IsPlain := by
  intro data there
  rw [none] at there
  cases there

namespace Tool

variable {turn : Turn} {envelope : Envelope}

/-- What is submitted for reading is answered without bytes. -/
theorem plain_runReadData (submission : Submission)
    (answered : ((runReadData submission).run.run turn).1 = .ok envelope) : envelope.IsPlain := by
  cases verdict : submission.verdict with
  | accepted =>
      obtain ⟨sql, -, runs⟩ := runReadData_of_accepted verdict
      obtain ⟨_, _, ended, same, plain⟩ := emits_runQuery (fun settings =>
        emits_readBounded_plain settings.databasePath sql settings.maxRecordCount) turn
      rw [runs, same] at answered
      cases ended with
      | error fault => cases answered
      | ok reading =>
          cases answered
          exact Reading.isPlain_envelope (plain reading rfl)
  | rejected rule =>
      rw [runReadData_of_rejected verdict, refuseQuery_run] at answered
      cases written : submission.preview with
      | error fault =>
          rw [written] at answered
          cases answered
      | ok preview =>
          rw [written] at answered
          cases answered
          exact Envelope.isPlain_of_data_eq_none rfl

/-- A tool that writes answers without data. -/
theorem plain_runWrite {operation sql message : String} {reportRows : Bool}
    (answered : ((runWrite operation sql message reportRows).run.run turn).1 = .ok envelope) :
    envelope.IsPlain := by
  obtain ⟨later, ran, -⟩ := runWrite_run operation sql message reportRows turn
  rw [ran] at answered
  cases answered
  apply Envelope.isPlain_of_data_eq_none
  split
  · rfl
  · cases ((executeWrite turn.session.settingsInForce.databasePath sql).run.run turn.engine).1 <;>
      rfl

/-- The data of a tool holds no bytes, unless the tool passes on what the engine tells of tables. -/
theorem plain_run {tool : Tool} (tables : tool ≠ listTables) (schema : tool ≠ describeTable)
    {text : String} (answered : ((tool.run text).run.run turn).1 = .ok envelope) :
    envelope.IsPlain := by
  cases tool with
  | listTables | describeTable => contradiction
  | readData => exact plain_runReadData (.text text) answered
  | createTable | insertData | updateData | dropTable => exact plain_runWrite answered

end Tool

end QueryGuard
