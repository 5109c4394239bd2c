import QueryGuard.Proofs.Session.Parts

/-!
# QueryGuard.Proofs.Session.Requests

What requests add to the trace, told from what the functions of the database add.

A tool and a request that reads call one function of the database, or none, and do nothing else with
the engine.  `ReadsLeave P` says that each of these functions leaves a trace with the property `P`;
then so does each tool that reads (`ReadsLeave.run`) and each request that reads
(`ReadsLeave.step`).  `emits_runWrite` says the same of the tools that write.
-/

namespace QueryGuard

open Engine

variable {α : Type} {P : List Event → Prop}

/-- Whether a request runs a tool that reads, directly or by its name, or a function of the database
that such a tool uses. -/
def Step.reads : Step → Bool
  | .readData _ | .listTableNames _ | .describeTable _ _ | .pullRows _ _ _ _ => true
  | .tool chosen _ => !chosen.isWriter
  | .call _ _ name _ => Tool.readers.any (·.name == name)
  | _ => false

/-- The functions of the database that read leave traces with a property, whatever they are asked
for, and the empty trace has it too. -/
structure ReadsLeave (P : List Event → Prop) : Prop where
  nothing : P []
  listTableNames : ∀ path, Emits trace (listTableNames path).run fun _ => P
  describeTable : ∀ path table, Emits trace (describeTable path table).run fun _ => P
  pullRows : ∀ path query take inside, Emits trace (pullRows path query take inside).run fun _ => P
  readBounded : ∀ path query limit,
    Emits trace (readBounded (rowSource path) query limit).run fun _ => P

/-! ## parts of requests -/

/-- A request to the engine emits what its computation does, whatever the path is. -/
theorem emits_onDatabase {x : String → EngineM α} {T : Except Fault α → List Event → Prop}
    (h : ∀ path, Emits Engine.trace (x path).run T) (path : Option String) :
    Emits Turn.trace (Step.onDatabase path x).run T := by
  refine Emits.attemptAfter ?_ fun path => Turn.emits_attempt (h path)
  refine (Turn.emits_databasePath path).lift.mono fun result events told => ?_
  obtain ⟨a, ends, quiet⟩ := told
  exact ⟨⟨a, ends⟩, quiet⟩

/-- What is made of the result of a computation that ends in no fault adds nothing to the trace. -/
theorem emits_answer {x : StateM Turn α} (answer : α → Answer)
    (h : Emits Turn.trace x fun _ => P) :
    Emits Turn.trace (do return answer (← x) : Action Answer).run fun _ => P :=
  Emits.attemptReturn (h.lift.mono fun _ _ told => told.elim fun _ h => h.2)

namespace Tool

/-- A computation of the engine is answered, and leaves what it leaves on the database of the
settings in force. -/
theorem emits_answering_envelope (operation : String) (answer : α → Envelope)
    {x : String → EngineM α} {T : String → Except Fault α → List Event → Prop}
    (h : ∀ path, Emits trace (x path).run (T path)) :
    Emits Turn.trace (answering operation answer x).run fun result events =>
      ∃ path ended, result = .ok (envelopeOf answer ended) ∧ T path ended events := by
  intro turn
  obtain ⟨later, ran, left⟩ := answering_run operation answer x turn
  obtain ⟨events, added, told⟩ := h turn.session.settingsInForce.databasePath turn.engine
  rw [ran]
  exact ⟨events, (congrArg Engine.trace left).trans added, _, _, rfl, told⟩

/-- A tool that answers by the engine emits what its computation does. -/
theorem emits_answering (operation : String) (answer : α → Envelope) {x : String → EngineM α}
    (h : ∀ path, Emits trace (x path).run fun _ => P) :
    Emits Turn.trace (answering operation answer x).run fun _ => P :=
  (emits_answering_envelope operation answer h).mono fun _ _ ⟨_, _, _, told⟩ => told

/-- A refusal does not call the engine. -/
theorem emits_refuseQuery (rule : Rule) (submission : Submission) :
    Emits Turn.trace (refuseQuery rule submission).run fun _ events => events = [] := by
  refine .quiet fun turn => ?_
  rw [refuseQuery_run]
  cases submission.preview <;> rfl

/-- Answering a reading does not call the engine. -/
theorem emits_answerReading (reading : Reading) :
    Emits Turn.trace (answerReading reading) fun envelope events =>
      envelope = reading.envelope ∧ events = [] := by
  intro turn
  obtain ⟨logs, answered⟩ := answerReading_run reading turn
  rw [answered]
  exact ⟨[], (List.append_nil _).symm, rfl, rfl⟩

/-- A query leaves what reading the rows leaves.  It answers with the envelope of the reading, and
ends in a fault exactly where the reading does. -/
theorem emits_runQuery {T : Except Fault Reading → List Event → Prop} {sql : String}
    (h : ∀ settings : Settings, Emits trace
      (readBounded (rowSource settings.databasePath) sql settings.maxRecordCount).run T) :
    Emits Turn.trace (runQuery sql).run fun result events =>
      ∃ ended, result = ended.map Reading.envelope ∧ T ended events := by
  rw [runQuery_eq]
  refine Emits.attemptAfter ?_ fun settings => ?_
  · exact Turn.emits_settings.lift.mono fun _ _ ⟨a, ends, quiet⟩ => ⟨⟨a, ends⟩, quiet⟩
  · refine Emits.attemptBind (Turn.emits_attempt (h settings)) ?_ ?_
    · exact fun fault _ told => ⟨.error fault, rfl, told⟩
    · intro reading events told
      refine (emits_answerReading reading).lift.mono fun _ later ⟨_, ends, answered, quiet⟩ => ?_
      subst ends answered quiet
      exact ⟨.ok reading, rfl, by rw [List.append_nil]; exact told⟩

/-- Whether writes are refused is told by the settings in force; to ask leaves the engine and the
settings as they are. -/
theorem refuseWrite?_run (turn : Turn) :
    let settings := turn.session.settingsInForce
    ∃ later, refuseWrite?.run turn =
        (if settings.readOnly then some (.failure readOnlyText) else none, later) ∧
      later.engine = turn.engine ∧ later.session.settingsInForce = settings := by
  intro settings
  obtain ⟨environment, dotenvLoads, found⟩ := Turn.settings_run turn
  rw [refuseWrite?, StateT.run_bind, found]
  refine ⟨⟨⟨environment, turn.session.loadDotenv, some settings⟩, turn.engine, turn.logs,
    dotenvLoads⟩, ?_, rfl, rfl⟩
  show StateT.run (if settings.readOnly then _ else _) _ = _
  cases settings.readOnly <;> rfl

/-- A write is refused while the settings in force are read-only; otherwise the engine writes to the
database of the settings, and what that ends in is answered. -/
theorem runWrite_run (operation sql message : String) (reportRows : Bool) (turn : Turn) :
    let settings := turn.session.settingsInForce
    let ran := (executeWrite settings.databasePath sql).run.run turn.engine
    ∃ later, (runWrite operation sql message reportRows).run.run turn =
        (.ok (if settings.readOnly then .failure readOnlyText
          else envelopeOf (changedAnswer message reportRows) ran.1), later) ∧
      later.engine = if settings.readOnly then turn.engine else ran.2 := by
  intro settings ran
  obtain ⟨asked, told, stays, keeps⟩ := refuseWrite?_run turn
  cases refused : settings.readOnly with
  | true =>
      rw [if_pos refused] at told
      exact ⟨asked, attempt_bind_of_run (attempt_lift_of_run told), stays⟩
  | false =>
      rw [refused] at told
      obtain ⟨later, answered, left⟩ := answering_run (operation ++ " failed")
        (changedAnswer message reportRows) (executeWrite · sql) asked
      rw [keeps, stays] at answered left
      exact ⟨later, (attempt_bind_of_run (attempt_lift_of_run told)).trans answered, left⟩

/-- A write leaves what the function of the database leaves, or nothing. -/
theorem emits_runWrite (nothing : P [])
    (h : ∀ path sql, Emits trace (executeWrite path sql).run fun _ => P)
    (operation sql message : String) (reportRows : Bool) :
    Emits Turn.trace (runWrite operation sql message reportRows).run fun _ => P := by
  intro turn
  obtain ⟨later, ran, left⟩ := runWrite_run operation sql message reportRows turn
  rw [ran, Turn.trace, left]
  split
  · exact ⟨[], (List.append_nil _).symm, nothing⟩
  · exact h turn.session.settingsInForce.databasePath sql turn.engine

/-- A tool that writes emits what a write does, or nothing. -/
theorem emits_run_of_writer (nothing : P [])
    (h : ∀ path sql, Emits trace (executeWrite path sql).run fun _ => P) {tool : Tool}
    (writes : tool.isWriter = true) (sql : String) :
    Emits Turn.trace (tool.run sql).run fun _ => P := by
  obtain ⟨operation, message, same⟩ := exists_run_eq_runWrite writes sql
  rw [same]
  exact emits_runWrite nothing h operation sql message tool.reportsRows

end Tool

/-! ## tools and requests that read -/

namespace ReadsLeave

/-- A query leaves what a bounded reading does. -/
theorem runQuery (h : ReadsLeave P) (sql : String) :
    Emits Turn.trace (Tool.runQuery sql).run fun _ => P :=
  (Tool.emits_runQuery fun settings => h.readBounded settings.databasePath sql
    settings.maxRecordCount).mono fun _ _ ⟨_, _, told⟩ => told

/-- What is submitted for reading leaves what a bounded reading does, or nothing. -/
theorem runReadData (h : ReadsLeave P) (submission : Tool.Submission) :
    Emits Turn.trace (Tool.runReadData submission).run fun _ => P := by
  cases verdict : submission.verdict with
  | accepted =>
      obtain ⟨sql, -, runs⟩ := Tool.runReadData_of_accepted verdict
      rw [runs]
      exact h.runQuery sql
  | rejected rule =>
      rw [Tool.runReadData_of_rejected verdict]
      exact (Tool.emits_refuseQuery rule submission).mono fun _ _ quiet => quiet ▸ h.nothing

/-- A tool that reads leaves what the functions of the database that read leave. -/
theorem run (h : ReadsLeave P) {tool : Tool} (reads : tool.isWriter = false) (argument : String) :
    Emits Turn.trace (tool.run argument).run fun _ => P := by
  cases tool with
  | listTables => exact Tool.emits_answering _ _ h.listTableNames
  | describeTable => exact Tool.emits_answering _ _ (h.describeTable · argument)
  | readData => exact h.runReadData (.text argument)
  | createTable | dropTable | insertData | updateData => cases reads

end ReadsLeave

/-- A call leaves what the tool of that name leaves, or nothing if it does not come to run. -/
theorem emits_call (nothing : P []) (server : Server) (obstacle? : Payload → Option String)
    {name : String} (arguments : List (String × Json))
    (h : ∀ tool : Tool, tool.name = name → ∀ given,
      Emits Turn.trace (tool.run given).run fun _ => P) :
    Emits Turn.trace (server.call obstacle? name arguments) fun _ => P := by
  rw [Server.call]
  cases found : server.find? name with
  | none => exact Emits.pure nothing
  | some tool =>
      have same : tool.name = name := by simpa using List.find?_some found
      dsimp only
      cases Server.argument tool arguments with
      | error error => exact Emits.pure nothing
      | ok given => exact (h tool same given).thenQuiet fun envelope => Emits.pure rfl

/-- A tool with the name of one that reads is no tool that writes. -/
theorem reads_of_name {tool : Tool} {name : String} (same : tool.name = name)
    (reads : Tool.readers.any (·.name == name) = true) : tool.isWriter = false := by
  subst same
  cases tool with
  | listTables | describeTable | readData => rfl
  | createTable | insertData | updateData | dropTable => exact absurd reads (by decide)

/-- A request that reads leaves what the functions of the database that read leave. -/
theorem ReadsLeave.step (h : ReadsLeave P) {step : Step} (reads : step.reads = true) :
    Emits Turn.trace step.run.run fun _ => P := by
  cases step with
  | readData submission => exact Emits.attemptReturn (h.runReadData submission)
  | tool chosen argument =>
      exact Emits.attemptReturn (h.run (by simpa [Step.reads] using reads) argument)
  | call obstacle? readOnly name arguments =>
      exact emits_answer .called (emits_call h.nothing (Server.build readOnly) obstacle? arguments
        fun tool same given => h.run (reads_of_name same reads) given)
  | listTableNames path => exact Emits.attemptReturn (emits_onDatabase h.listTableNames path)
  | describeTable table path =>
      exact Emits.attemptReturn (emits_onDatabase (h.describeTable · table) path)
  | pullRows query path take inside =>
      exact Emits.attemptReturn (emits_onDatabase (h.pullRows · query take inside) path)
  | clearCache | setVariable _ _ | unsetVariable _ | settings | refuseWrite | launch _
  | launchByItself | executeWrite _ _ | openConnection _ _ => cases reads

end QueryGuard
