import QueryGuard.Proofs.Session.Turn
import QueryGuard.Proofs.Text.Decimal

/-!
# QueryGuard.Proofs.Session.Parts

The parts that the tools are put together from.

* `answering` — a computation of the engine on the database of the settings in force is answered, or
  its fault is: this is all that listing tables, describing a table and writing are
  (`answering_run`);
* `answerReading` — what came of reading rows is noted in the log and answered;
* `runReadData_of_accepted`, `runReadData_of_rejected` — what is submitted for reading is run, or is
  refused, which is noted in the log unless the submission cannot be written there
  (`refuseQuery_run`).

`Outcome.envelope?` is the envelope that a request ends in, whether a tool is run or called by name.
-/

namespace QueryGuard

open Engine

variable {α : Type}

/-- The answer to what came of reading a source. -/
def Reading.envelope (reading : Reading) : Envelope :=
  match reading.error? with
  | some error => .failure error
  | none => .answered (.rows reading.rows) reading.note?

/-- The envelope of an answer. -/
def Answer.envelope? : Answer → Option Envelope
  | .envelope sent => some sent
  | .called (.ok sent) => some sent
  | _ => none

/-- The envelope that a request ended in. -/
def Outcome.envelope? (outcome : Outcome) : Option Envelope :=
  outcome.answer.toOption.bind Answer.envelope?

/-- During a turn a computation of the engine changes the engine only. -/
theorem Turn.attempt_run (x : EngineM α) (turn : Turn) :
    let ran := x.run.run turn.engine
    (attempt x).run.run turn = (ran.1, { turn with engine := ran.2 }) := rfl

namespace Tool

/-! ## one computation of the engine -/

/-- The answer to what a computation of the engine ends in. -/
def envelopeOf (answer : α → Envelope) : Except Fault α → Envelope
  | .ok a => answer a
  | .error fault => .failure (fault.publicText operationFailureText)

/-- A computation is answered in any case, whether it ends in a result or in a fault. -/
theorem answering_run (operation : String) (answer : α → Envelope) (x : String → EngineM α)
    (turn : Turn) :
    let ran := (x turn.session.settingsInForce.databasePath).run.run turn.engine
    ∃ later, (answering operation answer x).run.run turn =
        (.ok (envelopeOf answer ran.1), later) ∧ later.engine = ran.2 := by
  intro ran
  obtain ⟨located, found, stays⟩ := Turn.databasePath_run none turn
  let left : Turn := { located with engine := ran.2 }
  -- the computation itself, as far as it is not answered yet
  have ended : (do
      let path ← Turn.databasePath none
      return answer (← Turn.attempt (x path)) : Action Envelope).run.run turn =
        (ran.1.map answer, left) := by
    refine (attempt_bind_of_run (attempt_lift_of_run found)).trans ?_
    refine attempt_return_of_run ?_
    rw [Turn.attempt_run, stays]
    rfl
  rw [answering, ExceptT.run_tryCatch, run_bind_of_run ended]
  cases result : ran.1 with
  | ok a => exact ⟨left, rfl, rfl⟩
  | error fault => exact ⟨{ left with logs := left.logs.push _ }, rfl, rfl⟩

/-- Whether a tool tells how many rows it changed. -/
def reportsRows : Tool → Bool
  | insertData | updateData => true
  | listTables | describeTable | readData | createTable | dropTable => false

/-- A tool that writes is the one function that writes, with texts of its own. -/
theorem exists_run_eq_runWrite {tool : Tool} (writes : tool.isWriter = true) (sql : String) :
    ∃ operation message, tool.run sql = runWrite operation sql message tool.reportsRows := by
  cases tool with
  | createTable | dropTable | insertData | updateData => exact ⟨_, _, rfl⟩
  | listTables | describeTable | readData => cases writes

/-! ## reading rows -/

/-- What is done with a reading: it is noted in the log and answered. -/
def answerReading (reading : Reading) : StateM Turn Envelope := do
  if let some line := reading.logLine? then
    Turn.log line
  return reading.envelope

/-- A query reads the rows from the database of the settings in force, under the limit of these, and
answers with what it read. -/
theorem runQuery_eq (sql : String) :
    runQuery sql = (do
      let settings ← Turn.settings
      let reading ← Turn.attempt
        (readBounded (rowSource settings.databasePath) sql settings.maxRecordCount)
      answerReading reading) := by
  refine bind_congr fun settings => bind_congr fun reading => ?_
  rw [answerReading, Reading.envelope]
  cases reading.logLine? <;> cases reading.error? <;> rfl

/-- A reading is answered with its envelope; no more than the log changes. -/
theorem answerReading_run (reading : Reading) (turn : Turn) :
    ∃ logs, (answerReading reading).run turn = (reading.envelope, { turn with logs }) := by
  rw [answerReading]
  cases reading.logLine? with
  | none => exact ⟨turn.logs, rfl⟩
  | some line => exact ⟨turn.logs.push line, rfl⟩

/-! ## what is submitted for reading -/

/-- The line in the log for a submission that the gate rejects. -/
def refusalLine (rule : Rule) (preview : String) : LogLine :=
  ⟨.warning, .server, "Security validation failed (" ++ rule.label ++ ") for query: " ++ preview⟩

/-- A refusal is noted in the log and told to the caller, unless what was submitted cannot be
written. -/
theorem refuseQuery_run (rule : Rule) (submission : Submission) (turn : Turn) :
    (refuseQuery rule submission).run.run turn = match submission.preview with
      | .ok preview => (.ok (.failure ("Security validation failed: " ++ rule.reason)),
          { turn with logs := turn.logs.push (refusalLine rule preview) })
      | .error fault => (.error fault, turn) := by
  rw [refuseQuery]
  cases submission.preview <;> rfl

/-- What the gate rejects is refused. -/
theorem runReadData_of_rejected {submission : Submission} {rule : Rule}
    (rejected : submission.verdict = .rejected rule) :
    runReadData submission = refuseQuery rule submission := by
  cases submission with
  | text sql =>
      rw [Submission.verdict] at rejected
      rw [runReadData, rejected]
  | missing | flag _ | whole _ | fraction _ =>
      cases rejected
      rfl

/-- What the gate accepts is a text, and is run as a query. -/
theorem runReadData_of_accepted {submission : Submission}
    (accepted : submission.verdict = .accepted) :
    ∃ sql, submission = .text sql ∧ runReadData submission = runQuery sql := by
  cases submission with
  | text sql =>
      rw [Submission.verdict] at accepted
      exact ⟨sql, rfl, by rw [runReadData, accepted]⟩
  | missing | flag _ | whole _ | fraction _ => cases accepted

end Tool

end QueryGuard
