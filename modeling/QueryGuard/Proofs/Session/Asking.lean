import QueryGuard.Proofs.Session.Mediation

/-!
# QueryGuard.Proofs.Session.Asking

Which requests ask for the settings, and what they make of them.

A request either leaves the session alone or first of all reads the settings, and from then on its
session is settled: no later part of the request changes it or sees anything of it but the settings.

* `LeavesSession`, `AsksFirst`, `Settled` — the three properties of computations;
* `Step.asksSettings` — the requests that ask for the settings;
* `asksFirst_step`, `settled_step`, `leavesSession_step` — the property of each request.
-/

namespace QueryGuard

variable {α β : Type}

/-! ## computations -/

/-- The turn in another session, which has read the dotenv file so many times. -/
def Turn.inSession (turn : Turn) (session : Session) (dotenvLoads : Nat) : Turn :=
  { turn with session, dotenvLoads }

/-- The turn once the settings are read. -/
def Turn.informed (turn : Turn) : Turn := (Turn.settings.run turn).2

/-- The computation neither sees nor changes the session. -/
def LeavesSession (x : StateM Turn α) : Prop :=
  ∀ turn session loads,
    x.run (turn.inSession session loads) = ((x.run turn).1, (x.run turn).2.inSession session loads)

/-- Where settings are kept, the computation sees nothing else of the session and does not change
it. -/
def Settled (x : StateM Turn α) : Prop :=
  ∀ turn session loads, turn.session.cache?.isSome = true → session.cache? = turn.session.cache? →
    x.run (turn.inSession session loads) = ((x.run turn).1, (x.run turn).2.inSession session loads)

/-- The computation reads the settings before it does anything else. -/
def AsksFirst (x : StateM Turn α) : Prop := ∀ turn, x.run turn = x.run turn.informed

namespace LeavesSession

variable {x : StateM Turn α} {f : α → StateM Turn β}

theorem settled (h : LeavesSession x) : Settled x := fun turn session loads _ _ =>
  h turn session loads

theorem pure (a : α) : LeavesSession (Pure.pure a) := fun _ _ _ => rfl

/-- Computations that leave the session alone do so one after another. -/
theorem bind (hx : LeavesSession x) (hf : ∀ a, LeavesSession (f a)) : LeavesSession (x >>= f) := by
  intro turn session loads
  rw [StateT.run_bind, hx turn session loads]
  exact hf _ _ session loads

end LeavesSession

namespace Settled

variable {x : StateM Turn α} {f : α → StateM Turn β}

theorem pure (a : α) : Settled (Pure.pure a) := fun _ _ _ _ _ => rfl

/-- A settled computation keeps the session. -/
theorem session_run (h : Settled x) {turn : Turn} (kept : turn.session.cache?.isSome = true) :
    (x.run turn).2.session = turn.session :=
  congrArg (fun result => result.2.session) (h turn turn.session turn.dotenvLoads kept rfl)

/-- Settled computations are so one after another. -/
theorem bind (hx : Settled x) (hf : ∀ a, Settled (f a)) : Settled (x >>= f) := by
  intro turn session loads kept same
  have stays := hx.session_run kept
  rw [StateT.run_bind, hx turn session loads kept same]
  exact hf _ _ session loads (by rw [stays, kept]) (by rw [stays, same])

end Settled

/-- What comes after a computation that asks first does not matter. -/
theorem AsksFirst.bind {x : StateM Turn α} (hx : AsksFirst x) (f : α → StateM Turn β) :
    AsksFirst (x >>= f) := by
  intro turn
  rw [StateT.run_bind, StateT.run_bind, hx turn]

/-! ## computations that may end in a fault -/

theorem run_lift (x : StateM Turn α) : (liftM x : Action α).run = x >>= fun a => pure (.ok a) := rfl

theorem LeavesSession.lift {x : StateM Turn α} (h : LeavesSession x) :
    LeavesSession (liftM x : Action α).run := by
  rw [run_lift]
  exact h.bind fun a => .pure _

/-- Actions that leave the session alone do so one after another. -/
theorem LeavesSession.bindAction {x : Action α} {f : α → Action β} (hx : LeavesSession x.run)
    (hf : ∀ a, LeavesSession (f a).run) : LeavesSession (x >>= f).run := by
  rw [ExceptT.run_bind]
  refine hx.bind fun result => ?_
  cases result with
  | ok a => exact hf a
  | error fault => exact .pure _

/-- An action leaves the session alone if it and the handling of its fault do. -/
theorem LeavesSession.handle {x : Action α} {handle : Fault → Action α} (hx : LeavesSession x.run)
    (hh : ∀ fault, LeavesSession (handle fault).run) : LeavesSession (tryCatch x handle).run := by
  rw [ExceptT.run_tryCatch]
  refine hx.bind fun result => ?_
  cases result with
  | ok a => exact .pure _
  | error fault => exact hh fault

theorem Settled.lift {x : StateM Turn α} (h : Settled x) : Settled (liftM x : Action α).run := by
  rw [run_lift]
  exact h.bind fun a => .pure _

/-- Settled actions are so one after another. -/
theorem Settled.bindAction {x : Action α} {f : α → Action β} (hx : Settled x.run)
    (hf : ∀ a, Settled (f a).run) : Settled (x >>= f).run := by
  rw [ExceptT.run_bind]
  refine hx.bind fun result => ?_
  cases result with
  | ok a => exact hf a
  | error fault => exact .pure _

/-- An action is settled if it and the handling of its fault are. -/
theorem Settled.handle {x : Action α} {handle : Fault → Action α} (hx : Settled x.run)
    (hh : ∀ fault, Settled (handle fault).run) : Settled (tryCatch x handle).run := by
  rw [ExceptT.run_tryCatch]
  refine hx.bind fun result => ?_
  cases result with
  | ok a => exact .pure _
  | error fault => exact hh fault

theorem AsksFirst.lift {x : StateM Turn α} (h : AsksFirst x) :
    AsksFirst (liftM x : Action α).run := by
  rw [run_lift]
  exact h.bind _

/-- What comes after an action that asks first does not matter. -/
theorem AsksFirst.bindAction {x : Action α} (hx : AsksFirst x.run) (f : α → Action β) :
    AsksFirst (x >>= f).run := by
  rw [ExceptT.run_bind]
  exact hx.bind _

/-- How the fault of an action that asks first is handled does not matter. -/
theorem AsksFirst.handle {x : Action α} (hx : AsksFirst x.run) (handle : Fault → Action α) :
    AsksFirst (tryCatch x handle).run := by
  rw [ExceptT.run_tryCatch]
  exact hx.bind _

/-! ## parts of requests -/

theorem leavesSession_onEngine (x : StateM Engine α) : LeavesSession (Turn.onEngine x) :=
  fun _ _ _ => rfl

theorem leavesSession_attempt (x : EngineM α) : LeavesSession (Turn.attempt x).run :=
  leavesSession_onEngine x.run

theorem leavesSession_log (line : LogLine) : LeavesSession (Turn.log line) := fun _ _ _ => rfl

/-- Kept settings are all that is seen of the session. -/
theorem settled_settings : Settled Turn.settings := by
  intro turn session loads kept same
  obtain ⟨⟨environment, dotenv, cache?⟩, engine, logs, dotenvLoads⟩ := turn
  obtain ⟨environment', dotenv', cache?'⟩ := session
  obtain ⟨settings, rfl⟩ := Option.isSome_iff_exists.mp kept
  subst same
  rfl

/-- Settings that were read are kept, so that reading them again changes nothing. -/
theorem asksFirst_settings : AsksFirst Turn.settings := by
  intro turn
  obtain ⟨⟨environment, dotenv, cache?⟩, engine, logs, dotenvLoads⟩ := turn
  cases cache? with
  | some settings => rfl
  | none => rfl

theorem leavesSession_databasePath (path : String) :
    LeavesSession (Turn.databasePath (some path)) := .pure path

/-- The path of the database is at most asked of the settings. -/
theorem settled_databasePath (path : Option String) : Settled (Turn.databasePath path) := by
  cases path with
  | some path => exact (leavesSession_databasePath path).settled
  | none => exact settled_settings.bind fun settings => .pure _

theorem asksFirst_databasePath : AsksFirst (Turn.databasePath none) := asksFirst_settings.bind _

/-! ## tools -/

namespace Tool

theorem leavesSession_fail (operation : String) (fault : Fault) :
    LeavesSession (fail operation fault).run :=
  (leavesSession_log _).lift.bindAction fun _ => .pure _

/-- A refusal writes to the log and no more. -/
theorem leavesSession_refuseQuery (rule : Rule) (submission : Submission) :
    LeavesSession (refuseQuery rule submission).run := by
  rw [refuseQuery]
  cases submission.preview with
  | error fault => exact .pure _
  | ok preview => exact (leavesSession_log _).lift.bindAction fun _ => .pure _

/-- A tool that answers by the engine only asks for the path of the database. -/
theorem settled_answering (operation : String) (answer : α → Envelope) (x : String → EngineM α) :
    Settled (answering operation answer x).run := by
  refine Settled.handle ?_ fun fault => (leavesSession_fail operation fault).settled
  refine (settled_databasePath none).lift.bindAction fun path => ?_
  exact (leavesSession_attempt (x path)).settled.bindAction fun _ => .pure _

theorem asksFirst_answering (operation : String) (answer : α → Envelope) (x : String → EngineM α) :
    AsksFirst (answering operation answer x).run :=
  (asksFirst_databasePath.lift.bindAction _).handle _

theorem leavesSession_answerReading (reading : Reading) :
    LeavesSession (answerReading reading) := by
  rw [answerReading]
  cases reading.logLine? with
  | none => exact .pure _
  | some line => exact (leavesSession_log line).bind fun _ => .pure _

/-- A query only asks for the settings. -/
theorem settled_runQuery (sql : String) : Settled (runQuery sql).run := by
  rw [runQuery_eq]
  refine settled_settings.lift.bindAction fun settings => ?_
  refine (leavesSession_attempt _).settled.bindAction fun reading => ?_
  exact (leavesSession_answerReading reading).settled.lift

theorem asksFirst_runQuery (sql : String) : AsksFirst (runQuery sql).run :=
  asksFirst_settings.lift.bindAction _

/-- The refusal of a write only asks for the settings. -/
theorem settled_refuseWrite? : Settled refuseWrite? := by
  refine settled_settings.bind fun settings => ?_
  cases settings.readOnly with
  | true => exact .pure _
  | false => exact .pure _

/-- A write only asks for the settings. -/
theorem settled_runWrite (operation sql message : String) (reportRows : Bool) :
    Settled (runWrite operation sql message reportRows).run := by
  refine settled_refuseWrite?.lift.bindAction fun refusal? => ?_
  cases refusal? with
  | some refusal => exact .pure _
  | none => exact settled_answering _ _ _

/-- Whether a tool that runs on a text asks for the settings: every tool does, except that a query
has to pass the gate first. -/
def asksSettings (tool : Tool) (text : String) : Bool :=
  match tool with
  | readData => (Query.judge text.toList).isAccepted
  | _ => true

/-- What is submitted for reading asks for the settings or for nothing. -/
theorem settled_runReadData (submission : Submission) : Settled (runReadData submission).run := by
  cases verdict : submission.verdict with
  | accepted =>
      obtain ⟨sql, -, runs⟩ := runReadData_of_accepted verdict
      rw [runs]
      exact settled_runQuery sql
  | rejected rule =>
      rw [runReadData_of_rejected verdict]
      exact (leavesSession_refuseQuery rule submission).settled

/-- What is accepted for reading asks for the settings first. -/
theorem asksFirst_runReadData {submission : Submission}
    (asks : submission.verdict.isAccepted = true) : AsksFirst (runReadData submission).run := by
  cases verdict : submission.verdict with
  | accepted =>
      obtain ⟨sql, -, runs⟩ := runReadData_of_accepted verdict
      rw [runs]
      exact asksFirst_runQuery sql
  | rejected rule =>
      rw [verdict] at asks
      cases asks

/-- What is rejected leaves the session alone. -/
theorem leavesSession_runReadData {submission : Submission}
    (rejected : submission.verdict.isAccepted = false) :
    LeavesSession (runReadData submission).run := by
  cases verdict : submission.verdict with
  | accepted =>
      rw [verdict] at rejected
      cases rejected
  | rejected rule =>
      rw [runReadData_of_rejected verdict]
      exact leavesSession_refuseQuery rule submission

/-- Every tool is settled. -/
theorem settled_run (tool : Tool) (text : String) : Settled (tool.run text).run := by
  cases tool with
  | listTables | describeTable => exact settled_answering _ _ _
  | readData => exact settled_runReadData (.text text)
  | createTable | insertData | updateData | dropTable => exact settled_runWrite _ _ _ _

/-- A tool that asks for the settings does so first. -/
theorem asksFirst_run {tool : Tool} {text : String} (asks : tool.asksSettings text = true) :
    AsksFirst (tool.run text).run := by
  cases tool with
  | listTables | describeTable => exact asksFirst_answering _ _ _
  | readData =>
      have accepted : (Submission.text text).verdict.isAccepted = true := asks
      exact asksFirst_runReadData accepted
  | createTable | insertData | updateData | dropTable =>
      exact (asksFirst_settings.bind _).lift.bindAction _

/-- A tool that does not ask for the settings leaves the session alone. -/
theorem leavesSession_run {tool : Tool} {text : String} (asks : tool.asksSettings text = false) :
    LeavesSession (tool.run text).run := by
  cases tool with
  | readData =>
      have rejected : (Submission.text text).verdict.isAccepted = false := asks
      exact leavesSession_runReadData rejected
  | listTables | describeTable | createTable | insertData | updateData | dropTable => cases asks

end Tool

/-! ## requests -/

/-- Whether a call comes to run a tool that asks for the settings. -/
def Server.asksSettings (server : Server) (name : String)
    (arguments : List (String × Json)) : Bool :=
  match server.find? name with
  | none => false
  | some tool => match argument tool arguments with
    | .error _ => false
    | .ok given => tool.asksSettings given

/-- Whether a request asks for the settings. -/
def Step.asksSettings : Step → Bool
  | .clearCache | .setVariable _ _ | .unsetVariable _ => false
  | .settings | .refuseWrite | .launch _ | .launchByItself => true
  | .readData submission => submission.verdict.isAccepted
  | .tool chosen text => chosen.asksSettings text
  | .call _ readOnly name arguments => (Server.build readOnly).asksSettings name arguments
  | .executeWrite _ path | .listTableNames path | .describeTable _ path | .pullRows _ path _ _
  | .openConnection path _ => path.isNone

/-- A call by name is settled. -/
theorem settled_call (server : Server) (obstacle? : Payload → Option String) (name : String)
    (arguments : List (String × Json)) : Settled (server.call obstacle? name arguments) := by
  rw [Server.call]
  cases server.find? name with
  | none => exact .pure _
  | some tool =>
      dsimp only
      cases Server.argument tool arguments with
      | error error => exact .pure _
      | ok given => exact (tool.settled_run given).bind fun envelope => .pure _

/-- A call by name that comes to ask for the settings does so first. -/
theorem asksFirst_call {server : Server} (obstacle? : Payload → Option String) {name : String}
    {arguments : List (String × Json)} (asks : server.asksSettings name arguments = true) :
    AsksFirst (server.call obstacle? name arguments) := by
  rw [Server.asksSettings] at asks
  rw [Server.call]
  cases found : server.find? name with
  | none => simp [found] at asks
  | some tool =>
      rw [found] at asks
      dsimp only at asks ⊢
      cases valid : Server.argument tool arguments with
      | error error => simp [valid] at asks
      | ok given =>
          rw [valid] at asks
          exact (Tool.asksFirst_run asks).bind _

/-- A call by name that does not ask for the settings leaves the session alone. -/
theorem leavesSession_call {server : Server} (obstacle? : Payload → Option String) {name : String}
    {arguments : List (String × Json)} (asks : server.asksSettings name arguments = false) :
    LeavesSession (server.call obstacle? name arguments) := by
  rw [Server.asksSettings] at asks
  rw [Server.call]
  cases found : server.find? name with
  | none => exact .pure _
  | some tool =>
      rw [found] at asks
      dsimp only at asks ⊢
      cases valid : Server.argument tool arguments with
      | error error => exact .pure _
      | ok given =>
          rw [valid] at asks
          exact (Tool.leavesSession_run asks).bind fun envelope => .pure _

theorem settled_announce (threshold : Level) (origin : Origin) (settings : Settings) :
    Settled (Server.announce threshold origin settings) := by
  rw [Server.announce]
  split
  · exact (leavesSession_log _).settled
  · exact .pure _

/-- The launch of a server only asks for the settings. -/
theorem settled_launch (server : Server) : Settled server.launch.run := by
  refine settled_settings.lift.bindAction fun settings => ?_
  cases LogSetup.ofLevelName settings.logLevel with
  | ok setup => exact (settled_announce _ _ _).lift.bindAction fun _ => .pure _
  | error fault => exact .pure _

theorem settled_launchByItself : Settled Server.launchByItself.run := by
  refine settled_settings.lift.bindAction fun settings => ?_
  exact (settled_announce _ _ _).lift.bindAction fun _ => .pure _

theorem settled_onDatabase (path : Option String) (x : String → EngineM α) :
    Settled (Step.onDatabase path x).run :=
  (settled_databasePath path).lift.bindAction fun path => (leavesSession_attempt (x path)).settled

theorem leavesSession_onDatabase (path : String) (x : String → EngineM α) :
    LeavesSession (Step.onDatabase (some path) x).run :=
  (leavesSession_databasePath path).lift.bindAction fun path => leavesSession_attempt (x path)

theorem asksFirst_onDatabase (x : String → EngineM α) : AsksFirst (Step.onDatabase none x).run :=
  asksFirst_databasePath.lift.bindAction _

/-- A request that asks for the settings is settled. -/
theorem settled_step {step : Step} (asks : step.asksSettings = true) : Settled step.run.run := by
  cases step with
  | clearCache | setVariable _ _ | unsetVariable _ => cases asks
  | settings => exact settled_settings.lift.bindAction fun _ => .pure _
  | refuseWrite => exact Tool.settled_refuseWrite?.lift.bindAction fun _ => .pure _
  | readData submission =>
      exact (Tool.settled_runReadData submission).bindAction fun _ => .pure _
  | tool chosen text => exact (chosen.settled_run text).bindAction fun _ => .pure _
  | call obstacle? readOnly name arguments =>
      exact (settled_call _ obstacle? name arguments).lift.bindAction fun _ => .pure _
  | launch server => exact (settled_launch server).bindAction fun _ => .pure _
  | launchByItself => exact settled_launchByItself.bindAction fun _ => .pure _
  | executeWrite _ path | listTableNames path | describeTable _ path | pullRows _ path _ _
  | openConnection path _ => exact (settled_onDatabase path _).bindAction fun _ => .pure _

/-- A request that asks for the settings does so first. -/
theorem asksFirst_step {step : Step} (asks : step.asksSettings = true) :
    AsksFirst step.run.run := by
  cases step with
  | clearCache | setVariable _ _ | unsetVariable _ => cases asks
  | settings => exact asksFirst_settings.lift.bindAction _
  | refuseWrite => exact (asksFirst_settings.bind _).lift.bindAction _
  | readData submission => exact (Tool.asksFirst_runReadData asks).bindAction _
  | tool chosen text => exact (Tool.asksFirst_run asks).bindAction _
  | call obstacle? readOnly name arguments =>
      exact (asksFirst_call obstacle? asks).lift.bindAction _
  | launch server =>
      have launches : AsksFirst server.launch.run := asksFirst_settings.lift.bindAction _
      exact launches.bindAction _
  | launchByItself =>
      have launches : AsksFirst Server.launchByItself.run := asksFirst_settings.lift.bindAction _
      exact launches.bindAction _
  | executeWrite _ path | listTableNames path | describeTable _ path | pullRows _ path _ _
  | openConnection path _ =>
      obtain rfl : path = none := Option.isNone_iff_eq_none.mp asks
      exact (asksFirst_onDatabase _).bindAction _

/-- Whether a request is there to change the session. -/
def Step.changesSession : Step → Bool
  | .clearCache | .setVariable _ _ | .unsetVariable _ => true
  | _ => false

/-- A request that neither asks for the settings nor is there to change the session leaves it
alone. -/
theorem leavesSession_step {step : Step} (asks : step.asksSettings = false)
    (changes : step.changesSession = false) : LeavesSession step.run.run := by
  cases step with
  | clearCache | setVariable _ _ | unsetVariable _ => cases changes
  | settings | refuseWrite | launch _ | launchByItself => cases asks
  | readData submission =>
      exact (Tool.leavesSession_runReadData asks).bindAction fun _ => .pure _
  | tool chosen text => exact (Tool.leavesSession_run asks).bindAction fun _ => .pure _
  | call obstacle? readOnly name arguments =>
      exact (leavesSession_call obstacle? asks).lift.bindAction fun _ => .pure _
  | executeWrite _ path | listTableNames path | describeTable _ path | pullRows _ path _ _
  | openConnection path _ =>
      cases path with
      | none => cases asks
      | some path => exact (leavesSession_onDatabase path _).bindAction fun _ => .pure _

end QueryGuard
