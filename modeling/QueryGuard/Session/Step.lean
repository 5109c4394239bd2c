import QueryGuard.Database.Rows
import QueryGuard.Database.Write
import QueryGuard.Server.Launch

/-!
# QueryGuard.Session.Step

Requests to a running server, one after the other, and what each of them leads to.
-/

namespace QueryGuard

/-- A request. -/
inductive Step
  /-- Forget the settings. -/
  | clearCache
  /-- Set a variable of the environment. -/
  | setVariable (name value : String)
  /-- Remove a variable of the environment. -/
  | unsetVariable (name : String)
  /-- Ask for the settings. -/
  | settings
  /-- Ask whether writes are refused. -/
  | refuseWrite
  /-- Run the tool that reads data on anything submitted. -/
  | readData (submission : Tool.Submission)
  /-- Run a tool. -/
  | tool (chosen : Tool) (argument : String)
  /-- Call a tool by name on a server, with the obstacles that data of an answer may meet. -/
  | call (obstacle? : Payload → Option String) (readOnly : Bool) (name : String)
      (arguments : List (String × Json))
  /-- Start a server from outside. -/
  | launch (server : Server)
  /-- Start a server by itself. -/
  | launchByItself
  /-- Write to a database. -/
  | executeWrite (sql : String) (path : Option String)
  /-- List the tables of a database. -/
  | listTableNames (path : Option String)
  /-- Describe a table of a database. -/
  | describeTable (table : String) (path : Option String)
  /-- Fetch rows of a query, up to a number of them, or end in a fault before any is asked for. -/
  | pullRows (query : String) (path : Option String) (take : Option Nat) (inside : Option Fault)
  /-- Open a connection, which refuses writes if `queryOnly` is set. -/
  | openConnection (path : Option String) (queryOnly : Bool)

/-- The answer to a request. -/
inductive Answer
  | nothing
  | removed (value : Option String)
  | settings (settings : Settings)
  | refusal (envelope : Option Envelope)
  | envelope (envelope : Envelope)
  | called (outcome : Except CallError Envelope)
  | launched (launch : Server.Launch)
  | count (n : Int)
  | names (names : List Value)
  | schema (schema : Option Schema)
  | rows (rows : List Row)
  | connected

namespace Step

/-- Runs a computation of the engine on a given database file, or on that of the settings. -/
def onDatabase {α : Type} (path : Option String) (x : String → EngineM α) : Action α := do
  Turn.attempt (x (← Turn.databasePath path))

/-- Carries out a request. -/
def run : Step → Action Answer
  | clearCache => do
      Turn.clearCache
      return .nothing
  | setVariable name value => do
      Turn.setVariable name value
      return .nothing
  | unsetVariable name => return .removed (← Turn.unsetVariable name)
  | settings => return .settings (← Turn.settings)
  | refuseWrite => return .refusal (← Tool.refuseWrite?)
  | readData submission => return .envelope (← Tool.runReadData submission)
  | tool chosen argument => return .envelope (← chosen.run argument)
  | call obstacle? readOnly name arguments =>
      return .called (← (Server.build readOnly).call obstacle? name arguments)
  | launch server => return .launched (← server.launch)
  | launchByItself => return .launched (← Server.launchByItself)
  | executeWrite sql path => return .count (← onDatabase path (Engine.executeWrite · sql))
  | listTableNames path => return .names (← onDatabase path Engine.listTableNames)
  | describeTable table path =>
      return .schema (← onDatabase path (Engine.describeTable · table))
  | pullRows query path take inside =>
      return .rows (← onDatabase path (Engine.pullRows · query take inside))
  | openConnection path queryOnly => do
      let _ ← onDatabase path (Engine.openConnection · queryOnly)
      return .connected

end Step

/-- What a request led to: its answer or the fault it ended in, and the turn it left behind. -/
structure Outcome where
  answer : Except Fault Answer
  turn : Turn

namespace Session

/-- A session at its start. -/
def start (environment : Environment) (loadDotenv : Environment → Environment) : Session :=
  ⟨environment, loadDotenv, none⟩

/-- Carries out a request with an engine that answers as scripted. -/
def perform (session : Session) (step : Step) (script : Script) : Outcome :=
  let (answer, turn) := step.run.run.run (Turn.start session script)
  ⟨answer, turn⟩

/-- Carries out requests one after the other, each with an engine of its own. -/
def run (session : Session) : List (Step × Script) → List Outcome
  | [] => []
  | (step, script) :: steps =>
      let outcome := session.perform step script
      outcome :: outcome.turn.session.run steps

end Session

end QueryGuard
