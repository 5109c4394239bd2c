import QueryGuard.Database.Engine
import QueryGuard.Log
import QueryGuard.Settings.Basic

/-!
# QueryGuard.Session.Basic

The state of a running server, and computations on it.

A `Session` is what lasts: the environment, what reading the dotenv file makes of an environment,
and the settings once they have been read.  The dotenv file is read by a library from outside, of
which a session knows no more than that.  A `Turn` is a session during one request, together with
the engine that answers the request and what the request leaves behind: the trace of the engine, log
lines, and the number of times the dotenv file was read.
-/

namespace QueryGuard

/-- What lasts from one request to the next. -/
structure Session where
  environment : Environment
  loadDotenv : Environment → Environment
  cache? : Option Settings

/-- A session during one request. -/
structure Turn where
  session : Session
  engine : Engine
  logs : Array LogLine
  dotenvLoads : Nat

/-- A turn at its start. -/
def Turn.start (session : Session) (script : Script) : Turn := ⟨session, .start script, #[], 0⟩

/-- A computation during a turn that may end in a fault. -/
abbrev Action := Attempt Turn

namespace Turn

/-! ## the engine -/

/-- Runs a computation of the engine that ends in no fault. -/
def onEngine {α : Type} (x : StateM Engine α) : StateM Turn α := fun turn =>
  let (a, engine) := x.run turn.engine
  (a, { turn with engine })

/-- Runs a computation of the engine. -/
def attempt {α : Type} (x : EngineM α) : Action α := ExceptT.mk (onEngine x.run)

/-! ## log -/

/-- Writes a log line. -/
def log (line : LogLine) : StateM Turn Unit :=
  modify fun turn => { turn with logs := turn.logs.push line }

/-! ## settings -/

/-- Reads the dotenv file into the environment. -/
def loadDotenv : StateM Turn Unit :=
  modify fun turn => { turn with
    session.environment := turn.session.loadDotenv turn.session.environment
    dotenvLoads := turn.dotenvLoads + 1 }

/-- The settings in force.  They are read when they are first needed and then kept, so that later
changes of the environment do not show until `clearCache`. -/
def settings : StateM Turn Settings := do
  match (← get).session.cache? with
  | some settings => return settings
  | none =>
      loadDotenv
      let settings := Settings.load (← get).session.environment
      modify fun turn => { turn with session.cache? := some settings }
      return settings

/-- Forgets the settings. -/
def clearCache : StateM Turn Unit :=
  modify fun turn => { turn with session.cache? := none }

/-- The given database file, or that of the settings. -/
def databasePath : Option String → StateM Turn String
  | some path => return path
  | none => return (← settings).databasePath

/-! ## the environment -/

/-- Sets a variable of the environment. -/
def setVariable (name value : String) : StateM Turn Unit :=
  modify fun turn => { turn with
    session.environment := turn.session.environment.set name value }

/-- Removes a variable of the environment and answers the value it had. -/
def unsetVariable (name : String) : StateM Turn (Option String) := do
  let turn ← get
  set { turn with session.environment := turn.session.environment.unset name }
  return turn.session.environment.get? name

end Turn

end QueryGuard
