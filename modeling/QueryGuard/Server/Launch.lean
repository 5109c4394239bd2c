import QueryGuard.Server.Basic

/-!
# QueryGuard.Server.Launch

The start of a server.

A server that is run from outside sets up the log first, at the level that the settings name, and
does not start if there is no such level.  A server that runs by itself finds the log set up
already, at the level `INFO`, and keeps it.
-/

namespace QueryGuard

/-- The set-up of the log: the level from which lines are shown, whether they go to the error
stream, and the layout of a line. -/
structure LogSetup where
  level : Level
  toErrorStream : Bool
  layout : String
deriving DecidableEq, Repr

namespace LogSetup

/-- The set-up for the level of a name; a name that stands for no level is refused. -/
def ofLevelName (name : String) : Except Fault LogSetup :=
  match Level.ofName? name with
  | some level => .ok ⟨level, true, LogLine.layout⟩
  | none =>
      .error ⟨.value, "Unknown level: " ++ String.ofList (Text.Quoted.encode name.toList)⟩

end LogSetup

namespace Server

/-- The line that a server logs when it starts. -/
def startText (settings : Settings) : String :=
  "Starting " ++ standardName ++ " (database=" ++ settings.databasePath ++
    ", read_only=" ++ LogLine.flag settings.readOnly ++
    ", max_records=" ++ toString settings.maxRecordCount ++ ")"

/-- Logs that a server starts, if such lines are shown. -/
def announce (threshold : Level) (origin : Origin) (settings : Settings) : StateM Turn Unit :=
  if threshold.shownFrom .info then Turn.log ⟨.info, origin, startText settings⟩ else pure ()

/-- What a start leads to: the servers that were run, and the level of the log. -/
structure Launch where
  ran : List Server
  level : Level

/-- Starts a given server from outside. -/
def launch (server : Server) : Action Launch := do
  let settings ← Turn.settings
  let setup ← LogSetup.ofLevelName settings.logLevel
  announce setup.level .server settings
  return ⟨[server], setup.level⟩

/-- The level of the log of a server that runs by itself. -/
def ownLevel : Level := .info

/-- Builds a server as the settings say and starts it by itself. -/
def launchByItself : Action Launch := do
  let settings ← Turn.settings
  let server := build settings.readOnly
  announce ownLevel .launcher settings
  return ⟨[server], ownLevel⟩

end Server

end QueryGuard
