import QueryGuard.Session.Step

/-!
# QueryGuard.Main

The command line: it starts a server by itself with the settings of the environment.  Log lines go
to the error stream, since the output stream belongs to the client.
-/

open QueryGuard

/-- The variables that settings are read from, as far as they are set. -/
def environmentVariables : IO Environment := do
  let mut env := Environment.empty
  for name in ["DATABASE_PATH", "READONLY", "MAX_RESULT_SET", "LOG_LEVEL"] do
    if let some value ← IO.getEnv name then
      env := env.set name value
  return env

/-- Starts a server; the answer is the exit code. -/
def main : IO UInt32 := do
  let session := Session.start (← environmentVariables) id
  let outcome := session.perform .launchByItself .empty
  for line in outcome.turn.logs do
    IO.eprintln (line.level.name ++ " " ++ line.origin.name ++ ": " ++ line.text)
  match outcome.answer with
  | .ok _ => return 0
  | .error fault =>
      IO.eprintln fault.text
      return 1
