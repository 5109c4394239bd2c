import QueryGuard.Tool.Run

/-!
# QueryGuard.Server.Basic

A server: its name and the tools registered with it.  Which tools those are is fixed when the
server is built; whether a write is allowed is asked again of the settings whenever one is called.

The envelope of a tool that is called by name is written down for the client by a library from
outside.  All that is known of it is which data it cannot write down, and what it says then.
-/

namespace QueryGuard

/-- A server. -/
structure Server where
  name : String
  tools : List Tool
deriving DecidableEq, Repr

/-- Why a call brings no envelope. -/
inductive CallError
  /-- No tool of the name is registered. -/
  | unknownTool (name : String)
  /-- The argument of the tool is missing. -/
  | missing (tool : Tool) (parameter : Parameter)
  /-- The argument of the tool is no text. -/
  | notText (tool : Tool) (parameter : Parameter)
  /-- The tool ends in a fault, or its answer cannot be written down. -/
  | failed (tool : Tool) (reason : String)
deriving DecidableEq, Repr

namespace CallError

/-- The text of the error. -/
def message : CallError → String
  | unknownTool name => "Unknown tool: " ++ name
  | missing tool _ | notText tool _ =>
      "Error executing tool " ++ tool.name ++ ": 1 validation error for " ++ tool.name ++
        "Arguments"
  | failed tool reason => "Error executing tool " ++ tool.name ++ ": " ++ reason

/-- The arguments at fault, each with the kind of the fault. -/
def fields : CallError → List (String × String)
  | unknownTool _ | failed _ _ => []
  | missing _ parameter => [(parameter.name, "missing")]
  | notText _ parameter => [(parameter.name, "string_type")]

end CallError

namespace Server

/-- The name of the server. -/
def standardName : String := "SQL Database MCP Server"

/-- The server of all tools, or of those that read if it is read-only. -/
def build (readOnly : Bool) : Server :=
  ⟨standardName, if readOnly then Tool.readers else Tool.readers ++ Tool.writers⟩

/-- The registered tool of a name. -/
def find? (server : Server) (name : String) : Option Tool :=
  server.tools.find? (·.name == name)

/-- The text that the arguments of a call give for the parameter of a tool.  Further arguments do
not count, and a tool without parameter needs none. -/
def argument (tool : Tool) (arguments : List (String × Json)) : Except CallError String :=
  match tool.parameter? with
  | none => .ok ""
  | some parameter => match arguments.lookup parameter.name with
    | some (.text s) => .ok s
    | some _ => .error (.notText tool parameter)
    | none => .error (.missing tool parameter)

/-- What comes of a tool on its way to the client, where data may meet an obstacle. -/
def send (obstacle? : Payload → Option String) (tool : Tool) :
    Except Fault Envelope → Except CallError Envelope
  | .error fault => .error (.failed tool fault.text)
  | .ok envelope => match envelope.data.bind obstacle? with
    | some obstacle => .error (.failed tool obstacle)
    | none => .ok envelope

/-- Calls a tool by name. -/
def call (server : Server) (obstacle? : Payload → Option String) (name : String)
    (arguments : List (String × Json)) : StateM Turn (Except CallError Envelope) := do
  match server.find? name with
  | none => return .error (.unknownTool name)
  | some tool => match argument tool arguments with
    | .error error => return .error error
    | .ok given => return send obstacle? tool (← (tool.run given).run)

end Server

end QueryGuard
