import QueryGuard.Server.Basic

/-!
# QueryGuard.Server.Listing

What a server tells a client of its tools: of each its name and description, the schemas of what
goes in and what comes out, and hints on its use.
-/

namespace QueryGuard

/-! ## schemas -/

namespace Tool

/-- The schema of the arguments of a tool. -/
def inputSchema (tool : Tool) : Json :=
  let title : Json := .text (tool.name ++ "Arguments")
  match tool.parameter? with
  | none => .object [("properties", .object []), ("title", title), ("type", .text "object")]
  | some parameter =>
      .object [
        ("properties", .object [
          (parameter.name, .object [
            ("title", .text parameter.title),
            ("type", .text "string")])]),
        ("required", .texts [parameter.name]),
        ("title", title),
        ("type", .text "object")]

/-- The JSON form of the hints on a tool. -/
def hintsJson (tool : Tool) : Json :=
  .object [
    ("readOnlyHint", .bool tool.hints.readOnly),
    ("destructiveHint", .bool tool.hints.destructive),
    ("idempotentHint", .bool tool.hints.idempotent),
    ("openWorldHint", .bool tool.hints.openWorld)]

end Tool

namespace Envelope

/-- The schema of a field that may be missing: a value of a type, or `null`. -/
def optionalField (type description title : String) : Json :=
  .object [
    ("anyOf", .list [.object [("type", .text type)], .object [("type", .text "null")]]),
    ("default", .null),
    ("description", .text description),
    ("title", .text title)]

/-- The schema of an envelope. -/
def schema : Json :=
  .object [
    ("description", .text "Envelope returned by every MCP tool."),
    ("properties", .object [
      ("success", .object [
        ("description", .text "Whether the operation completed."),
        ("title", .text "Success"),
        ("type", .text "boolean")]),
      ("data", .object [
        ("default", .null),
        ("description", .text "Rows, table names or schema details."),
        ("title", .text "Data")]),
      ("message",
        optionalField "string" "Informational note, e.g. result truncation." "Message"),
      ("error",
        optionalField "string" "Failure reason, safe to show to the agent." "Error"),
      ("rows_affected",
        optionalField "integer" "Row count for write operations." "Rows Affected")]),
    ("required", .texts ["success"]),
    ("title", .text "DbOperationResult"),
    ("type", .text "object")]

end Envelope

/-! ## listings -/

/-- What a client is told of a tool. -/
def Tool.listing (tool : Tool) : Json :=
  .object [
    ("name", .text tool.name),
    ("description", .text tool.description),
    ("inputSchema", tool.inputSchema),
    ("outputSchema", Envelope.schema),
    ("annotations", tool.hintsJson)]

/-- What a client is told of a server. -/
def Server.listing (server : Server) : Json :=
  .object [
    ("server", .text server.name),
    ("tools", .list (server.tools.map Tool.listing))]

end QueryGuard
