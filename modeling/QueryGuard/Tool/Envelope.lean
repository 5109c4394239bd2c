import QueryGuard.Database.Schema
import QueryGuard.Row

/-!
# QueryGuard.Tool.Envelope

The answer of a tool: an envelope with five fields, all of them always there.
-/

namespace QueryGuard

/-- The data that a tool answers with. -/
inductive Payload
  /-- Names of tables. -/
  | names (tables : List Value)
  /-- The schema of a table. -/
  | schema (table : Schema)
  /-- Rows of a query. -/
  | rows (found : List Row)
deriving DecidableEq, Repr

/-- The answer of a tool. -/
structure Envelope where
  success : Bool
  data : Option Payload
  message : Option String
  error : Option String
  rowsAffected : Option Int
deriving DecidableEq, Repr

namespace Envelope

/-- The answer of a tool that failed. -/
def failure (error : String) : Envelope := ⟨false, none, none, some error, none⟩

/-- The answer of a tool that read something, with a note if there is one. -/
def answered (data : Payload) (message : Option String) : Envelope :=
  ⟨true, some data, message, none, none⟩

/-- The answer of a tool that changed something, with the number of rows if it is told. -/
def changed (message : String) (rowsAffected : Option Int) : Envelope :=
  ⟨true, none, some message, none, rowsAffected⟩

end Envelope

/-! ## values -/

/-- The values in a schema, in the order in which they are written. -/
def Schema.values (s : Schema) : List Value :=
  (s.columns.flatMap fun c => [c.name, c.type, c.default]) ++
    (s.indexes.flatMap fun i => [i.name, i.origin]) ++
    (s.foreignKeys.flatMap fun k =>
      [k.column, k.referencesTable, k.referencesColumn, k.onUpdate, k.onDelete])

/-- The values in data, in the order in which they are written. -/
def Payload.values : Payload → List Value
  | names tables => tables
  | schema table => table.values
  | rows found => found.flatMap Row.values

/-! ## the JSON form -/

namespace Column

/-- The JSON form of a column. -/
def toJson (c : Column) : Json :=
  .object [
    ("column_name", c.name.toJson),
    ("column_type", c.type.toJson),
    ("not_null", .bool c.notNull),
    ("default", c.default.toJson),
    ("primary_key", .bool c.primaryKey)]

end Column

namespace Index

/-- The JSON form of an index. -/
def toJson (i : Index) : Json :=
  .object [("name", i.name.toJson), ("unique", .bool i.unique), ("origin", i.origin.toJson)]

end Index

namespace ForeignKey

/-- The JSON form of a foreign key. -/
def toJson (k : ForeignKey) : Json :=
  .object [
    ("column", k.column.toJson),
    ("references_table", k.referencesTable.toJson),
    ("references_column", k.referencesColumn.toJson),
    ("on_update", k.onUpdate.toJson),
    ("on_delete", k.onDelete.toJson)]

end ForeignKey

namespace Schema

/-- The JSON form of a schema. -/
def toJson (s : Schema) : Json :=
  .object [
    ("table", .text s.table),
    ("columns", .list (s.columns.map Column.toJson)),
    ("indexes", .list (s.indexes.map Index.toJson)),
    ("foreign_keys", .list (s.foreignKeys.map ForeignKey.toJson))]

end Schema

namespace Payload

/-- The JSON form of data, with rows written by `row`. -/
def toJsonWith (row : Row → Json) : Payload → Json
  | names tables => .list (tables.map Value.toJson)
  | schema table => table.toJson
  | rows found => .list (found.map row)

end Payload

namespace Envelope

/-- The JSON form of an envelope, with rows written by `row`. -/
def toJsonWith (row : Row → Json) (e : Envelope) : Json :=
  .object [
    ("success", .bool e.success),
    ("data", .ofOption (Payload.toJsonWith row) e.data),
    ("message", .ofText? e.message),
    ("error", .ofText? e.error),
    ("rows_affected", .ofOption .int e.rowsAffected)]

/-- The JSON form of an envelope, in which a row is an object. -/
def toJson (e : Envelope) : Json := e.toJsonWith Row.toJson

end Envelope

end QueryGuard
