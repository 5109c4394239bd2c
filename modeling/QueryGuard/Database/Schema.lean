import QueryGuard.Database.Engine

/-!
# QueryGuard.Database.Schema

What a database holds: the names of its tables, and the schema of a table.

A table is first looked for by name among the tables of the database, with the name as a value of
the statement.  Only the name of a table that exists is put into a statement, as a quoted
identifier, in which each double quote is written twice.
-/

namespace QueryGuard

/-- A column of a table. -/
structure Column where
  name : Value
  type : Value
  notNull : Bool
  default : Value
  primaryKey : Bool
deriving DecidableEq, Repr

/-- An index of a table. -/
structure Index where
  name : Value
  unique : Bool
  origin : Value
deriving DecidableEq, Repr

/-- A foreign key of a table. -/
structure ForeignKey where
  column : Value
  referencesTable : Value
  referencesColumn : Value
  onUpdate : Value
  onDelete : Value
deriving DecidableEq, Repr

/-- The schema of a table. -/
structure Schema where
  table : String
  columns : List Column
  indexes : List Index
  foreignKeys : List ForeignKey
deriving DecidableEq, Repr

/-! ## the rows of schema statements -/

/-- A column answers to a name, which is of ASCII characters here, if the two differ at most in the
case of letters. -/
def AnswersTo (name column : String) : Prop :=
  column.toList.map Char.toLower = name.toList.map Char.toLower

instance (name : String) : DecidablePred (AnswersTo name) :=
  fun column => inferInstanceAs (Decidable (column.toList.map _ = name.toList.map _))

/-- The value under a column name in a row of values; of columns that answer to the name the first
counts. -/
def valueOf (columns : List String) (values : List Value) (name : String) : Except Fault Value :=
  match (columns.zip values).find? (AnswersTo name ·.1) with
  | some (_, value) => .ok value
  | none => .error ⟨.lookup, "No item with that key"⟩

/-- The first value of a row. -/
def firstValue : List Value → Except Fault Value
  | value :: _ => .ok value
  | [] => .error ⟨.lookup, "Index out of range"⟩

/-- Reads a row of the column list of a table. -/
def Column.ofRow (columns : List String) (values : List Value) : Except Fault Column := do
  let value := valueOf columns values
  return {
    name := ← value "name"
    type := ← value "type"
    notNull := (← value "notnull").isTruthy
    default := ← value "dflt_value"
    primaryKey := (← value "pk").isTruthy }

/-- Reads a row of the index list of a table. -/
def Index.ofRow (columns : List String) (values : List Value) : Except Fault Index := do
  let value := valueOf columns values
  return {
    name := ← value "name"
    unique := (← value "unique").isTruthy
    origin := ← value "origin" }

/-- Reads a row of the foreign key list of a table. -/
def ForeignKey.ofRow (columns : List String) (values : List Value) : Except Fault ForeignKey := do
  let value := valueOf columns values
  return {
    column := ← value "from"
    referencesTable := ← value "table"
    referencesColumn := ← value "to"
    onUpdate := ← value "on_update"
    onDelete := ← value "on_delete" }

/-! ## statements -/

/-- A name with each double quote written twice. -/
def doubleQuotes (name : List Char) : List Char :=
  name.flatMap fun c => if c = '\x22' then [c, c] else [c]

/-- The statement that lists something of a table. -/
def tablePragma (what table : String) : String :=
  "PRAGMA " ++ what ++ "(\"" ++ String.ofList (doubleQuotes table.toList) ++ "\")"

/-- The statement that lists the tables of the user. -/
def listTablesQuery : String :=
  "SELECT name FROM sqlite_master WHERE type='table' AND name NOT LIKE 'sqlite_%' ORDER BY name"

/-- The statement that looks for a table by name. -/
def findTableQuery : String := "SELECT name FROM sqlite_master WHERE type='table' AND name=?"

namespace Engine

/-- The names of the user's tables, sorted. -/
def listTableNames (path : String) : EngineM (List Value) :=
  withConnection path true fun conn => do
    let cursor ← execute conn listTablesQuery []
    let rows ← fetch cursor none .ok
    liftExcept (rows.mapM firstValue)

/-- Whether a table of the name exists. -/
def tableExists (conn : Connection) (table : String) : EngineM Bool := do
  let cursor ← execute conn findTableQuery [table]
  let found ← fetch cursor (some 1) .ok
  return !found.isEmpty

/-- Executes a statement that lists something of a table, and reads its rows. -/
def listOf {β : Type} (conn : Connection) (what table : String)
    (read : List String → List Value → Except Fault β) : EngineM (List β) := do
  let cursor ← execute conn (tablePragma what table) []
  fetch cursor none (read (cursor.columns.getD []))

/-- The schema of a table, if the table exists. -/
def describeTable (path table : String) : EngineM (Option Schema) :=
  withConnection path true fun conn => do
    if ← tableExists conn table then
      let columns ← listOf conn "table_info" table Column.ofRow
      let indexes ← listOf conn "index_list" table Index.ofRow
      let foreignKeys ← listOf conn "foreign_key_list" table ForeignKey.ofRow
      return some { table, columns, indexes, foreignKeys }
    else
      return none

end Engine

end QueryGuard
