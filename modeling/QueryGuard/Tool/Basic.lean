/-!
# QueryGuard.Tool.Basic

The tools of the server: what they are called, what they do, the argument they take, and whether
they read or write.
-/

namespace QueryGuard

/-- A tool. -/
inductive Tool
  | listTables
  | describeTable
  | readData
  | createTable
  | insertData
  | updateData
  | dropTable
deriving DecidableEq, Repr

/-- What a client may assume of a tool. -/
structure Hints where
  readOnly : Bool
  destructive : Bool
  idempotent : Bool
  openWorld : Bool
deriving DecidableEq, Repr

/-- The parameter of a tool: its name and its title. -/
structure Parameter where
  name : String
  title : String
deriving DecidableEq, Repr

namespace Tool

/-- The tools that read, in the order in which they are registered. -/
def readers : List Tool := [listTables, describeTable, readData]

/-- The tools that write, in the order in which they are registered. -/
def writers : List Tool := [createTable, insertData, updateData, dropTable]

/-- The name by which a tool is called. -/
def name : Tool → String
  | listTables => "list_tables"
  | describeTable => "describe_table"
  | readData => "read_data"
  | createTable => "create_table"
  | insertData => "insert_data"
  | updateData => "update_data"
  | dropTable => "drop_table"

/-- Whether a tool changes the database. -/
def isWriter : Tool → Bool
  | listTables | describeTable | readData => false
  | createTable | insertData | updateData | dropTable => true

/-- The parameter of a tool, which is a text; the list of tables needs none. -/
def parameter? : Tool → Option Parameter
  | listTables => none
  | describeTable => some ⟨"name", "Name"⟩
  | readData | createTable | insertData | updateData | dropTable => some ⟨"sql", "Sql"⟩

/-- What a client may assume of a tool. -/
def hints : Tool → Hints
  | listTables | describeTable | readData => ⟨true, false, true, false⟩
  | createTable | insertData | updateData => ⟨false, false, false, false⟩
  | dropTable => ⟨false, true, false, false⟩

/-- A description of a summary and further lines, which are indented by four spaces, as is the empty
last line. -/
def describe (summary : String) (lines : List String) : String :=
  let indented := lines.map fun line => if line.isEmpty then "" else "    " ++ line
  "\n".intercalate (summary :: indented ++ ["    "])

/-- What a tool does, for the client. -/
def description : Tool → String
  | listTables => "Returns a list of all table names in the database."
  | describeTable =>
      describe "Returns the schema of a table: columns, indexes and foreign keys." [
        "",
        "Args:",
        "    name: The name of the table to describe."]
  | readData =>
      describe "Executes a SELECT query against the database." [
        "",
        "The query must start with SELECT (or WITH for CTEs) and cannot contain",
        "any destructive SQL operations. Results are capped at the configured",
        "maximum record count; a message reports when rows were left out.",
        "",
        "Args:",
        "    sql: A single SQL SELECT query to execute."]
  | createTable =>
      describe "Creates a new table by executing a CREATE TABLE statement." [
        "",
        "Args:",
        "    sql: The CREATE TABLE statement to execute."]
  | insertData =>
      describe "Inserts rows by executing an INSERT statement." [
        "",
        "Args:",
        "    sql: The INSERT statement to execute."]
  | updateData =>
      describe "Updates rows by executing an UPDATE statement." [
        "",
        "Args:",
        "    sql: The UPDATE statement to execute."]
  | dropTable =>
      describe "Drops a table by executing a DROP TABLE statement." [
        "",
        "Args:",
        "    sql: The DROP TABLE statement to execute."]

end Tool

end QueryGuard
