import QueryGuard.Settings.Environment
import QueryGuard.Text.Case
import QueryGuard.Text.Numeral
import QueryGuard.Text.Upper

/-!
# QueryGuard.Settings.Basic

The settings of the server and how they are read from the environment:

| variable         | setting                                                     | otherwise     |
|------------------|-------------------------------------------------------------|---------------|
| `DATABASE_PATH`  | the database file, as it is                                 | `data/app.db` |
| `READONLY`       | whether writes are refused: `true` in any letter case       | no            |
| `MAX_RESULT_SET` | the largest number of rows of an answer: a positive numeral | 100           |
| `LOG_LEVEL`      | the name of the log level, in capitals                      | `INFO`        |

Blanks around the last three values do not count.
-/

namespace QueryGuard

/-- The settings of the server. -/
structure Settings where
  databasePath : String
  readOnly : Bool
  maxRecordCount : Int
  logLevel : String
deriving DecidableEq, Repr

namespace Settings

/-- The database file where none is named. -/
def defaultDatabasePath : String := "data/app.db"

/-- The limit on rows where no usable one is named. -/
def defaultMaxRecordCount : Int := 100

/-- The log level where none is named. -/
def defaultLogLevel : String := "INFO"

/-- Whether a value of `READONLY` refuses writes. -/
def isReadOnly (value : String) : Bool :=
  Text.lowered (Text.trim value.toList) == "true".toList

/-- The limit that a value of `MAX_RESULT_SET` stands for. -/
def recordLimit : Option String → Int
  | none => defaultMaxRecordCount
  | some value => match Text.Numeral.parse? value.toList with
    | some limit => if 0 < limit then limit else defaultMaxRecordCount
    | none => defaultMaxRecordCount

/-- The level name that a value of `LOG_LEVEL` stands for. -/
def levelName (value : String) : String :=
  let name := Text.upper (Text.trim value.toList)
  if name.isEmpty then defaultLogLevel else String.ofList name

/-- Reads the settings from the environment. -/
def load (env : Environment) : Settings where
  databasePath := (env.get? "DATABASE_PATH").getD defaultDatabasePath
  readOnly := isReadOnly ((env.get? "READONLY").getD "")
  maxRecordCount := recordLimit (env.get? "MAX_RESULT_SET")
  logLevel := levelName ((env.get? "LOG_LEVEL").getD defaultLogLevel)

/-- The limit is positive. -/
theorem recordLimit_pos (value? : Option String) : 0 < recordLimit value? := by
  unfold recordLimit
  split
  · decide
  · split
    · split
      · assumption
      · decide
    · decide

end Settings

end QueryGuard
