import QueryGuard.Binary64.Layout

/-!
# QueryGuard.Log

Log lines, their levels and the parts of the server that write them.
-/

namespace QueryGuard

/-- How grave a log line is, or from which gravity on lines are shown. -/
inductive Level
  | critical
  | error
  | warning
  | info
  | debug
  | notset
deriving DecidableEq, Repr

namespace Level

/-- The rank of a level. -/
def number : Level → Nat
  | critical => 50
  | error => 40
  | warning => 30
  | info => 20
  | debug => 10
  | notset => 0

/-- The name of a level. -/
def name : Level → String
  | critical => "CRITICAL"
  | error => "ERROR"
  | warning => "WARNING"
  | info => "INFO"
  | debug => "DEBUG"
  | notset => "NOTSET"

/-- The level that a name stands for; two of them have a second name. -/
def ofName? : String → Option Level
  | "CRITICAL" => some critical
  | "FATAL" => some critical
  | "ERROR" => some error
  | "WARNING" => some warning
  | "WARN" => some warning
  | "INFO" => some info
  | "DEBUG" => some debug
  | "NOTSET" => some notset
  | _ => none

/-- Whether lines of a level are shown where `threshold` is set. -/
def shownFrom (threshold level : Level) : Bool := threshold.number ≤ level.number

end Level

/-- The parts of the server that write log lines. -/
inductive Origin
  /-- The tools, and the start of a server that is run from outside. -/
  | server
  /-- The bounded reader. -/
  | reader
  /-- The start of a server that runs by itself. -/
  | launcher
deriving DecidableEq, Repr

/-- The name under which a part writes. -/
def Origin.name : Origin → String
  | server => "mcp_server"
  | reader => "sqlgate.bounded_reader"
  | launcher => "__main__"

/-- A line in the log. -/
structure LogLine where
  level : Level
  origin : Origin
  text : String
deriving DecidableEq, Repr

namespace LogLine

/-- The layout of a line: time, level, origin and text. -/
def layout : String := "%(asctime)s %(levelname)s %(name)s: %(message)s"

/-- A truth value in the text of a line. -/
def flag (b : Bool) : String := if b then "True" else "False"

/-- A missing value in the text of a line. -/
def nothing : String := "None"

/-- Fractions in the text of a line are plain from `0.0001` on, and a power of ten has at least two
digits. -/
def fractionStyle : NumberStyle where
  plainFrom := -4
  exponentWidth := 2
  infinite := "inf"
  undefined := "nan"

/-- A fraction in the text of a line. -/
def fraction (x : Binary64) : String := String.ofList (x.layout fractionStyle)

end LogLine

end QueryGuard
