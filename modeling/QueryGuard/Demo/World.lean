import QueryGuard.Attempt
import QueryGuard.Binary64.Basic
import QueryGuard.Demo.Path
import QueryGuard.Value

/-!
# QueryGuard.Demo.World

The outside of the program that fills a demonstration database: where it is installed and run, the
random draws it is given, the files that exist, the faults of its calls, and what it leaves behind,
which is a trace of its calls, the text it prints, the number of draws it used, and the order in
which it did all this.
-/

namespace QueryGuard.Demo

/-- The two sources of random data. -/
inductive Source
  /-- Made-up names, addresses and phrases. -/
  | fake
  /-- Numbers. -/
  | random
deriving DecidableEq, Repr

/-- A call to the outside. -/
inductive Event
  /-- Fixes the draws of a source. -/
  | seed (source : Source) (n : Nat)
  /-- Makes a directory and those it is in, unless they exist. -/
  | makeDirectories (path : String)
  /-- Removes a file. -/
  | remove (path : String)
  /-- Opens a connection to a database file. -/
  | connect (path : String)
  /-- Executes several statements. -/
  | executeScript (sql : String)
  /-- Executes a statement for each of several rows. -/
  | executeMany (sql : String) (rows : List (List Value))
  /-- Keeps the changes made so far. -/
  | commit
  /-- Releases the connection. -/
  | close
deriving DecidableEq, Repr

/-- The kinds of call. -/
inductive Kind
  | seed
  | makeDirectories
  | remove
  | connect
  | executeScript
  | executeMany
  | commit
  | close
deriving DecidableEq, Repr

/-- The kind of a call. -/
def Event.kind : Event → Kind
  | seed _ _ => .seed
  | makeDirectories _ => .makeDirectories
  | remove _ => .remove
  | connect _ => .connect
  | executeScript _ => .executeScript
  | executeMany _ _ => .executeMany
  | commit => .commit
  | close => .close

/-- What is asked of a source of random data. -/
inductive Ask
  /-- The name of a person. -/
  | name
  /-- A mail address. -/
  | address
  /-- The name of a country. -/
  | country
  /-- A catch phrase. -/
  | phrase
  /-- A number from zero on and below one. -/
  | fraction
  /-- A number of a range, ends included. -/
  | real (low high : Binary64)
  /-- A whole number of a range, ends included. -/
  | whole (low high : Int)
  /-- An item of a list. -/
  | item (items : List String)
deriving DecidableEq, Repr

/-- What there is to answer. -/
abbrev Ask.Answer : Ask → Type
  | name | address | country | phrase | item _ => String
  | fraction | real _ _ => Binary64
  | whole _ _ => Int

/-- What the program does to the outside. -/
inductive Act
  /-- A call, and the fault that it ends in. -/
  | call (event : Event) (fault? : Option Fault)
  /-- A draw, and what is drawn. -/
  | draw (ask : Ask) (answer : Except Fault ask.Answer)
  /-- A line of text. -/
  | print (line : String)

/-- The outside of the program. -/
structure World where
  /-- The directory that the program is installed in. -/
  home : Path
  /-- The directory that the program is run in. -/
  workingDirectory : Path
  /-- Whether a file exists. -/
  fileExists : String → Bool
  /-- What a draw gives, counted from zero, for what is asked. -/
  draw : Nat → (ask : Ask) → Except Fault ask.Answer
  /-- The fault of a call, which is the given one of its kind, counted from one. -/
  fault? : Kind → Nat → Option Fault
  /-- The number of draws used. -/
  used : Nat
  /-- The calls made. -/
  events : Array Event
  /-- The text printed. -/
  printed : String
  /-- All that was done, in order. -/
  past : Array Act := #[]

/-- A computation of the program. -/
abbrev DemoM := Attempt World

namespace World

/-! ## calls -/

/-- Makes a call: it is noted, and then ends in its fault if it has one. -/
def perform (event : Event) : DemoM Unit := do
  let world ← get
  let events := world.events.push event
  let fault? := world.fault? event.kind (events.countP (·.kind == event.kind))
  set { world with events, past := world.past.push (.call event fault?) }
  Attempt.raise? fault?

/-- Prints a line. -/
def print (line : String) : DemoM Unit :=
  modify fun world =>
    { world with
      printed := world.printed ++ line ++ "\n"
      past := world.past.push (.print line) }

/-! ## draws -/

/-- Takes the next draw. -/
def nextDraw (ask : Ask) : DemoM ask.Answer := do
  let world ← get
  let answer := world.draw world.used ask
  set { world with used := world.used + 1, past := world.past.push (.draw ask answer) }
  liftExcept answer

end World

end QueryGuard.Demo
