/-!
# QueryGuard.Demo.Date

Days of the calendar, found by their number in the year, and their text `2025-01-31`.
-/

namespace QueryGuard.Demo

/-- A day of the calendar. -/
structure Date where
  year : Nat
  month : Nat
  day : Nat
deriving DecidableEq, Repr

namespace Date

/-- Whether a year has a 29th of February. -/
def isLeap (year : Nat) : Bool := year % 4 == 0 && (year % 100 != 0 || year % 400 == 0)

/-- The lengths of the months of a year. -/
def monthLengths (year : Nat) : List Nat :=
  [31, if isLeap year then 29 else 28, 31, 30, 31, 30, 31, 31, 30, 31, 30, 31]

/-- Finds the month and the day of the month for a number of days after the start of `month`, when
the months from there on have the given lengths. -/
def locate (month days : Nat) : List Nat → Nat × Nat
  | length :: lengths =>
      if days < length then (month, days + 1) else locate (month + 1) (days - length) lengths
  | [] => (month, days + 1)

/-- The day that comes a number of days after the first of a year. -/
def ofDayOfYear (year days : Nat) : Date :=
  let (month, day) := locate 1 days (monthLengths year)
  ⟨year, month, day⟩

/-- The decimal digits of a number with zeros in front, up to `width` digits. -/
def padded (width n : Nat) : List Char :=
  let digits := Nat.toDigits 10 n
  List.replicate (width - digits.length) '0' ++ digits

/-- The text of a day: year, month and day with hyphens between. -/
def toText (date : Date) : List Char :=
  padded 4 date.year ++ '-' :: padded 2 date.month ++ '-' :: padded 2 date.day

end Date

end QueryGuard.Demo
