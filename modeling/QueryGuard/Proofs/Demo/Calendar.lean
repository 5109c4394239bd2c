import Mathlib.Algebra.Ring.Nat
import QueryGuard.Demo.Date

/-!
# QueryGuard.Proofs.Demo.Calendar

Days of the calendar, told without the search that finds them.

* `isDay_ofDayOfYear` — a number below the length of a year stands for a day that the year has;
* `dayOfYear_ofDayOfYear` — so many days of the year come before that day;
* `toText_eq` — the text of a day is made of its four, two and two digits.
-/

namespace QueryGuard.Demo.Date

/-- The number of days of a month. -/
def daysIn (year month : Nat) : Nat :=
  if month = 2 then if isLeap year then 29 else 28
  else if month = 4 ∨ month = 6 ∨ month = 9 ∨ month = 11 then 30
  else 31

/-- The number of days of the months of a year that come before one of them. -/
def daysBefore (year month : Nat) : Nat := ((List.range' 1 (month - 1)).map (daysIn year)).sum

/-- The number of days of a year. -/
def daysOfYear (year : Nat) : Nat := if isLeap year then 366 else 365

/-- The number of a day in its year, counted from zero. -/
def dayOfYear (date : Date) : Nat := daysBefore date.year date.month + (date.day - 1)

/-- The year has such a day. -/
structure IsDay (date : Date) : Prop where
  month_pos : 1 ≤ date.month
  month_le : date.month ≤ 12
  day_pos : 1 ≤ date.day
  day_le : date.day ≤ daysIn date.year date.month

/-! ## the search for a day -/

theorem monthLengths_eq (year : Nat) :
    monthLengths year = (List.range' 1 12).map (daysIn year) := by
  cases leap : isLeap year <;> simp [monthLengths, daysIn, leap, List.range']

/-- A number of days leads past some of the months and to a day of the next one. -/
theorem locate_eq : ∀ {lengths : List Nat} {month days : Nat}, days < lengths.sum →
    ∃ passed length rest, lengths = passed ++ length :: rest ∧
      passed.sum ≤ days ∧ days < passed.sum + length ∧
        locate month days lengths = (month + passed.length, days - passed.sum + 1)
  | [], _, _, h => by simp at h
  | length :: lengths, month, days, h => by
      by_cases here : days < length
      · exact ⟨[], length, lengths, rfl, by simp, by simpa using here, by simp [locate, here]⟩
      · rw [List.sum_cons] at h
        obtain ⟨passed, next, rest, rfl, low, high, found⟩ :=
          @locate_eq lengths (month + 1) (days - length) (by omega)
        refine ⟨length :: passed, next, rest, rfl, ?_, ?_, ?_⟩
        · rw [List.sum_cons]; omega
        · rw [List.sum_cons]; omega
        · rw [locate, if_neg here, found, List.sum_cons, List.length_cons, Nat.sub_sub]
          simp only [Nat.add_comm, Nat.add_left_comm]

variable {year days : Nat}

/-- The month and the day that a number of days leads to. -/
theorem ofDayOfYear_eq (h : days < daysOfYear year) : ∃ k < 12,
    daysBefore year (k + 1) ≤ days ∧ days < daysBefore year (k + 1) + daysIn year (k + 1) ∧
      ofDayOfYear year days = ⟨year, k + 1, days - daysBefore year (k + 1) + 1⟩ := by
  have total : days < (monthLengths year).sum := by
    cases leap : isLeap year <;> simp [daysOfYear, leap] at h <;> simp [monthLengths, leap, h]
  obtain ⟨passed, length, rest, parts, low, high, found⟩ := @locate_eq _ 1 _ total
  -- the months passed are the first ones, and the next one is where the search stops
  rw [monthLengths_eq, List.map_eq_append_iff] at parts
  obtain ⟨_, _, split, rfl, behind⟩ := parts
  obtain ⟨k, _, rfl, rfl⟩ := List.range'_eq_append_iff.mp split
  obtain ⟨_, _, first, rfl, -⟩ := List.map_eq_cons_iff.mp behind
  obtain ⟨rfl, some_, -⟩ := List.range'_eq_cons_iff.mp first
  have before : daysBefore year (k + 1) = ((List.range' 1 k).map (daysIn year)).sum := rfl
  refine ⟨k, by omega, by omega, by rw [before, Nat.add_comm k]; simpa using high, ?_⟩
  rw [ofDayOfYear, found, before]
  simp [Nat.add_comm]

/-- A number below the length of a year stands for a day that the year has. -/
theorem isDay_ofDayOfYear (h : days < daysOfYear year) : IsDay (ofDayOfYear year days) := by
  obtain ⟨k, few, low, high, found⟩ := ofDayOfYear_eq h
  rw [found]
  exact ⟨by simp, by simp; omega, by simp, by simp; omega⟩

/-- As many days of the year come before the day that is found as were counted. -/
theorem dayOfYear_ofDayOfYear (h : days < daysOfYear year) :
    (ofDayOfYear year days).dayOfYear = days := by
  obtain ⟨k, few, low, high, found⟩ := ofDayOfYear_eq h
  rw [found, dayOfYear]
  simp only [Nat.add_sub_cancel]
  omega

/-! ## texts -/

/-- The decimal digit of a number at a place, counted from the last one. -/
def digitAt (n place : Nat) : Char := Nat.digitChar (n / 10 ^ place % 10)

/-- The last digit of a padded number is that of its units. -/
theorem padded_succ {width : Nat} (some_ : 0 < width) (n : Nat) :
    padded (width + 1) n = padded width (n / 10) ++ [Nat.digitChar (n % 10)] := by
  by_cases single : n < 10
  · have zeros : List.replicate (width - 1) '0' ++ ['0'] = List.replicate width '0' := by
      rw [← List.replicate_succ', Nat.sub_add_cancel some_]
    simp [padded, Nat.toDigits_of_lt_base single, Nat.div_eq_of_lt single, Nat.mod_eq_of_lt single,
      zeros]
  · simp [padded, Nat.toDigits_of_base_le (by decide : 1 < 10) (Nat.not_lt.mp single)]

/-- A number below a hundred is padded to its two digits. -/
theorem padded_two {n : Nat} (h : n < 100) : padded 2 n = [digitAt n 1, digitAt n 0] := by
  have single : n / 10 < 10 := by omega
  rw [padded_succ (by decide)]
  simp [padded, Nat.toDigits_of_lt_base single, digitAt, Nat.mod_eq_of_lt single]

/-- A number below ten thousand is padded to its four digits. -/
theorem padded_four {n : Nat} (h : n < 10000) :
    padded 4 n = [digitAt n 3, digitAt n 2, digitAt n 1, digitAt n 0] := by
  rw [padded_succ (by decide), padded_succ (by decide), padded_two (by omega)]
  simp [digitAt, Nat.div_div_eq_div_mul]

/-- The text of a day is its year in four digits, its month in two and its day in two, with hyphens
between. -/
theorem toText_eq {date : Date} (isDay : IsDay date) (few : date.year < 10000) :
    date.toText =
      [digitAt date.year 3, digitAt date.year 2, digitAt date.year 1, digitAt date.year 0] ++
        '-' :: [digitAt date.month 1, digitAt date.month 0] ++
          '-' :: [digitAt date.day 1, digitAt date.day 0] := by
  have short : date.day ≤ 31 := by
    have := isDay.day_le
    unfold daysIn at this
    split at this <;> split at this <;> omega
  have := isDay.month_le
  rw [toText, padded_four few, padded_two (by omega), padded_two (by omega)]

example : (ofDayOfYear 2025 59).toText = "2025-03-01".toList := by decide

end QueryGuard.Demo.Date
