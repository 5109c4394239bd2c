import QueryGuard.Binary64.Basic

/-!
# QueryGuard.Binary64.Shortest

The fewest decimal digits that tell a number from all others.

A finite magnitude is nearest to all reals between the middles of the steps below and above it, and
to the middles themselves if its code is even.  Of the decimal numbers in that range, one with the
fewest digits is taken; of several such, the one nearest to the magnitude; and of two equally near,
the one whose last digit is even.

The search is in whole numbers: all reals are counted in units of `2 ^ -1075 * 10 ^ -340`, in which
the middles of steps and the decimal numbers in question are whole.
-/

namespace QueryGuard

/-- A decimal number: digits, the first of them with a power of ten. -/
structure Digits where
  digits : List Char
  exponent : Int
deriving DecidableEq, Repr

namespace Digits

/-- The number zero. -/
def zero : Digits := ⟨['0'], 0⟩

/-- The number `n * 10 ^ power`, without superfluous zeros. -/
def ofNat (n : Nat) (power : Int) : Digits :=
  let digits := Nat.toDigits 10 n
  ⟨(digits.reverse.dropWhile (· == '0')).reverse, power + digits.length - 1⟩

end Digits

namespace Binary64

/- The power of the core library, as in `QueryGuard.Binary64.Basic`. -/
local instance (priority := high) decimalPower : Pow Nat Nat := instPowNat

/-- All decimal numbers in question are whole multiples of `10` to the power `-finest`. -/
def finest : Nat := 340

/-- A position on the line of reals for a number of half units. -/
def position (halfUnits : Nat) : Nat := halfUnits * 10 ^ finest

/-- The distance between decimal numbers that are multiples of `10 ^ (place - finest)`. -/
def grid (place : Nat) : Nat := 10 ^ place * (2 * one)

/-- Whether the magnitude at a code is the nearest to the real at a position. -/
def isNearest (code real : Nat) : Bool :=
  let low := position (units (code - 1) + units code)
  let high := position (units code + units (code + 1))
  if code % 2 = 0 then low ≤ real && real ≤ high else low < real && real < high

/-- The multiple of a power of ten that stands for the magnitude at a code, if there is one. -/
def onGrid? (code place : Nat) : Option Nat :=
  let exact := position (2 * units code)
  let below := exact / grid place
  let above := below + 1
  match isNearest code (below * grid place), isNearest code (above * grid place) with
  | true, true => some (roundDiv exact (grid place))
  | true, false => some below
  | false, true => some above
  | false, false => none

/-- A place from which on the search goes downward: that of the first digit of a magnitude, or the
one above it. -/
def topPlace (code : Nat) : Nat :=
  (position (2 * units code) / (2 * one)).log2 * 30103 / 100000 + 1

/-- The number of places to search: seventeen digits are always enough, and the first place may be
one too high. -/
def places : Nat := 18

/-- The shortest decimal number that stands for a magnitude. -/
def shortest (code : Nat) : Digits :=
  ((List.range places).findSome? fun down =>
    let place := topPlace code - down
    (onGrid? code place).map fun n => Digits.ofNat n (Int.ofNat place - finest)).getD .zero

end Binary64

end QueryGuard
