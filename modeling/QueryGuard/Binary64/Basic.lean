/-!
# QueryGuard.Binary64.Basic

Binary floating point numbers of 64 bits.

The finite magnitudes stand in a row, each at its place or *code*, from zero at the code 0.  All of
them are whole numbers of the *unit*, which is `2 ^ -1074` and the magnitude at the code 1.  The
quotient of a code by `2 ^ 52` tells how far apart magnitudes stand there: one unit at first, and
then twice as far at each step of the quotient after 1.

An operation computes an exact result and then takes the number nearest to it, and of two equally
near the one with the even code.
-/

namespace QueryGuard

/- A power of whole numbers is the one of the core library, also where another is at hand; so that
it is looked for, exponents that are numerals are given their type. -/
local instance (priority := high) Binary64.power : Pow Nat Nat := instPowNat

/-- The whole number nearest to `num / den`, and of two equally near the even one. -/
def roundDiv (num den : Nat) : Nat :=
  let quotient := num / den
  let rest := 2 * (num % den)
  if rest < den ∨ (rest = den ∧ quotient % 2 = 0) then quotient else quotient + 1

/-- The number of finite magnitudes. -/
abbrev Binary64.limit : Nat := 2047 * 2 ^ (52 : Nat)

/-- A binary floating point number. -/
inductive Binary64
  /-- The number of a sign and of the magnitude at a code. -/
  | finite (negative : Bool) (code : Fin Binary64.limit)
  /-- A magnitude beyond all finite ones. -/
  | infinite (negative : Bool)
  /-- The result of an operation that has none. -/
  | undefined
deriving DecidableEq, Repr

namespace Binary64

/-- The magnitude at a code, in units; that at `limit` is where the infinite ones begin. -/
def units (code : Nat) : Nat :=
  if code / 2 ^ (52 : Nat) = 0 then code
  else (2 ^ (52 : Nat) + code % 2 ^ (52 : Nat)) * 2 ^ (code / 2 ^ (52 : Nat) - 1)

/-- The power of two of which one holds as many units. -/
def depth : Nat := 1074

/-- The number of units in one. -/
def one : Nat := 2 ^ depth

/-- The number of a sign and a code. -/
def ofCode (negative : Bool) (code : Nat) : Binary64 :=
  if h : code < limit then finite negative ⟨code, h⟩ else infinite negative

/-- The number nearest to `num / den` units, with a sign of its own. -/
def ofUnits (negative : Bool) (num den : Nat) : Binary64 :=
  let step := (num / den).log2 - 52
  ofCode negative (step * 2 ^ (52 : Nat) + roundDiv num (den * 2 ^ step))

/-- The number nearest to `num / den`, with a sign of its own. -/
def ofRatio (negative : Bool) (num den : Nat) : Binary64 := ofUnits negative (num * one) den

/-- Whether a number is zero, of either sign. -/
def isZero : Binary64 → Bool
  | finite _ code => code.val == 0
  | _ => false

/-! ## arithmetic -/

/-- The number of the opposite sign. -/
def neg : Binary64 → Binary64
  | finite negative code => finite (!negative) code
  | infinite negative => infinite (!negative)
  | undefined => undefined

/-- A number of units with its sign. -/
def signed (negative : Bool) (n : Nat) : Int := if negative then -Int.ofNat n else Int.ofNat n

/-- The sum of two numbers.  A sum that is zero is negative only if both numbers are. -/
def add : Binary64 → Binary64 → Binary64
  | finite a x, finite b y =>
      let sum := signed a (units x) + signed b (units y)
      ofUnits (if sum = 0 then a && b else sum < 0) sum.natAbs 1
  | infinite a, infinite b => if a = b then infinite a else undefined
  | infinite a, finite _ _ | finite _ _, infinite a => infinite a
  | undefined, _ | _, undefined => undefined

/-- The product of two numbers, negative if one of the two is. -/
def mul : Binary64 → Binary64 → Binary64
  | finite a x, finite b y => ofUnits (a ^^ b) (units x * units y) one
  | infinite a, infinite b => infinite (a ^^ b)
  | infinite a, finite b y => if y.val = 0 then undefined else infinite (a ^^ b)
  | finite a x, infinite b => if x.val = 0 then undefined else infinite (a ^^ b)
  | undefined, _ | _, undefined => undefined

instance : Neg Binary64 := ⟨neg⟩

instance : Add Binary64 := ⟨add⟩

instance : Sub Binary64 := ⟨fun x y => x + -y⟩

instance : Mul Binary64 := ⟨mul⟩

/-- Rounds the exact value of a number to decimal places, and takes the number nearest to that. -/
def roundTo (places : Nat) : Binary64 → Binary64
  | finite negative code =>
      ofRatio negative (roundDiv (10 ^ places * units code) one) (10 ^ places)
  | x => x

/-! ## order -/

/-- How many units a number lies above zero; an undefined one lies nowhere. -/
def place? : Binary64 → Option Int
  | finite negative code => some (signed negative (units code))
  | infinite negative => some (signed negative (units limit))
  | undefined => none

/-- Whether the places of two numbers stand in a relation. -/
def inPlaces (r : Int → Int → Bool) (x y : Binary64) : Bool :=
  x.place?.any fun m => y.place?.any (r m)

instance : LT Binary64 := ⟨fun x y => inPlaces (fun m n => m < n) x y = true⟩

instance : LE Binary64 := ⟨fun x y => inPlaces (fun m n => m ≤ n) x y = true⟩

instance (x y : Binary64) : Decidable (x < y) := inferInstanceAs (Decidable (_ = true))

instance (x y : Binary64) : Decidable (x ≤ y) := inferInstanceAs (Decidable (_ = true))

/-! ## decimal numbers -/

/-- From this power of ten on all numbers are infinite. -/
def decimalCeiling : Int := 309

/-- Below this power of ten the number nearest to any is zero. -/
def decimalFloor : Int := -324

/-- The number nearest to `digits * 10 ^ exponent`, with a sign of its own. -/
def ofDecimal (negative : Bool) (digits : Nat) (exponent : Int) : Binary64 :=
  let top := exponent + (Nat.toDigits 10 digits).length
  if digits = 0 ∨ top ≤ decimalFloor then ofCode negative 0
  else if decimalCeiling < top then infinite negative
  else if exponent < 0 then ofRatio negative digits (10 ^ exponent.natAbs)
  else ofRatio negative (digits * 10 ^ exponent.natAbs) 1

instance : OfScientific Binary64 where
  ofScientific digits isSmall exponent :=
    ofDecimal false digits (if isSmall then -Int.ofNat exponent else Int.ofNat exponent)

end Binary64

end QueryGuard
