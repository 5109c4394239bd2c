import QueryGuard.Binary64.Shortest

/-!
# QueryGuard.Binary64.Layout

Texts of binary floating point numbers: the shortest digits, with a point among them or with a power
of ten.

```
plain   = sign? digit+ "." digit+
scaled  = sign? digit ("." digit+)? "e" ("+" | "-") digit+
```
-/

namespace QueryGuard

/-- What texts of numbers leave open. -/
structure NumberStyle where
  /-- The least power of ten of the first digit in a plain text. -/
  plainFrom : Int
  /-- The least number of digits of a power of ten. -/
  exponentWidth : Nat
  /-- What stands for an infinite number. -/
  infinite : String
  /-- What stands for an undefined number. -/
  undefined : String
deriving DecidableEq, Repr

namespace Digits

/-- From this power of ten of the first digit on there are no plain texts. -/
def plainBelow : Int := 16

/-- The digits with a point among them, and at least one digit on either side of it. -/
def plain (d : Digits) : List Char :=
  if d.exponent < 0 then
    ['0', '.'] ++ List.replicate (d.exponent.natAbs - 1) '0' ++ d.digits
  else
    let whole := d.exponent.natAbs + 1
    let rest := d.digits.drop whole
    d.digits.take whole ++ List.replicate (whole - d.digits.length) '0' ++
      '.' :: (if rest.isEmpty then ['0'] else rest)

/-- The digits with a point behind the first, unless it is the only one, and a power of ten. -/
def scaled (d : Digits) (exponentWidth : Nat) : List Char :=
  let exponent := Nat.toDigits 10 d.exponent.natAbs
  let mantissa := match d.digits with
    | first :: second :: rest => first :: '.' :: second :: rest
    | digits => digits
  mantissa ++ 'e' :: (if d.exponent < 0 then '-' else '+') ::
    (List.replicate (exponentWidth - exponent.length) '0' ++ exponent)

/-- The text of a decimal number. -/
def layout (style : NumberStyle) (d : Digits) : List Char :=
  if style.plainFrom ≤ d.exponent ∧ d.exponent < plainBelow then d.plain
  else d.scaled style.exponentWidth

end Digits

namespace Binary64

/-- A text behind a sign. -/
def withSign (negative : Bool) (text : List Char) : List Char :=
  if negative then '-' :: text else text

/-- The text of a number. -/
def layout (style : NumberStyle) : Binary64 → List Char
  | finite negative code =>
      withSign negative ((if code.val = 0 then Digits.zero else shortest code).layout style)
  | infinite negative => withSign negative style.infinite.toList
  | undefined => style.undefined.toList

end Binary64

end QueryGuard
