import QueryGuard.Text.Blank
import QueryGuard.Text.Digit

/-!
# QueryGuard.Text.Numeral

Whole numbers as people type them into a configuration:

```
numeral  = blank* sign? digits blank*
sign     = "+" | "-"
digits   = digit ("_"? digit)*
```

A digit is a decimal digit of any script, and a numeral has at most `maxDigits` of them; leading
zeros count, underscores and the sign do not.
-/

namespace QueryGuard.Text.Numeral

/-- A numeral with more digits than this is refused. -/
def maxDigits : Nat := 4300

/-- The values of the digits of a text that holds digits and single underscores between them. -/
def digits? : List Char → Option (List Nat)
  | [] => none
  | [c] => (digitValue? c).map ([·])
  | c :: '_' :: cs => do return (← digitValue? c) :: (← digits? cs)
  | c :: d :: cs => do return (← digitValue? c) :: (← digits? (d :: cs))

/-- The number that a row of decimal digits stands for. -/
def value (digits : List Nat) : Nat := digits.foldl (fun n d => 10 * n + d) 0

/-- Reads digits without a sign. -/
def unsigned? (s : List Char) : Option Nat := do
  let digits ← digits? s
  if digits.length ≤ maxDigits then some (value digits) else none

/-- Reads a numeral. -/
def parse? (s : List Char) : Option Int :=
  match trim s with
  | '+' :: cs => (unsigned? cs).map Int.ofNat
  | '-' :: cs => (unsigned? cs).map fun n => -Int.ofNat n
  | cs => (unsigned? cs).map Int.ofNat

end QueryGuard.Text.Numeral
