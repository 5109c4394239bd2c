import QueryGuard.Fault
import QueryGuard.Text.Grouped
import QueryGuard.Text.Numeral

/-!
# QueryGuard.Decimal

Whole numbers that are written into messages.

The limit on the digits of a numeral that is read holds for a number that is written as well: one
with more of them is not written, and to try is a fault.
-/

namespace QueryGuard.Decimal

/-- Whether a number can be written: it has no more digits than a numeral may have. -/
def IsWritable (n : Int) : Prop := n.natAbs < Nat.pow 10 Text.Numeral.maxDigits

instance (n : Int) : Decidable (IsWritable n) :=
  inferInstanceAs (Decidable (n.natAbs < Nat.pow 10 Text.Numeral.maxDigits))

/-- The fault of writing a number of too many digits. -/
def tooLong : Fault :=
  ⟨.value, "Exceeds the limit (4300 digits) for integer string conversion; " ++
    "use sys.set_int_max_str_digits() to increase the limit"⟩

/-- The decimal text of a number. -/
def write (n : Int) : Except Fault String :=
  if IsWritable n then .ok (toString n) else .error tooLong

end QueryGuard.Decimal
