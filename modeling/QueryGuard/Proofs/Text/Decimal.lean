import QueryGuard.Decimal

/-!
# QueryGuard.Proofs.Text.Decimal

Which numbers can be written: those of at most 4300 decimal digits, of either sign
(`isWritable_iff`).
-/

namespace QueryGuard.Decimal

/-- A number can be written exactly if it has at most 4300 decimal digits. -/
theorem isWritable_iff (n : Int) :
    IsWritable n ↔ (Nat.toDigits 10 n.natAbs).length ≤ 4300 := by
  have limit (k : Nat) (some_ : 0 < k) :
      n.natAbs < Nat.pow 10 k ↔ (Nat.toDigits 10 n.natAbs).length ≤ k :=
    (Nat.length_toDigits_le_iff (by decide) some_).symm
  exact limit Text.Numeral.maxDigits (by decide)

/-- The sign of a number does not count. -/
theorem isWritable_neg (n : Int) : IsWritable (-n) ↔ IsWritable n := by
  rw [IsWritable, IsWritable, Int.natAbs_neg]

/-- The least number of more than 4300 digits. -/
def firstTooLong : Int := Int.ofNat (Nat.pow 10 Text.Numeral.maxDigits)

/-- The least number of more than 4300 digits cannot be written. -/
theorem not_isWritable_firstTooLong : ¬ IsWritable firstTooLong := by
  rw [IsWritable, firstTooLong, Int.ofNat_eq_natCast, Int.natAbs_natCast]
  exact Nat.lt_irrefl _

theorem firstTooLong_pos : 0 < firstTooLong := by
  have positive (k : Nat) : 0 < Nat.pow 10 k := Nat.pow_pos (by decide)
  rw [firstTooLong, Int.ofNat_eq_natCast, Int.natCast_pos]
  exact positive Text.Numeral.maxDigits

end QueryGuard.Decimal
