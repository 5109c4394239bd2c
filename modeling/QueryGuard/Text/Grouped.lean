/-!
# QueryGuard.Text.Grouped

Whole numbers with a comma between groups of three digits, counted from the right: `1,234,567`.
-/

namespace QueryGuard.Text.Grouped

/-- Puts a comma after each digit that has a multiple of three digits behind it, the last one
excepted. -/
def group : List Char → List Char
  | [] => []
  | c :: cs => if cs.isEmpty ∨ cs.length % 3 ≠ 0 then c :: group cs else c :: ',' :: group cs

/-- The grouped decimal text of a natural number. -/
def ofNat (n : Nat) : List Char := group (Nat.toDigits 10 n)

/-- The grouped decimal text of an integer, its sign in front. -/
def ofInt : Int → List Char
  | .ofNat n => ofNat n
  | .negSucc n => '-' :: ofNat (n + 1)

/-- Without its commas, a grouped text is the plain row of digits. -/
theorem filter_group {s : List Char} (h : ',' ∉ s) : (group s).filter (· != ',') = s := by
  induction s with
  | nil => rfl
  | cons c cs ih =>
      simp only [List.mem_cons, not_or] at h
      have hc : (c != ',') = true := by simpa using Ne.symm h.1
      rw [group]
      split <;> simp [hc, ih h.2]

end QueryGuard.Text.Grouped
