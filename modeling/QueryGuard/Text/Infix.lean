/-!
# QueryGuard.Text.Infix

Search for a fixed text.
-/

namespace QueryGuard.Text

/-- Whether `needle` stands somewhere in a text. -/
def contains (needle : List Char) : List Char → Bool
  | [] => needle.isEmpty
  | c :: cs => needle.isPrefixOf (c :: cs) || contains needle cs

/-- The search finds exactly the contiguous pieces of the text. -/
theorem contains_iff {needle s : List Char} : contains needle s = true ↔ needle <:+: s := by
  induction s with
  | nil => simp [contains]
  | cons c cs ih =>
      rw [contains, Bool.or_eq_true, List.isPrefixOf_iff_prefix, ih, List.infix_cons_iff]

/-- Two characters stand beside each other at the start of a text or behind its first character. -/
theorem pair_infix_cons_iff {x y c : Char} {s : List Char} :
    [x, y] <:+: c :: s ↔ (c = x ∧ s.head? = some y) ∨ [x, y] <:+: s := by
  have front : [x, y] <+: c :: s ↔ c = x ∧ s.head? = some y := by
    cases s with
    | nil => simp
    | cons d s => simp [List.cons_prefix_cons, eq_comm]
  rw [List.infix_cons_iff, front]

end QueryGuard.Text
