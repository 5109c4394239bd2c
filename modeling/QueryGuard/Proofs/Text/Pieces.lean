import QueryGuard.Text.Infix

/-!
# QueryGuard.Proofs.Text.Pieces

Where the pieces of a text lie in a text of two parts with one character between them.

* `piece_of_append_cons` — a piece without that character lies in one of the parts;
* `spaced_of_append_cons` — two such pieces, with a gap between them, lie in one of the parts, or
  the character belongs to the gap;
* `infix_append_cons_iff` and `inOrder_append_cons_iff` — so a search for one piece, or for one
  behind another, is a search in the two parts.
-/

namespace QueryGuard.Text

variable {s t a k c : List Char} {b : Char}

/-- One piece stands in a text, and another one behind it that does not overlap it. -/
def InOrder (x y s : List Char) : Prop := ∃ a b, s = a ++ x ++ b ∧ y <:+: b

/-- A piece without `b` of a text with a `b` in it stands before that `b` or after it. -/
theorem piece_of_append_cons (h : s ++ b :: t = a ++ k ++ c) (hb : b ∉ k) :
    (∃ c', s = a ++ k ++ c' ∧ c = c' ++ b :: t) ∨
      ∃ a', a = s ++ b :: a' ∧ t = a' ++ k ++ c := by
  obtain ⟨u, hak, hc⟩ | ⟨u, hs, hc⟩ := List.append_eq_append_iff.mp h
  · cases u with
    | nil => exact .inl ⟨[], by simpa using hak.symm, by simpa using hc.symm⟩
    | cons d u =>
        obtain ⟨rfl, rfl⟩ := List.cons.inj hc
        obtain ⟨x, hs, hk⟩ | ⟨x, ha, hk⟩ := List.append_eq_append_iff.mp hak
        · exact absurd (by rw [hk]; simp) hb
        · cases x with
          | nil => exact absurd (by rw [← List.nil_append k, ← hk]; simp) hb
          | cons e x =>
              obtain ⟨rfl, rfl⟩ := List.cons.inj hk
              exact .inr ⟨x, ha, rfl⟩
  · exact .inl ⟨u, hs, hc⟩

/-- Two pieces without `b` stand before it or after it together, unless the gap between them holds
that `b`. -/
theorem spaced_of_append_cons {x gap y : List Char} (h : s ++ b :: t = a ++ x ++ gap ++ y ++ c)
    (hx : b ∉ x) (hy : b ∉ y) :
    (∃ c', s = a ++ x ++ gap ++ y ++ c' ∧ c = c' ++ b :: t) ∨
      (∃ a', a = s ++ b :: a' ∧ t = a' ++ x ++ gap ++ y ++ c) ∨
        ∃ gap₁ gap₂, gap = gap₁ ++ b :: gap₂ ∧ s = a ++ x ++ gap₁ ∧ t = gap₂ ++ y ++ c := by
  have first : s ++ b :: t = a ++ x ++ (gap ++ y ++ c) := by rw [h]; simp
  obtain ⟨s', rfl, rest⟩ | ⟨a', rfl, rfl⟩ := piece_of_append_cons first hx
  · obtain ⟨c', rfl, rfl⟩ | ⟨gap₂, rfl, rfl⟩ := piece_of_append_cons rest.symm hy
    · exact .inl ⟨c', by simp, rfl⟩
    · exact .inr (.inr ⟨s', gap₂, rfl, rfl, rfl⟩)
  · exact .inr (.inl ⟨a', rfl, by simp⟩)

/-! ## searches in the two parts -/

/-- A piece without a character lies on one side of it. -/
theorem infix_append_cons_iff (hb : b ∉ k) : k <:+: s ++ b :: t ↔ k <:+: s ∨ k <:+: t := by
  constructor
  · intro h
    obtain ⟨a, c, parts⟩ := h
    obtain ⟨c', rfl, -⟩ | ⟨a', -, rfl⟩ := piece_of_append_cons parts.symm hb
    · exact .inl (List.infix_append a k c')
    · exact .inr (List.infix_append a' k c)
  · intro h
    obtain inFirst | inSecond := h
    · exact inFirst.trans (List.prefix_append s (b :: t)).isInfix
    · exact inSecond.trans ((List.suffix_cons b t).trans (List.suffix_append s (b :: t))).isInfix

theorem InOrder.infix {x y : List Char} (h : InOrder x y s) : x <:+: s := by
  obtain ⟨a, c, rfl, -⟩ := h
  exact List.infix_append a x c

/-- A text may come before. -/
theorem InOrder.append_left {x y : List Char} (h : InOrder x y t) (s : List Char) :
    InOrder x y (s ++ t) := by
  obtain ⟨a, c, rfl, behind⟩ := h
  exact ⟨s ++ a, c, by simp, behind⟩

/-- A text may come after. -/
theorem InOrder.append_right {x y : List Char} (h : InOrder x y s) (t : List Char) :
    InOrder x y (s ++ t) := by
  obtain ⟨a, c, rfl, behind⟩ := h
  exact ⟨a, c ++ t, by simp, behind.trans (List.prefix_append c t).isInfix⟩

theorem inOrder_append_of_infix {x y : List Char} (hx : x <:+: s) (hy : y <:+: t) :
    InOrder x y (s ++ t) := by
  obtain ⟨a, c, rfl⟩ := hx
  exact ⟨a, c ++ t, by simp, hy.trans (List.suffix_append c t).isInfix⟩

/-- Of two pieces without `b` one stands behind the other before that `b`, across it or after it. -/
theorem inOrder_append_cons_iff {x y : List Char} (hx : b ∉ x) (hy : b ∉ y) :
    InOrder x y (s ++ b :: t) ↔ InOrder x y s ∨ (x <:+: s ∧ y <:+: t) ∨ InOrder x y t := by
  constructor
  · intro h
    obtain ⟨a, _, parts, gap, c, rfl⟩ := h
    have spaced : s ++ b :: t = a ++ x ++ gap ++ y ++ c := by rw [parts]; simp
    obtain ⟨c', rfl, -⟩ | ⟨a', -, rfl⟩ | ⟨gap₁, gap₂, -, rfl, rfl⟩ :=
      spaced_of_append_cons spaced hx hy
    · exact .inl ⟨a, gap ++ y ++ c', by simp, List.infix_append gap y c'⟩
    · exact .inr (.inr ⟨a', gap ++ y ++ c, by simp, List.infix_append gap y c⟩)
    · exact .inr (.inl ⟨List.infix_append a x gap₁, List.infix_append gap₂ y c⟩)
  · intro h
    obtain first | ⟨inFirst, inSecond⟩ | second := h
    · exact first.append_right (b :: t)
    · exact inOrder_append_of_infix inFirst (inSecond.trans (List.suffix_cons b t).isInfix)
    · rw [← List.singleton_append, ← List.append_assoc]
      exact second.append_left (s ++ [b])

end QueryGuard.Text
