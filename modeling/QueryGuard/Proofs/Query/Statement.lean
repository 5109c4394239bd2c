import QueryGuard.Proofs.Text.Words
import QueryGuard.Query.Clean

/-!
# QueryGuard.Proofs.Query.Statement

The statements of a text, and when there is more than one.

* `one_lt_length_statements_iff` — exactly if some semicolon has text of a statement on both sides;
* `one_lt_length_statements_squeeze` — joining the words of a text by single spaces does not change
  this.
-/

namespace QueryGuard.Query

open Text

/-- Whether a character is text of a statement, that is, no blank and no semicolon. -/
def inStatement (c : Char) : Bool := !isBlank c && c != ';'

/-- Without a semicolon there is at most one statement. -/
theorem statements_of_noSemicolon {x : List Char} (h : ∀ c ∈ x, (c == ';') = false) :
    statements x = if allBlank x then [] else [x] := by
  rw [statements, List.splitOn_eq_singleton_of_beq_eq_false h]
  by_cases blank : allBlank x = true
  · simp [blank]
  · simp [blank]

/-- A semicolon parts the statements before it from those after it. -/
theorem statements_append_semicolon (s t : List Char) :
    statements (s ++ ';' :: t) = statements s ++ statements t := by
  rw [statements, List.splitOn_append_cons_self, List.filter_append]
  rfl

theorem statements_ne_nil_of_noSemicolon {x : List Char} (h : ∀ c ∈ x, (c == ';') = false) :
    statements x ≠ [] ↔ ∃ c ∈ x, inStatement c = true := by
  have same : ∀ c ∈ x, inStatement c = !isBlank c := by
    intro c hc
    have other := h c hc
    rw [beq_eq_false_iff_ne] at other
    simp [inStatement, other]
  rw [statements_of_noSemicolon h]
  by_cases blank : allBlank x = true
  · simp only [if_pos blank, ne_eq, not_true_eq_false, false_iff]
    intro found
    obtain ⟨c, hc, inside⟩ := found
    rw [same c hc, List.all_eq_true.mp blank c hc] at inside
    contradiction
  · simp only [if_neg blank, ne_eq, reduceCtorEq, not_false_eq_true, true_iff]
    rw [allBlank, Bool.not_eq_true, List.all_eq_false] at blank
    obtain ⟨c, hc, full⟩ := blank
    exact ⟨c, hc, by rw [same c hc]; simpa using full⟩

/-- A text has a statement exactly if it has more than blanks and semicolons. -/
theorem statements_ne_nil_iff (s : List Char) :
    statements s ≠ [] ↔ ∃ c ∈ s, inStatement c = true := by
  induction s using piece_induction (· == ';') with
  | piece x noSemicolon => exact statements_ne_nil_of_noSemicolon noSemicolon
  | step x b t noSemicolon parting ih =>
      have semicolon : inStatement ';' = false := by decide
      have parted : (∃ c ∈ x ++ ';' :: t, inStatement c = true) ↔
          (∃ c ∈ x, inStatement c = true) ∨ ∃ c ∈ t, inStatement c = true := by
        simp [or_and_right, exists_or, semicolon]
      rw [beq_iff_eq.mp parting, parted, ← statements_ne_nil_of_noSemicolon noSemicolon, ← ih,
        statements_append_semicolon, ne_eq, List.append_eq_nil_iff,
        Classical.not_and_iff_not_or_not]

/-- A text has more than one statement exactly if some semicolon has text of a statement on both
sides. -/
theorem one_lt_length_statements_iff (s : List Char) :
    1 < (statements s).length ↔
      ∃ a b, s = a ++ ';' :: b ∧ (∃ c ∈ a, inStatement c = true) ∧
        ∃ c ∈ b, inStatement c = true := by
  constructor
  · intro many
    induction s using piece_induction (· == ';') with
    | piece x noSemicolon =>
        rw [statements_of_noSemicolon noSemicolon] at many
        split at many <;> simp at many
    | step x b t noSemicolon parting ih =>
        have semicolon := beq_iff_eq.mp parting
        subst semicolon
        rw [statements_append_semicolon, List.length_append] at many
        by_cases empty : statements x = []
        · rw [empty, List.length_nil, Nat.zero_add] at many
          obtain ⟨a, b, rfl, ha, hb⟩ := ih many
          refine ⟨x ++ ';' :: a, b, by simp, ?_, hb⟩
          obtain ⟨c, hc, inside⟩ := ha
          exact ⟨c, by simp [hc], inside⟩
        · have single : (statements x).length ≤ 1 := by
            rw [statements_of_noSemicolon noSemicolon]
            split <;> simp
          have more : statements t ≠ [] := by
            intro none
            rw [none, List.length_nil] at many
            omega
          exact ⟨x, t, rfl, (statements_ne_nil_iff x).mp empty, (statements_ne_nil_iff t).mp more⟩
  · intro h
    obtain ⟨a, b, rfl, ha, hb⟩ := h
    have first := List.length_pos_iff.mpr ((statements_ne_nil_iff a).mpr ha)
    have second := List.length_pos_iff.mpr ((statements_ne_nil_iff b).mpr hb)
    rw [statements_append_semicolon, List.length_append]
    omega

/-- If the first of two statements stands before a semicolon, there is no second one behind it. -/
theorem behind_semicolon_of_single {a b : List Char}
    (single : ¬ 1 < (statements (a ++ ';' :: b)).length) (first : ∃ c ∈ a, inStatement c = true) :
    ∀ c ∈ b, c = ';' ∨ isBlank c = true := by
  intro c hc
  have outside : inStatement c ≠ true := fun inside =>
    single ((one_lt_length_statements_iff _).mpr ⟨a, b, rfl, first, c, hc, inside⟩)
  by_cases semicolon : c = ';'
  · exact .inl semicolon
  · exact .inr (by simpa [inStatement, semicolon] using outside)

/-! ## the copy with its words joined -/

/-- Blanks do not matter for how many statements a text has. -/
theorem one_lt_length_statements_filter (s : List Char) :
    1 < (statements (s.filter fun c => !isBlank c)).length ↔ 1 < (statements s).length := by
  rw [one_lt_length_statements_iff, one_lt_length_statements_iff]
  have kept : ∀ x : List Char, (∃ c ∈ x.filter fun c => !isBlank c, inStatement c = true) ↔
      ∃ c ∈ x, inStatement c = true := by
    intro x
    simp only [List.mem_filter, inStatement]
    grind
  constructor
  · intro h
    obtain ⟨a, b, hs, ha, hb⟩ := h
    obtain ⟨s, t, rfl, rfl, ht⟩ := List.filter_eq_append_iff.mp hs
    obtain ⟨u, v, rfl, _, _, rfl⟩ := List.filter_eq_cons_iff.mp ht
    obtain ⟨c, hc, inside⟩ := (kept s).mp ha
    exact ⟨s ++ u, v, by simp, ⟨c, by simp [hc], inside⟩, (kept v).mp hb⟩
  · intro h
    obtain ⟨a, b, rfl, ha, hb⟩ := h
    refine ⟨a.filter _, b.filter _, ?_, (kept a).mpr ha, (kept b).mpr hb⟩
    rw [List.filter_append, List.filter_cons_of_pos (by decide)]

/-- The joined words have several statements exactly if the text does. -/
theorem one_lt_length_statements_squeeze (s : List Char) :
    1 < (statements (squeeze s)).length ↔ 1 < (statements s).length := by
  rw [← one_lt_length_statements_filter (squeeze s), filter_squeeze,
    one_lt_length_statements_filter]

end QueryGuard.Query
