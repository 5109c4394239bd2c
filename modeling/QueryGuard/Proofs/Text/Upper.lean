import Mathlib.Data.List.Basic
import Mathlib.Data.Nat.Bitwise
import QueryGuard.Proofs.Text.CaseForms
import QueryGuard.Proofs.Text.Trim
import QueryGuard.Text.Upper

/-!
# QueryGuard.Proofs.Text.Upper

The capital form of a text.

* `upper_upper` — it is its own capital form;
* `FullEnds.upper` — no blank stands at its ends if none stands at the ends of the text;
* `upper_map_toLower` — the case of the ASCII letters of the text does not matter for it.

All turns on the two tables of capitals: no capital in them has another capital form, and none is
blank (`capitals_apart`).
-/

namespace QueryGuard.Text

variable {c d : Char} {n : Nat} {s : List Char}

/-! ## lists of numbers that have none in common

The tables have some fifteen hundred code points.  To compare each with each takes minutes, to
compare one mask with another takes one step. -/

/-- A number with the bits of a list set. -/
def bits (ns : List Nat) : Nat := ns.foldr (fun n mask => 2 ^ n ||| mask) 0

/-- A number is in a list exactly if its bit is set. -/
theorem testBit_bits {ns : List Nat} : (bits ns).testBit n = true ↔ n ∈ ns := by
  induction ns with
  | nil => simp [bits]
  | cons m ns ih =>
      rw [bits, List.foldr_cons, ← bits, Nat.testBit_or, Bool.or_eq_true, ih, List.mem_cons,
        Nat.testBit_two_pow, decide_eq_true_iff, eq_comm]

/-- Two lists have no number in common if their masks have no bit in common. -/
theorem disjoint_of_bits {ns ms : List Nat} (h : bits ns &&& bits ms = 0) : ns.Disjoint ms := by
  intro n left right
  have both : (bits ns &&& bits ms).testBit n = true := by
    rw [Nat.testBit_and, testBit_bits.mpr left, testBit_bits.mpr right, Bool.and_self]
  rw [h, Nat.zero_testBit] at both
  contradiction

/-! ## the tables of capitals -/

/-- The code points that a run covers. -/
def CapitalRun.points (run : CapitalRun) : List Nat :=
  (List.range ((run.last - run.first) / run.stride + 1)).map (run.first + run.stride * ·)

/-- A number that a run covers is one of its points. -/
theorem CapitalRun.mem_points {run : CapitalRun} (h : run.covers n = true) : n ∈ run.points := by
  simp only [covers, Bool.and_eq_true, decide_eq_true_eq, beq_iff_eq] at h
  obtain ⟨⟨le, ge⟩, step⟩ := h
  refine List.mem_map.mpr ⟨(n - run.first) / run.stride, List.mem_range.mpr ?_, ?_⟩
  · exact Nat.lt_succ_of_le (Nat.div_le_div_right (by omega))
  · rw [Nat.mul_div_cancel' (Nat.dvd_of_mod_eq_zero step)]
    omega

/-- The code points with a capital form in one of the tables, and those of the small ASCII
letters. -/
def smallPoints : List Nat :=
  List.range' 97 26 ++ capitalTexts.map Prod.fst ++ capitalRuns.flatMap CapitalRun.points

/-- The code points of the ASCII capitals, and those that the capital forms in the tables consist
of. -/
def capitalPoints : List Nat :=
  List.range' 65 26 ++ capitalTexts.flatMap Prod.snd ++
    capitalRuns.flatMap fun run => run.points.map fun n : Nat => (n + run.shift).toNat

/-- No capital has another capital form, and none is blank. -/
theorem capitals_apart : capitalPoints.Disjoint (smallPoints ++ blankPoints) :=
  disjoint_of_bits (by decide +kernel)

theorem isValidChar_of_capital (h : n ∈ capitalPoints) : n.isValidChar := by
  revert n
  decide +kernel

/-! ## one character -/

/-- The capital form of a character that the tables know. -/
structure HasCapital (c : Char) : Prop where
  small : c.toNat ∈ smallPoints
  nonempty : upperChar c ≠ []
  capitals : ∀ d ∈ upperChar c, d.toNat ∈ capitalPoints

/-- A small letter whose form is made of capitals has them. -/
theorem HasCapital.of_map (points : List Nat) (small : c.toNat ∈ smallPoints)
    (form : upperChar c = points.map Char.ofNat) (nonempty : points ≠ [])
    (capitals : ∀ n ∈ points, n ∈ capitalPoints) : HasCapital c where
  small := small
  nonempty := by
    rw [form]
    exact fun empty => nonempty (List.map_eq_nil_iff.mp empty)
  capitals d hd := by
    rw [form] at hd
    obtain ⟨n, listed, rfl⟩ := List.mem_map.mp hd
    rw [Char.ofNat, dif_pos (isValidChar_of_capital (capitals n listed))]
    exact capitals n listed

/-- An ASCII character is its own form or has a capital. -/
theorem upperChar_ascii (ascii : c.toNat < 128) : upperChar c = [c] ∨ HasCapital c := by
  have form : upperChar c = [c.toUpper] := if_pos ascii
  have listed : ∀ n ∈ List.range 128, (Char.ofNat n).toUpper = Char.ofNat n ∨
      n ∈ List.range' 97 26 ∧ ∃ m ∈ List.range' 65 26, (Char.ofNat n).toUpper = Char.ofNat m := by
    decide +kernel
  have cases := listed c.toNat (List.mem_range.mpr ascii)
  rw [Char.ofNat_toNat] at cases
  obtain same | ⟨small, m, capital, eq⟩ := cases
  · exact .inl (by rw [form, same])
  · refine .inr (.of_map [m] ?_ (by rw [form, eq]; rfl) (List.cons_ne_nil _ _) ?_)
    · exact List.mem_append_left _ (List.mem_append_left _ small)
    · exact List.forall_mem_singleton.mpr (List.mem_append_left _ (List.mem_append_left _ capital))

/-- A character with a form of several characters has capitals. -/
theorem hasCapital_of_text {points : List Nat} (far : ¬ c.toNat < 128)
    (text : capitalTexts.lookup c.toNat = some points) : HasCapital c := by
  obtain ⟨before, after, table, -⟩ := List.lookup_eq_some_iff.mp text
  have listed : (c.toNat, points) ∈ capitalTexts :=
    table ▸ List.mem_append_right _ List.mem_cons_self
  have full : ∀ entry ∈ capitalTexts, entry.2 ≠ [] := by decide
  refine .of_map points ?_ ?_ (full _ listed) fun n hn => ?_
  · exact List.mem_append_left _ (List.mem_append_right _ (List.mem_map.mpr ⟨_, listed, rfl⟩))
  · simp only [upperChar, if_neg far, text]
  · exact List.mem_append_left _ (List.mem_append_right _ (List.mem_flatMap.mpr ⟨_, listed, hn⟩))

/-- A character in a run has a capital. -/
theorem hasCapital_of_run {run : CapitalRun} (far : ¬ c.toNat < 128)
    (plain : capitalTexts.lookup c.toNat = none)
    (found : capitalRuns.find? (·.covers c.toNat) = some run) : HasCapital c := by
  have covers := List.find?_some found
  have listed := List.mem_of_find?_eq_some found
  have point := run.mem_points covers
  refine .of_map [(c.toNat + run.shift).toNat] ?_ ?_ (List.cons_ne_nil _ _)
    (List.forall_mem_singleton.mpr ?_)
  · exact List.mem_append_right _ (List.mem_flatMap.mpr ⟨run, listed, point⟩)
  · simp only [upperChar, if_neg far, plain, found, List.map_singleton]
  · exact List.mem_append_right _
      (List.mem_flatMap.mpr ⟨run, listed, List.mem_map.mpr ⟨_, point, rfl⟩⟩)

/-- A character is its own capital form, or the tables know it. -/
theorem upperChar_cases (c : Char) : upperChar c = [c] ∨ HasCapital c := by
  by_cases ascii : c.toNat < 128
  · exact upperChar_ascii ascii
  · cases text : capitalTexts.lookup c.toNat with
    | some points => exact .inr (hasCapital_of_text ascii text)
    | none =>
        cases found : capitalRuns.find? (·.covers c.toNat) with
        | some run => exact .inr (hasCapital_of_run ascii text found)
        | none => exact .inl (by simp only [upperChar, if_neg ascii, text, found])

/-- No form is empty. -/
theorem upperChar_ne_nil (c : Char) : upperChar c ≠ [] := by
  obtain same | known := upperChar_cases c
  · rw [same]
    exact List.cons_ne_nil _ _
  · exact known.nonempty

/-- The characters of a capital form are their own capital forms. -/
theorem upperChar_of_mem (h : d ∈ upperChar c) : upperChar d = [d] := by
  obtain same | known := upperChar_cases c
  · rw [same, List.mem_singleton] at h
    rw [h, same]
  · have apart := capitals_apart (known.capitals d h)
    exact (upperChar_cases d).resolve_right fun other =>
      apart (List.mem_append_left _ other.small)

/-- The form of a character that is not blank has no blank. -/
theorem isBlank_of_mem_upperChar (full : isBlank c = false) (h : d ∈ upperChar c) :
    isBlank d = false := by
  obtain same | known := upperChar_cases c
  · rw [same, List.mem_singleton] at h
    rwa [h]
  · have apart := capitals_apart (known.capitals d h)
    rw [Bool.eq_false_iff]
    exact fun blank => apart (List.mem_append_right _ (toNat_mem_blankPoints blank))

theorem upperChar_toLower (c : Char) : upperChar c.toLower = upperChar c :=
  apply_toLower (by decide +kernel) c

/-! ## texts -/

theorem upper_cons (c : Char) (s : List Char) : upper (c :: s) = upperChar c ++ upper s :=
  List.flatMap_cons

theorem upper_append (s t : List Char) : upper (s ++ t) = upper s ++ upper t :=
  List.flatMap_append

/-- The capital form of a text is its own capital form. -/
theorem upper_upper (s : List Char) : upper (upper s) = upper s := by
  induction s with
  | nil => rfl
  | cons c s ih =>
      have still : upper (upperChar c) = upperChar c := by
        rw [upper, List.flatMap_congr fun d => upperChar_of_mem, List.flatMap_singleton']
      rw [upper_cons, upper_append, still, ih]

/-- No blank comes to the ends of a text with its capital form. -/
theorem FullEnds.upper (full : FullEnds s) : FullEnds (upper s) where
  first d front := by
    cases s with
    | nil => simp [Text.upper] at front
    | cons c s =>
        rw [upper_cons, List.head?_append_of_ne_nil _ (upperChar_ne_nil c)] at front
        exact isBlank_of_mem_upperChar (full.first c rfl) (List.mem_of_head? front)
  last d back := by
    obtain rfl | ⟨s, c, rfl⟩ := List.eq_nil_or_concat' s
    · simp [Text.upper] at back
    · have one : Text.upper [c] = upperChar c := List.flatMap_singleton ..
      rw [upper_append, one, List.getLast?_append_of_ne_nil _ (upperChar_ne_nil c)] at back
      exact isBlank_of_mem_upperChar (full.last c List.getLast?_concat) (List.mem_of_getLast? back)

theorem upper_map_toLower (s : List Char) : upper (s.map Char.toLower) = upper s := by
  rw [upper, List.flatMap_map]
  exact List.flatMap_congr fun c _ => upperChar_toLower c

end QueryGuard.Text
