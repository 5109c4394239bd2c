import Mathlib.Data.List.Basic
import QueryGuard.Text.Grouped

/-!
# QueryGuard.Proofs.Text.Grouped

Whole numbers with commas, told by their groups.

A grouped number is a sign or none, a first group of one to three digits without a superfluous zero
in front, and further groups of three digits, each behind a comma (`IsGrouped`).

* `group_eq` — a row of digits is cut into a first group of one to three and further groups of
  three;
* `isGrouped_ofInt` — the text of a number has this form;
* `toInt_ofInt` — the number is read back from the text without its commas.
-/

namespace QueryGuard.Text.Grouped

/-! ## the form -/

/-- The groups of digits of a natural number. -/
structure Groups (first : List Char) (later : List (List Char)) : Prop where
  digits : ∀ g ∈ first :: later, ∀ c ∈ g, c.isDigit = true
  some_ : 1 ≤ first.length
  few : first.length ≤ 3
  threes : ∀ g ∈ later, g.length = 3
  noZero : first.head? = some '0' → first = ['0'] ∧ later = []

/-- A sign or none, a group of digits, and further groups behind commas. -/
def IsGrouped (s : List Char) : Prop :=
  ∃ sign first later, s = sign ++ first ++ later.flatMap (',' :: ·) ∧
    (sign = [] ∨ sign = ['-']) ∧ Groups first later

/-! ## groups of three -/

/-- A row of digits is cut from the right into groups of three; the first group has what is left. -/
theorem group_eq : ∀ {s : List Char}, s ≠ [] → ∃ (first : List Char) (later : List (List Char)),
    group s = first ++ later.flatMap (',' :: ·) ∧ s = first ++ later.flatten ∧
      first.length = (s.length - 1) % 3 + 1 ∧ ∀ g ∈ later, g.length = 3
  | [c], _ => ⟨[c], [], by simp [group], by simp, by simp, by simp⟩
  | c :: d :: s, _ => by
      obtain ⟨first, later, text, parts, size, threes⟩ := group_eq (List.cons_ne_nil d s)
      by_cases full : (d :: s).length % 3 = 0
      · -- the rest is cut into whole groups, so a comma stands before it
        have three : first.length = 3 := by
          simp only [List.length_cons] at full size
          omega
        refine ⟨[c], first :: later, ?_, by simp [parts], by simp at full ⊢; omega, ?_⟩
        · rw [group, if_neg (by simpa using full), text]
          simp
        · simpa [three] using threes
      · refine ⟨c :: first, later, ?_, by simp [parts], by simp at full size ⊢; omega, threes⟩
        rw [group, if_pos (.inr full), text]
        simp

/-! ## digits -/

/-- A number of two digits or more does not begin with a zero. -/
theorem head?_toDigits (n : Nat) (h : (Nat.toDigits 10 n).head? = some '0') : n = 0 := by
  induction n using Nat.strongRecOn with
  | _ n ih =>
    by_cases single : n < 10
    · rw [Nat.toDigits_of_lt_base single, List.head?_cons] at h
      have zero : ∀ d < 10, some (Nat.digitChar d) = some '0' → d = 0 := by decide
      exact zero n single h
    · rw [Nat.toDigits_of_base_le (by decide) (by omega),
        List.head?_append_of_ne_nil _ Nat.toDigits_ne_nil] at h
      have := ih (n / 10) (by omega) h
      omega

theorem isDigit_of_mem_toDigits {n : Nat} {c : Char} (h : c ∈ Nat.toDigits 10 n) :
    c.isDigit = true :=
  Nat.isDigit_of_mem_toDigits (by decide) (by decide) h

/-- A grouped number is made of its groups with commas between. -/
theorem groups_toDigits (n : Nat) : ∃ first later,
    ofNat n = first ++ later.flatMap (',' :: ·) ∧ Groups first later := by
  obtain ⟨first, later, text, parts, size, threes⟩ := group_eq (@Nat.toDigits_ne_nil n 10)
  refine ⟨first, later, text, ⟨?_, by omega, by omega, threes, ?_⟩⟩
  · intro g hg c hc
    apply isDigit_of_mem_toDigits (n := n)
    rw [parts, ← List.flatten_cons]
    exact List.mem_flatten.mpr ⟨g, hg, hc⟩
  · intro zero
    have front : (Nat.toDigits 10 n).head? = some '0' := by
      rw [parts, List.head?_append, zero, Option.some_or]
    have whole : first ++ later.flatten = ['0'] := by
      rw [← parts, head?_toDigits n front, Nat.toDigits_zero]
    obtain ⟨c, rest, rfl⟩ := List.exists_cons_of_length_pos (by omega : 0 < first.length)
    simp only [List.cons_append, List.cons.injEq, List.append_eq_nil_iff] at whole
    obtain ⟨rfl, rfl, none⟩ := whole
    refine ⟨rfl, List.eq_nil_iff_forall_not_mem.mpr fun g hg => ?_⟩
    have empty := List.flatten_eq_nil_iff.mp none g hg
    simpa [empty] using threes g hg

/-! ## numbers -/

/-- A number is written in groups. -/
theorem isGrouped_ofInt : ∀ n : Int, IsGrouped (ofInt n)
  | .ofNat n => by
      obtain ⟨first, later, text, groups⟩ := groups_toDigits n
      exact ⟨[], first, later, text, .inl rfl, groups⟩
  | .negSucc n => by
      obtain ⟨first, later, text, groups⟩ := groups_toDigits (n + 1)
      exact ⟨['-'], first, later, by simp [ofInt, text], .inr rfl, groups⟩

theorem filter_ofNat (n : Nat) : (ofNat n).filter (· != ',') = Nat.toDigits 10 n :=
  filter_group fun comma => absurd (isDigit_of_mem_toDigits comma) (by decide)

/-- Without its commas, the text of a number is its plain decimal text. -/
theorem filter_ofInt : ∀ n : Int, (ofInt n).filter (· != ',') = n.repr.toList
  | .ofNat n => by simp [ofInt, filter_ofNat, Int.repr, Nat.repr]
  | .negSucc n => by simp [ofInt, filter_ofNat, Int.repr, Nat.repr]

/-- A grouped number has no space. -/
theorem IsGrouped.notMem_space {s : List Char} (grouped : IsGrouped s) : ' ' ∉ s := by
  obtain ⟨sign, first, later, rfl, signed, groups⟩ := grouped
  have free : ∀ g ∈ first :: later, ' ' ∉ g :=
    fun g hg space => absurd (groups.digits g hg ' ' space) (by decide)
  have unsigned : ' ' ∉ sign := by rcases signed with rfl | rfl <;> decide
  simp only [List.mem_append, List.mem_flatMap, List.mem_cons, not_or, not_exists, not_and]
  exact ⟨⟨unsigned, free first (by simp)⟩,
    fun g hg => ⟨by decide, free g (List.mem_cons_of_mem first hg)⟩⟩

/-- The number that a text with commas between its digits stands for. -/
def toInt (s : List Char) : Int :=
  match s.filter (· != ',') with
  | '-' :: digits => -(Nat.ofDigitChars 10 digits 0 : Int)
  | digits => Nat.ofDigitChars 10 digits 0

/-- A number is read back from its groups. -/
theorem toInt_ofInt : ∀ n : Int, toInt (ofInt n) = n
  | .ofNat n => by
      simp only [toInt, ofInt, filter_ofNat]
      split
      · next digits minus =>
        have digit : '-'.isDigit = true := isDigit_of_mem_toDigits (n := n) (by simp [minus])
        simp at digit
      · simp
  | .negSucc n => by
      have plain : (ofInt (.negSucc n)).filter (· != ',') = '-' :: Nat.toDigits 10 (n + 1) := by
        simp [ofInt, filter_ofNat]
      simp only [toInt, plain, Nat.ofDigitChars_ten_toDigits]
      omega

end QueryGuard.Text.Grouped
