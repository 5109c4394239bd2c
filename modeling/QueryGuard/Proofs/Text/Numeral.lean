import Mathlib.Data.List.Induction
import Mathlib.Data.Nat.Digits.Defs
import QueryGuard.Proofs.Text.Trim
import QueryGuard.Text.Numeral

/-!
# QueryGuard.Proofs.Text.Numeral

The grammar of numerals, told without reference to the reader.

A row of digits holds decimal digits of any script and underscores; it begins and ends with a digit
and no two underscores stand beside each other in it (`IsRow`).  A numeral is such a row of at most
4300 digits with an optional sign before it and blanks around (`IsNumeral`), and it stands for the
number whose decimal digits are those of the row.

* `parse?_eq_some_iff` — the reader accepts exactly the numerals, with their numbers;
* `isNumeral_toDigits` — the decimal text of a number is a numeral for it.
-/

namespace QueryGuard.Text.Numeral

/-! ## the grammar -/

/-- A decimal digit of some script. -/
def IsDigit (c : Char) : Prop := (digitValue? c).isSome = true

instance (c : Char) : Decidable (IsDigit c) := inferInstanceAs (Decidable (_ = _))

/-- A row of digits with single underscores between digits. -/
structure IsRow (s : List Char) : Prop where
  chars : ∀ c ∈ s, IsDigit c ∨ c = '_'
  first : ∃ c, s.head? = some c ∧ IsDigit c
  last : ∃ c, s.getLast? = some c ∧ IsDigit c
  single : ¬ ['_', '_'] <:+: s

/-- The digits of a row, from the left. -/
def rowDigits (s : List Char) : List Nat := s.filterMap digitValue?

/-- What a sign makes of a number. -/
inductive Signs : List Char → Nat → Int → Prop
  | bare (n : Nat) : Signs [] n n
  | plus (n : Nat) : Signs ['+'] n n
  | minus (n : Nat) : Signs ['-'] n (-n)

/-- A numeral for `v`. -/
def IsNumeral (s : List Char) (v : Int) : Prop :=
  ∃ before sign row after, s = before ++ (sign ++ row) ++ after ∧
    allBlank before = true ∧ allBlank after = true ∧
    IsRow row ∧ (rowDigits row).length ≤ 4300 ∧
    Signs sign (Nat.ofDigits 10 (rowDigits row).reverse) v

/-! ## rows -/

theorem not_isDigit_underscore : ¬ IsDigit '_' := by decide

theorem not_isRow_nil : ¬ IsRow [] := by
  intro row
  obtain ⟨c, front, -⟩ := row.first
  contradiction

/-- One character is a row of digits exactly if it is a digit. -/
theorem isRow_singleton_iff {c : Char} : IsRow [c] ↔ IsDigit c := by
  constructor
  · intro row
    obtain ⟨d, front, digit⟩ := row.first
    rwa [Option.some.inj front]
  · intro digit
    exact ⟨by simp [digit], ⟨c, rfl, digit⟩, ⟨c, rfl, digit⟩, by simp [List.infix_cons_iff]⟩

/-- The end of a row from a digit on is a row. -/
theorem IsRow.suffix {s t : List Char} (row : IsRow s) (h : t <:+ s) {c : Char}
    (front : t.head? = some c) (digit : IsDigit c) : IsRow t where
  chars d hd := row.chars d (h.subset hd)
  first := ⟨c, front, digit⟩
  last := by
    obtain ⟨a, rfl⟩ := h
    obtain ⟨d, back, digit⟩ := row.last
    cases ends : t.getLast? with
    | none =>
        rw [List.getLast?_eq_none_iff.mp ends] at front
        contradiction
    | some e =>
        rw [List.getLast?_append, ends, Option.some_or] at back
        exact ⟨d, back, digit⟩
  single pair := row.single (pair.trans h.isInfix)

/-- A digit may come before a row. -/
theorem IsRow.cons {c : Char} {s : List Char} (row : IsRow s) (digit : IsDigit c) :
    IsRow (c :: s) where
  chars := List.forall_mem_cons.mpr ⟨.inl digit, row.chars⟩
  first := ⟨c, rfl, digit⟩
  last := by
    obtain ⟨d, back, last⟩ := row.last
    exact ⟨d, by rw [List.getLast?_cons, back, Option.getD_some], last⟩
  single := by
    rw [pair_infix_cons_iff, not_or]
    refine ⟨?_, row.single⟩
    intro pair
    rw [pair.1] at digit
    exact not_isDigit_underscore digit

/-- A digit and an underscore may come before a row. -/
theorem IsRow.cons_underscore {c : Char} {s : List Char} (row : IsRow s) (digit : IsDigit c) :
    IsRow (c :: '_' :: s) where
  chars := List.forall_mem_cons.mpr ⟨.inl digit, List.forall_mem_cons.mpr ⟨.inr rfl, row.chars⟩⟩
  first := ⟨c, rfl, digit⟩
  last := by
    obtain ⟨d, back, last⟩ := row.last
    exact ⟨d, by rw [List.getLast?_cons_cons, List.getLast?_cons, back, Option.getD_some], last⟩
  single := by
    rw [pair_infix_cons_iff, pair_infix_cons_iff, not_or, not_or]
    refine ⟨?_, ?_, row.single⟩
    · intro pair
      rw [pair.1] at digit
      exact not_isDigit_underscore digit
    · intro pair
      obtain ⟨d, front, first⟩ := row.first
      rw [front] at pair
      rw [Option.some.inj pair.2] at first
      exact not_isDigit_underscore first

theorem IsRow.isDigit_head {c : Char} {s : List Char} (row : IsRow (c :: s)) : IsDigit c := by
  obtain ⟨d, front, digit⟩ := row.first
  rwa [Option.some.inj front]

/-- Before a character that is no underscore a row begins with a digit. -/
theorem isRow_cons_cons_iff {c d : Char} {s : List Char} (other : d ≠ '_') :
    IsRow (c :: d :: s) ↔ IsDigit c ∧ IsRow (d :: s) := by
  constructor
  · intro row
    have digit : IsDigit d := (row.chars d (by simp)).resolve_right other
    exact ⟨row.isDigit_head, row.suffix (List.suffix_cons c _) rfl digit⟩
  · intro h
    exact h.2.cons h.1

/-- Before an underscore a row begins with a digit. -/
theorem isRow_cons_underscore_iff {c : Char} {s : List Char} :
    IsRow (c :: '_' :: s) ↔ IsDigit c ∧ IsRow s := by
  constructor
  · intro row
    refine ⟨row.isDigit_head, ?_⟩
    cases s with
    | nil =>
        obtain ⟨d, back, digit⟩ := row.last
        rw [← Option.some.inj back] at digit
        exact absurd digit not_isDigit_underscore
    | cons e s =>
        have other : e ≠ '_' := fun same => row.single ⟨[c], s, by rw [same]; rfl⟩
        have digit : IsDigit e := (row.chars e (by simp)).resolve_right other
        exact row.suffix ((List.suffix_cons '_' _).trans (List.suffix_cons c _)) rfl digit
  · intro h
    exact h.2.cons_underscore h.1

/-! ## the reader of rows -/

theorem rowDigits_append (s t : List Char) : rowDigits (s ++ t) = rowDigits s ++ rowDigits t :=
  List.filterMap_append

theorem rowDigits_underscore (s : List Char) : rowDigits ('_' :: s) = rowDigits s :=
  List.filterMap_cons_none (by decide)

/-- A digit is read before a rest exactly if it is one and the rest is read. -/
theorem prepend_eq_some_iff {c : Char} {rest : Option (List Nat)} {ds : List Nat} :
    (do return (← digitValue? c) :: (← rest)) = some ds ↔
      IsDigit c ∧ ∃ tail, rest = some tail ∧ rowDigits [c] ++ tail = ds := by
  cases value : digitValue? c with
  | none => simp [IsDigit, value]
  | some d => cases rest <;> simp [IsDigit, rowDigits, value]

/-- The reader of rows accepts exactly the rows, with their digits. -/
theorem digits?_eq_some_iff {s : List Char} {ds : List Nat} :
    digits? s = some ds ↔ IsRow s ∧ rowDigits s = ds := by
  fun_induction digits? s generalizing ds with
  | case1 => simp [not_isRow_nil]
  | case2 c =>
      rw [isRow_singleton_iff]
      cases value : digitValue? c with
      | none => simp [IsDigit, value]
      | some d => simp [IsDigit, rowDigits, value]
  | case3 c cs ih =>
      have digits : rowDigits (c :: '_' :: cs) = rowDigits [c] ++ rowDigits cs := by
        rw [← List.singleton_append, rowDigits_append, rowDigits_underscore]
      rw [prepend_eq_some_iff, isRow_cons_underscore_iff, digits]
      simp only [ih]
      simp [and_assoc]
  | case4 c d cs other ih =>
      have digits : rowDigits (c :: d :: cs) = rowDigits [c] ++ rowDigits (d :: cs) := by
        rw [← List.singleton_append, rowDigits_append]
      rw [prepend_eq_some_iff, isRow_cons_cons_iff other, digits]
      simp only [ih]
      simp [and_assoc]

/-! ## the number of a row -/

theorem value_append_singleton (ds : List Nat) (d : Nat) :
    value (ds ++ [d]) = 10 * value ds + d := by
  rw [value, List.foldl_append, List.foldl_cons, List.foldl_nil, value]

/-- The number of a row of digits is the one whose digits from the right are those of the row. -/
theorem value_eq_ofDigits (ds : List Nat) : value ds = Nat.ofDigits 10 ds.reverse := by
  induction ds using List.reverseRecOn with
  | nil => rfl
  | append_singleton ds d ih =>
      rw [value_append_singleton, ih, List.reverse_concat, Nat.ofDigits_cons]
      exact Nat.add_comm _ _

/-- The reader without a sign accepts exactly the rows with as many digits as are allowed. -/
theorem unsigned?_eq_some_iff {s : List Char} {n : Nat} :
    unsigned? s = some n ↔
      IsRow s ∧ (rowDigits s).length ≤ 4300 ∧ Nat.ofDigits 10 (rowDigits s).reverse = n := by
  rw [unsigned?, Option.bind_eq_bind, Option.bind_eq_some_iff]
  simp only [digits?_eq_some_iff, Option.ite_none_right_eq_some, Option.some.injEq,
    ← value_eq_ofDigits]
  constructor
  · intro h
    obtain ⟨_, ⟨row, rfl⟩, few, number⟩ := h
    exact ⟨row, few, number⟩
  · intro h
    obtain ⟨row, few, number⟩ := h
    exact ⟨_, ⟨row, rfl⟩, few, number⟩

/-! ## numerals -/

/-- A digit is not blank. -/
theorem isBlank_of_isDigit {c : Char} (digit : IsDigit c) : isBlank c = false := by
  cases blank : isBlank c with
  | false => rfl
  | true =>
      have none : ¬ IsDigit c := of_isBlank (P := fun c => ¬ IsDigit c) (by decide +kernel) blank
      exact absurd digit none

/-- A row of digits has no blank at its ends. -/
theorem IsRow.fullEnds {row : List Char} (isRow : IsRow row) : FullEnds row where
  first c front := by
    obtain ⟨d, first, digit⟩ := isRow.first
    rw [first] at front
    exact Option.some.inj front ▸ isBlank_of_isDigit digit
  last c back := by
    obtain ⟨d, last, digit⟩ := isRow.last
    rw [last] at back
    exact Option.some.inj back ▸ isBlank_of_isDigit digit

/-- A sign and a row after it have no blank at an end. -/
theorem Signs.fullEnds {sign row : List Char} {n : Nat} {v : Int} (signs : Signs sign n v)
    (isRow : IsRow row) : FullEnds (sign ++ row) := by
  cases signs with
  | bare => exact isRow.fullEnds
  | plus => exact isRow.fullEnds.cons (by decide)
  | minus => exact isRow.fullEnds.cons (by decide)

/-- A sign and a row of digits with padding are a numeral. -/
theorem isNumeral_of_trim {s row : List Char} {n : Nat} {v : Int} (sign : List Char)
    (trimmed : trim s = sign ++ row) (read : unsigned? row = some n) (signs : Signs sign n v) :
    IsNumeral s v := by
  obtain ⟨isRow, few, rfl⟩ := unsigned?_eq_some_iff.mp read
  obtain ⟨before, after, front, back, parts⟩ := exists_padding s
  rw [trimmed] at parts
  exact ⟨before, sign, row, after, parts, front, back, isRow, few, signs⟩

/-- What is read as a number is a numeral of it. -/
theorem isNumeral_of_parse? {s : List Char} {v : Int} (h : parse? s = some v) : IsNumeral s v := by
  rw [parse?] at h
  split at h
  · next row trimmed =>
    obtain ⟨n, read, rfl⟩ := Option.map_eq_some_iff.mp h
    exact isNumeral_of_trim ['+'] trimmed read (.plus n)
  · next row trimmed =>
    obtain ⟨n, read, rfl⟩ := Option.map_eq_some_iff.mp h
    exact isNumeral_of_trim ['-'] trimmed read (.minus n)
  · obtain ⟨n, read, rfl⟩ := Option.map_eq_some_iff.mp h
    exact isNumeral_of_trim [] rfl read (.bare n)

/-- The reader accepts exactly the numerals, with the numbers that they stand for. -/
theorem parse?_eq_some_iff {s : List Char} {v : Int} : parse? s = some v ↔ IsNumeral s v := by
  refine ⟨isNumeral_of_parse?, ?_⟩
  intro h
  obtain ⟨before, sign, row, after, rfl, front, back, isRow, few, signs⟩ := h
  have read := unsigned?_eq_some_iff.mpr ⟨isRow, few, rfl⟩
  have trimmed : trim (before ++ (sign ++ row) ++ after) = sign ++ row := by
    rw [trim_padded front back, trim_eq_self (signs.fullEnds isRow)]
  rw [parse?, trimmed]
  generalize Nat.ofDigits 10 (rowDigits row).reverse = n at read signs
  cases signs with
  | plus => simp [read]
  | minus => simp [read]
  | bare =>
      split
      · next rest same =>
        rw [List.nil_append] at same
        rw [same] at isRow
        exact absurd isRow.isDigit_head (by decide)
      · next rest same =>
        rw [List.nil_append] at same
        rw [same] at isRow
        exact absurd isRow.isDigit_head (by decide)
      · simp [read]

/-! ## decimal texts -/

theorem digitValue?_digitChar : ∀ d < 10, digitValue? (Nat.digitChar d) = some d := by decide

/-- The decimal text of a number is made of digits that stand for it. -/
theorem exists_digits_toDigits (n : Nat) :
    ∃ ds, Nat.toDigits 10 n = ds.map Nat.digitChar ∧ ds ≠ [] ∧ (∀ d ∈ ds, d < 10) ∧
      value ds = n := by
  induction n using Nat.strongRecOn with
  | _ n ih =>
    by_cases single : n < 10
    · exact ⟨[n], Nat.toDigits_of_lt_base single, by simp, by simpa using single, by simp [value]⟩
    · obtain ⟨ds, text, -, small, number⟩ := ih (n / 10) (by omega)
      refine ⟨ds ++ [n % 10], ?_, by simp, ?_, ?_⟩
      · rw [Nat.toDigits_of_base_le (by decide) (Nat.not_lt.mp single), text, List.map_append,
          List.map_singleton]
      · intro d hd
        obtain inFront | last := List.mem_append.mp hd
        · exact small d inFront
        · rw [List.mem_singleton.mp last]
          exact Nat.mod_lt n (by decide)
      · rw [value_append_singleton, number]
        omega

/-- Some digits are a row. -/
theorem isRow_of_forall_isDigit {s : List Char} (some_ : s ≠ []) (digits : ∀ c ∈ s, IsDigit c) :
    IsRow s := by
  induction s with
  | nil => contradiction
  | cons c s ih =>
      have digit := digits c List.mem_cons_self
      by_cases single : s = []
      · rw [single]
        exact isRow_singleton_iff.mpr digit
      · exact (ih single fun d hd => digits d (List.mem_cons_of_mem c hd)).cons digit

/-- The digits of a row of digits are read back. -/
theorem rowDigits_map_digitChar {ds : List Nat} (small : ∀ d ∈ ds, d < 10) :
    rowDigits (ds.map Nat.digitChar) = ds := by
  induction ds with
  | nil => rfl
  | cons d ds ih =>
      obtain ⟨first, later⟩ := List.forall_mem_cons.mp small
      rw [List.map_cons, rowDigits, List.filterMap_cons_some (digitValue?_digitChar d first),
        ← rowDigits, ih later]

/-- The decimal text of a number of at most 4300 digits, with blanks around it and a plus sign or
none, is a numeral for the number. -/
theorem isNumeral_toDigits {n : Nat} {before sign after : List Char}
    (front : allBlank before = true) (back : allBlank after = true)
    (plain : sign = [] ∨ sign = ['+']) (few : (Nat.toDigits 10 n).length ≤ 4300) :
    IsNumeral (before ++ (sign ++ Nat.toDigits 10 n) ++ after) n := by
  obtain ⟨ds, text, some_, small, number⟩ := exists_digits_toDigits n
  have digits := rowDigits_map_digitChar small
  have row : IsRow (ds.map Nat.digitChar) := by
    refine isRow_of_forall_isDigit (by simpa using some_) ?_
    intro c hc
    obtain ⟨d, hd, rfl⟩ := List.mem_map.mp hc
    rw [IsDigit, digitValue?_digitChar d (small d hd), Option.isSome_some]
  have signs : Signs sign n n := by
    obtain rfl | rfl := plain
    · exact .bare n
    · exact .plus n
  refine ⟨before, sign, _, after, rfl, front, back, text ▸ row, ?_, ?_⟩
  · rw [text, digits]
    simpa [text] using few
  · rw [text, digits, ← value_eq_ofDigits, number]
    exact signs

theorem rowDigits_lt {s : List Char} {d : Nat} (h : d ∈ rowDigits s) : d < 10 := by
  obtain ⟨c, -, value⟩ := List.mem_filterMap.mp h
  exact digitValue?_lt value

/-- The decimal text of the number that a numeral stands for is no longer than a numeral may be. -/
theorem IsNumeral.length_toDigits_le {s : List Char} {v : Int} (numeral : IsNumeral s v)
    (positive : 0 < v) : (Nat.toDigits 10 v.toNat).length ≤ 4300 := by
  obtain ⟨before, sign, row, after, -, -, -, -, few, signs⟩ := numeral
  have bound : Nat.ofDigits 10 (rowDigits row).reverse < 10 ^ (rowDigits row).length := by
    have digits : ∀ d ∈ (rowDigits row).reverse, d < 10 :=
      fun d hd => rowDigits_lt (List.mem_reverse.mp hd)
    have below := Nat.ofDigits_lt_base_pow_length (by decide : 1 < 10) digits
    rwa [List.length_reverse] at below
  have number : v.toNat = Nat.ofDigits 10 (rowDigits row).reverse := by
    generalize Nat.ofDigits 10 (rowDigits row).reverse = n at signs
    cases signs with
    | bare => rfl
    | plus => rfl
    | minus => omega
  have some_ : 0 < (rowDigits row).length := by
    refine Nat.pos_of_ne_zero fun none => ?_
    rw [List.length_eq_zero_iff.mp none] at number
    have zero : v.toNat = 0 := number
    omega
  rw [number]
  exact Nat.le_trans ((Nat.length_toDigits_le_iff (by decide) some_).mpr bound) few

end QueryGuard.Text.Numeral
