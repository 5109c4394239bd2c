import QueryGuard.Proofs.Text.Decimal
import QueryGuard.Proofs.Text.Numeral
import QueryGuard.Settings.Basic

/-!
# QueryGuard.Proofs.Settings.RecordLimit

The limit on rows that `MAX_RESULT_SET` sets.

A numeral for a positive number sets that number, whatever script its digits belong to, and all else
leaves the limit at 100 (`load_maxRecordCount`).  So there is always a limit, and it is at least
one.
-/

namespace QueryGuard.Settings

open Text Text.Numeral

variable {value? : Option String} {text : String} {limit : Int}

/-- The value of a variable is a numeral for a positive number. -/
def SetsLimit (value? : Option String) (limit : Int) : Prop :=
  ∃ text, value? = some text ∧ IsNumeral text.toList limit ∧ 0 < limit

theorem recordLimit_of_setsLimit (h : SetsLimit value? limit) : recordLimit value? = limit := by
  obtain ⟨text, rfl, numeral, positive⟩ := h
  simp only [recordLimit, parse?_eq_some_iff.mpr numeral, if_pos positive]

/-- A value that sets no limit leaves the usual one. -/
theorem recordLimit_of_not_setsLimit (h : ∀ limit, ¬ SetsLimit value? limit) :
    recordLimit value? = 100 := by
  cases value? with
  | none => rfl
  | some text =>
      cases read : parse? text.toList with
      | none => simp only [recordLimit, read, defaultMaxRecordCount]
      | some v =>
          have notPositive : ¬ 0 < v := fun positive =>
            h v ⟨text, rfl, parse?_eq_some_iff.mp read, positive⟩
          simp only [recordLimit, read, if_neg notPositive, defaultMaxRecordCount]

/-- The limit is 100 or is set by a numeral. -/
theorem recordLimit_cases (value? : Option String) :
    recordLimit value? = 100 ∨ SetsLimit value? (recordLimit value?) := by
  by_cases h : ∃ limit, SetsLimit value? limit
  · obtain ⟨limit, sets⟩ := h
    rw [recordLimit_of_setsLimit sets]
    exact .inr sets
  · exact .inl (recordLimit_of_not_setsLimit (not_exists.mp h))

/-- The decimal text of the limit is no longer than a numeral may be. -/
theorem length_toDigits_recordLimit (value? : Option String) :
    (Nat.toDigits 10 (recordLimit value?).toNat).length ≤ 4300 := by
  obtain default | ⟨text, -, numeral, positive⟩ := recordLimit_cases value?
  · rw [default]
    decide
  · exact numeral.length_toDigits_le positive

theorem maxRecordCount_load (env : Environment) :
    (load env).maxRecordCount = recordLimit (env.get? "MAX_RESULT_SET") := by
  rw [load]

/-- The limit of settings that were read can be written. -/
theorem isWritable_maxRecordCount (env : Environment) :
    Decimal.IsWritable (load env).maxRecordCount := by
  have positive := recordLimit_pos (env.get? "MAX_RESULT_SET")
  have size : (recordLimit (env.get? "MAX_RESULT_SET")).natAbs =
      (recordLimit (env.get? "MAX_RESULT_SET")).toNat := by omega
  rw [maxRecordCount_load, Decimal.isWritable_iff, size]
  exact length_toDigits_recordLimit _

/-- **`MAX_RESULT_SET` is read by exactly the grammar of numerals**: a numeral for a positive number
sets that limit, and in all other cases the limit is 100.  So the limit is at least one, and the
decimal text of a number of at most 4300 digits sets that number, with blanks around it and with or
without a plus sign. -/
theorem load_maxRecordCount (env : Environment) :
    (∀ limit, SetsLimit (env.get? "MAX_RESULT_SET") limit → (load env).maxRecordCount = limit) ∧
      ((∀ limit, ¬ SetsLimit (env.get? "MAX_RESULT_SET") limit) →
        (load env).maxRecordCount = 100) ∧
      1 ≤ (load env).maxRecordCount ∧
      ∀ (n : Nat) (before sign after : List Char),
        1 ≤ n → (Nat.toDigits 10 n).length ≤ 4300 → allBlank before = true →
          allBlank after = true → (sign = [] ∨ sign = ['+']) →
            let text := String.ofList (before ++ (sign ++ Nat.toDigits 10 n) ++ after)
            (load (env.set "MAX_RESULT_SET" text)).maxRecordCount = n := by
  rw [maxRecordCount_load]
  refine ⟨fun _ => recordLimit_of_setsLimit, recordLimit_of_not_setsLimit, recordLimit_pos _, ?_⟩
  intro n before sign after positive few front back plain text
  have numeral : IsNumeral text.toList n := by
    rw [String.toList_ofList]
    exact isNumeral_toDigits front back plain few
  have sets : SetsLimit ((env.set "MAX_RESULT_SET" text).get? "MAX_RESULT_SET") n :=
    ⟨text, by rw [Environment.get?_set, if_pos rfl], numeral, by omega⟩
  rw [maxRecordCount_load]
  exact recordLimit_of_setsLimit sets

/-- A numeral with a sign, an underscore and digits of two scripts, between blanks, and the decimal
text of 250 behind a plus sign. -/
theorem load_maxRecordCount_of_numerals :
    SetsLimit (some "\u2003+1_\u0662\n") 12 ∧
      (load (Environment.empty.set "MAX_RESULT_SET" "\u2003+1_\u0662\n")).maxRecordCount = 12 ∧
      (load (Environment.empty.set "MAX_RESULT_SET" " +250\t")).maxRecordCount = 250 := by
  have sets : SetsLimit (some "\u2003+1_\u0662\n") 12 :=
    ⟨_, rfl, parse?_eq_some_iff.mp (by decide +kernel), by decide⟩
  have text : String.ofList ([' '] ++ (['+'] ++ Nat.toDigits 10 250) ++ ['\t']) = " +250\t" := by
    decide
  refine ⟨sets, (load_maxRecordCount (Environment.empty.set "MAX_RESULT_SET" _)).1 12 ?_, ?_⟩
  · rwa [Environment.get?_set, if_pos rfl]
  · have read := (load_maxRecordCount .empty).2.2.2 250 [' '] ['+'] ['\t'] (by decide) (by decide)
      rfl rfl (.inr rfl)
    rwa [text] at read

end QueryGuard.Settings
