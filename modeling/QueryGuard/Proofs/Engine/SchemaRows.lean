import Mathlib.Data.List.Forall2
import QueryGuard.Database.Schema

/-!
# QueryGuard.Proofs.Engine.SchemaRows

What the rows of schema statements are read as, told by the places of values in a row.

* `StandsUnder` — a value stands under a column name;
* `Column.Shows`, `Index.Shows`, `ForeignKey.Shows` — an entry shows its row field by field;
* `Column.exists_ofRow` and its siblings — each row with a value for every field is read as such an
  entry;
* `exists_forall₂` — so a list of rows is read as as many entries, in the same order.
-/

namespace QueryGuard

variable {α β : Type}

/-! ## values under names -/

/-- A value stands in a row under a column name: at the first place where a column answers to the
name. -/
def StandsUnder (columns : List String) (row : List Value) (name : String) (value : Value) :
    Prop :=
  ∃ (i : Nat) (column : String), columns[i]? = some column ∧ AnswersTo name column ∧
    row[i]? = some value ∧ ∀ j < i, ∀ c, columns[j]? = some c → ¬ AnswersTo name c

/-- A row says yes or no under a column name, by a value that counts as yes or does not.  Of whole
numbers, zero alone does not. -/
structure SaysUnder (columns : List String) (row : List Value) (name : String) (answer : Bool) :
    Prop where
  value : ∃ value, StandsUnder columns row name value ∧ answer = value.isTruthy
  number : ∀ n : Int, StandsUnder columns row name (.int n) → (answer = true ↔ n ≠ 0)

/-- A row has a value under each of some column names. -/
def Carries (names columns : List String) (row : List Value) : Prop :=
  ∀ name ∈ names, ∃ value, StandsUnder columns row name value

section

variable {columns : List String} {row : List Value} {name : String} {value : Value}

/-- The first value stands under every name that the first column answers to; the names that it does
not answer to are looked for further on. -/
theorem standsUnder_cons {column : String} {first : Value} :
    StandsUnder (column :: columns) (first :: row) name value ↔
      if AnswersTo name column then first = value else StandsUnder columns row name value := by
  split
  · next answers =>
    constructor
    · rintro ⟨i, _, _, _, stands, none⟩
      cases i with
      | zero => exact Option.some.inj stands
      | succ i => exact absurd answers (none 0 (Nat.succ_pos i) column rfl)
    · rintro rfl
      exact ⟨0, column, rfl, answers, rfl, fun j before => absurd before (Nat.not_lt_zero j)⟩
  · next other =>
    constructor
    · rintro ⟨i, c, found, answers, stands, none⟩
      cases i with
      | zero => exact absurd (Option.some.inj found ▸ answers) other
      | succ i =>
          exact ⟨i, c, found, answers, stands, fun j before => none (j + 1) (by omega)⟩
    · rintro ⟨i, c, found, answers, stands, none⟩
      refine ⟨i + 1, c, found, answers, stands, fun j before d at_j => ?_⟩
      cases j with
      | zero => exact Option.some.inj at_j ▸ other
      | succ j => exact none j (by omega) d at_j

/-- The value looked for by name is the one that stands under the name. -/
theorem valueOf_eq_ok_iff : valueOf columns row name = .ok value ↔
    StandsUnder columns row name value := by
  induction columns generalizing row with
  | nil => simp [valueOf, StandsUnder]
  | cons column columns ih =>
      cases row with
      | nil => simp [valueOf, StandsUnder]
      | cons first row =>
          rw [standsUnder_cons, valueOf, List.zip_cons_cons, List.find?_cons]
          by_cases answers : AnswersTo name column
          · simp [answers]
          · rw [if_neg answers, ← ih, valueOf, decide_eq_false answers]

instance : Decidable (∃ value, StandsUnder columns row name value) :=
  decidable_of_iff (valueOf columns row name).toOption.isSome (by
    simp only [← valueOf_eq_ok_iff]
    cases valueOf columns row name <;> simp [Except.toOption])

instance (names : List String) : Decidable (Carries names columns row) :=
  inferInstanceAs (Decidable (∀ name ∈ names, ∃ value, StandsUnder columns row name value))

/-- A row says under a name what the value under it says. -/
theorem saysUnder_isTruthy (stands : StandsUnder columns row name value) :
    SaysUnder columns row name value.isTruthy := by
  refine ⟨⟨value, stands, rfl⟩, fun n number => ?_⟩
  have same : value = .int n := by
    have read := valueOf_eq_ok_iff.mpr stands
    rw [valueOf_eq_ok_iff.mpr number] at read
    exact (Except.ok.inj read).symm
  rw [same]
  exact bne_iff_ne

end

/-! ## entries -/

/-- The column names of the column list of a table. -/
def Column.fields : List String := ["name", "type", "notnull", "dflt_value", "pk"]

/-- The column names of the index list of a table. -/
def Index.fields : List String := ["name", "unique", "origin"]

/-- The column names of the foreign key list of a table. -/
def ForeignKey.fields : List String := ["from", "table", "to", "on_update", "on_delete"]

/-- A column shows its row in the column list. -/
structure Column.Shows (columns : List String) (row : List Value) (column : Column) : Prop where
  name : StandsUnder columns row "name" column.name
  type : StandsUnder columns row "type" column.type
  notNull : SaysUnder columns row "notnull" column.notNull
  default : StandsUnder columns row "dflt_value" column.default
  primaryKey : SaysUnder columns row "pk" column.primaryKey

/-- An index shows its row in the index list. -/
structure Index.Shows (columns : List String) (row : List Value) (index : Index) : Prop where
  name : StandsUnder columns row "name" index.name
  unique : SaysUnder columns row "unique" index.unique
  origin : StandsUnder columns row "origin" index.origin

/-- A foreign key shows its row in the foreign key list. -/
structure ForeignKey.Shows (columns : List String) (row : List Value) (key : ForeignKey) :
    Prop where
  column : StandsUnder columns row "from" key.column
  referencesTable : StandsUnder columns row "table" key.referencesTable
  referencesColumn : StandsUnder columns row "to" key.referencesColumn
  onUpdate : StandsUnder columns row "on_update" key.onUpdate
  onDelete : StandsUnder columns row "on_delete" key.onDelete

section

variable {columns : List String} {row : List Value}

/-- A row with all fields of a column is read as a column that shows them. -/
theorem Column.exists_ofRow (carries : Carries Column.fields columns row) :
    ∃ column, Column.ofRow columns row = .ok column ∧ column.Shows columns row := by
  simp only [Carries, Column.fields, List.forall_mem_cons] at carries
  obtain ⟨⟨name, hName⟩, ⟨type, hType⟩, ⟨notNull, hNotNull⟩, ⟨default, hDefault⟩,
    ⟨position, hPosition⟩, -⟩ := carries
  refine ⟨⟨name, type, notNull.isTruthy, default, position.isTruthy⟩, ?_, hName, hType,
    saysUnder_isTruthy hNotNull, hDefault, saysUnder_isTruthy hPosition⟩
  simp only [Column.ofRow, valueOf_eq_ok_iff.mpr hName, valueOf_eq_ok_iff.mpr hType,
    valueOf_eq_ok_iff.mpr hNotNull, valueOf_eq_ok_iff.mpr hDefault,
    valueOf_eq_ok_iff.mpr hPosition]
  rfl

/-- A row with all fields of an index is read as an index that shows them. -/
theorem Index.exists_ofRow (carries : Carries Index.fields columns row) :
    ∃ index, Index.ofRow columns row = .ok index ∧ index.Shows columns row := by
  simp only [Carries, Index.fields, List.forall_mem_cons] at carries
  obtain ⟨⟨name, hName⟩, ⟨unique, hUnique⟩, ⟨origin, hOrigin⟩, -⟩ := carries
  refine ⟨⟨name, unique.isTruthy, origin⟩, ?_, hName, saysUnder_isTruthy hUnique, hOrigin⟩
  simp only [Index.ofRow, valueOf_eq_ok_iff.mpr hName, valueOf_eq_ok_iff.mpr hUnique,
    valueOf_eq_ok_iff.mpr hOrigin]
  rfl

/-- A row with all fields of a foreign key is read as a key that shows them. -/
theorem ForeignKey.exists_ofRow (carries : Carries ForeignKey.fields columns row) :
    ∃ key, ForeignKey.ofRow columns row = .ok key ∧ key.Shows columns row := by
  simp only [Carries, ForeignKey.fields, List.forall_mem_cons] at carries
  obtain ⟨⟨column, hColumn⟩, ⟨table, hTable⟩, ⟨target, hTarget⟩, ⟨update, hUpdate⟩,
    ⟨delete, hDelete⟩, -⟩ := carries
  refine ⟨⟨column, table, target, update, delete⟩, ?_, hColumn, hTable, hTarget, hUpdate, hDelete⟩
  simp only [ForeignKey.ofRow, valueOf_eq_ok_iff.mpr hColumn, valueOf_eq_ok_iff.mpr hTable,
    valueOf_eq_ok_iff.mpr hTarget, valueOf_eq_ok_iff.mpr hUpdate, valueOf_eq_ok_iff.mpr hDelete]
  rfl

end

/-! ## lists -/

/-- If each member of a list has a partner, the list has a list of partners. -/
theorem exists_forall₂ {R : α → β → Prop} {as : List α} (each : ∀ a ∈ as, ∃ b, R a b) :
    ∃ bs, List.Forall₂ R as bs := by
  induction as with
  | nil => exact ⟨[], .nil⟩
  | cons a as ih =>
      obtain ⟨⟨b, partner⟩, rest⟩ := List.forall_mem_cons.mp each
      obtain ⟨bs, partners⟩ := ih rest
      exact ⟨b :: bs, .cons partner partners⟩

end QueryGuard
