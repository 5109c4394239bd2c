import QueryGuard.Value

/-!
# QueryGuard.Row

Rows as answers show them: column names with values, each name once.  Where the columns of a
statement have equal names, the name keeps its first place and takes its last value.
-/

namespace QueryGuard

/-- A row: the column names in order, each with its value. -/
structure Row where
  entries : List (String × Value)
deriving DecidableEq, Repr

namespace Row

/-- Gives a name a value: in its place if the name is there, else at the end. -/
def put (name : String) (value : Value) : List (String × Value) → List (String × Value)
  | [] => [(name, value)]
  | (n, v) :: rest => if n = name then (name, value) :: rest else (n, v) :: put name value rest

/-- The row of named values given in order. -/
def ofPairs (pairs : List (String × Value)) : Row :=
  ⟨pairs.foldl (fun entries pair => put pair.1 pair.2 entries) []⟩

/-- The row of values delivered under column names, each in its presentable form.  Names without a
value and values without a name are left out. -/
def ofColumns (columns : List String) (values : List Value) : Row :=
  ofPairs (columns.zip (values.map Value.presentable))

/-- The values of a row, in the order of its names. -/
def values (row : Row) : List Value := row.entries.map Prod.snd

/-- The JSON form of a row: an object with a field for each name. -/
def toJson (row : Row) : Json := .object (row.entries.map fun entry => (entry.1, entry.2.toJson))

/-! ## names and values of a row -/

/-- Putting a value adds its name at the end, unless the name is there. -/
theorem names_put (name : String) (value : Value) (entries : List (String × Value)) :
    (put name value entries).map Prod.fst =
      if name ∈ entries.map Prod.fst then entries.map Prod.fst
      else entries.map Prod.fst ++ [name] := by
  induction entries with
  | nil => rfl
  | cons entry entries ih =>
      obtain ⟨n, v⟩ := entry
      by_cases h : n = name
      · subst h
        simp [put]
      · simp only [put, if_neg h, List.map_cons, ih, List.mem_cons, Ne.symm h, false_or]
        split <;> rfl

/-- Putting a value keeps every name single. -/
theorem nodup_names_put {name : String} {value : Value} {entries : List (String × Value)}
    (h : (entries.map Prod.fst).Nodup) : ((put name value entries).map Prod.fst).Nodup := by
  rw [names_put]
  split
  · exact h
  · next absent =>
    rw [List.nodup_append]
    refine ⟨h, by simp, ?_⟩
    intro a ha b hb same
    subst same
    rw [List.mem_singleton] at hb
    exact absent (hb ▸ ha)

end Row

end QueryGuard
