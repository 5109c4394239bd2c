import QueryGuard.Database.Schema

/-!
# QueryGuard.Proofs.Text.QuotedName

Names in quotes, as the engine reads them:

```
quoted name   = quote ++ inside ++ quote
inside        = (character other than a quote | quote ++ quote)*
```

* `readQuoted` — reads what follows the opening quote, up to the quote that ends the name;
* `readQuoted_doubleQuotes` — a name whose quotes are doubled is read back whole, and the reader
  stops where the name does, whatever follows;
* `tablePragma_injective` — so different tables are asked for by different statements.
-/

namespace QueryGuard

/-- The double quote. -/
abbrev quote : Char := '\x22'

/-- Reads a quoted name, its opening quote left out: the name, and what is left from the quote on
that ends it.  Two quotes stand for one that belongs to the name. -/
def readQuoted : List Char → List Char × List Char
  | '\x22' :: '\x22' :: later =>
      let (name, left) := readQuoted later
      (quote :: name, left)
  | '\x22' :: later => ([], quote :: later)
  | c :: later =>
      let (name, left) := readQuoted later
      (c :: name, left)
  | [] => ([], [])

theorem readQuoted_quote_quote (later : List Char) :
    readQuoted (quote :: quote :: later) =
      (quote :: (readQuoted later).1, (readQuoted later).2) := rfl

/-- Any other character is read as it is. -/
theorem readQuoted_cons {c : Char} (plain : c ≠ quote) (later : List Char) :
    readQuoted (c :: later) = (c :: (readQuoted later).1, (readQuoted later).2) := by
  rw [readQuoted]
  · rintro _ rfl
    exact absurd rfl plain
  · exact plain

/-- **A name whose quotes are doubled is read back whole.**  Reading goes on behind it as if nothing
had come before. -/
theorem readQuoted_doubleQuotes (name later : List Char) :
    readQuoted (doubleQuotes name ++ later) =
      (name ++ (readQuoted later).1, (readQuoted later).2) := by
  induction name with
  | nil => rfl
  | cons c name ih =>
      rw [doubleQuotes, List.flatMap_cons, List.append_assoc]
      rw [doubleQuotes] at ih
      by_cases same : c = quote
      · subst same
        rw [if_pos rfl, List.cons_append, List.cons_append, List.nil_append,
          readQuoted_quote_quote, ih, List.cons_append]
      · rw [if_neg same, List.cons_append, List.nil_append, readQuoted_cons same, ih,
          List.cons_append]

/-- Nothing is left of a name whose quotes are doubled. -/
theorem readQuoted_inside (name : List Char) : readQuoted (doubleQuotes name) = (name, []) := by
  have read := readQuoted_doubleQuotes name []
  rwa [List.append_nil, readQuoted, List.append_nil] at read

/-- The name ends at the quote behind it, unless that quote is one of two. -/
theorem readQuoted_closed (name : List Char) {later : List Char}
    (single : later.head? ≠ some quote) :
    readQuoted (doubleQuotes name ++ quote :: later) = (name, quote :: later) := by
  have ends : readQuoted (quote :: later) = ([], quote :: later) := by
    rw [readQuoted]
    rintro other rfl
    exact absurd rfl single
  rw [readQuoted_doubleQuotes, ends, List.append_nil]

/-! ## statements -/

/-- A statement that lists something of a table, in its parts. -/
theorem toList_tablePragma (what table : String) :
    (tablePragma what table).toList =
      ("PRAGMA " ++ what ++ "(\"").toList ++
        (doubleQuotes table.toList ++ [quote, ')']) := by
  simp only [tablePragma, String.toList_append, String.toList_ofList, List.append_assoc]
  rfl

/-- Different tables are asked for by different statements. -/
theorem tablePragma_injective (what : String) : Function.Injective (tablePragma what) := by
  intro table other same
  have parts := congrArg String.toList same
  rw [toList_tablePragma, toList_tablePragma, List.append_cancel_left_eq] at parts
  have read := congrArg readQuoted parts
  rw [readQuoted_closed _ (by decide), readQuoted_closed _ (by decide)] at read
  exact String.toList_inj.mp (congrArg Prod.fst read)

end QueryGuard
