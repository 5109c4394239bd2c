import Mathlib.Data.List.Induction
import QueryGuard.Proofs.Engine.Delivery

/-!
# QueryGuard.Proofs.Engine.RowMaps

Rows with equal column names:

```
columns   a   b   a         row of an answer   a ↦ 3
values    1   2   3                            b ↦ 2
```

* `Row.Collapses` — each name once, at the place where it comes first, with the value that comes
  last under it;
* `Row.collapses_ofColumns` — so is each row made of the values of a statement;
* `rowSource_collapses` — and so are the rows that the source of rows delivers, and those kept of
  them.
-/

namespace QueryGuard

open Text

/-- A value stands last in a row under a column name: at the last place where the columns have
it. -/
def StandsLastUnder (columns : List String) (row : List Value) (name : String) (value : Value) :
    Prop :=
  ∃ i : Nat, columns[i]? = some name ∧ row[i]? = some value ∧ ∀ j > i, columns[j]? ≠ some name

namespace Row

/-- A row of an answer has the column names in the order in which they come first, and under each of
them the presentable form of the value that stands last there. -/
structure Collapses (columns : List String) (values : List Value) (row : Row) : Prop where
  names : row.entries.map Prod.fst = columns.eraseDups
  values : ∀ entry ∈ row.entries, ∃ value,
    StandsLastUnder columns values entry.1 value ∧ entry.2 = value.presentable

/-! ## pairs put one after the other -/

section

variable {name : String} {value : Value} {entries : List (String × Value)} {entry : String × Value}

/-- The last of the pairs is put into the row that the others make. -/
theorem entries_ofPairs_append (pairs : List (String × Value)) (pair : String × Value) :
    (ofPairs (pairs ++ [pair])).entries = put pair.1 pair.2 (ofPairs pairs).entries := by
  rw [ofPairs, List.foldl_append]
  rfl

/-- The names of pairs put one after the other come in the order in which they come first. -/
theorem names_ofPairs (pairs : List (String × Value)) :
    (ofPairs pairs).entries.map Prod.fst = (pairs.map Prod.fst).eraseDups := by
  induction pairs using List.reverseRecOn with
  | nil => rfl
  | append_singleton pairs pair ih =>
      rw [entries_ofPairs_append, names_put, ih, List.map_append, List.eraseDups_append]
      simp only [List.mem_eraseDups, List.removeAll, List.map_cons, List.map_nil]
      by_cases there : pair.1 ∈ pairs.map Prod.fst
      · simp [there]
      · simp [there, List.eraseDups_cons]

/-- No name stands twice in a row that is made of pairs. -/
theorem nodup_names_ofPairs (pairs : List (String × Value)) :
    ((ofPairs pairs).entries.map Prod.fst).Nodup := by
  induction pairs using List.reverseRecOn with
  | nil => exact List.nodup_nil
  | append_singleton pairs pair ih =>
      rw [entries_ofPairs_append]
      exact nodup_names_put ih

/-- Putting a value leaves the entries of other names, and none of the same name. -/
theorem mem_put (single : (entries.map Prod.fst).Nodup) (mem : entry ∈ put name value entries) :
    entry = (name, value) ∨ entry ∈ entries ∧ entry.1 ≠ name := by
  induction entries with
  | nil => exact .inl (List.mem_singleton.mp mem)
  | cons first entries ih =>
      obtain ⟨n, v⟩ := first
      rw [List.map_cons, List.nodup_cons] at single
      rw [put] at mem
      split at mem
      · next same =>
        subst same
        obtain rfl | mem := List.mem_cons.mp mem
        · exact .inl rfl
        · have named : entry.1 ∈ entries.map Prod.fst := List.mem_map_of_mem mem
          exact .inr ⟨.tail _ mem, fun same => single.1 (same ▸ named)⟩
      · next other =>
        obtain rfl | mem := List.mem_cons.mp mem
        · exact .inr ⟨.head _, other⟩
        · exact (ih single.2 mem).imp_right fun kept => ⟨.tail _ kept.1, kept.2⟩

/-- An entry of pairs put one after the other is the last of them that has its name. -/
theorem exists_last_ofPairs {pairs : List (String × Value)}
    (mem : entry ∈ (ofPairs pairs).entries) :
    ∃ i : Nat, pairs[i]? = some entry ∧
      ∀ j > i, ∀ other, pairs[j]? = some other → other.1 ≠ entry.1 := by
  induction pairs using List.reverseRecOn with
  | nil => cases mem
  | append_singleton pairs pair ih =>
      rw [entries_ofPairs_append] at mem
      obtain rfl | ⟨kept, other⟩ := mem_put (nodup_names_ofPairs pairs) mem
      · refine ⟨pairs.length, List.getElem?_concat_length, fun j after other found => ?_⟩
        have none : (pairs ++ [pair])[j]? = none := by
          apply List.getElem?_eq_none
          rw [List.length_append]
          exact after
        rw [none] at found
        cases found
      · obtain ⟨i, found, last⟩ := ih kept
        have within : i < pairs.length := (List.getElem?_eq_some_iff.mp found).1
        refine ⟨i, by rwa [List.getElem?_append_left within], fun j after later found => ?_⟩
        by_cases before : j < pairs.length
        · rw [List.getElem?_append_left before] at found
          exact last j after later found
        · rw [List.getElem?_append_right (Nat.le_of_not_lt before)] at found
          have same : later = pair := by
            simpa using List.mem_of_getElem? found
          exact same ▸ other.symm

end

/-- A row of values is collapsed if there are as many of them as columns. -/
theorem collapses_ofColumns {columns : List String} {values : List Value}
    (even : values.length = columns.length) :
    (ofColumns columns values).Collapses columns values := by
  have presented : (values.map Value.presentable).length = columns.length := by
    rw [List.length_map, even]
  constructor
  · rw [ofColumns, names_ofPairs, List.map_fst_zip (Nat.le_of_eq presented.symm)]
  · intro entry mem
    obtain ⟨i, found, last⟩ := exists_last_ofPairs mem
    obtain ⟨named, shown⟩ := List.getElem?_zip_eq_some.mp found
    rw [List.getElem?_map, Option.map_eq_some_iff] at shown
    obtain ⟨value, stands, shown⟩ := shown
    refine ⟨value, ⟨i, named, stands, fun j after same => ?_⟩, shown.symm⟩
    have within : j < (values.map Value.presentable).length := by
      rw [presented]
      exact (List.getElem?_eq_some_iff.mp same).1
    exact last j after (entry.1, (values.map Value.presentable)[j])
      (List.getElem?_zip_eq_some.mpr ⟨same, List.getElem?_eq_getElem within⟩) rfl

end Row

/-- The rows that a reply delivers are collapsed if each has a value for every column. -/
theorem Reply.collapses_rowFeed {reply : Reply}
    (even : ∀ row ∈ reply.rows, row.length = (reply.columns.getD []).length) :
    List.Forall₂ (Row.Collapses (reply.columns.getD [])) reply.feed.items
      reply.rowFeed.items := by
  rw [rowFeed, Feed.items_map, List.forall₂_map_right_iff, List.forall₂_same]
  exact fun row mem => Row.collapses_ofColumns (even row (mem_rows_of_mem_items mem))

/-- Bytes are presented as a text that gives them back. -/
theorem Value.exists_presentable_bytes (bytes : List UInt8) :
    ∃ text, (blob bytes).presentable = .text text ∧ (view bytes).presentable = .text text ∧
      text.toList.length = 2 * bytes.length ∧ (∀ c ∈ text.toList, c ∈ Hex.digits) ∧
      Hex.decode? text.toList = some bytes := by
  refine ⟨String.ofList (Hex.encode bytes), rfl, rfl, ?_⟩
  rw [String.toList_ofList]
  exact ⟨Hex.length_encode bytes, Hex.forall_encode_mem_digits bytes, Hex.decode?_encode bytes⟩

/-- A value that is not bytes is presented as it is. -/
theorem Value.presentable_of_ne_bytes {value : Value}
    (other : ∀ bytes, value ≠ blob bytes ∧ value ≠ view bytes) : value.presentable = value := by
  cases value with
  | null | bool _ | int _ | real _ | text _ => rfl
  | blob bytes => exact absurd rfl (other bytes).1
  | view bytes => exact absurd rfl (other bytes).2

namespace Engine

/-- **Rows with equal column names collapse by their last values, and bytes can be had back.**  Each
row that the engine delivers becomes one with the distinct names in the order in which they come
first, and under each name the presentable form of its last value.  These are the rows that a reader
of the source takes, and those that are kept of them under a limit before the note on rows left out
is made. -/
theorem rowSource_collapses (path query : String) {engine : Engine} (opens : engine.script.Opens)
    (executes : (engine.script.replyTo query).executeFault? = none)
    (even : ∀ row ∈ (engine.script.replyTo query).rows,
      row.length = ((engine.script.replyTo query).columns.getD []).length) :
    let script := engine.script
    let reply := script.replyTo query
    (∃ found, List.Forall₂ (Row.Collapses (reply.columns.getD [])) reply.feed.items found ∧
      (∃ feed opened, ((rowSource path).enter query).run.run engine =
        (.ok (⟨engine.connections⟩, feed), opened) ∧ feed.items = found) ∧
      (script.closeCursorFault? = none → script.closeFault? = none →
        (∀ take, reply.fault? take = none →
          ((pullRows path query take none).run.run engine).1 = .ok (upTo take found)) ∧
        (reply.fault? none = none → ∀ limit : Int,
          ((readBounded (rowSource path) query limit).run.run engine).1 =
            (Reading.complete (found.take limit.toNat) found.length limit).told))) ∧
    (∀ bytes, ∃ text,
      (Value.blob bytes).presentable = .text text ∧ (Value.view bytes).presentable = .text text ∧
        text.toList.length = 2 * bytes.length ∧ (∀ c ∈ text.toList, c ∈ Hex.digits) ∧
        Hex.decode? text.toList = some bytes) ∧
    ∀ value : Value, (∀ bytes, value ≠ .blob bytes ∧ value ≠ .view bytes) →
      value.presentable = value := by
  intro script reply
  refine ⟨⟨reply.rowFeed.items, Reply.collapses_rowFeed even,
    ⟨_, _, run_enter_of_executes opens rfl executes path, rfl⟩, fun released closed => ⟨?_, ?_⟩⟩,
    Value.exists_presentable_bytes, fun _ => Value.presentable_of_ne_bytes⟩
  · intro take clean
    obtain ⟨ended, -⟩ := run_visit_of_executes opens rfl executes path take none
    have last : script.closeFault?.or (script.closeCursorFault?.or
        ((reply.feed.met? take).or none)) = none := by
      rw [closed, released, (Option.or_eq_none_iff.mp clean).2]
      rfl
    rw [last] at ended
    rw [pullRows_eq_visit]
    exact ended
  · intro clean limit
    obtain ⟨later, read, -⟩ :=
      run_gatherRows_of_clean opens rfl clean released closed path limit
    rw [run_readBounded_of_gatherRows read]

/-- Two columns of the same name, the second of them with bytes, and one with nothing. -/
theorem rowSource_collapses_of_repeated_name :
    let columns := ["a", "b", "a"]
    let values : List Value := [.int 1, .null, .blob [171]]
    let script : Script := { Script.empty with replies := [⟨some columns, [values], -1, none⟩] }
    let row : Row := ⟨[("a", .text "ab"), ("b", .null)]⟩
    ((pullRows "app.db" "SELECT * FROM t" none none).run.run (.start script)).1 = .ok [row] ∧
      row.Collapses columns values := by
  intro columns values script row
  have reply : (start script).script.replyTo "SELECT * FROM t" =
      ⟨some columns, [values], -1, none⟩ := Script.replyTo_of_ne _ (by decide)
  obtain ⟨⟨found, collapsed, -, reads⟩, -⟩ := rowSource_collapses "app.db" "SELECT * FROM t"
    (⟨rfl, rfl⟩ : (start script).script.Opens) (by rw [reply]; rfl) (by rw [reply]; decide)
  rw [reply] at collapsed reads
  have pulled := (reads rfl rfl).1 none rfl
  have computed : ((pullRows "app.db" "SELECT * FROM t" none none).run.run (start script)).1 =
      .ok [row] := by rfl
  have same : found = [row] := Except.ok.inj (pulled.symm.trans computed)
  subst same
  cases collapsed with
  | cons one _ => exact ⟨computed, one⟩

end Engine

end QueryGuard
