import QueryGuard.Proofs.Reading.Limit
import QueryGuard.Proofs.Reading.Note
import QueryGuard.Reading.Scripted

/-!
# QueryGuard.Proofs.Reading.Outcome

What a caller is told of a reading.

* `readBounded_of_delivers` — of a source without a fault: the first rows, the number of all of
  them, and a note if some were left out;
* `readBounded_raises` — nothing at all, if the note is to name a limit that cannot be written;
* `readBounded_of_failure` — of a source that fails, wherever it does: no rows at all, the number of
  those that came before the failure, and as much of the fault as a caller may see.
-/

namespace QueryGuard

variable {σ η : Type}

/-! ## sources without a fault -/

/-- Of the rows of a source the first ones are kept, none if the limit is below zero. -/
theorem Reading.rows_ended (limit : Int) (rows : List Row) :
    (ended limit rows none).rows = rows.take (min rows.length (max limit 0).toNat) := by
  have cap : (max limit 0).toNat = limit.toNat := by omega
  rw [cap, Nat.min_comm, ← List.take_eq_take_min]
  rfl

/-- Rows were left out exactly if there are more than the limit. -/
theorem Reading.isTruncated_ended (limit : Int) (rows : List Row) :
    (ended limit rows none).isTruncated = true ↔ limit < rows.length := decide_eq_true_iff

/-- Rows left out have a note. -/
theorem Reading.note?_ended (limit : Int) (rows : List Row) :
    (ended limit rows none).note? =
      if (ended limit rows none).isTruncated then some (truncationSentence rows.length limit)
      else none := by
  simp only [isTruncated_ended]
  rfl

/-- Rows were left out exactly if fewer were kept than came, as long as the limit is none below
zero. -/
theorem Reading.isTruncated_ended_iff_length_lt {limit : Int} (rows : List Row)
    (natural : 0 ≤ limit) :
    (ended limit rows none).isTruncated = true ↔
      (ended limit rows none).rows.length < (ended limit rows none).total := by
  have total : (ended limit rows none).total = rows.length := rfl
  rw [isTruncated_ended, rows_ended, total, List.length_take]
  omega

/-- **A source without a fault is read to its end, and its first rows are kept.**  It is opened once
with the query as it was given, asked once for each row and once more to learn that there are no
more, and released.  The limit may be large or small, as long as it has no more than 4300 digits if
it is exceeded: the reading is complete, tells the number of all the rows, and has a note on them
exactly if there are more than the limit. -/
theorem readBounded_of_delivers {source : RowSource σ η} {query : String} {rows : List Row}
    {opens : StateM σ η} {releases : η → StateM σ Unit} (limit : Int)
    (few : limit < rows.length → (Nat.toDigits 10 limit.natAbs).length ≤ 4300)
    (enters : source.enter query = do return (← liftM opens, .ofList none rows))
    (exits : ∀ handle, source.exit handle rows.length = liftM (releases handle)) :
    ∃ reading : Reading,
      (readBounded source query limit).run = (do
        let handle ← opens
        requests (source.ask handle) (rows.length + 1)
        releases handle
        return .ok reading) ∧
      reading.isComplete = true ∧ reading.error? = none ∧
      reading.rows = rows.take (min rows.length (max limit 0).toNat) ∧
      reading.total = rows.length ∧
      (reading.isTruncated = true ↔ limit < rows.length) ∧
      reading.note? =
        (if reading.isTruncated then some (truncationSentence rows.length limit) else none) ∧
      (reading.isTruncated = true → (Nat.toDigits 10 rows.length).length ≤ 4300 →
        truncationText rows.length limit = .ok (truncationSentence rows.length limit)) ∧
      (0 ≤ limit → (reading.isTruncated = true ↔ reading.rows.length < reading.total)) := by
  have opened : (source.enter query).run = opens >>= fun handle =>
      pure (.ok (handle, .ofList none rows)) := by
    rw [enters]
    rfl
  have released : ∀ handle, (source.exit handle rows.length).run = releases handle >>= fun _ =>
      pure (.ok ()) := by
    intro handle
    rw [exits]
    rfl
  have writable : limit < rows.length → Decimal.IsWritable limit :=
    fun more => (Decimal.isWritable_iff limit).mpr (few more)
  have told : (Reading.ended limit rows none).told = .ok (.ended limit rows none) :=
    Reading.told_complete writable
  refine ⟨.ended limit rows none, ?_, rfl, rfl, Reading.rows_ended limit rows, rfl,
    Reading.isTruncated_ended limit rows, Reading.note?_ended limit rows, ?_,
    Reading.isTruncated_ended_iff_length_lt rows⟩
  · rw [readBounded_run, gatherRows_eq, opened]
    simp only [bind_assoc]
    refine bind_congr fun handle => ?_
    simp only [pure_bind, Feed.items_ofList, Feed.fault?_ofList, Feed.askAll_ofList, released,
      bind_assoc, told]
  · intro truncated countable
    have more := (Reading.isTruncated_ended limit rows).mp truncated
    exact truncationText_eq_ok_iff.mpr
      ⟨⟨(Decimal.isWritable_iff rows.length).mpr countable, writable more⟩, rfl⟩

/-- A limit below zero keeps no row, and the note tells it as it is. -/
theorem readBounded_of_delivers_below_zero :
    let rows : List Row := [⟨[("n", .int 1)]⟩, ⟨[("n", .int 2)]⟩]
    let script : ScriptedSource := ⟨none, rows, none, none⟩
    ∃ reading, (readBounded script.source "SELECT n FROM t" (-1)).run.run .none =
        (.ok reading, ⟨some "SELECT n FROM t", 2, true⟩) ∧
      reading.isComplete = true ∧ reading.rows = [] ∧ reading.total = 2 ∧
      reading.note? = some "Query returned 2 records, limited to -1" := by
  intro rows script
  let opens : StateM Usage Unit := modify fun usage =>
    { usage with openedWith := some "SELECT n FROM t" }
  let releases : Unit → StateM Usage Unit := fun _ => modify fun usage =>
    { usage with pulled := rows.length, released := true }
  have enters : script.source.enter "SELECT n FROM t" =
      (do return (← liftM opens, .ofList none rows)) := rfl
  have exits : ∀ handle, script.source.exit handle rows.length = liftM (releases handle) :=
    fun _ => rfl
  obtain ⟨reading, ran, complete, -, kept, total, truncated, note, -⟩ :=
    readBounded_of_delivers (-1) (fun _ => by decide) enters exits
  refine ⟨reading, ?_, complete, kept, total, ?_⟩
  · rw [ran]
    rfl
  · rw [note, truncated.mpr (by decide)]
    decide +kernel

/-- A limit below zero that has more than 4300 digits cannot be told, and the reading raises. -/
theorem readBounded_raises :
    let limit := -Decimal.firstTooLong
    let script : ScriptedSource := ⟨none, [], none, none⟩
    (readBounded script.source "SELECT 1" limit).run.run .none =
        (.error Decimal.tooLong, ⟨some "SELECT 1", 0, true⟩) ∧
      ¬ ∀ limit : Int, ∃ reading usage,
        (readBounded script.source "SELECT 1" limit).run.run .none = (.ok reading, usage) := by
  intro limit script
  have gathered (limit : Int) : (gatherRows script.source "SELECT 1" limit).run .none =
      (.complete [] 0 limit, ⟨some "SELECT 1", 0, true⟩) := rfl
  have unwritable : ¬ Decimal.IsWritable limit := by
    rw [Decimal.isWritable_neg]
    exact Decimal.not_isWritable_firstTooLong
  have below : limit < (0 : Nat) := by
    have positive : 0 < Decimal.firstTooLong := Decimal.firstTooLong_pos
    simp only [limit]
    omega
  have raises : (Reading.complete [] 0 limit).told = .error Decimal.tooLong := by
    rw [Reading.told, if_pos ⟨below, unwritable⟩]
  have ran := run_readBounded_of_gatherRows (gathered limit)
  rw [raises] at ran
  refine ⟨ran, fun all => ?_⟩
  obtain ⟨reading, usage, answered⟩ := all limit
  rw [ran] at answered
  cases answered

/-! ## sources that fail -/

/-- The fault that using a scripted source ends in, if it ends in one, and the number of rows that
came before it.  A fault on release comes last, and takes the place of one that ended the rows. -/
def ScriptedSource.failure? (script : ScriptedSource) : Option (Nat × Fault) :=
  match script.openFault? with
  | some fault => some (0, fault)
  | none => (script.closeFault?.or script.rowFault?).map (script.rows.length, ·)

/-- Requests that are not noted do nothing. -/
theorem Feed.askAll_pure {α : Type} (feed : Feed α) :
    feed.askAll (fun _ => (pure () : StateM σ Unit)) = pure () := by
  induction feed with
  | done => rfl
  | broken fault => rfl
  | item a rest ih => rw [askAll, pure_bind, ih]

/-- What is gathered from a scripted source, told from the script. -/
theorem ScriptedSource.run_gatherRows (script : ScriptedSource) (query : String) (limit : Int) :
    (gatherRows script.source query limit).run .none =
      match script.openFault? with
      | some fault => (.ended limit [] (some fault), ⟨some query, 0, false⟩)
      | none => (.ended limit script.rows (script.closeFault?.or script.rowFault?),
          ⟨some query, script.rows.length, true⟩) := by
  obtain ⟨openFault?, rows, rowFault?, closeFault?⟩ := script
  rw [gatherRows_eq]
  cases openFault? with
  | some fault => rfl
  | none =>
      let source := (⟨none, rows, rowFault?, closeFault?⟩ : ScriptedSource).source
      let feed : Feed Row := .ofList rowFault? rows
      have entered : (source.enter query).run.run .none =
          (.ok ((), feed), ⟨some query, 0, false⟩) := rfl
      have asked : feed.askAll (source.ask ()) = pure () := feed.askAll_pure
      refine (run_bind_of_run entered).trans ?_
      dsimp only
      rw [asked, pure_bind, Feed.items_ofList, Feed.fault?_ofList]
      cases closeFault? with
      | some fault => rfl
      | none => rfl

/-- **Of a source that fails no row is kept, wherever it fails.**  The reading tells how many rows
came before the failure, and of the fault that was met last as much as a caller may see; the line in
the log tells that number and the whole fault.  The source is released exactly if it was opened. -/
theorem readBounded_of_failure (script : ScriptedSource) (query : String) (limit : Int)
    {count : Nat} {fault : Fault} (fails : script.failure? = some (count, fault)) :
    ∃ reading : Reading,
      (readBounded script.source query limit).run.run .none =
        (.ok reading, ⟨some query, count, script.openFault?.isNone⟩) ∧
      reading.isComplete = false ∧ reading.rows = [] ∧ reading.isTruncated = false ∧
      reading.note? = none ∧ reading.total = count ∧
      reading.error? = some (fault.publicText readFailureText) ∧
      reading.logLine? = some ⟨.error, .reader,
        "Read query failed after " ++ toString count ++ " rows: " ++ fault.text⟩ := by
  suffices gathered : (gatherRows script.source query limit).run .none =
      (.failed count fault, ⟨some query, count, script.openFault?.isNone⟩) from
    ⟨.failed count fault, run_readBounded_of_gatherRows gathered, rfl, rfl, rfl, rfl, rfl, rfl, rfl⟩
  rw [script.run_gatherRows query limit]
  rw [ScriptedSource.failure?] at fails
  cases opening : script.openFault? with
  | some refused =>
      rw [opening] at fails
      cases fails
      rfl
  | none =>
      rw [opening] at fails
      obtain ⟨met, last, told⟩ := Option.map_eq_some_iff.mp fails
      cases told
      rw [last]
      rfl

/-- A fault on release takes the place of the fault that ended the rows. -/
theorem readBounded_of_failure_released :
    let rows : List Row := [⟨[("n", .int 1)]⟩, ⟨[("n", .int 2)]⟩]
    let locked : Fault := ⟨.operational, "database is locked"⟩
    let missing : Fault := ⟨.operational, "no such table: t"⟩
    let script : ScriptedSource := ⟨none, rows, some locked, some missing⟩
    script.failure? = some (2, missing) ∧
      ∃ reading, (readBounded script.source "SELECT n FROM t" 1).run.run .none =
          (.ok reading, ⟨some "SELECT n FROM t", 2, true⟩) ∧
        reading.rows = [] ∧ reading.total = 2 ∧ reading.error? = some "no such table: t" := by
  intro rows locked missing script
  obtain ⟨reading, ran, -, none, -, -, total, told, -⟩ :=
    readBounded_of_failure script "SELECT n FROM t" 1 rfl
  refine ⟨rfl, reading, ran, none, total, ?_⟩
  rw [told]
  decide +kernel

end QueryGuard
