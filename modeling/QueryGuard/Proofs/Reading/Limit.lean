import QueryGuard.Proofs.Attempt
import QueryGuard.Reading.Bounded

/-!
# QueryGuard.Proofs.Reading.Limit

What a reading under a limit makes of a source, whatever the source delivers and wherever it fails.

* `Feed.consume_eq` — a reader without a limit of its own asks for every item, meets the end or the
  fault after the last of them, and folds the items into its result;
* `toList_foldl_keepRow` — of the rows, the first ones up to the limit are kept;
* `gatherRows_eq` — so the rows are gathered by opening the source, asking it for all of them and
  releasing it, and come to what `Reading.ended` makes of them and of the fault that was met last;
* `readBounded_run` — a reading gathers the rows and then makes the note on those left out.
-/

namespace QueryGuard

variable {σ η α β : Type}

/-! ## readers -/

/-- The requests for all that a feed delivers, the last of which meets its end or its fault. -/
def Feed.askAll (ask : Option Fault → StateM σ Unit) : Feed α → StateM σ Unit
  | done => ask none
  | broken fault => ask (some fault)
  | item _ rest => do
      ask none
      rest.askAll ask

/-- So many requests for an item, none of them answered by a fault. -/
def requests (ask : Option Fault → StateM σ Unit) : Nat → StateM σ Unit
  | 0 => pure ()
  | count + 1 => do
      ask none
      requests ask count

/-- A feed without a fault takes a request for each item and one to learn that there are no
more. -/
theorem Feed.askAll_ofList (ask : Option Fault → StateM σ Unit) (items : List α) :
    (ofList none items).askAll ask = requests ask (items.length + 1) := by
  induction items with
  | nil => rfl
  | cons a items ih =>
      rw [ofList, askAll, ih, List.length_cons]
      rfl

/-- A reader that raises no fault asks for all that a feed delivers and folds the items into its
result. -/
theorem Feed.consume_eq (ask : Option Fault → StateM σ Unit) (fold : β → α → β) (feed : Feed α)
    (progress : Progress β) :
    feed.consume ask (fun result a => .ok (fold result a)) none progress = (do
      feed.askAll ask
      return {
        result := feed.items.foldl fold progress.result
        seen := progress.seen + feed.items.length
        fault? := feed.fault?.or progress.fault? }) := by
  induction feed generalizing progress with
  | done => exact consume.eq_2 _ _ _ _ (by simp)
  | broken fault => exact consume.eq_3 _ _ _ _ _ (by simp)
  | item a rest ih =>
      rw [consume.eq_4 _ _ _ _ _ _ (by simp)]
      simp only [Option.map_none, ih, askAll, items, Feed.fault?, List.length_cons,
        List.foldl_cons, bind_assoc, Nat.add_assoc, Nat.add_comm 1]

/-! ## rows under a limit -/

/-- Of the rows, the first ones up to the limit are kept. -/
theorem toList_foldl_keepRow (limit : Int) (rows : List Row) (kept : Array Row)
    (within : kept.size ≤ limit.toNat) :
    (rows.foldl (keepRow limit) kept).toList = (kept.toList ++ rows).take limit.toNat := by
  induction rows generalizing kept with
  | nil =>
      rw [List.foldl_nil, List.append_nil, List.take_of_length_le]
      exact within
  | cons row rows ih =>
      rw [List.foldl_cons, keepRow]
      by_cases room : (kept.size : Int) < limit
      · have grown : (kept.push row).size ≤ limit.toNat := by
          rw [Array.size_push]
          omega
        rw [if_pos room, ih _ grown, Array.toList_push, List.append_assoc, List.singleton_append]
      · have full : kept.toList.length = limit.toNat := by
          rw [Array.length_toList]
          omega
        rw [if_neg room, ih _ within, ← full, List.take_left, List.take_left]

/-! ## readings -/

/-- What comes of the rows that a source delivered, and of the fault that was met last. -/
def Reading.ended (limit : Int) (rows : List Row) : Option Fault → Reading
  | none => .complete (rows.take limit.toNat) rows.length limit
  | some fault => .failed rows.length fault

/-- To gather rows a source is opened once, asked for all the rows, and released once if it was
opened.  A fault on opening leaves no rows, and a fault on release takes the place of the fault that
ended the rows. -/
theorem gatherRows_eq (source : RowSource σ η) (query : String) (limit : Int) :
    gatherRows source query limit = (do
      match ← (source.enter query).run with
      | .error fault => return .ended limit [] (some fault)
      | .ok (handle, feed) =>
          feed.askAll (source.ask handle)
          match ← (source.exit handle feed.items.length).run with
          | .ok () => return .ended limit feed.items feed.fault?
          | .error fault => return .ended limit feed.items (some fault)) := by
  rw [gatherRows, RowSource.read, RowSource.use, bind_assoc]
  refine bind_congr fun entered => ?_
  cases entered with
  | error fault => rfl
  | ok opened =>
      obtain ⟨handle, feed⟩ := opened
      have kept : (feed.items.foldl (keepRow limit) #[]).toList = feed.items.take limit.toNat :=
        toList_foldl_keepRow limit feed.items #[] (Nat.zero_le _)
      simp only [Feed.consume_eq, Progress.start, Nat.zero_add, bind_assoc, pure_bind]
      refine bind_congr fun _ => bind_congr fun released => ?_
      cases released with
      | error fault => rfl
      | ok _ =>
          cases ended : feed.fault? with
          | some fault => rfl
          | none =>
              rw [Reading.ended, ← kept]
              rfl

/-- A reading gathers the rows and then makes the note on those left out. -/
theorem readBounded_run (source : RowSource σ η) (query : String) (limit : Int) :
    (readBounded source query limit).run = (do
      let reading ← gatherRows source query limit
      return reading.told) := by
  simp only [readBounded, ExceptT.run_bind]
  rfl

/-- What is read by gathering rows, once the note is made. -/
theorem run_readBounded_of_gatherRows {source : RowSource σ η} {query : String} {limit : Int}
    {s t : σ} {reading : Reading} (h : (gatherRows source query limit).run s = (reading, t)) :
    (readBounded source query limit).run.run s = (reading.told, t) := by
  rw [readBounded_run]
  exact run_bind_of_run h

/-! ## notes -/

/-- A reading without rows left out, or with a limit that can be written, is told as it is. -/
theorem Reading.told_complete {kept : List Row} {total : Nat} {limit : Int}
    (writable : limit < total → Decimal.IsWritable limit) :
    (complete kept total limit).told = .ok (complete kept total limit) := by
  rw [told, if_neg]
  simpa using writable

/-- A reading of which nothing is raised is told as it is. -/
theorem Reading.eq_of_told {reading result : Reading} (h : reading.told = .ok result) :
    result = reading := by
  cases reading with
  | failed total fault => exact (Except.ok.inj h).symm
  | complete kept total limit =>
      rw [told] at h
      split at h
      · cases h
      · exact (Except.ok.inj h).symm

end QueryGuard
