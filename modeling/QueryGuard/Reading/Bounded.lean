import QueryGuard.Decimal
import QueryGuard.Log
import QueryGuard.Reading.Source

/-!
# QueryGuard.Reading.Bounded

Reading under a limit.  Only the first rows are kept, but a source is read to its end, so that the
number of rows left out is known and told.

The note on rows left out is made once the source is released.  It names the limit, so a limit that
cannot be written is a fault then.
-/

namespace QueryGuard

/-- What came of reading a source under a limit. -/
inductive Reading
  /-- The source was read to its end: the rows kept, the number of all rows, and the limit. -/
  | complete (kept : List Row) (total : Nat) (limit : Int)
  /-- A fault stopped the reading after some rows. -/
  | failed (total : Nat) (fault : Fault)

/-- The sentence on rows left out, with the number of all rows and the limit. -/
def truncationSentence (total limit : Int) : String :=
  "Query returned " ++ String.ofList (Text.Grouped.ofInt total) ++ " records, limited to " ++
    String.ofList (Text.Grouped.ofInt limit)

/-- What a caller is told of rows left out, as long as both numbers can be written. -/
def truncationText (total limit : Int) : Except Fault String :=
  if Decimal.IsWritable total ∧ Decimal.IsWritable limit then .ok (truncationSentence total limit)
  else .error Decimal.tooLong

namespace Reading

/-- Whether the source was read to its end. -/
def isComplete : Reading → Bool
  | complete .. => true
  | failed .. => false

/-- The rows for the caller; a failed reading has none. -/
def rows : Reading → List Row
  | complete kept _ _ => kept
  | failed .. => []

/-- The number of rows that the source delivered. -/
def total : Reading → Nat
  | complete _ total _ => total
  | failed total _ => total

/-- Whether rows were left out. -/
def isTruncated : Reading → Bool
  | complete _ total limit => limit < total
  | failed .. => false

/-- The note on rows left out. -/
def note? : Reading → Option String
  | complete _ total limit => if limit < total then some (truncationSentence total limit) else none
  | failed .. => none

/-- What the caller is told of a failure. -/
def error? : Reading → Option String
  | complete .. => none
  | failed _ fault => some (fault.publicText readFailureText)

/-- The reading once the note on rows left out is made, for which the limit has to be written; the
number of rows always can be, since no source delivers `10 ^ 4300` of them. -/
def told : Reading → Except Fault Reading
  | complete kept total limit =>
      if limit < total ∧ ¬ Decimal.IsWritable limit then .error Decimal.tooLong
      else .ok (complete kept total limit)
  | failed total fault => .ok (failed total fault)

/-- The line that a reading leaves in the log. -/
def logLine? : Reading → Option LogLine
  | complete _ total limit =>
      if limit < total then
        some ⟨.info, .reader,
          "Read query truncated: " ++ toString total ++ " rows observed, " ++ toString limit ++
            " returned"⟩
      else none
  | failed total fault =>
      some ⟨.error, .reader,
        "Read query failed after " ++ toString total ++ " rows: " ++ fault.text⟩

end Reading

/-- Keeps a row as long as fewer than `limit` are kept. -/
def keepRow (limit : Int) (kept : Array Row) (row : Row) : Array Row :=
  if (kept.size : Int) < limit then kept.push row else kept

/-- Reads a source to its end and keeps at most `limit` rows. -/
def gatherRows {σ η : Type} (source : RowSource σ η) (query : String) (limit : Int) :
    StateM σ Reading := do
  let progress ← source.read query none (fun kept row => .ok (keepRow limit kept row)) #[]
  match progress.fault? with
  | none => return .complete progress.result.toList progress.seen limit
  | some fault => return .failed progress.seen fault

/-- Reads a source to its end, keeps at most `limit` rows, and tells of those left out. -/
def readBounded {σ η : Type} (source : RowSource σ η) (query : String) (limit : Int) :
    Attempt σ Reading := do
  let reading ← liftM (gatherRows source query limit)
  reading.told

end QueryGuard
