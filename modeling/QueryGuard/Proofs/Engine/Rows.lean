import QueryGuard.Database.Rows
import QueryGuard.Proofs.Engine.Reads
import QueryGuard.Proofs.Reading.Limit

/-!
# QueryGuard.Proofs.Engine.Rows

The engine as a source of rows: what a use of the source leaves in the trace.

* `Rows` — the one statement, the requests for its rows, and its release;
* `emits_rowSource` — every use of the source leaves the trace of a connection in use with no more
  than that on it, whatever reads the rows.
-/

namespace QueryGuard.Engine

variable {α β : Type}

/-! ## traces -/

/-- What a reader ends in: a fault, or what it made of the rows. -/
def outcome (progress : Progress β) : Except Fault β :=
  match progress.fault? with
  | none => .ok progress.result
  | some fault => .error fault

/-- The trace of the one statement of a source of rows, of the requests for its rows, and of its
release. -/
inductive Rows (query : String) (conn : Connection) : Except Fault α → List Event → Prop
  | refused (fault : Fault) :
      Rows query conn (.error fault) [⟨conn, .execute query [], some fault⟩]
  | delivered {result : Except Fault α} {stopped? : Option Fault} {fetches : List Event}
      (asked : Fetches conn stopped? fetches) (delivered : Nat) (fault? : Option Fault) :
      Rows query conn (orFault result fault?)
        (⟨conn, .execute query [], none⟩ ::
          (fetches ++ [⟨conn, .closeCursor delivered, fault?⟩]))

/-- What a query does is harmless. -/
theorem Rows.harmless {query : String} {conn : Connection} {result : Except Fault α}
    {events : List Event} (h : Rows query conn result events) : Harmless conn events := by
  cases h with
  | refused fault => exact .single conn (by simp) (some fault)
  | @delivered result stopped? fetches asked n fault? =>
      have execute : Harmless conn [⟨conn, .execute query [], none⟩] := .single conn (by simp) none
      have release : Harmless conn [⟨conn, .closeCursor n, fault?⟩] := .single conn (by simp) fault?
      have fetched := asked.harmless.append release (.inr fun e he => by
        rw [List.mem_singleton.mp he]
        rfl)
      exact execute.append fetched (.inl fun e he => by rw [List.mem_singleton.mp he])

/-- The calls by which a source of rows is opened, and what they end in. -/
inductive Entered (path query : String) : Except Fault (Connection × Feed Row) → List Event → Prop
  | unopened {fault : Fault} {events : List Event}
      (failed : Opening path true (.error fault) events) : Entered path query (.error fault) events
  | refused (conn : Connection) (fault : Fault) (closed? : Option Fault) :
      Entered path query (orFault (.error fault) closed?)
        (opening conn path true ++
          [⟨conn, .execute query [], some fault⟩, ⟨conn, .close, closed?⟩])
  | entered (conn : Connection) (feed : Feed Row) :
      Entered path query (.ok (conn, feed))
        (opening conn path true ++ [⟨conn, .execute query [], none⟩])

/-! ## opening and release -/

/-- A statement on a connection that is closed if the statement fails. -/
theorem emits_executeOrClose (conn : Connection) (query : String) :
    Emits trace ((execute conn query []).orRelease (close conn)).run fun result events =>
      (∃ cursor, result = .ok cursor ∧ events = [⟨conn, .execute query [], none⟩]) ∨
        ∃ fault closed?, result = orFault (.error fault) closed? ∧
          events = [⟨conn, .execute query [], some fault⟩, ⟨conn, .close, closed?⟩] := by
  refine Emits.orRelease (emits_execute conn query []) (emits_close conn) ?_ ?_
  · intro cursor events told
    obtain ⟨_, fault?, _, ends, rfl⟩ := told
    cases fault? with
    | some fault => cases ends
    | none => exact .inl ⟨cursor, rfl, rfl⟩
  · intro fault events closed? later told toldClose
    obtain ⟨_, fault?, _, ends, rfl⟩ := told
    subst toldClose
    cases fault? with
    | none => cases ends
    | some fault =>
        cases ends
        exact .inr ⟨fault, closed?, rfl, rfl⟩

/-- The source of rows opens as `Entered` tells. -/
theorem emits_enter (path query : String) :
    Emits trace ((rowSource path).enter query).run (Entered path query) := by
  refine Emits.attemptBind (emits_openConnection path true) (fun _ _ => .unopened) ?_
  intro conn events opened
  cases opened
  refine Emits.attemptBind (emits_executeOrClose conn query) ?_ ?_
  · intro fault events told
    obtain ⟨_, impossible, _⟩ | ⟨refusal, closed?, ends, rfl⟩ := told
    · cases impossible
    · cases closed? with
      | none =>
          cases ends
          exact .refused conn fault none
      | some other =>
          cases ends
          exact .refused conn refusal (some fault)
  · intro cursor events told
    obtain ⟨_, _, rfl⟩ | ⟨refusal, closed?, ends, _⟩ := told
    · exact Emits.pure (.entered conn _)
    · cases closed? <;> cases ends

/-- The source of rows closes its cursor and then its connection, whatever faults this has. -/
theorem emits_exit (path : String) (conn : Connection) (delivered : Nat) :
    Emits trace ((rowSource path).exit conn delivered).run fun result events =>
      ∃ released? closed?, result = orFault (orFault (.ok ()) released?) closed? ∧
        events = [⟨conn, .closeCursor delivered, released?⟩, ⟨conn, .close, closed?⟩] := by
  refine Emits.thenRelease (emits_closeCursor conn delivered) (emits_close conn) ?_
  intro result events closed? later told toldClose
  obtain ⟨released?, rfl, rfl⟩ := told
  subst toldClose
  exact ⟨released?, closed?, rfl, rfl⟩

/-! ## use -/

/-- A use of the source of rows leaves the trace of a connection in use, on which the query runs as
it was given. -/
theorem emits_rowSource {path query : String} {start : β}
    {body : (Option Fault → StateM Engine Unit) → Feed Row → StateM Engine (Progress β)}
    (h : ∀ conn feed, Emits trace (body (noteFetch conn) feed) fun ended events =>
      Fetches conn ended.fault? events) :
    Emits trace ((rowSource path).use query start body) fun ended events =>
      Use path true (Rows query) (outcome ended) events := by
  refine (emits_enter path query).bind fun result events told => ?_
  cases told with
  | unopened failed => exact Emits.pure (by rw [List.append_nil]; exact .unopened failed)
  | refused conn fault closed? =>
      have used : Use path true (Rows query) (orFault (.error fault : Except Fault β) closed?) _ :=
        .used (.refused fault : Rows query conn _ _) closed?
      cases closed? with
      | none => exact Emits.pure (by rw [List.append_nil]; exact used)
      | some other => exact Emits.pure (by rw [List.append_nil]; exact used)
  | entered conn feed =>
      refine (h conn feed).bind fun progress fetches asked => ?_
      refine (emits_exit path conn progress.seen).bind fun released later told => ?_
      obtain ⟨released?, closed?, rfl, rfl⟩ := told
      have delivered : Rows query conn (orFault (outcome progress) released?) _ :=
        .delivered asked progress.seen released?
      have used : Use path true (Rows query) _ _ := .used delivered closed?
      have sameEvents : opening conn path true ++ [⟨conn, .execute query [], none⟩] ++ (fetches ++
            ([⟨conn, .closeCursor progress.seen, released?⟩, ⟨conn, .close, closed?⟩] ++ [])) =
          opening conn path true ++ (⟨conn, .execute query [], none⟩ ::
            (fetches ++ [⟨conn, .closeCursor progress.seen, released?⟩]) ++
              [⟨conn, .close, closed?⟩]) := by
        simp
      cases closed? with
      | some fault => exact Emits.pure (sameEvents ▸ used)
      | none =>
          cases released? with
          | some fault => exact Emits.pure (sameEvents ▸ used)
          | none => exact Emits.pure (sameEvents ▸ used)

/-- Pulling rows executes the query on a connection that refuses writes. -/
theorem emits_pullRows (path query : String) (take : Option Nat) (inside : Option Fault) :
    Emits trace (pullRows path query take inside).run fun result events =>
      ∃ ended : Except Fault (Array Row), result = ended.map Array.toList ∧
        Use path true (Rows query) ended events := by
  refine Emits.bind (emits_rowSource fun conn feed => ?_) fun ended events told => ?_
  · cases inside with
    | some fault => exact Emits.pure (Fetches.nil conn _)
    | none => exact emits_consume conn _ feed take _
  · cases hf : ended.fault? with
    | some fault =>
        rw [outcome, hf] at told
        exact Emits.pure ⟨.error fault, rfl, by rw [List.append_nil]; exact told⟩
    | none =>
        rw [outcome, hf] at told
        exact Emits.pure ⟨.ok ended.result, rfl, by rw [List.append_nil]; exact told⟩

/-- Rows are gathered by a connection in use, on which the query runs as it was given. -/
theorem emits_gatherRows (path query : String) (limit : Int) :
    Emits trace (gatherRows (rowSource path) query limit) fun _ events =>
      ∃ ended : Except Fault (Array Row), Use path true (Rows query) ended events := by
  refine Emits.bind (emits_rowSource fun conn feed => emits_consume conn _ feed none _) ?_
  intro ended events told
  cases hf : ended.fault? with
  | none => exact Emits.pure ⟨_, by rw [List.append_nil]; exact told⟩
  | some fault => exact Emits.pure ⟨_, by rw [List.append_nil]; exact told⟩

/-- The note on rows left out adds nothing to the trace of the rows that are gathered. -/
theorem emits_told {source : RowSource Engine Connection} {query : String} {limit : Int}
    {T : Reading → List Event → Prop} (h : Emits trace (gatherRows source query limit) T) :
    Emits trace (readBounded source query limit).run fun result events =>
      ∃ reading, result = reading.told ∧ T reading events := by
  rw [readBounded_run]
  refine h.bind fun reading events told => Emits.pure ⟨reading, rfl, ?_⟩
  rw [List.append_nil]
  exact told

/-- Reading under a limit leaves the trace of a connection in use, on which the query runs as it was
given. -/
theorem emits_readBounded (path query : String) (limit : Int) :
    Emits trace (readBounded (rowSource path) query limit).run fun _ events =>
      ∃ ended : Except Fault (Array Row), Use path true (Rows query) ended events :=
  (emits_told (emits_gatherRows path query limit)).mono fun _ _ ⟨_, _, used⟩ => used

end QueryGuard.Engine
