import QueryGuard.Proofs.Engine.Delivery
import QueryGuard.Proofs.Session.Coherence
import QueryGuard.Proofs.Settings.RecordLimit

/-!
# QueryGuard.Proofs.Session.Truncation

No row is left out in silence.

A query that passes the gate, and whose rows the engine delivers without a fault, is answered with
all of them, or with as many as the settings in force allow and a note that says so:
`readData_complete_or_told`.
-/

namespace QueryGuard

open Engine

/-- The statement that makes a connection refuse writes does not pass the gate. -/
theorem ne_queryOnlyPragma {sql : String} (accepted : Query.judge sql.toList = .accepted) :
    sql ≠ queryOnlyPragma := by
  have rejected : Query.judge queryOnlyPragma.toList ≠ .accepted := by decide +kernel
  intro same
  rw [same] at accepted
  exact rejected accepted

/-- A source that was read to its end is answered with the rows kept, and with a note exactly if
there were more. -/
theorem Reading.envelope_complete (kept : List Row) (total : Nat) (limit : Int) :
    (complete kept total limit).envelope = .answered (.rows kept)
      (if limit < total then some (truncationSentence total limit) else none) := rfl

namespace Session

section

variable (environment : Environment) (loadDotenv : Environment → Environment)
  (past : List (Step × Script))

/-- In every run the settings in force allow one row at least. -/
theorem one_le_maxRecordCount :
    1 ≤ ((start environment loadDotenv).after past).settingsInForce.maxRecordCount := by
  rw [settingsInForce_after]
  exact Settings.recordLimit_pos _

/-- In every run the limit of the settings in force can be written. -/
theorem isWritable_maxRecordCount_after :
    Decimal.IsWritable
      ((start environment loadDotenv).after past).settingsInForce.maxRecordCount := by
  rw [settingsInForce_after]
  exact Settings.isWritable_maxRecordCount _

end

/-- A query that passes the gate is answered with the first rows that the engine delivers, as many
as the settings allow, after all of them were taken. -/
theorem perform_readData_of_delivers (session : Session)
    (writable : Decimal.IsWritable session.settingsInForce.maxRecordCount) {sql : String}
    (accepted : Query.judge sql.toList = .accepted) {script : Script} {columns : List String}
    {rows : List (List Value)} (delivers : script.Delivers columns rows) :
    let settings := session.settingsInForce
    let outcome := session.perform (.readData (.text sql)) script
    let kept := (rows.map (Row.ofColumns columns)).take settings.maxRecordCount.toNat
    outcome.answer = .ok (.envelope
        (Reading.complete kept rows.length settings.maxRecordCount).envelope) ∧
      outcome.turn.trace = delivery ⟨0⟩ settings.databasePath sql rows.length := by
  intro settings outcome kept
  obtain ⟨engine, gathered, taken⟩ := run_gatherRows delivers (ne_queryOnlyPragma accepted)
    settings.databasePath settings.maxRecordCount
  have read := run_readBounded_of_gatherRows gathered
  rw [Reading.told_complete fun _ => writable] at read
  obtain ⟨environment, loads, logs, ran⟩ := Tool.runQuery_run_eq sql (Turn.start session script)
  have runs : Tool.runReadData (.text sql) = Tool.runQuery sql := by
    rw [Tool.runReadData, accepted]
  have ended : outcome = _ := perform_readData_eq session (.text sql) script
  rw [runs, ran] at ended
  rw [ended]
  exact ⟨congrArg (fun result => (result.1.map Reading.envelope).map Answer.envelope) read,
    (congrArg (fun result => result.2.trace) read).trans taken⟩

/-- **No row is left out in silence.**  Whatever requests came before, a query that passes the gate
and whose rows the engine delivers is answered well.  All rows are taken from the engine.  If the
settings in force allow as many, the answer holds all of them and no note; otherwise it holds the
first ones, as many as are allowed, and a note that tells both numbers. -/
theorem readData_complete_or_told (environment : Environment)
    (loadDotenv : Environment → Environment) (past : List (Step × Script)) {sql : String}
    (accepted : Query.judge sql.toList = .accepted) {script : Script} {columns : List String}
    {rows : List (List Value)} (delivers : script.Delivers columns rows) :
    let session := (start environment loadDotenv).after past
    let cap := session.settingsInForce.maxRecordCount
    let outcome := session.perform (.readData (.text sql)) script
    let found := rows.map (Row.ofColumns columns)
    1 ≤ cap ∧ ∃ kept message?,
      outcome.answer = .ok (.envelope (.answered (.rows kept) message?)) ∧
        (message? = none ↔ rows.length ≤ cap) ∧
        (rows.length ≤ cap → kept = found) ∧
        (cap < rows.length → kept = found.take cap.toNat ∧ kept.length = cap ∧
          message? = some (truncationSentence rows.length cap)) ∧
        outcome.turn.trace = delivery ⟨0⟩ session.settingsInForce.databasePath sql rows.length := by
  intro session cap outcome found
  have positive : 1 ≤ cap := one_le_maxRecordCount environment loadDotenv past
  have writable := isWritable_maxRecordCount_after environment loadDotenv past
  have count : found.length = rows.length := List.length_map _
  obtain ⟨answered, taken⟩ := perform_readData_of_delivers session writable accepted delivers
  rw [Reading.envelope_complete] at answered
  refine ⟨positive, found.take cap.toNat, _, answered, ?_, ?_, ?_, taken⟩
  · rw [ite_eq_right_iff, ← Int.not_lt]
    exact ⟨fun told more => Option.some_ne_none _ (told more), fun all more => absurd more all⟩
  · intro all
    apply List.take_of_length_le
    omega
  · intro more
    refine ⟨rfl, ?_, if_pos more⟩
    rw [List.length_take]
    omega

/-- The third row is left out where two are allowed, and is told of. -/
theorem readData_tells_third_row :
    let past := [(Step.setVariable "MAX_RESULT_SET" "2", Script.empty)]
    let reply : Reply := ⟨some ["n"], [[.int 1], [.int 2], [.int 3]], -1, none⟩
    let outcome := ((start .empty id).after past).perform (.readData (.text "SELECT n FROM t"))
      { Script.empty with replies := [reply] }
    outcome.answer = .ok (.envelope (.answered (.rows [⟨[("n", .int 1)]⟩, ⟨[("n", .int 2)]⟩])
        (some "Query returned 3 records, limited to 2"))) ∧
      outcome.turn.trace = delivery ⟨0⟩ "data/app.db" "SELECT n FROM t" 3 := by
  intro past reply outcome
  have accepted : Query.judge "SELECT n FROM t".toList = .accepted := by decide +kernel
  have delivers : { Script.empty with replies := [reply] }.Delivers ["n"] reply.rows :=
    ⟨rfl, rfl, ⟨-1, [], rfl⟩, rfl, rfl⟩
  obtain ⟨-, kept, message?, answered, -, -, more, taken⟩ :=
    readData_complete_or_told .empty id past accepted delivers
  obtain ⟨first, -, told⟩ := more (by decide +kernel)
  have two : kept = [⟨[("n", .int 1)]⟩, ⟨[("n", .int 2)]⟩] := first.trans (by decide +kernel)
  have note : message? = some "Query returned 3 records, limited to 2" :=
    told.trans (by decide +kernel)
  rw [two, note] at answered
  exact ⟨answered, taken⟩

end Session

end QueryGuard
