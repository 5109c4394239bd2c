import QueryGuard.Proofs.Engine.Writing
import QueryGuard.Proofs.Session.Gates

/-!
# QueryGuard.Proofs.Session.Writing

A write is reported as done only if its changes were kept.

* `written_executeWrite` — a request to write is one write of the engine;
* `written_tool` — so is a tool that writes, unless the settings in force are read-only;
* `perform_executeWrite` — what the request and the tools answer, told from the script of the
  engine.
-/

namespace QueryGuard

open Engine

variable {α : Type}

/-- A computation of the engine is run on the database given, or on that of the settings in
force. -/
theorem Step.onDatabase_run (path? : Option String) (x : String → EngineM α) (turn : Turn) :
    let ran := (x (path?.getD turn.session.settingsInForce.databasePath)).run.run turn.engine
    ∃ later, (onDatabase path? x).run.run turn = (ran.1, later) ∧ later.engine = ran.2 := by
  intro ran
  obtain ⟨located, found, stays⟩ := Turn.databasePath_run path? turn
  refine ⟨{ located with engine := ran.2 }, ?_, rfl⟩
  refine (attempt_bind_of_run (attempt_lift_of_run found)).trans ?_
  rw [Turn.attempt_run, stays]

namespace Tool

/-- The answer to a write reports success exactly if the write ended in a number of rows. -/
theorem success_changed_iff (message : String) (reportRows : Bool) {result : Except Fault Int} :
    (envelopeOf (changedAnswer message reportRows) result).success = true ↔
      ∃ count, result = .ok count := by
  cases result with
  | ok count => exact iff_of_true rfl ⟨count, rfl⟩
  | error fault => exact iff_of_false (by simp [envelopeOf, Envelope.failure]) (by simp)

/-- A tool that writes answers with what the function of the database ends in, while the settings
allow writes. -/
theorem run_writer_of_writable {tool : Tool} (writes : tool.isWriter = true) (sql : String)
    (turn : Turn) (allowed : turn.session.settingsInForce.readOnly = false) :
    let ran := (executeWrite turn.session.settingsInForce.databasePath sql).run.run turn.engine
    ∃ message later, (tool.run sql).run.run turn =
        (.ok (envelopeOf (changedAnswer message tool.reportsRows) ran.1), later) ∧
      later.engine = ran.2 := by
  intro ran
  obtain ⟨operation, message, same⟩ := exists_run_eq_runWrite writes sql
  obtain ⟨later, answered, left⟩ := runWrite_run operation sql message tool.reportsRows turn
  rw [allowed] at answered left
  exact ⟨message, later, same ▸ answered, left⟩

end Tool

namespace Session

section

variable (session : Session) (script : Script)

/-- A turn that runs a write on an engine that was not called before leaves the trace of that
write. -/
theorem written_of_ran {path sql : String} {turn : Turn}
    (ran : turn.engine = ((executeWrite path sql).run.run (.start script)).2) :
    Written script ⟨0⟩ path sql ((executeWrite path sql).run.run (.start script)).1 turn.trace := by
  obtain ⟨events, added, written⟩ := Engine.written_executeWrite path sql (.start script)
  have all : turn.trace = events := (congrArg Engine.trace ran).trans added
  exact all ▸ written

/-- A request to write is one write of the engine, to the database given or that of the settings in
force. -/
theorem written_executeWrite (sql : String) (path? : Option String) :
    let outcome := session.perform (.executeWrite sql path?) script
    ∃ result, outcome.answer = result.map .count ∧
      Written script ⟨0⟩ (path?.getD session.settingsInForce.databasePath) sql result
        outcome.turn.trace := by
  intro outcome
  obtain ⟨later, ran, left⟩ :=
    Step.onDatabase_run path? (executeWrite · sql) (.start session script)
  have performed : (Step.run (.executeWrite sql path?)).run.run (.start session script) =
      (_, later) := attempt_return_of_run ran
  have ended : outcome = _ := congrArg (fun made => Outcome.mk made.1 made.2) performed
  rw [ended]
  exact ⟨_, rfl, written_of_ran script left⟩

/-- A tool that writes carries out one write of the engine while the settings in force allow it, and
answers with what came of it. -/
theorem written_tool {tool : Tool} (writes : tool.isWriter = true) (sql : String)
    (allowed : session.settingsInForce.readOnly = false) :
    let outcome := session.perform (.tool tool sql) script
    ∃ message result,
      outcome.answer =
        .ok (.envelope (Tool.envelopeOf (Tool.changedAnswer message tool.reportsRows) result)) ∧
      Written script ⟨0⟩ session.settingsInForce.databasePath sql result outcome.turn.trace := by
  intro outcome
  obtain ⟨message, later, ran, left⟩ :=
    Tool.run_writer_of_writable writes sql (.start session script) allowed
  have ended : outcome = _ := perform_tool_eq session script tool sql
  rw [ended, ran]
  exact ⟨message, _, rfl, written_of_ran script left⟩

/-- A tool that writes is refused while the settings in force are read-only. -/
theorem refused_tool {tool : Tool} (writes : tool.isWriter = true) (sql : String)
    (refused : session.settingsInForce.readOnly = true) :
    (session.perform (.tool tool sql) script).answer =
      .ok (.envelope (.failure Tool.readOnlyText)) := by
  obtain ⟨later, ran, -⟩ := run_writer_of_readOnly writes sql (.start session script) refused
  rw [perform_tool_eq, ran]
  rfl

/-- A tool that writes reports success exactly if the settings in force allow writes and nothing
stops the write. -/
theorem perform_writer {tool : Tool} (writes : tool.isWriter = true) (sql : String) :
    let outcome := session.perform (.tool tool sql) script
    ∃ envelope, outcome.answer = .ok (.envelope envelope) ∧
      (envelope.success = true ↔ session.settingsInForce.readOnly = false ∧ script.Keeps sql) ∧
      (envelope.success = true → outcome.turn.trace =
        keeping ⟨0⟩ session.settingsInForce.databasePath sql) := by
  intro outcome
  cases allowed : session.settingsInForce.readOnly with
  | true =>
      have failed : (Envelope.failure Tool.readOnlyText).success ≠ true := Bool.false_ne_true
      refine ⟨_, session.refused_tool script writes sql allowed, ?_, ?_⟩
      · exact iff_of_false failed (by simp)
      · exact fun done => absurd done failed
  | false =>
      obtain ⟨message, result, answered, written⟩ := session.written_tool script writes sql allowed
      have success :=
        (Tool.success_changed_iff message tool.reportsRows).trans written.exists_eq_ok_iff
      refine ⟨_, answered, success.trans (by simp), fun done => ?_⟩
      exact written.eq_keeping (success.mp done)

end

/-- **A write is reported as done only if its changes were kept.**  A request to write opens one
connection, and executes the given statement on it once and no other.  It has an answer exactly if
nothing stopped it: the number of rows changed, after a commit and a close and no rollback.  If the
statement fails there is no commit; what it did is undone before the connection is closed, and its
fault is told, unless undoing or closing fails too.  The same goes for a commit that fails.  The
tools that write report success exactly if the settings in force allow writes and nothing stopped
the write. -/
theorem perform_executeWrite (session : Session) (sql : String) (path? : Option String)
    (script : Script) :
    let path := path?.getD session.settingsInForce.databasePath
    let conn : Connection := ⟨0⟩
    let outcome := session.perform (.executeWrite sql path?) script
    (∃ later, outcome.turn.trace = ⟨conn, .connect path, script.connectFault?⟩ :: later ∧
        (∀ e ∈ later, e.connection = conn ∧ ∀ other, e.call ≠ .connect other) ∧
        later.filterMap Event.statement? =
          if script.connectFault? = none then [(sql, [])] else []) ∧
      (∀ answer, outcome.answer = .ok answer ↔
        script.Keeps sql ∧ answer = .count (script.replyTo sql).rowCount) ∧
      (script.Keeps sql → outcome.turn.trace = keeping conn path sql) ∧
      (∀ fault, script.connectFault? = some fault →
        outcome.answer = .error fault ∧
          outcome.turn.trace = [⟨conn, .connect path, some fault⟩]) ∧
      (script.connectFault? = none → ∀ fault, (script.replyTo sql).executeFault? = some fault →
        outcome.answer =
            orFault (orFault (.error fault) script.rollbackFault?) script.closeFault? ∧
          outcome.turn.trace =
            [⟨conn, .connect path, none⟩, ⟨conn, .execute sql [], some fault⟩,
              ⟨conn, .rollback, script.rollbackFault?⟩, ⟨conn, .close, script.closeFault?⟩]) ∧
      (script.connectFault? = none → (script.replyTo sql).executeFault? = none →
        ∀ fault, script.commitFault? = some fault →
          outcome.answer =
              orFault (orFault (.error fault) script.rollbackFault?) script.closeFault? ∧
            outcome.turn.trace =
              [⟨conn, .connect path, none⟩, ⟨conn, .execute sql [], none⟩,
                ⟨conn, .commit, some fault⟩, ⟨conn, .rollback, script.rollbackFault?⟩,
                ⟨conn, .close, script.closeFault?⟩]) ∧
      ∀ tool : Tool, tool.isWriter = true →
        let reported := session.perform (.tool tool sql) script
        ∃ envelope, reported.answer = .ok (.envelope envelope) ∧
          (envelope.success = true ↔
            session.settingsInForce.readOnly = false ∧ script.Keeps sql) ∧
          (envelope.success = true → reported.turn.trace =
            keeping conn session.settingsInForce.databasePath sql) := by
  intro path conn outcome
  obtain ⟨result, answered, written⟩ := session.written_executeWrite script sql path?
  have told {fault : Fault} {rolled? closed? : Option Fault}
      (ends : result = orFault (orFault (.error fault) rolled?) closed?) :
      outcome.answer = orFault (orFault (.error fault) rolled?) closed? := by
    rw [answered, ends, map_orFault, map_orFault]
    rfl
  refine ⟨written.begins, fun answer => ?_, written.eq_keeping, ?_, ?_, ?_, ?_⟩
  · rw [answered]
    constructor
    · intro ends
      cases result with
      | error fault => cases ends
      | ok count =>
          cases ends
          obtain ⟨keeps, rfl⟩ := written.eq_ok_iff.mp rfl
          exact ⟨keeps, rfl⟩
    · rintro ⟨keeps, rfl⟩
      rw [written.eq_ok_iff.mpr ⟨keeps, rfl⟩]
      rfl
  · intro fault refused
    obtain ⟨ends, trace⟩ := written.eq_unopened refused
    rw [answered, ends]
    exact ⟨rfl, trace⟩
  · intro connects fault fails
    obtain ⟨ends, trace⟩ := written.eq_undoing connects fails
    exact ⟨told ends, trace⟩
  · intro connects executes fault fails
    obtain ⟨ends, trace⟩ := written.eq_unkept connects executes fails
    exact ⟨told ends, trace⟩
  · intro tool writes
    exact session.perform_writer script writes sql

/-- The fault of a statement is not told if the connection fails to close after it, and no statement
is executed on a connection that cannot be opened. -/
theorem executeWrite_not_always_told :
    ¬ (∀ (session : Session) (sql : String) (path? : Option String) (script : Script)
        (fault : Fault), script.connectFault? = none →
          (script.replyTo sql).executeFault? = some fault → script.rollbackFault? = none →
            (session.perform (.executeWrite sql path?) script).answer = .error fault) ∧
      ¬ ∀ (session : Session) (sql : String) (path? : Option String) (script : Script),
          executed (session.perform (.executeWrite sql path?) script).turn.trace = [(sql, [])] := by
  refine ⟨fun told => ?_, fun once => ?_⟩
  · let missing : Fault := ⟨.operational, "no such table: t"⟩
    let script : Script := { Script.empty with
      replies := [⟨none, [], -1, some (.atOnce missing)⟩]
      closeFault? := some ⟨.operational, "disk I/O error"⟩ }
    have fails : (script.replyTo "DROP TABLE t").executeFault? = some missing := by decide +kernel
    have same := told (.start .empty id) "DROP TABLE t" (some "app.db") script missing rfl fails rfl
    have other : ((Session.start .empty id).perform (.executeWrite "DROP TABLE t" (some "app.db"))
        script).answer = .error ⟨.operational, "disk I/O error"⟩ := rfl
    rw [other] at same
    exact absurd (Except.error.inj same) (by decide)
  · let script : Script := { Script.empty with
      connectFault? := some ⟨.operational, "unable to open database file"⟩ }
    have statements := once (.start .empty id) "DROP TABLE t" (some "app.db") script
    cases statements

end Session

end QueryGuard
