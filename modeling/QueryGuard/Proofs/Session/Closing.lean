import QueryGuard.Proofs.Engine.Lifetime
import QueryGuard.Proofs.Session.Requests

/-!
# QueryGuard.Proofs.Session.Closing

Requests close the connections that they open, with one exception.

A connection that is to refuse writes is first opened and then made to.  If that second call fails,
the connection has been opened and nobody holds it, so it stays open (`connection_left_open`); all
other connections are closed once, whatever fails (`run_closedOnce_iff`).
-/

namespace QueryGuard

open Engine

/-- Whether a request runs a tool, directly or by its name, or a function of the database that opens
a connection for itself. -/
def Step.usesDatabase : Step → Bool
  | .readData _ | .tool _ _ | .call _ _ _ _ | .executeWrite _ _ | .listTableNames _
  | .describeTable _ _ | .pullRows _ _ _ _ => true
  | _ => false

/-- Whether a request runs a tool that writes, directly or by its name, or the function of the
database that such a tool uses. -/
def Step.writes : Step → Bool
  | .executeWrite _ _ => true
  | .tool chosen _ => chosen.isWriter
  | .call _ _ name _ => Tool.writers.any (·.name == name)
  | _ => false

/-! ## traces of requests -/

/-- Each way to read leaves the lifetime of one connection that refuses writes. -/
theorem readsLeave_lifetime : ReadsLeave (Lifetime true) where
  nothing := .unused
  listTableNames := lifetime_listTableNames
  describeTable := lifetime_describeTable
  pullRows := lifetime_pullRows
  readBounded := lifetime_readBounded

/-- Each tool leaves the lifetime of one connection, which refuses writes unless the tool writes. -/
theorem lifetime_run (tool : Tool) (argument : String) :
    Emits Turn.trace (tool.run argument).run fun _ => Lifetime (!tool.isWriter) := by
  cases writes : tool.isWriter with
  | false => exact readsLeave_lifetime.run writes argument
  | true => exact Tool.emits_run_of_writer .unused lifetime_executeWrite writes argument

/-- A tool writes exactly if its name is that of a tool that does. -/
theorem isWriter_of_name {tool : Tool} {name : String} (same : tool.name = name) :
    tool.isWriter = Tool.writers.any (·.name == name) := by
  subst same
  cases tool <;> decide

/-- A request leaves the trace of at most one connection, which refuses writes unless the request
writes. -/
theorem lifetime_step {step : Step} (uses : step.usesDatabase = true) :
    Emits Turn.trace step.run.run fun _ => Lifetime (!step.writes) := by
  cases step with
  | tool chosen argument => exact Emits.attemptReturn (lifetime_run chosen argument)
  | call obstacle? readOnly name arguments =>
      refine emits_answer .called
        (emits_call .unused (Server.build readOnly) obstacle? arguments ?_)
      intro tool same given
      rw [Step.writes, ← isWriter_of_name same]
      exact lifetime_run tool given
  | executeWrite sql path =>
      exact Emits.attemptReturn (emits_onDatabase (lifetime_executeWrite · sql) path)
  | readData _ | listTableNames _ | describeTable _ _ | pullRows _ _ _ _ =>
      exact readsLeave_lifetime.step rfl
  | clearCache | setVariable _ _ | unsetVariable _ | settings | refuseWrite | launch _
  | launchByItself | openConnection _ _ => cases uses

/-! ## what is closed -/

/-- The statement that was to make a connection refuse writes failed. -/
def StaysUnprotected (conn : Connection) (events : List Event) : Prop :=
  ∃ fault, FollowsOpening conn (some ⟨conn, .execute queryOnlyPragma [], some fault⟩) events

/-- **In every run, a connection that a request opened is closed once before the answer, unless the
request does not write and the connection could not be made to refuse writes.** -/
theorem run_closedOnce_iff (session : Session) (steps : List (Step × Script)) :
    ∀ made ∈ steps.zip (session.run steps), made.1.1.usesDatabase = true →
      ∀ conn path, ⟨conn, .connect path, none⟩ ∈ made.2.turn.trace →
        (ClosedOnce conn made.2.turn.trace ↔
          ¬ (made.1.1.writes = false ∧ StaysUnprotected conn made.2.turn.trace)) := by
  have each : ∀ (session : Session) (step : Step) (script : Script), step.usesDatabase = true →
      ∀ conn path, ⟨conn, .connect path, none⟩ ∈ (session.perform step script).turn.trace →
        (ClosedOnce conn (session.perform step script).turn.trace ↔
          ¬ (step.writes = false ∧
            StaysUnprotected conn (session.perform step script).turn.trace)) := by
    intro session step script uses conn path opened
    have lifetime := Session.trace_perform (lifetime_step uses) session script
    rw [lifetime.closedOnce_iff opened, Bool.not_eq_true', StaysUnprotected]
  exact Session.forall_run (P := fun step outcome => step.usesDatabase = true →
    ∀ conn path, ⟨conn, .connect path, none⟩ ∈ outcome.turn.trace →
      (ClosedOnce conn outcome.turn.trace ↔
        ¬ (step.writes = false ∧ StaysUnprotected conn outcome.turn.trace))) each session steps

/-- A write whose changes cannot be kept still closes its connection. -/
theorem run_closedOnce_failed_commit :
    let script := { Script.empty with commitFault? := some ⟨.operational, "disk is full"⟩ }
    let steps := [(Step.executeWrite "DROP TABLE t" (some "app.db"), script)]
    ∃ made ∈ steps.zip ((Session.start .empty id).run steps), made.1.1.usesDatabase = true ∧
      (⟨⟨0⟩, .connect "app.db", none⟩ : Event) ∈ made.2.turn.trace ∧
      ClosedOnce ⟨0⟩ made.2.turn.trace := by
  intro script steps
  have mem := List.mem_singleton_self (steps.zip ((Session.start .empty id).run steps))[0]
  have opened : (⟨⟨0⟩, .connect "app.db", none⟩ : Event) ∈
      ((Session.start .empty id).perform (.executeWrite "DROP TABLE t" (some "app.db"))
        script).turn.trace := List.mem_cons_self
  refine ⟨_, mem, rfl, opened, ?_⟩
  exact (run_closedOnce_iff _ steps _ mem rfl ⟨0⟩ "app.db" opened).mpr
    (by simp [steps, Step.writes])

/-- A connection that could not be made to refuse writes is left open. -/
theorem connection_left_open :
    ¬ ∀ (session : Session) (step : Step) (script : Script), step.usesDatabase = true →
      ∀ conn path, ⟨conn, .connect path, none⟩ ∈ (session.perform step script).turn.trace →
        ClosedOnce conn (session.perform step script).turn.trace := by
  intro h
  have closed := h (.start .empty id) (.tool .listTables "")
    { Script.empty with pragmaFault? := some ⟨.operational, "database is locked"⟩ } rfl
    ⟨0⟩ "data/app.db" List.mem_cons_self
  exact not_closedOnce (by decide) closed

end QueryGuard
