import QueryGuard.Proofs.Engine.Emits
import QueryGuard.Session.Step

/-!
# QueryGuard.Proofs.Session.Turn

What requests add to the trace of the engine, the settings they find, and what holds of every
request of a session.

* `emits_attempt` — a computation of the engine adds the same during a turn;
* `trace_perform` — a request leaves what it adds, since its engine has not been called before;
* `settings_run` — the settings in force are those kept or, if none are, those of what reading the
  dotenv file makes of the environment;
* `forall_run` — what holds of every request in every session holds of each one in a run.
-/

namespace QueryGuard

variable {α : Type}

/-- The settings that a request of a session finds or reads. -/
def Session.settingsInForce (session : Session) : Settings :=
  session.cache?.getD (Settings.load (session.loadDotenv session.environment))

namespace Turn

/-- The trace of the engine that answers a request. -/
def trace (turn : Turn) : List Event := turn.engine.trace

theorem emits_onEngine {x : StateM Engine α} {T : α → List Event → Prop}
    (h : Emits Engine.trace x T) : Emits trace (onEngine x) T :=
  fun turn => h turn.engine

theorem emits_attempt {x : EngineM α} {T : Except Fault α → List Event → Prop}
    (h : Emits Engine.trace x.run T) : Emits trace (attempt x).run T :=
  emits_onEngine h

/-- Reading the settings answers with those in force, and keeps them. -/
theorem settings_run (turn : Turn) :
    ∃ environment dotenvLoads, settings.run turn = (turn.session.settingsInForce, { turn with
      session := { turn.session with environment, cache? := some turn.session.settingsInForce }
      dotenvLoads }) := by
  obtain ⟨⟨environment, loadDotenv, cache?⟩, engine, logs, dotenvLoads⟩ := turn
  cases cache? with
  | some kept => exact ⟨environment, dotenvLoads, rfl⟩
  | none => exact ⟨loadDotenv environment, dotenvLoads + 1, rfl⟩

/-- Asking for the settings calls nothing. -/
theorem emits_settings : Emits trace settings fun _ events => events = [] := by
  refine .quiet fun turn => ?_
  obtain ⟨environment, dotenvLoads, same⟩ := settings_run turn
  rw [same]
  rfl

/-- Finding the database leaves the engine as it is. -/
theorem databasePath_run (path? : Option String) (turn : Turn) :
    ∃ later, (databasePath path?).run turn =
        (path?.getD turn.session.settingsInForce.databasePath, later) ∧
      later.engine = turn.engine := by
  cases path? with
  | some path => exact ⟨turn, rfl, rfl⟩
  | none =>
      obtain ⟨environment, dotenvLoads, found⟩ := settings_run turn
      rw [databasePath, StateT.run_bind, found]
      exact ⟨_, rfl, rfl⟩

/-- Asking for the path of the database calls nothing. -/
theorem emits_databasePath (path : Option String) :
    Emits trace (databasePath path) fun _ events => events = [] := by
  refine .quiet fun turn => ?_
  obtain ⟨later, found, stays⟩ := databasePath_run path turn
  rw [found]
  exact congrArg Engine.trace stays

end Turn

namespace Session

/-- A request leaves behind what it adds to the trace. -/
theorem trace_perform {step : Step} {T : Except Fault Answer → List Event → Prop}
    (h : Emits Turn.trace step.run.run T) (session : Session) (script : Script) :
    T (session.perform step script).answer (session.perform step script).turn.trace := by
  obtain ⟨events, added, told⟩ := h (Turn.start session script)
  have all : (session.perform step script).turn.trace = events := added
  rw [all]
  exact told

/-- What holds of every request in every session holds of each request in a run. -/
theorem forall_run {P : Step → Outcome → Prop}
    (h : ∀ (session : Session) step script, P step (session.perform step script))
    (session : Session) (steps : List (Step × Script)) :
    ∀ made ∈ steps.zip (session.run steps), P made.1.1 made.2 := by
  induction steps generalizing session with
  | nil => simp [run]
  | cons made steps ih =>
      obtain ⟨step, script⟩ := made
      intro later hl
      rw [run, List.zip_cons_cons, List.mem_cons] at hl
      obtain rfl | hl := hl
      · exact h session step script
      · exact ih _ later hl

end Session

end QueryGuard
