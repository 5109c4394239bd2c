import QueryGuard.Proofs.Engine.Agreement
import QueryGuard.Proofs.Session.Coherence

/-!
# QueryGuard.Proofs.Session.Discretion

What a client can learn of the faults of the engine.

Two runs of the same requests differ in the faults of their engines only.  A tool then answers the
same in both, unless it was stopped by the faults of one and the same call and one of them reports a
missing table or column: `run_discreet`.
-/

namespace QueryGuard

open Engine

variable {α : Type} {R : Fault → Fault → Prop}

/-- What may stand in an envelope in place of the text of a fault. -/
def failureTexts : List String := [readFailureText, operationFailureText]

/-- Two turns of one session, with engines that are alike. -/
structure Turn.Alike (R : Fault → Fault → Prop) (turn turn' : Turn) : Prop where
  session : turn.session = turn'.session
  engine : Engine.Alike R turn.engine turn'.engine

/-- Two tools end in the same way, or the envelope of each tells the fault that one and the same
call ended in. -/
inductive Envelope.Alike (R : Fault → Fault → Prop) :
    Except Fault Envelope → Except Fault Envelope → List (Event × Event) → Prop
  | same (result : Except Fault Envelope) (events : List (Event × Event)) :
      Alike R result result events
  | told {fallback : String} (fixed : fallback ∈ failureTexts) {fault fault' : Fault}
      {events : List (Event × Event)} (raised : Raised R fault fault' events) :
      Alike R (.ok (.failure (fault.publicText fallback)))
        (.ok (.failure (fault'.publicText fallback))) events

/-- Two answers are the same, or their envelopes tell the faults of one and the same call. -/
inductive Answer.Alike (R : Fault → Fault → Prop) :
    Except Fault Answer → Except Fault Answer → List (Event × Event) → Prop
  | same (answer : Except Fault Answer) (events : List (Event × Event)) :
      Alike R answer answer events
  | told {fallback : String} (fixed : fallback ∈ failureTexts) {fault fault' : Fault}
      {events : List (Event × Event)} (raised : Raised R fault fault' events)
      {answer : Envelope → Answer} (sent : ∀ told, (answer told).envelope? = some told) :
      Alike R (.ok (answer (.failure (fault.publicText fallback))))
        (.ok (answer (.failure (fault'.publicText fallback)))) events

/-- Two computations of a turn do the same with engines that are alike. -/
abbrev Turn.Agrees (R : Fault → Fault → Prop) (x y : StateM Turn α)
    (T : α → α → List (Event × Event) → Prop) : Prop :=
  Agree Turn.trace (Turn.Alike R) x y T

namespace Turn

/-- What agrees on the engine agrees in a turn. -/
theorem agrees_onEngine {x y : StateM Engine α} {T : α → α → List (Event × Event) → Prop}
    (h : Agree Engine.trace (Engine.Alike R) x y T) : Agrees R (onEngine x) (onEngine y) T := by
  intro turn turn' alike
  obtain ⟨events, added, added', after, told⟩ := h turn.engine turn'.engine alike.engine
  exact ⟨events, added, added', ⟨alike.session, after⟩, told⟩

theorem agrees_log (line line' : LogLine) :
    Agrees R (log line) (log line') fun _ _ events => events = [] :=
  Agree.quiet fun _ _ alike => ⟨rfl, rfl, ⟨alike.session, alike.engine⟩, rfl⟩

/-- The settings are the same on both sides, and the engine is not called for them. -/
theorem agrees_settings :
    Agrees R settings settings fun found found' events => found = found' ∧ events = [] := by
  refine Agree.quiet fun turn turn' alike => ?_
  obtain ⟨session, engine, logs, loads⟩ := turn
  obtain ⟨session', engine', logs', loads'⟩ := turn'
  obtain rfl : session = session' := alike.session
  obtain ⟨environment, loadDotenv, cache?⟩ := session
  cases cache? with
  | some kept => exact ⟨rfl, rfl, ⟨rfl, alike.engine⟩, rfl, rfl⟩
  | none => exact ⟨rfl, rfl, ⟨rfl, alike.engine⟩, rfl, rfl⟩

/-- The path of the database is the same on both sides. -/
theorem agrees_databasePath :
    Agrees R (databasePath none) (databasePath none) fun path path' events =>
      path = path' ∧ events = [] := by
  exact agrees_settings.afterSame fun found => Agree.pure ⟨rfl, rfl⟩

/-- An action goes on alike after a computation that ends in no fault and adds nothing to the
traces. -/
theorem agrees_afterSame {β : Type} {x : StateM Turn α} {f : α → Action β}
    {T : Except Fault β → Except Fault β → List (Event × Event) → Prop}
    (hx : Agrees R x x fun a a' events => a = a' ∧ events = [])
    (hf : ∀ a, Agrees R (f a).run (f a).run T) :
    Agrees R (liftM x >>= f : Action β).run (liftM x >>= f : Action β).run T := by
  have parts : (liftM x >>= f : Action β).run = x >>= fun a => (f a).run := rfl
  rw [parts]
  exact hx.afterSame hf

/-- A computation that ends in no fault does the same as an action. -/
theorem agrees_lift {x y : StateM Turn α}
    {T : Except Fault α → Except Fault α → List (Event × Event) → Prop}
    (h : Agrees R x y fun a b events => T (.ok a) (.ok b) events) :
    Agrees R (liftM x : Action α).run (liftM y : Action α).run T := by
  rw [run_lift, run_lift]
  refine h.bind fun a b events told => Agree.pure ?_
  rw [List.append_nil]
  exact told

end Turn

/-! ## tools -/

namespace Tool

/-- What a failed operation answers. -/
theorem agrees_fail (operation : String) {fault fault' : Fault} {before : List (Event × Event)}
    (stopped : Ends R Eq (.error fault : Except Fault α) (.error fault') before) :
    Turn.Agrees R (fail operation fault).run (fail operation fault').run
      fun result result' later => Envelope.Alike R result result' (before ++ later) := by
  have parts (fault : Fault) : (fail operation fault).run = (do
      Turn.log ⟨.error, .server, operation ++ ": " ++ fault.text⟩
      return .ok (.failure (fault.publicText operationFailureText))) := rfl
  rw [parts, parts]
  refine (Turn.agrees_log _ _).bind fun _ _ events quiet => ?_
  subst quiet
  cases stopped with
  | own => exact Agree.pure (.same _ _)
  | raised raised => exact Agree.pure (.told (by simp [failureTexts]) (raised.mono (by simp)))

/-- Computations of the engine that end alike are answered alike. -/
theorem agrees_answering (operation : String) (answer : α → Envelope) {x : String → EngineM α}
    (h : ∀ path, EndAlike R Eq (x path) (x path)) :
    Turn.Agrees R (answering operation answer x).run (answering operation answer x).run
      (Envelope.Alike R) := by
  rw [answering, ExceptT.run_tryCatch]
  have ends : Turn.Agrees R (do
      let path ← Turn.databasePath none
      return answer (← Turn.attempt (x path)) : Action Envelope).run _ (Ends R Eq) :=
    Turn.agrees_afterSame Turn.agrees_databasePath fun path =>
      Agree.attemptAfter (Turn.agrees_onEngine (h path)) fun a => Agree.attemptPure rfl
  refine ends.bind fun result result' events told => ?_
  cases told with
  | ok same =>
      subst same
      exact Agree.pure (.same _ _)
  | own fault => exact agrees_fail (α := α) operation (.own fault events)
  | raised raised => exact agrees_fail (α := α) operation (.raised raised)

/-- Whether a write is refused does not depend on the engine. -/
theorem agrees_refuseWrite? :
    Turn.Agrees R refuseWrite? refuseWrite? fun refusal refusal' events =>
      refusal = refusal' ∧ events = [] := by
  refine Turn.agrees_settings.afterSame fun found => ?_
  cases found.readOnly with
  | true => exact Agree.pure ⟨rfl, rfl⟩
  | false => exact Agree.pure ⟨rfl, rfl⟩

/-- A write ends in envelopes that are alike. -/
theorem agrees_runWrite (operation sql message : String) (reportRows : Bool) :
    Turn.Agrees R (runWrite operation sql message reportRows).run
      (runWrite operation sql message reportRows).run (Envelope.Alike R) := by
  refine Turn.agrees_afterSame agrees_refuseWrite? fun refusal => ?_
  cases refusal with
  | some refusal => exact Agree.pure (.same _ _)
  | none => exact agrees_answering _ _ (endAlike_executeWrite · sql)

/-- Readings that are alike are answered alike. -/
theorem agrees_answerReading {reading reading' : Reading} {before : List (Event × Event)}
    (alike : Reading.Alike R reading reading' before) :
    Turn.Agrees R (answerReading reading) (answerReading reading') fun envelope envelope' later =>
      Envelope.Alike R (.ok envelope) (.ok envelope') (before ++ later) := by
  rw [answerReading, answerReading]
  cases alike with
  | same =>
      cases reading.logLine? with
      | none => exact Agree.pure (.same _ _)
      | some line => exact (Turn.agrees_log line line).bind fun _ _ _ _ => Agree.pure (.same _ _)
  | failed total raised =>
      refine (Turn.agrees_log _ _).bind fun _ _ events _ => Agree.pure ?_
      exact .told (by simp [failureTexts]) (raised.mono (List.subset_append_left _ _))

/-- A query ends in envelopes that are alike. -/
theorem agrees_runQuery (sql : String) :
    Turn.Agrees R (runQuery sql).run (runQuery sql).run (Envelope.Alike R) := by
  rw [runQuery_eq]
  refine Turn.agrees_afterSame Turn.agrees_settings fun found => ?_
  have read := agree_readBounded (R := R) found.databasePath sql found.maxRecordCount
  rw [ExceptT.run_bind]
  refine (Turn.agrees_onEngine read).bind fun result result' events told => ?_
  obtain ⟨reading, reading', rfl, rfl, alike⟩ := told
  cases alike with
  | same =>
      cases reading.told with
      | error fault => exact Agree.pure (.same _ _)
      | ok told => exact Turn.agrees_lift (agrees_answerReading (.same told events))
  | failed total raised => exact Turn.agrees_lift (agrees_answerReading (.failed total raised))

/-- What is submitted for reading ends in envelopes that are alike. -/
theorem agrees_runReadData (submission : Submission) :
    Turn.Agrees R (runReadData submission).run (runReadData submission).run
      (Envelope.Alike R) := by
  cases verdict : submission.verdict with
  | accepted =>
      obtain ⟨sql, -, runs⟩ := runReadData_of_accepted verdict
      rw [runs]
      exact agrees_runQuery sql
  | rejected rule =>
      rw [runReadData_of_rejected verdict, refuseQuery]
      cases submission.preview with
      | error fault => exact Agree.pure (.same _ _)
      | ok preview => exact (Turn.agrees_log _ _).bind fun _ _ _ _ => Agree.pure (.same _ _)

/-- Every tool ends in envelopes that are alike. -/
theorem agrees_run (tool : Tool) (text : String) :
    Turn.Agrees R (tool.run text).run (tool.run text).run (Envelope.Alike R) := by
  cases tool with
  | listTables => exact agrees_answering _ _ endAlike_listTableNames
  | describeTable => exact agrees_answering _ _ (endAlike_describeTable · text)
  | readData => exact agrees_runReadData (.text text)
  | createTable | insertData | updateData | dropTable => exact agrees_runWrite _ _ _ _

end Tool

/-! ## requests -/

/-- Whether a request runs a tool, directly or by its name. -/
def Step.runsTool : Step → Bool
  | .readData _ | .tool _ _ | .call _ _ _ _ => true
  | _ => false

/-- What is made of the result of a computation that ends in no fault is the answer to a request. -/
theorem agrees_answer {x : StateM Turn α} (answer : α → Answer)
    (h : Turn.Agrees R x x fun a b events =>
      Answer.Alike R (.ok (answer a)) (.ok (answer b)) events) :
    Turn.Agrees R (do return answer (← x) : Action Answer).run
      (do return answer (← x) : Action Answer).run (Answer.Alike R) := by
  have made : (do return answer (← x) : Action Answer).run = x >>= fun a =>
      pure (Except.ok (answer a)) := rfl
  rw [made]
  refine h.bind fun a b events told => Agree.pure ?_
  rw [List.append_nil]
  exact told

/-- A tool run directly answers with what it ends in. -/
theorem agrees_envelope {x : Action Envelope} (h : Turn.Agrees R x.run x.run (Envelope.Alike R)) :
    Turn.Agrees R (do return .envelope (← x) : Action Answer).run
      (do return .envelope (← x) : Action Answer).run (Answer.Alike R) := by
  rw [ExceptT.run_bind]
  refine h.bind fun result result' events told => ?_
  cases told with
  | same =>
      cases result with
      | ok envelope => exact Agree.pure (.same _ _)
      | error fault => exact Agree.pure (.same _ _)
  | told fixed raised =>
      have sent : ∀ told, (Answer.envelope told).envelope? = some told := fun _ => rfl
      exact Agree.pure (.told fixed (raised.mono (by simp)) sent)

/-- A tool called by name is answered alike, since a failure is sent whatever obstacles data may
meet. -/
theorem agrees_call (server : Server) (obstacle? : Payload → Option String) (name : String)
    (arguments : List (String × Json)) :
    Turn.Agrees R (server.call obstacle? name arguments) (server.call obstacle? name arguments)
      fun called called' events => Answer.Alike R (.ok (.called called)) (.ok (.called called'))
        events := by
  rw [Server.call]
  cases server.find? name with
  | none => exact Agree.pure (.same _ _)
  | some tool =>
      dsimp only
      cases Server.argument tool arguments with
      | error error => exact Agree.pure (.same _ _)
      | ok given =>
          refine (tool.agrees_run given).bind fun result result' events told => Agree.pure ?_
          cases told with
          | same => exact .same _ _
          | told fixed raised =>
              have sent : ∀ told, (Answer.called (.ok told)).envelope? = some told := fun _ => rfl
              exact .told fixed (raised.mono (by simp)) sent

/-- A request that runs a tool ends in answers that are alike. -/
theorem agrees_step {step : Step} (runsTool : step.runsTool = true) :
    Turn.Agrees R step.run.run step.run.run (Answer.Alike R) := by
  cases step with
  | readData submission => exact agrees_envelope (Tool.agrees_runReadData submission)
  | tool chosen text => exact agrees_envelope (chosen.agrees_run text)
  | call obstacle? readOnly name arguments =>
      exact agrees_answer .called (agrees_call _ obstacle? name arguments)
  | clearCache | setVariable _ _ | unsetVariable _ | settings | refuseWrite | launch _
  | launchByItself | executeWrite _ _ | listTableNames _ | describeTable _ _ | pullRows _ _ _ _
  | openConnection _ _ => cases runsTool

/-! ## every run -/

/-- What two outcomes of a request may differ in, where the faults of the engines stand in a
relation. -/
structure Outcome.Discreet (R : Fault → Fault → Prop) (outcome outcome' : Outcome) : Prop where
  /-- The answers are the same if no faults with different texts report a missing object. -/
  same : (∀ fault fault', R fault fault' → fault.text ≠ fault'.text →
      fault.namesMissingObject = false ∧ fault'.namesMissingObject = false) →
    outcome.answer = outcome'.answer
  /-- If the answers differ, one and the same call ended in faults one of which reports a missing
  object, and each envelope tells the text of its fault if it does, and nothing of it otherwise. -/
  told : outcome.answer ≠ outcome'.answer → ∃ fault fault' fallback,
    Raised R fault fault' (outcome.turn.trace.zip outcome'.turn.trace) ∧
      fallback ∈ failureTexts ∧
      outcome.envelope? =
        some (.failure (if fault.namesMissingObject then fault.text else fallback)) ∧
      outcome'.envelope? =
        some (.failure (if fault'.namesMissingObject then fault'.text else fallback)) ∧
      (fault.namesMissingObject = true ∨ fault'.namesMissingObject = true)

/-- What is told of a fault depends on its text only. -/
theorem Fault.publicText_eq_of_text_eq {fault fault' : Fault} (same : fault.text = fault'.text)
    (fallback : String) : fault.publicText fallback = fault'.publicText fallback := by
  rw [publicText, publicText, namesMissingObject, namesMissingObject, same]

/-- Nothing is told of a fault that reports no missing object. -/
theorem Fault.publicText_of_not_names {fault : Fault} (silent : fault.namesMissingObject = false)
    (fallback : String) : fault.publicText fallback = fallback := by
  rw [publicText, silent, if_neg Bool.false_ne_true]

/-- Outcomes with answers that are alike are discreet. -/
theorem Outcome.discreet_of_alike {outcome outcome' : Outcome}
    (h : Answer.Alike R outcome.answer outcome'.answer
      (outcome.turn.trace.zip outcome'.turn.trace)) : Discreet R outcome outcome' := by
  obtain ⟨answer, turn⟩ := outcome
  obtain ⟨answer', turn'⟩ := outcome'
  cases h with
  | same => exact ⟨fun _ => rfl, fun differ => absurd rfl differ⟩
  | @told fallback fixed fault fault' _ raised answer sent =>
      constructor
      · intro silent
        have same : fault.publicText fallback = fault'.publicText fallback := by
          by_cases text : fault.text = fault'.text
          · exact Fault.publicText_eq_of_text_eq text fallback
          · obtain ⟨quiet, quiet'⟩ := silent fault fault' raised.1 text
            rw [Fault.publicText_of_not_names quiet, Fault.publicText_of_not_names quiet']
        simp only [same]
      · intro differ
        refine ⟨fault, fault', fallback, raised, fixed, sent _, sent _, ?_⟩
        by_contra silent
        rw [not_or, Bool.not_eq_true, Bool.not_eq_true] at silent
        apply differ
        simp only [Fault.publicText_of_not_names silent.1, Fault.publicText_of_not_names silent.2]

namespace Session

/-- A request that runs a tool is discreet for scripts that are alike. -/
theorem discreet_perform (session : Session) {step : Step} (runsTool : step.runsTool = true)
    {script script' : Script} (alike : Script.Alike R script script') :
    Outcome.Discreet R (session.perform step script) (session.perform step script') := by
  obtain ⟨events, added, added', -, told⟩ :=
    agrees_step runsTool (Turn.start session script) (Turn.start session script') ⟨rfl, alike, rfl⟩
  have zipped : (session.perform step script).turn.trace.zip
      (session.perform step script').turn.trace = events := by
    have left : (session.perform step script).turn.trace = events.map Prod.fst := added
    have right : (session.perform step script').turn.trace = events.map Prod.snd := added'
    rw [left, right, List.zip_map']
    exact List.map_id events
  refine Outcome.discreet_of_alike ?_
  rw [zipped]
  exact told

/-- **Of the faults of the engine no more is told than what reports a missing object.**  Two runs of
the same requests, with engines that differ in their faults only, give the same answers of every
tool, unless a fault that reports a missing table or column takes the place of another one; and then
the envelopes differ in the texts of these faults only. -/
theorem run_discreet (session : Session) {made made' : List (Step × Script)}
    (alike : List.Forall₂ (fun request request' =>
      request.1 = request'.1 ∧ Script.Alike R request.2 request'.2) made made') :
    ∀ request ∈ made.zip ((session.run made).zip (session.run made')),
      request.1.1.runsTool = true → Outcome.Discreet R request.2.1 request.2.2 := by
  induction alike generalizing session with
  | nil => simp
  | @cons first first' made made' same _ ih =>
      obtain ⟨step, script⟩ := first
      obtain ⟨step', script'⟩ := first'
      obtain ⟨rfl, alike⟩ := same
      have sameSession : (session.perform step script').turn.session =
          (session.perform step script).turn.session := by
        rw [session_perform, session_perform]
      rw [run, run, List.zip_cons_cons, List.zip_cons_cons, sameSession]
      intro request mem runsTool
      obtain rfl | mem := List.mem_cons.mp mem
      · exact discreet_perform session runsTool alike
      · exact ih _ request mem runsTool

/-- Where a database is and who keeps it is not told. -/
theorem run_discreet_refused :
    let script fault := { Script.empty with connectFault? := some fault }
    let outcome fault := (start .empty id).perform (.tool .listTables "") (script fault)
    let missing : Fault := ⟨.operational, "unable to open /srv/app.db"⟩
    let denied : Fault := ⟨.permission, "access denied by host 7"⟩
    (outcome missing).answer = (outcome denied).answer ∧
      (outcome missing).turn.logs ≠ (outcome denied).turn.logs ∧
      (outcome missing).envelope? = some (.failure operationFailureText) := by
  intro script outcome missing denied
  let R (fault fault' : Fault) : Prop :=
    fault.namesMissingObject = false ∧ fault'.namesMissingObject = false
  have alike : List.Forall₂ (fun request request' : Step × Script =>
      request.1 = request'.1 ∧ Script.Alike R request.2 request'.2)
      [(.tool .listTables "", script missing)] [(.tool .listTables "", script denied)] :=
    .cons ⟨rfl, .nil, .some (by decide +kernel), .none, .none, .none, .none, .none⟩ .nil
  have discreet : Outcome.Discreet R (outcome missing) (outcome denied) :=
    run_discreet (start .empty id) alike _ List.mem_cons_self rfl
  exact ⟨discreet.same fun _ _ silent _ => silent, by decide +kernel, by decide +kernel⟩

-- A missing table is told as the engine reports it.
example :
    let fault : Fault := ⟨.database, "No such table: t"⟩
    ((start .empty id).perform (.tool .listTables "")
      { Script.empty with replies := [⟨none, [], -1, some (.atOnce fault)⟩] }).envelope? =
        some (.failure "No such table: t") := by
  decide +kernel

end Session

end QueryGuard
