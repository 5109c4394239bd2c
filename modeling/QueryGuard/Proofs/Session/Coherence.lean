import QueryGuard.Proofs.Session.Asking

/-!
# QueryGuard.Proofs.Session.Coherence

The settings over a whole run.

The settings are read when a request first asks for them and are then kept until they are forgotten.
`Session.origin?` tells from a run alone, without a look at what is kept, which environment that
request found (`origin?_of_first`, `origin?_of_forgets`).  `run_settings` says that a session keeps
just the settings of this environment after every run, filled from the dotenv file where it lacks a
variable: each request that asks for settings goes by them and by nothing else of the session, the
dotenv file is read once for each time that the settings are, and no other request reads it.
-/

namespace QueryGuard

/-- Whether a request makes the session forget its settings. -/
def Step.forgets : Step → Bool
  | .clearCache => true
  | _ => false

/-- What a request that does not ask for the settings does to the session. -/
def Step.change : Step → Session → Session
  | .clearCache, session => { session with cache? := none }
  | .setVariable name value, session =>
      { session with environment := session.environment.set name value }
  | .unsetVariable name, session => { session with environment := session.environment.unset name }
  | _, session => session

theorem Step.cache?_change (step : Step) (session : Session) :
    (step.change session).cache? = if step.forgets then none else session.cache? := by
  cases step <;> rfl

theorem Step.loadDotenv_change (step : Step) (session : Session) :
    (step.change session).loadDotenv = session.loadDotenv := by
  cases step <;> rfl

theorem Step.change_of_leaves {step : Step} (leaves : step.changesSession = false)
    (session : Session) : step.change session = session := by
  cases step with
  | clearCache | setVariable _ _ | unsetVariable _ => cases leaves
  | _ => rfl

/-- A request that asks for the settings does not forget them. -/
theorem Step.forgets_of_asks {step : Step} (asks : step.asksSettings = true) :
    step.forgets = false := by
  cases step with
  | clearCache => cases asks
  | _ => rfl

namespace Session

/-! ## one request -/

/-- A session that holds nothing but settings. -/
def knowing (settings : Settings) : Session := ⟨.empty, id, some settings⟩

/-- The session once its settings are read: if none were kept, with what reading the dotenv file
makes of its environment. -/
def informed (session : Session) : Session where
  environment :=
    if session.cache?.isSome then session.environment else session.loadDotenv session.environment
  loadDotenv := session.loadDotenv
  cache? := some session.settingsInForce

/-- A turn whose settings are read is that of a session that knows nothing but these settings. -/
theorem informed_start (session : Session) (script : Script) :
    (Turn.start session script).informed =
      (Turn.start (knowing session.settingsInForce) script).inSession session.informed
        (if session.cache?.isSome then 0 else 1) := by
  obtain ⟨environment, loadDotenv, cache?⟩ := session
  cases cache? with
  | none => rfl
  | some settings => rfl

/-- A request that asks for the settings reads them once, if none are kept; its answer, its calls of
the engine and its log come from the settings in force, whatever else the session holds. -/
theorem perform_of_asks {step : Step} (asks : step.asksSettings = true) (session : Session)
    (script : Script) :
    session.perform step script =
      ⟨((knowing session.settingsInForce).perform step script).answer,
        ((knowing session.settingsInForce).perform step script).turn.inSession session.informed
          (if session.cache?.isSome then 0 else 1)⟩ := by
  have first := asksFirst_step asks (Turn.start session script)
  have rest := settled_step asks (Turn.start (knowing session.settingsInForce) script)
    session.informed (if session.cache?.isSome then 0 else 1) rfl rfl
  rw [informed_start, rest] at first
  exact congrArg (fun result => Outcome.mk result.1 result.2) first

/-- A request that does not ask for the settings reads none, and does to the session no more than it
is there for. -/
theorem perform_of_not_asks {step : Step} (asks : step.asksSettings = false) (session : Session)
    (script : Script) :
    (session.perform step script).turn.session = step.change session ∧
      (session.perform step script).turn.dotenvLoads = 0 := by
  cases changes : step.changesSession with
  | true =>
      cases step with
      | clearCache | setVariable _ _ | unsetVariable _ => exact ⟨rfl, rfl⟩
      | _ => cases changes
  | false =>
      have alone := leavesSession_step asks changes (Turn.start session script) session 0
      rw [Step.change_of_leaves changes]
      exact ⟨congrArg (fun result => result.2.session) alone,
        congrArg (fun result => result.2.dotenvLoads) alone⟩

/-- What a request leaves of a session does not depend on the engine. -/
theorem session_perform (session : Session) (step : Step) (script : Script) :
    (session.perform step script).turn.session =
      if step.asksSettings then session.informed else step.change session := by
  cases asks : step.asksSettings with
  | true =>
      rw [perform_of_asks asks]
      rfl
  | false => exact (perform_of_not_asks asks session script).1

/-! ## what settings were read from -/

/-- The session that requests leave. -/
def after (session : Session) : List (Step × Script) → Session
  | [] => session
  | (step, script) :: steps => (session.perform step script).turn.session.after steps

/-- The environment that the kept settings go back to, after one more request: the first request
that asks for them reads them, and they stay until they are forgotten. -/
def nextOrigin? (session : Session) (kept? : Option Environment) (step : Step) :
    Option Environment :=
  if step.forgets then none
  else if step.asksSettings then some (kept?.getD session.environment)
  else kept?

/-- The environment that the kept settings go back to, after requests: the one that was found by the
first request to ask for them since the start, or since they were last forgotten. -/
def origin? (session : Session) (kept? : Option Environment) :
    List (Step × Script) → Option Environment
  | [] => kept?
  | (step, script) :: steps =>
      (session.perform step script).turn.session.origin? (session.nextOrigin? kept? step) steps

variable {session : Session} {kept? : Option Environment}

/-- The environment that the settings go back to is found step by step. -/
theorem origin?_append (session : Session) (kept? : Option Environment)
    (steps later : List (Step × Script)) :
    session.origin? kept? (steps ++ later) =
      (session.after steps).origin? (session.origin? kept? steps) later := by
  induction steps generalizing session kept? with
  | nil => rfl
  | cons made steps ih => exact ih _ _

/-- As long as no request asks for the settings, none are kept. -/
theorem origin?_of_quiet {steps : List (Step × Script)}
    (quiet : ∀ made ∈ steps, made.1.asksSettings = false) : session.origin? none steps = none := by
  induction steps generalizing session with
  | nil => rfl
  | cons made steps ih =>
      have next : session.nextOrigin? none made.1 = none := by
        rw [nextOrigin?, quiet made List.mem_cons_self, if_neg Bool.false_ne_true, ite_self]
      rw [origin?, next]
      exact ih fun later hl => quiet later (List.mem_cons_of_mem made hl)

/-- As long as no request forgets the settings, those that are kept stay. -/
theorem origin?_of_stays {steps : List (Step × Script)} {found : Environment}
    (stays : ∀ made ∈ steps, made.1.forgets = false) :
    session.origin? (some found) steps = some found := by
  induction steps generalizing session with
  | nil => rfl
  | cons made steps ih =>
      have next : session.nextOrigin? (some found) made.1 = some found := by
        rw [nextOrigin?, stays made List.mem_cons_self, if_neg Bool.false_ne_true,
          Option.getD_some, ite_self]
      rw [origin?, next]
      exact ih fun later hl => stays later (List.mem_cons_of_mem made hl)

/-- Settings that were forgotten come from nowhere. -/
theorem origin?_of_forgets {step : Step} (forgets : step.forgets = true) (session : Session)
    (kept? : Option Environment) (past : List (Step × Script)) (script : Script) :
    session.origin? kept? (past ++ [(step, script)]) = none := by
  rw [origin?_append, origin?, nextOrigin?, if_pos forgets, origin?]

/-- Where none were kept, the settings go back to the environment that the first request to ask for
them finds, and they do so until they are forgotten. -/
theorem origin?_of_first {quiet later : List (Step × Script)} {step : Step} {script : Script}
    (silent : ∀ made ∈ quiet, made.1.asksSettings = false) (asks : step.asksSettings = true)
    (stays : ∀ made ∈ later, made.1.forgets = false) :
    session.origin? none (quiet ++ (step, script) :: later) =
      some (session.after quiet).environment := by
  rw [origin?_append, origin?_of_quiet silent, origin?, nextOrigin?, Step.forgets_of_asks asks,
    if_neg Bool.false_ne_true, if_pos asks, Option.getD_none, origin?_of_stays stays]

/-! ## every run -/

/-- The settings of an environment, with what reading the dotenv file makes of it. -/
def settingsOf (session : Session) (environment : Environment) : Settings :=
  Settings.load (session.loadDotenv environment)

/-- The settings in force go back to the environment that the kept ones go back to or, if none are
kept, to the one at hand. -/
theorem settingsInForce_of_kept (kept : session.cache? = kept?.map session.settingsOf) :
    session.settingsInForce = session.settingsOf (kept?.getD session.environment) := by
  rw [settingsInForce, kept]
  cases kept? with
  | none => rfl
  | some found => rfl

/-- A request reads the dotenv file in no other way than the one before. -/
theorem loadDotenv_perform (session : Session) (step : Step) (script : Script) :
    (session.perform step script).turn.session.loadDotenv = session.loadDotenv := by
  rw [session_perform]
  cases step.asksSettings with
  | true => rfl
  | false => exact step.loadDotenv_change session

/-- No request changes what reading the dotenv file does. -/
theorem loadDotenv_after (session : Session) (steps : List (Step × Script)) :
    (session.after steps).loadDotenv = session.loadDotenv := by
  induction steps generalizing session with
  | nil => rfl
  | cons made steps ih => exact (ih _).trans (loadDotenv_perform session made.1 made.2)

/-- Sessions that read the dotenv file in one way have the same settings of an environment. -/
theorem settingsOf_congr {session session' : Session}
    (same : session.loadDotenv = session'.loadDotenv) :
    session.settingsOf = session'.settingsOf := by
  funext environment
  rw [settingsOf, settingsOf, same]

/-- After a request the kept settings are those of the environment that they go back to. -/
theorem cache?_perform (kept : session.cache? = kept?.map session.settingsOf) (step : Step)
    (script : Script) :
    (session.perform step script).turn.session.cache? =
      (session.nextOrigin? kept? step).map session.settingsOf := by
  rw [session_perform, nextOrigin?]
  cases asks : step.asksSettings with
  | true =>
      rw [Step.forgets_of_asks asks, if_neg Bool.false_ne_true, if_pos rfl, if_pos rfl,
        Option.map_some, ← settingsInForce_of_kept kept]
      rfl
  | false =>
      rw [if_neg Bool.false_ne_true, if_neg Bool.false_ne_true, Step.cache?_change, kept]
      split
      · rfl
      · rfl

/-- After requests the kept settings are those of the environment that they go back to. -/
theorem cache?_after (kept : session.cache? = kept?.map session.settingsOf)
    (steps : List (Step × Script)) :
    (session.after steps).cache? = (session.origin? kept? steps).map session.settingsOf := by
  induction steps generalizing session kept? with
  | nil => exact kept
  | cons made steps ih =>
      have same := settingsOf_congr (loadDotenv_perform session made.1 made.2)
      have next := ih (same ▸ cache?_perform kept made.1 made.2)
      rw [same] at next
      exact next

/-- In every run the settings in force are those of the environment that they go back to. -/
theorem settingsInForce_after (environment : Environment) (loadDotenv : Environment → Environment)
    (past : List (Step × Script)) :
    let session := (start environment loadDotenv).after past
    let origin? := (start environment loadDotenv).origin? none past
    session.settingsInForce =
      Settings.load (loadDotenv (origin?.getD session.environment)) := by
  intro session origin?
  have kept : session.cache? = origin?.map (start environment loadDotenv).settingsOf :=
    cache?_after rfl past
  have same : session.settingsOf = (start environment loadDotenv).settingsOf :=
    settingsOf_congr (loadDotenv_after _ past)
  rw [← same] at kept
  rw [settingsInForce_of_kept kept, same]
  rfl

/-- The outcome of a request in a run is that of the request in the session before it. -/
theorem run_append_cons (session : Session) (past later : List (Step × Script)) (step : Step)
    (script : Script) :
    (session.run (past ++ (step, script) :: later))[past.length]? =
      some ((session.after past).perform step script) := by
  induction past generalizing session with
  | nil => rfl
  | cons made past ih => exact ih _

/-- A request that is not there to change the session keeps every variable that is set, if reading
the dotenv file does. -/
theorem get?_perform (session : Session) {step : Step} (script : Script)
    (leaves : step.changesSession = false) {name value : String}
    (fills : (session.loadDotenv session.environment).get? name = some value)
    (found : session.environment.get? name = some value) :
    (session.perform step script).turn.session.environment.get? name = some value := by
  rw [session_perform]
  cases step.asksSettings with
  | false =>
      rw [if_neg Bool.false_ne_true, Step.change_of_leaves leaves]
      exact found
  | true =>
      rw [if_pos rfl, informed]
      split
      · exact found
      · exact fills

/-- **The settings are coherent over every run.**  Where reading the dotenv file adds the variables
that an environment lacks and no others, the settings kept when a request comes are those of the
environment that they go back to, with the variables of the file that it lacked.  If the request
asks for settings, it answers, calls the engine and writes to the log as in a session that knows
nothing but these settings; if none were kept, they go back to the environment at hand, and only
then the file is read.  If the request does not ask, it reads nothing.  No variable that is set is
changed by reading the file. -/
theorem run_settings (environment dotenv : Environment) (loadDotenv : Environment → Environment)
    (fills : ∀ env name, (loadDotenv env).get? name = (env.get? name).or (dotenv.get? name))
    (past later : List (Step × Script)) (step : Step) (script : Script) :
    let first := start environment loadDotenv
    let session := first.after past
    let origin? := first.origin? none past
    ∃ source : Environment,
      (∀ name, source.get? name =
        ((origin?.getD session.environment).get? name).or (dotenv.get? name)) ∧
      let known := (knowing (Settings.load source)).perform step script
      ∃ outcome, (first.run (past ++ (step, script) :: later))[past.length]? = some outcome ∧
        session.cache? = origin?.map (fun _ => Settings.load source) ∧
        (step.asksSettings = true →
          outcome.answer = known.answer ∧ outcome.turn.engine = known.turn.engine ∧
            outcome.turn.logs = known.turn.logs ∧
            outcome.turn.session = ⟨if origin?.isSome then session.environment else source,
              loadDotenv, some (Settings.load source)⟩ ∧
            outcome.turn.dotenvLoads = if origin?.isSome then 0 else 1) ∧
        (step.asksSettings = false →
          outcome.turn.session = step.change session ∧ outcome.turn.dotenvLoads = 0) ∧
        (step.changesSession = false → ∀ name value,
          session.environment.get? name = some value →
            outcome.turn.session.environment.get? name = some value) := by
  intro first session origin?
  have kept : session.cache? = origin?.map first.settingsOf := cache?_after rfl past
  have sameFile : session.loadDotenv = loadDotenv := loadDotenv_after first past
  have cached : session.cache?.isSome = origin?.isSome := by rw [kept, Option.isSome_map]
  let source := loadDotenv (origin?.getD session.environment)
  have inForce : session.settingsInForce = Settings.load source :=
    settingsInForce_after environment loadDotenv past
  have informed : session.informed = ⟨if origin?.isSome then session.environment else source,
      loadDotenv, some (Settings.load source)⟩ := by
    rw [Session.informed, inForce, cached, sameFile]
    cases found : origin? with
    | none => simp [source, found]
    | some _ => rfl
  refine ⟨source, fills _, _, run_append_cons _ past later step script, ?_, ?_, ?_, ?_⟩
  · rw [kept]
    cases found : origin? with
    | none => rfl
    | some _ => simp [source, found, settingsOf, first, start]
  · intro asks
    rw [perform_of_asks asks, inForce, informed, cached]
    exact ⟨rfl, rfl, rfl, rfl, rfl⟩
  · exact fun asks => perform_of_not_asks asks session script
  · intro leaves name value found
    refine get?_perform session script leaves ?_ found
    rw [sameFile, fills, found, Option.some_or]

/-- The settings of a file that sets three variables, of which the environment has one: they are
read once and stay, although the environment changes then. -/
theorem run_settings_of_file :
    let environment := Environment.ofList [("READONLY", "false")]
    let dotenv := Environment.ofList
      [("READONLY", "true"), ("MAX_RESULT_SET", "7"), ("DATABASE_PATH", "demo.db")]
    let loadDotenv (env : Environment) : Environment :=
      ⟨fun name => (env.get? name).or (dotenv.get? name)⟩
    let past := [(Step.settings, Script.empty),
      (.setVariable "MAX_RESULT_SET" "5", .empty)]
    ∃ outcome settings,
      ((start environment loadDotenv).run (past ++ [(.settings, .empty)]))[2]? = some outcome ∧
        outcome.answer = .ok (.settings settings) ∧ outcome.turn.dotenvLoads = 0 ∧
        settings.readOnly = false ∧ settings.maxRecordCount = 7 ∧
        settings.databasePath = "demo.db" := by
  intro environment dotenv loadDotenv past
  obtain ⟨source, filled, outcome, ran, -, asks, -⟩ := run_settings environment dotenv loadDotenv
    (fun _ _ => rfl) past [] .settings .empty
  have same : source = loadDotenv environment := Environment.ext filled
  obtain ⟨answered, -, -, -, loads⟩ := asks rfl
  refine ⟨outcome, Settings.load source, ran, answered, loads, ?_⟩
  rw [same]
  decide +kernel

end Session

end QueryGuard
