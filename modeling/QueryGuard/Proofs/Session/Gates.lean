import QueryGuard.Proofs.Session.Closing
import QueryGuard.Proofs.Session.PlainData
import QueryGuard.Proofs.Session.Protection

/-!
# QueryGuard.Proofs.Session.Gates

Calls of tools by name, and the two gates before a write:

1. the tools that write are registered only with a server that is not read-only;
2. when one of them runs, the settings in force must not be read-only.

The first is fixed when the server is built and the second is asked anew at every call, so the two
may disagree.  `perform_call` says that a write passes both; that a write which does not is refused
before the engine is called; and that any other call is the tool itself, whose envelope is sent to
the client if the library that writes it down meets no obstacle.  Bytes may be one: the rows of a
query hold none, but a list of tables or a schema may (`envelope_not_sent`).
-/

namespace QueryGuard

open Engine

/-- The names of the tools that write. -/
def writeToolNames : List String := ["create_table", "drop_table", "insert_data", "update_data"]

/-- What a call needs to write. -/
structure MayWrite (session : Session) (readOnly : Bool) (name : String)
    (arguments : List (String × Json)) : Prop where
  writer : name ∈ writeToolNames
  registered : readOnly = false
  statement : ∃ sql, arguments.lookup "sql" = some (.text sql)
  allowed : session.settingsInForce.readOnly = false

/-- A connection is opened and the next call is not the one that makes it refuse writes. -/
def OpensForWriting (events : List Event) : Prop :=
  ∃ conn next?, FollowsOpening conn next? events ∧
    ∀ fault?, next? ≠ some ⟨conn, .execute queryOnlyPragma [], fault?⟩

/-- The answer to a call of a tool that writes, if something that it needs is missing. -/
def refusal (tool : Tool) (readOnly : Bool) (arguments : List (String × Json)) :
    Except CallError Envelope :=
  if readOnly then .error (.unknownTool tool.name)
  else match arguments.lookup "sql" with
    | none => .error (.missing tool ⟨"sql", "Sql"⟩)
    | some (.text _) => .ok (.failure Tool.readOnlyText)
    | some _ => .error (.notText tool ⟨"sql", "Sql"⟩)

/-! ## tools and their names -/

theorem mem_writeToolNames_iff {tool : Tool} :
    tool.name ∈ writeToolNames ↔ tool.isWriter = true := by
  cases tool <;> decide

/-- Each of the names is that of a tool that writes. -/
theorem exists_writer_of_mem {name : String} (h : name ∈ writeToolNames) :
    ∃ tool : Tool, tool.isWriter = true ∧ tool.name = name := by
  simp only [writeToolNames, List.mem_cons, List.not_mem_nil, or_false] at h
  obtain rfl | rfl | rfl | rfl := h
  · exact ⟨.createTable, rfl, rfl⟩
  · exact ⟨.dropTable, rfl, rfl⟩
  · exact ⟨.insertData, rfl, rfl⟩
  · exact ⟨.updateData, rfl, rfl⟩

/-- A tool that is registered is found under its name. -/
theorem find?_of_registered {readOnly : Bool} {tool : Tool}
    (registered : tool ∈ (Server.build readOnly).tools) :
    (Server.build readOnly).find? tool.name = some tool := by
  cases readOnly <;> cases tool <;> revert registered <;> decide

theorem find?_of_writer {tool : Tool} (writes : tool.isWriter = true) (readOnly : Bool) :
    (Server.build readOnly).find? tool.name = if readOnly then none else some tool := by
  cases readOnly <;> cases tool <;> revert writes <;> decide

/-- The argument of a tool that writes is its statement. -/
theorem argument_of_writer {tool : Tool} (writes : tool.isWriter = true)
    (arguments : List (String × Json)) :
    Server.argument tool arguments = match arguments.lookup "sql" with
      | some (.text sql) => .ok sql
      | some _ => .error (.notText tool ⟨"sql", "Sql"⟩)
      | none => .error (.missing tool ⟨"sql", "Sql"⟩) := by
  cases tool with
  | createTable | dropTable | insertData | updateData => rfl
  | listTables | describeTable | readData => cases writes

/-- The text that a call gives a tool, if it gives what the tool needs. -/
theorem exists_argument {tool : Tool} {arguments : List (String × Json)} {given : String}
    (valid : ∀ parameter, tool.parameter? = some parameter →
      arguments.lookup parameter.name = some (.text given)) :
    ∃ text, Server.argument tool arguments = .ok text ∧ tool.run text = tool.run given := by
  cases tool with
  | listTables => exact ⟨"", rfl, rfl⟩
  | describeTable | readData | createTable | insertData | updateData | dropTable =>
      have text := valid _ rfl
      exact ⟨given, by simp only [Server.argument, Tool.parameter?, text], rfl⟩

/-! ## calls -/

variable (session : Session) (script : Script) {obstacle? : Payload → Option String}
  {readOnly : Bool} {name : String} {arguments : List (String × Json)} {tool : Tool} {text : String}

/-- A request that runs a tool ends as the tool does. -/
theorem perform_tool_eq (tool : Tool) (text : String) :
    let ran := (tool.run text).run.run (.start session script)
    session.perform (.tool tool text) script = ⟨ran.1.map .envelope, ran.2⟩ := by
  intro ran
  have ended : (Step.run (.tool tool text)).run.run (.start session script) =
      (ran.1.map .envelope, ran.2) := attempt_return_of_run rfl
  rw [Session.perform, ended]

/-- A call of a name that no registered tool has leaves the turn as it was. -/
theorem perform_call_of_unknown (unknown : (Server.build readOnly).find? name = none) :
    session.perform (.call obstacle? readOnly name arguments) script =
      ⟨.ok (.called (.error (.unknownTool name))), .start session script⟩ := by
  have call : (Server.build readOnly).call obstacle? name arguments =
      pure (.error (.unknownTool name)) := by
    rw [Server.call, unknown]
  rw [Session.perform, Step.run, call]
  rfl

/-- A call whose argument is not valid leaves the turn as it was. -/
theorem perform_call_of_error {error : CallError}
    (found : (Server.build readOnly).find? name = some tool)
    (invalid : Server.argument tool arguments = .error error) :
    session.perform (.call obstacle? readOnly name arguments) script =
      ⟨.ok (.called (.error error)), .start session script⟩ := by
  have call : (Server.build readOnly).call obstacle? name arguments = pure (.error error) := by
    simp only [Server.call, found, invalid]
  rw [Session.perform, Step.run, call]
  rfl

/-- A call that comes to run is the tool, and what comes of the tool is sent. -/
theorem perform_call_of_argument (found : (Server.build readOnly).find? name = some tool)
    (valid : Server.argument tool arguments = .ok text) :
    let ran := (tool.run text).run.run (.start session script)
    session.perform (.call obstacle? readOnly name arguments) script =
      ⟨.ok (.called (Server.send obstacle? tool ran.1)), ran.2⟩ := by
  have call : (Server.build readOnly).call obstacle? name arguments =
      (do return Server.send obstacle? tool (← (tool.run text).run)) := by
    simp only [Server.call, found, valid]
  rw [Session.perform, Step.run, call]
  rfl

/-- A write is refused before the engine is called while the settings are read-only. -/
theorem run_writer_of_readOnly (writes : tool.isWriter = true) (sql : String) (turn : Turn)
    (refused : turn.session.settingsInForce.readOnly = true) :
    ∃ later, (tool.run sql).run.run turn = (.ok (.failure Tool.readOnlyText), later) ∧
      later.engine = turn.engine := by
  obtain ⟨operation, message, same⟩ := Tool.exists_run_eq_runWrite writes sql
  obtain ⟨later, ran, left⟩ := Tool.runWrite_run operation sql message tool.reportsRows turn
  rw [if_pos refused] at ran left
  exact ⟨later, same ▸ ran, left⟩

/-! ## the gates -/

/-- A call of a tool that does not write leaves what the functions that read leave. -/
theorem trace_perform_call {P : List Event → Prop} (h : ReadsLeave P)
    (reader : name ∉ writeToolNames) :
    P (session.perform (.call obstacle? readOnly name arguments) script).turn.trace := by
  have call :
      Emits Turn.trace (Step.call obstacle? readOnly name arguments).run.run fun _ => P := by
    refine emits_answer .called (emits_call h.nothing _ obstacle? arguments ?_)
    intro tool same given
    have reads : tool.isWriter = false := by
      rw [← same, mem_writeToolNames_iff] at reader
      simpa using reader
    exact h.run reads given
  exact Session.trace_perform call session script

/-- The lifetime of a connection that refuses writes opens none for writing. -/
theorem not_opensForWriting {events : List Event} (h : Lifetime true events) :
    ¬ OpensForWriting events := by
  intro opens
  obtain ⟨conn, next?, follows, other⟩ := opens
  obtain ⟨fault?, next⟩ := h.pragma_follows follows
  exact other fault? next

/-- A write that misses something it needs is refused before the engine is called. -/
theorem perform_call_of_not_mayWrite (writes : tool.isWriter = true)
    (stopped : ¬ MayWrite session readOnly tool.name arguments) :
    (session.perform (.call obstacle? readOnly tool.name arguments) script).turn.trace = [] ∧
      (session.perform (.call obstacle? readOnly tool.name arguments) script).answer =
        .ok (.called (refusal tool readOnly arguments)) := by
  have found := find?_of_writer writes readOnly
  cases readOnly with
  | true =>
      rw [perform_call_of_unknown session script found]
      exact ⟨rfl, rfl⟩
  | false =>
      have argument := argument_of_writer writes arguments
      cases given : arguments.lookup "sql" with
      | none =>
          rw [given] at argument
          rw [perform_call_of_error session script found argument, refusal, given]
          exact ⟨rfl, rfl⟩
      | some value =>
          rw [given] at argument
          cases value with
          | text sql =>
              have refused : session.settingsInForce.readOnly = true := by
                rw [← Bool.not_eq_false]
                exact fun allowed => stopped
                  ⟨mem_writeToolNames_iff.mpr writes, rfl, ⟨sql, given⟩, allowed⟩
              obtain ⟨later, ran, engine⟩ :=
                run_writer_of_readOnly writes sql (.start session script) refused
              rw [perform_call_of_argument session script found argument, refusal, given, ran]
              exact ⟨congrArg Engine.trace engine, rfl⟩
          | null | bool _ | int _ | real _ | list _ | object _ =>
              rw [perform_call_of_error session script found argument, refusal, given]
              exact ⟨rfl, rfl⟩

/-- A call that opens a connection for writing, or commits, has what it needs to write. -/
theorem mayWrite_of_wrote
    (wrote :
      let trace := (session.perform (.call obstacle? readOnly name arguments) script).turn.trace
      OpensForWriting trace ∨ ∃ e ∈ trace, e.call = .commit) :
    MayWrite session readOnly name arguments := by
  by_cases writer : name ∈ writeToolNames
  · obtain ⟨tool, writes, rfl⟩ := exists_writer_of_mem writer
    refine Classical.byContradiction fun stopped => ?_
    have untouched : (session.perform (.call obstacle? readOnly tool.name arguments)
        script).turn.trace = [] := (perform_call_of_not_mayWrite session script writes stopped).1
    rw [untouched] at wrote
    simp [OpensForWriting, FollowsOpening] at wrote
  · obtain opens | ⟨e, he, commits⟩ := wrote
    · refine absurd opens (not_opensForWriting ?_)
      exact trace_perform_call session script readsLeave_lifetime writer
    · refine absurd commits (Protected.noCommit ?_ e he)
      exact trace_perform_call session script readsLeave_protected writer

/-- A call of a registered tool with a valid argument does what the tool does when it is run
directly, and sends what comes of it. -/
theorem perform_call_of_registered (registered : tool ∈ (Server.build readOnly).tools)
    (valid : ∀ parameter, tool.parameter? = some parameter →
      arguments.lookup parameter.name = some (.text text)) :
    let ran := (tool.run text).run.run (.start session script)
    session.perform (.call obstacle? readOnly tool.name arguments) script =
      ⟨.ok (.called (Server.send obstacle? tool ran.1)), ran.2⟩ := by
  intro ran
  obtain ⟨given, argument, run⟩ := exists_argument valid
  have called : session.perform (.call obstacle? readOnly tool.name arguments) script = _ :=
    perform_call_of_argument session script (find?_of_registered registered) argument
  rw [run] at called
  exact called

/-- Data that meets no obstacle is sent. -/
theorem send_of_none {envelope : Envelope} (free : envelope.data.bind obstacle? = none) :
    Server.send obstacle? tool (.ok envelope) = .ok envelope := by
  rw [Server.send, free]

/-- An envelope without bytes is sent, by any library that can write down all other values. -/
theorem send_of_isPlain (plain : ∀ data : Payload, data.IsPlain → obstacle? data = none)
    {envelope : Envelope} (none : envelope.IsPlain) :
    Server.send obstacle? tool (.ok envelope) = .ok envelope := by
  apply send_of_none
  cases there : envelope.data with
  | none => rfl
  | some data => exact plain data (none data there)

/-- **A call by name writes only through both gates, and is otherwise the tool itself.** A tool that
writes and misses something it needs is refused without a call of the engine.  A tool that is
registered and given its argument leaves what it leaves when it is run directly: the same trace, log
and session.  Its fault is told, and its envelope is sent, unless the library that writes it down
meets an obstacle, which is told then.  Where that library can write down all values but bytes,
every envelope without bytes is sent, and so is every envelope of a tool that neither lists the
tables nor describes one. -/
theorem perform_call (session : Session) (obstacle? : Payload → Option String)
    (plain : ∀ data : Payload, data.IsPlain → obstacle? data = none) (readOnly : Bool)
    (name : String) (arguments : List (String × Json)) (script : Script) :
    let outcome := session.perform (.call obstacle? readOnly name arguments) script
    (OpensForWriting outcome.turn.trace ∨ (∃ e ∈ outcome.turn.trace, e.call = .commit) →
        MayWrite session readOnly name arguments) ∧
      (∀ tool : Tool, tool.isWriter = true → tool.name = name →
        ¬ MayWrite session readOnly name arguments →
          outcome.turn.trace = [] ∧
            outcome.answer = .ok (.called (refusal tool readOnly arguments))) ∧
      (∀ tool ∈ (Server.build readOnly).tools, tool.name = name → ∀ text,
        (∀ parameter, tool.parameter? = some parameter →
          arguments.lookup parameter.name = some (.text text)) →
        let direct := session.perform (.tool tool text) script
        outcome.turn = direct.turn ∧
          ((∃ fault, direct.answer = .error fault ∧
              outcome.answer = .ok (.called (.error (.failed tool fault.text)))) ∨
            ∃ envelope, direct.answer = .ok (.envelope envelope) ∧
              (envelope.data.bind obstacle? = none →
                outcome.answer = .ok (.called (.ok envelope))) ∧
              (∀ reason, envelope.data.bind obstacle? = some reason →
                outcome.answer = .ok (.called (.error (.failed tool reason)))) ∧
              (envelope.IsPlain ∨ tool ∉ [.listTables, .describeTable] →
                outcome.answer = .ok (.called (.ok envelope))))) := by
  intro outcome
  refine ⟨mayWrite_of_wrote session script, ?_, ?_⟩
  · intro tool writes same stopped
    subst same
    exact perform_call_of_not_mayWrite session script writes stopped
  · intro tool registered same text valid direct
    subst same
    let ran := (tool.run text).run.run (.start session script)
    have sent : outcome = ⟨.ok (.called (Server.send obstacle? tool ran.1)), ran.2⟩ :=
      perform_call_of_registered session script registered valid
    have ended : direct = ⟨ran.1.map .envelope, ran.2⟩ := perform_tool_eq session script tool text
    refine ⟨by rw [sent, ended], ?_⟩
    cases result : ran.1 with
    | error fault =>
        rw [result] at sent ended
        exact .inl ⟨fault, by rw [ended]; rfl, by rw [sent]; rfl⟩
    | ok envelope =>
        rw [result] at sent ended
        refine .inr ⟨envelope, by rw [ended]; rfl, ?_, ?_, ?_⟩
        · intro free
          rw [sent, send_of_none free]
        · intro reason blocked
          rw [sent, Server.send, blocked]
        · intro without
          have none : envelope.IsPlain := without.elim id fun other => by
            simp only [List.mem_cons, List.not_mem_nil, or_false, not_or] at other
            exact Tool.plain_run other.1 other.2 result
          rw [sent, send_of_isPlain plain none]

/-- What a library that writes JSON says of data with bytes that are no text. -/
def byteObstacle? (data : Payload) : Option String :=
  data.values.findSome? fun
    | .blob bytes => match Text.Utf8.decode bytes with
      | .ok _ => none
      | .error flaw => some ("Error serializing to JSON: " ++ flaw.message)
    | _ => none

/-- Data without bytes meets no such obstacle. -/
theorem byteObstacle?_of_isPlain {data : Payload} (plain : data.IsPlain) :
    byteObstacle? data = none := by
  rw [byteObstacle?, List.findSome?_eq_none_iff]
  intro value mem
  cases value with
  | blob bytes => exact absurd rfl (plain _ mem bytes).1
  | null | bool _ | int _ | real _ | text _ | view _ => rfl

/-- A row with bytes that are no text is sent, since a query presents them in hexadecimal. -/
theorem perform_call_of_bytes :
    let reply : Reply := ⟨some ["x"], [[.blob [0xff]]], -1, none⟩
    let script := { Script.empty with replies := [reply] }
    let arguments := [("sql", Json.text "SELECT x FROM t")]
    let call := Step.call byteObstacle? true "read_data" arguments
    ((Session.start .empty id).perform call script).answer =
      .ok (.called (.ok (.answered (.rows [⟨[("x", .text "ff")]⟩]) none))) := by
  intro reply script arguments call
  obtain ⟨-, -, direct⟩ := perform_call (.start .empty id) byteObstacle?
    (fun _ => byteObstacle?_of_isPlain) true "read_data" arguments script
  obtain ⟨-, ended⟩ := direct .readData (by decide) rfl "SELECT x FROM t"
    (by rintro parameter ⟨⟩; rfl)
  -- the envelope of the tool itself, computed
  have read : ((Session.start .empty id).perform (.tool .readData "SELECT x FROM t")
      script).envelope? = some (.answered (.rows [⟨[("x", .text "ff")]⟩]) none) := by
    decide +kernel
  obtain ⟨fault, failed, -⟩ | ⟨envelope, answered, -, -, sent⟩ := ended
  · rw [Outcome.envelope?, failed] at read
    cases read
  · rw [Outcome.envelope?, answered] at read
    cases read
    exact sent (.inr (by decide))

/-- A list of tables with a name of bytes that are no text is not sent. -/
theorem envelope_not_sent :
    ¬ ∀ (session : Session) (readOnly : Bool) (name : String) (arguments : List (String × Json))
        (script : Script), ∀ tool ∈ (Server.build readOnly).tools, tool.name = name → ∀ text,
        (∀ parameter, tool.parameter? = some parameter →
          arguments.lookup parameter.name = some (.text text)) →
        ∀ envelope,
          (session.perform (.tool tool text) script).answer = .ok (.envelope envelope) →
          (session.perform (.call byteObstacle? readOnly name arguments) script).answer =
            .ok (.called (.ok envelope)) := by
  intro h
  let names : Reply := ⟨some ["name"], [[.blob [0xff]]], -1, none⟩
  let script := { Script.empty with replies := [names] }
  have sent := h (.start .empty id) true "list_tables" [] script .listTables (by decide) rfl ""
    (fun _ given => nomatch given) _ rfl
  have refused : ((Session.start .empty id).perform (.call byteObstacle? true "list_tables" [])
      script).answer = .ok (.called (.error (.failed .listTables
        "Error serializing to JSON: invalid utf-8 sequence of 1 bytes from index 0"))) := rfl
  rw [refused] at sent
  cases sent

end QueryGuard
