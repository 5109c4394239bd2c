import QueryGuard.Proofs.Engine.TableStatements
import QueryGuard.Proofs.Session.Protection
import QueryGuard.Proofs.Session.Writing

/-!
# QueryGuard.Proofs.Session.Describing

Tables are described by their names, whatever characters those have, and are described wholly or not
at all.

* `Step.describes?` — the requests that describe a table are one description by the engine
  (`exists_description`);
* `describing_quotes_name` — the name of a table does not end before it should in a statement, and
  stands in none unless the table is found;
* `describeTable_whole` — the tool answers with every entry of every list, or with a failure.
-/

namespace QueryGuard

open Engine

/-- The table that a request describes: one that names the table, one that runs the tool, or a call
of the tool that brings the name. -/
def Step.describes? : Step → Option String
  | .describeTable table _ => some table
  | .tool .describeTable table => some table
  | .call _ _ name arguments =>
      if name = Tool.describeTable.name then (Server.argument .describeTable arguments).toOption
      else none
  | _ => none

/-- The tool describes a table of the database of the settings in force. -/
theorem Tool.runDescribeTable_run (table : String) (turn : Turn) :
    let ran := (Engine.describeTable turn.session.settingsInForce.databasePath table).run.run
      turn.engine
    ∃ later, (Tool.describeTable.run table).run.run turn =
        (.ok (envelopeOf (schemaAnswer table) ran.1), later) ∧ later.engine = ran.2 :=
  answering_run _ (schemaAnswer table) (Engine.describeTable · table) turn

namespace Session

variable (session : Session) (script : Script)

/-- A request that describes a table leaves what the engine leaves of one description. -/
theorem exists_description {step : Step} {table : String}
    (describes : step.describes? = some table) :
    ∃ path, (session.perform step script).turn.engine =
      ((Engine.describeTable path table).run.run (.start script)).2 := by
  have byTool := Tool.runDescribeTable_run table (.start session script)
  obtain ⟨left, ran, same⟩ := byTool
  cases step with
  | describeTable named path? =>
      cases describes
      obtain ⟨later, ran, left⟩ :=
        Step.onDatabase_run path? (Engine.describeTable · table) (.start session script)
      have performed : (Step.run (.describeTable table path?)).run.run (.start session script) =
          (_, later) := attempt_return_of_run ran
      exact ⟨_, (congrArg (·.2.engine) performed).trans left⟩
  | tool chosen named =>
      cases chosen with
      | describeTable =>
          cases describes
          rw [perform_tool_eq]
          exact ⟨_, (congrArg (·.2.engine) ran).trans same⟩
      | listTables | readData | createTable | insertData | updateData | dropTable => cases describes
  | call obstacle? readOnly name arguments =>
      rw [Step.describes?] at describes
      split at describes
      · next named =>
        subst named
        cases valid : Server.argument .describeTable arguments with
        | error error =>
            rw [valid] at describes
            cases describes
        | ok given =>
            rw [valid] at describes
            cases describes
            have registered : Tool.describeTable ∈ (Server.build readOnly).tools := by
              cases readOnly <;> decide
            rw [perform_call_of_argument session script (find?_of_registered registered) valid]
            exact ⟨_, (congrArg (·.2.engine) ran).trans same⟩
      · cases describes
  | clearCache | setVariable _ _ | unsetVariable _ | settings | refuseWrite | readData _ | launch _
  | launchByItself | executeWrite _ _ | listTableNames _ | pullRows _ _ _ _ | openConnection _ _ =>
      cases describes

/-- The trace of a request that describes a table is that of a description. -/
theorem exists_description_trace {step : Step} {table : String}
    (describes : step.describes? = some table) (carries : script.CarriesSchema) :
    ∃ path result,
      Description script ⟨0⟩ path table result (session.perform step script).turn.trace := by
  obtain ⟨path, left⟩ := session.exists_description script describes
  obtain ⟨events, added, description⟩ := run_describeTable path table (.start script) carries
  have all : (session.perform step script).turn.trace = events :=
    (congrArg Engine.trace left).trans added
  exact ⟨path, _, all ▸ description⟩

/-- **The name of a table does not break out of its quotes.**  A request that describes a table
looks for the table with the name as a value.  If the table is found, its lists are asked for, all
of them unless a fault comes before; otherwise no further statement is executed.  In each of these
statements a reader of quoted names finds the name as a whole, and nothing else. -/
theorem describing_quotes_name (session : Session) (script : Script) {step : Step} {table : String}
    (describes : step.describes? = some table) :
    let trace := (session.perform step script).turn.trace
    let lookup := lookupStatements table
    let listing := listingStatements table
    (script.FindsTable →
        lookup ++ listing.take 1 <+: executed trace ∧ executed trace <+: lookup ++ listing) ∧
      (script.FindsTable → script.CarriesSchema → (∀ e ∈ trace, e.fault? = none) →
        executed trace = lookup ++ listing) ∧
      (¬ script.FindsTable → executed trace <+: lookup) ∧
      ∀ what, Function.Injective (tablePragma what) ∧ ∃ body,
        tablePragma what table = "PRAGMA " ++ what ++ "(\"" ++ String.ofList body ++ "\")" ∧
          readQuoted body = (table.toList, []) ∧
          readQuoted (body ++ [quote, ')']) = (table.toList, [quote, ')']) := by
  intro trace lookup listing
  obtain ⟨path, left⟩ := session.exists_description script describes
  obtain ⟨events, added, found, missing⟩ := executed_describeTable path table (.start script)
  have all : trace = events := (congrArg Engine.trace left).trans added
  refine ⟨all ▸ found, fun finds carries clean => ?_, all ▸ missing, fun what => ?_⟩
  · obtain ⟨path, result, description⟩ :=
      session.exists_description_trace script describes carries
    exact description.executed_eq (description.clean_iff.mp clean) finds.row.present
  · exact ⟨tablePragma_injective what, doubleQuotes table.toList, rfl, readQuoted_inside _,
      readQuoted_closed _ (by decide)⟩

/-- A name with a quote inside and two at its end, which a server that only reads is asked to
describe. -/
theorem describing_quotes_name_of_quotes :
    let table := "a\"b\"\""
    let script : Script := { Script.empty with replies := [
      ⟨some ["name"], [[.text table]], -1, none⟩, ⟨some Column.fields, [], -1, none⟩,
      ⟨some Index.fields, [], -1, none⟩, ⟨some ForeignKey.fields, [], -1, none⟩] }
    let step := Step.call (fun _ => none) true "describe_table" [("name", .text table)]
    executed ((start .empty id).perform step script).turn.trace = [
        ("PRAGMA query_only = ON", []),
        ("SELECT name FROM sqlite_master WHERE type='table' AND name=?", [table]),
        ("PRAGMA table_info(\"a\"\"b\"\"\"\"\")", []),
        ("PRAGMA index_list(\"a\"\"b\"\"\"\"\")", []),
        ("PRAGMA foreign_key_list(\"a\"\"b\"\"\"\"\")", [])] := by
  intro table script step
  have finds : script.FindsTable := ⟨⟨rfl, rfl⟩, rfl, by simp [Script.reply, script]⟩
  have carries : script.CarriesSchema := ⟨by decide, by decide, by decide⟩
  have describes : step.describes? = some table := by decide +kernel
  obtain ⟨-, complete, -, -⟩ := describing_quotes_name (start .empty id) script describes
  exact (complete finds carries (by decide +kernel)).trans (by decide +kernel)

/-- The tool answers with what a description ends in. -/
theorem exists_description_tool (table : String) (carries : script.CarriesSchema) :
    let outcome := session.perform (.tool .describeTable table) script
    ∃ path result,
      outcome.answer = .ok (.envelope (Tool.envelopeOf (Tool.schemaAnswer table) result)) ∧
        Description script ⟨0⟩ path table result outcome.turn.trace := by
  intro outcome
  let path := session.settingsInForce.databasePath
  obtain ⟨left, ran, same⟩ := Tool.runDescribeTable_run table (.start session script)
  obtain ⟨events, added, description⟩ := run_describeTable path table (.start script) carries
  have performed : outcome = _ := perform_tool_eq session script .describeTable table
  rw [ran] at performed
  have all : outcome.turn.trace = events := by
    rw [performed]
    exact (congrArg Engine.trace same).trans added
  exact ⟨path, _, congrArg Outcome.answer performed, all ▸ description⟩

/-- **A table is described wholly or not at all.**  The tool answers with the name of a table that
is not there, or with an entry for each row of each list, in the same order; if a call of the engine
fails it answers with a failure, without data, and no statement is executed after the call. -/
theorem describeTable_whole (session : Session) (table : String) {script : Script}
    (carries : script.CarriesSchema) :
    let outcome := session.perform (.tool .describeTable table) script
    let trace := outcome.turn.trace
    let faultless := ∀ e ∈ trace, e.fault? = none
    (faultless ↔ script.Faultless) ∧
      (faultless → (script.reply 0).rows = [] → outcome.answer = .ok (.envelope
        (.failure ("Table '" ++ table ++ "' does not exist in the database.")))) ∧
      (faultless → (script.reply 0).rows ≠ [] → ∃ schema,
        outcome.answer = .ok (.envelope (.answered (.schema schema) none)) ∧
          script.Shows table schema) ∧
      (¬ faultless → ∃ error, outcome.answer = .ok (.envelope (.failure error))) ∧
      ∀ before e after, trace = before ++ e :: after → e.fault? ≠ none →
        ∀ later ∈ after, later.statement? = none := by
  intro outcome trace faultless
  obtain ⟨path, result, answered, description⟩ :=
    session.exists_description_tool script table carries
  have clean : faultless ↔ script.Faultless := description.clean_iff
  have reads : (Step.tool .describeTable table).reads = true := rfl
  have protects : Protected trace := trace_perform (protected_step reads) session script
  refine ⟨clean, fun none absent => ?_, fun none present => ?_, fun faults => ?_, protects.stops⟩
  · have ends := description.eq_ok_none (clean.mp none) absent
    subst ends
    exact answered
  · obtain ⟨schema, rfl, shows⟩ := description.exists_schema (clean.mp none) present
    exact ⟨schema, answered, shows⟩
  · obtain ⟨fault, rfl⟩ := description.eq_error fun none => faults (clean.mpr none)
    exact ⟨_, answered⟩

/-- A column that stands third in the primary key is a column of the primary key. -/
theorem describeTable_whole_of_third_key :
    let script : Script := { Script.empty with replies := [
      ⟨some ["name"], [[.text "t"]], -1, none⟩,
      ⟨some Column.fields, [[.text "n", .text "INTEGER", .int 1, .null, .int 3]], -1, none⟩,
      ⟨some Index.fields, [], -1, none⟩, ⟨some ForeignKey.fields, [], -1, none⟩] }
    let outcome := (start .empty id).perform (.tool .describeTable "t") script
    ∃ column, column.name = .text "n" ∧ column.primaryKey = true ∧
      outcome.answer = .ok (.envelope (.answered (.schema ⟨"t", [column], [], []⟩) none)) := by
  intro script outcome
  have carries : script.CarriesSchema := ⟨by decide, by decide, by decide⟩
  obtain ⟨-, -, whole, -, -⟩ := describeTable_whole (start .empty id) "t" carries
  obtain ⟨⟨table, columns, indexes, keys⟩, answered, named, shows, none, no⟩ :=
    whole (by decide +kernel) (by simp [Script.reply, script])
  have one : List.Forall₂ (Column.Shows Column.fields)
    [[.text "n", .text "INTEGER", .int 1, .null, .int 3]] columns := shows
  cases named
  cases none
  cases no
  cases one with
  | @cons _ column _ _ shown later =>
      cases later
      have name := valueOf_eq_ok_iff.mpr shown.name
      have third : StandsUnder Column.fields
        [.text "n", .text "INTEGER", .int 1, .null, .int 3] "pk" (.int 3) :=
        valueOf_eq_ok_iff.mp rfl
      exact ⟨column, (Except.ok.inj name).symm, (shown.primaryKey.number 3 third).mpr (by decide),
        answered⟩

end Session

end QueryGuard
