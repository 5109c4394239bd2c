import QueryGuard.Proofs.Demo.Drawing

/-!
# QueryGuard.Proofs.Demo.Runs

What a run of the program that fills a demonstration database is made of.

The program is made of calls that are made one after another until one of them ends in a fault
(`Calls`).  A run prepares the file and opens a connection, creates the tables, draws all rows,
inserts them and closes the connection, and it may end in a fault on the way (`Run`).  The calls
that change the database are those of a plan, as far as the run comes (`Upto`).

The statements and the values that a table is filled with are written out in `Rows.insertions`.
-/

namespace QueryGuard.Demo

open World

/-! ## kinds of acts -/

namespace Act

/-- Whether an act inserts rows. -/
def isInsertion : Act → Bool
  | call (.executeMany _ _) _ => true
  | _ => false

/-- Whether an act is a statement or keeps what statements did. -/
def isStep : Act → Bool
  | call (.executeScript _) _ | call (.executeMany _ _) _ | call .commit _ => true
  | _ => false

/-- Whether an act releases the connection. -/
def isClose : Act → Bool
  | call .close _ => true
  | _ => false

/-- An insertion is a statement. -/
theorem isStep_of_isInsertion {act : Act} (h : act.isInsertion = true) : act.isStep = true := by
  unfold isInsertion at h
  split at h
  · rfl
  · cases h

end Act

/-- The insertion of all rows, table by table. -/
def Rows.insertions (rows : Rows) : List Event :=
  [.executeMany "INSERT INTO customers (id, name, email, country) VALUES (?, ?, ?, ?)"
      (rows.customers.map fun c =>
        [.int c.id, .text c.name, (c.email.map .text).getD .null, .text c.country]),
    .executeMany "INSERT INTO products (id, name, category, price) VALUES (?, ?, ?, ?)"
      (rows.products.map fun p => [.int p.id, .text p.name, .text p.category, .real p.price]),
    .executeMany
      "INSERT INTO orders (id, customer_id, product_id, quantity, order_date) VALUES (?, ?, ?, ?, ?)"
      (rows.orders.map fun o =>
        [.int o.id, .int o.customerId, .int o.productId, .int o.quantity,
          .text (String.ofList o.date.toText)])]

/-- The calls that change the database, from beginning to end. -/
def Rows.plan (rows : Rows) : List Event :=
  .executeScript tableScript :: .commit :: (rows.insertions ++ [.commit])

/-- The creation of the tables. -/
def created : List Act := [.call (.executeScript tableScript) none, .call .commit none]

/-- The insertion of all rows, none of which ends in a fault. -/
def Rows.inserted (rows : Rows) : List Act := rows.insertions.map (.call · none)

/-- The insertion of all rows and the commit of them. -/
def Rows.kept (rows : Rows) : List Act := rows.inserted ++ [.call .commit none]

/-! ## calls one after another -/

/-- Calls are made one after another, and what comes after them unless one of them ends in a
fault. -/
inductive Calls (T : Except Fault Unit → List Act → Prop) :
    List Event → Except Fault Unit → List Act → Prop
  | after {result : Except Fault Unit} {acts : List Act} (later : T result acts) :
      Calls T [] result acts
  | fails {event : Event} {events : List Event} (fault : Fault) :
      Calls T (event :: events) (.error fault) [.call event (some fault)]
  | goes {event : Event} {events : List Event} {result : Except Fault Unit} {acts : List Act}
      (rest : Calls T events result acts) :
      Calls T (event :: events) result (.call event none :: acts)

/-- A call that is made first is the first of the calls. -/
theorem does_calls {event : Event} {events : List Event} {x : DemoM Unit}
    {T : Except Fault Unit → List Act → Prop} (h : Does x (Calls T events)) :
    Does (do perform event; x) (Calls T (event :: events)) := by
  refine Does.bind (does_perform event) ?_ ?_
  · rintro fault _ ⟨fault?, ends, rfl⟩
    cases fault? with
    | none => cases ends
    | some other => cases ends; exact .fails fault
  · rintro ⟨⟩ _ ⟨fault?, ends, rfl⟩
    cases fault? with
    | some other => cases ends
    | none => exact h.mono fun _ _ rest => .goes rest

namespace Calls

variable {T : Except Fault Unit → List Act → Prop} {events : List Event}
  {result : Except Fault Unit} {acts : List Act}

/-- Calls end as what comes after them does, or in the fault of one of them. -/
theorem ends (h : Calls T events result acts)
    (later : ∀ {result acts}, T result acts → Ends result acts) : Ends result acts := by
  induction h with
  | after told => exact later told
  | fails fault => exact @Ends.error _ [] _ fault (by simp [Clean]) rfl
  | goes _ ih => exact @Ends.append _ [_] _ _ (by simp [Clean, Act.fault?]) ih

/-- What is true of the calls and of all that comes after them is true of all acts. -/
theorem forall_mem {P : Act → Prop} (h : Calls T events result acts)
    (calls : ∀ event ∈ events, ∀ fault?, P (.call event fault?))
    (later : ∀ {result acts}, T result acts → ∀ act ∈ acts, P act) : ∀ act ∈ acts, P act := by
  induction h with
  | after told => exact later told
  | fails fault => exact List.forall_mem_singleton.mpr (calls _ List.mem_cons_self _)
  | goes _ ih =>
      exact List.forall_mem_cons.mpr ⟨calls _ List.mem_cons_self _,
        ih fun event mem => calls event (List.mem_cons_of_mem _ mem)⟩

/-- If all goes well, all calls are made, and then what comes after them. -/
theorem of_ok (h : Calls T events (.ok ()) acts) :
    ∃ later, T (.ok ()) later ∧ acts = events.map (.call · none) ++ later := by
  generalize ok : Except.ok () = result at h
  induction h with
  | after told => exact ⟨_, ok ▸ told, rfl⟩
  | fails => cases ok
  | goes _ ih =>
      obtain ⟨later, told, rfl⟩ := ih ok
      exact ⟨later, told, rfl⟩

/-- The calls that are made are the first ones of those that there are. -/
theorem events_prefix (h : Calls T events result acts)
    (later : ∀ {result acts}, T result acts → acts.filterMap Act.event? = []) :
    acts.filterMap Act.event? <+: events := by
  induction h with
  | after told => simp [later told]
  | fails fault => exact ⟨_, rfl⟩
  | goes _ ih => exact List.cons_prefix_cons.mpr ⟨rfl, ih⟩

/-- Without a fault all calls are made. -/
theorem events_eq (h : Calls T events result acts)
    (ends : ∀ {result acts}, T result acts → Ends result acts)
    (later : ∀ {result acts}, T result acts → acts.filterMap Act.event? = [])
    (clean : Clean acts) : result = .ok () ∧ acts.filterMap Act.event? = events := by
  obtain ⟨⟨⟩, rfl⟩ := (h.ends ends).ok_of_clean clean
  obtain ⟨others, told, rfl⟩ := h.of_ok
  refine ⟨rfl, ?_⟩
  rw [List.filterMap_append, later told, List.append_nil, List.filterMap_map]
  exact List.filterMap_some

end Calls

/-- What is sought for what comes after the calls is found for the calls with it. -/
theorem Calls.exists {T : Rows → Except Fault Unit → List Act → Prop} {events : List Event}
    {result : Except Fault Unit} {acts : List Act}
    (h : Calls (fun result acts => ∃ rows, T rows result acts) events result acts) :
    ∃ rows, Calls (T rows) events result acts := by
  induction h with
  | after later =>
      obtain ⟨rows, told⟩ := later
      exact ⟨rows, .after told⟩
  | fails fault => exact ⟨⟨[], [], []⟩, .fails fault⟩
  | goes _ ih =>
      obtain ⟨rows, rest⟩ := ih
      exact ⟨rows, .goes rest⟩

/-- Some of the calls of a plan are made in order: all but the last of them end in no fault. -/
inductive Upto : List Event → List Act → Prop
  | stops (plan : List Event) : Upto plan []
  | fails {event : Event} {plan : List Event} (fault : Fault) :
      Upto (event :: plan) [.call event (some fault)]
  | goes {event : Event} {plan : List Event} {acts : List Act} (rest : Upto plan acts) :
      Upto (event :: plan) (.call event none :: acts)

/-- Before a call that is made, all calls that the plan has before it have ended in no fault. -/
theorem Upto.split : ∀ {plan : List Event} {before after : List Act} {event : Event}
    {fault? : Option Fault}, Upto plan (before ++ .call event fault? :: after) →
    ∃ done later, plan = done ++ event :: later ∧ before = done.map (.call · none)
  | _, [], _, _, _, h => by
      cases h with
      | fails => exact ⟨[], _, rfl, rfl⟩
      | goes => exact ⟨[], _, rfl, rfl⟩
  | _, act :: before, after, _, _, h => by
      generalize all : act :: before ++ _ = acts at h
      cases h with
      | stops => simp at all
      | fails => simp at all
      | @goes event plan acts rest =>
          obtain ⟨rfl, rfl⟩ := List.cons_eq_cons.mp all
          obtain ⟨done, later, rfl, rfl⟩ := rest.split
          exact ⟨event :: done, later, rfl, rfl⟩

/-- The steps among the acts are the calls, as far as they come. -/
theorem Calls.upto {T : Except Fault Unit → List Act → Prop} {events : List Event}
    {result : Except Fault Unit} {acts : List Act} (h : Calls T events result acts)
    (steps : ∀ event ∈ events, ∀ fault?, Act.isStep (.call event fault?) = true)
    (later : ∀ {result acts}, T result acts → acts.filter Act.isStep = []) :
    Upto events (acts.filter Act.isStep) := by
  induction h with
  | after told => rw [later told]; exact .stops []
  | fails fault =>
      rw [List.filter_cons_of_pos (steps _ List.mem_cons_self _)]
      exact .fails fault
  | goes _ ih =>
      rw [List.filter_cons_of_pos (steps _ List.mem_cons_self _)]
      exact .goes (ih fun event mem => steps event (List.mem_cons_of_mem _ mem))

/-! ## the program -/

/-- What is done before a connection is opened. -/
inductive Act.Prepares (file : String) : Act → Prop
  | directory (path : String) (fault? : Option Fault) :
      Prepares file (.call (.makeDirectories path) fault?)
  | removal (fault? : Option Fault) : Prepares file (.call (.remove file) fault?)
  | announcement : Prepares file (.print (announcement file))

/-- The lines that are printed once the rows are kept. -/
def Told (lines : List String) (result : Except Fault Unit) (acts : List Act) : Prop :=
  result = .ok () ∧ acts = lines.map .print

/-- Rows are drawn, and then they are inserted; after that, lines are printed. -/
inductive Filled (counts : Counts) (lines : List String) (rows : Rows) :
    Except Fault Unit → List Act → Prop
  | undrawn {fault : Fault} {draws : List Act}
      (drawing : Within (Act.DrawsFor counts.asks) (RowsDraws counts) (.error fault) draws) :
      Filled counts lines rows (.error fault) draws
  | drawn {draws acts : List Act} {result : Except Fault Unit}
      (drawing : Within (Act.DrawsFor counts.asks) (RowsDraws counts) (.ok rows) draws)
      (inserts : Calls (Told (rows.report :: lines)) (rows.insertions ++ [.commit]) result acts) :
      Filled counts lines rows result (draws ++ acts)

/-- What is done with the connection until it is closed. -/
abbrev Used (file : String) (counts : Counts) (rows : Rows) :
    Except Fault Unit → List Act → Prop :=
  Calls (Filled counts [success file] rows) [.executeScript tableScript, .commit]

/-- A run of the program. -/
inductive Run (file : String) (counts : Counts) (rows : Rows) :
    Except Fault Unit → List Act → Prop
  | unprepared {fault : Fault} {acts : List Act}
      (ends : Ends (.error fault : Except Fault Unit) acts)
      (prepares : ∀ act ∈ acts, act.Prepares file) : Run file counts rows (.error fault) acts
  | unopened {opening : List Act} (clean : Clean opening)
      (prepares : ∀ act ∈ opening, act.Prepares file) (fault : Fault) :
      Run file counts rows (.error fault) (opening ++ [.call (.connect file) (some fault)])
  | opened {opening acts : List Act} {result : Except Fault Unit} (clean : Clean opening)
      (prepares : ∀ act ∈ opening, act.Prepares file) (used : Used file counts rows result acts)
      (fault? : Option Fault) :
      Run file counts rows (orFault result fault?)
        (opening ++ .call (.connect file) none :: acts ++ [.call .close fault?])

variable {file : String} {counts : Counts} {lines : List String} {rows : Rows}

/-- Inserting rows makes the insertions and the commit, and then tells of them. -/
theorem does_insertRows {rest : DemoM Unit} (prints : Does rest (Told lines)) :
    Does (do insertRows rows; rest)
      (Calls (Told (rows.report :: lines)) (rows.insertions ++ [.commit])) := by
  simp only [insertRows, bind_assoc]
  refine does_calls (does_calls (does_calls (does_calls
    (Does.mono (T := Told (rows.report :: lines)) ?_ fun _ _ => .after))))
  refine Does.bind (does_print _) (by rintro _ _ ⟨⟨⟩, -⟩) ?_
  rintro _ _ ⟨-, rfl⟩
  exact prints.mono fun _ _ told => ⟨told.1, by rw [told.2]; rfl⟩

/-- Filling the tables draws rows and then inserts those very rows. -/
theorem does_populate {rest : DemoM Unit} (prints : Does rest (Told lines)) :
    Does (do populate counts; rest) fun result acts =>
      ∃ rows, Filled counts lines rows result acts := by
  simp only [populate, bind_assoc]
  refine Does.bind (draws_drawRows counts) (fun _ _ drawing => ⟨⟨[], [], []⟩, .undrawn drawing⟩) ?_
  exact fun rows draws drawing =>
    (does_insertRows prints).mono fun _ _ inserts => ⟨rows, .drawn drawing inserts⟩

/-- The connection is used to create the tables and to fill them. -/
theorem does_use :
    Does (do createTables; populate counts; print (success file)) fun result acts =>
      ∃ rows, Used file counts rows result acts := by
  simp only [createTables, bind_assoc]
  refine Does.mono (does_calls (does_calls (Does.mono ?_ fun _ _ => .after)))
    fun _ _ => Calls.exists
  exact does_populate ((does_print _).mono fun _ _ told => told)

/-- Making room for the file is part of what comes before the connection. -/
theorem does_makeRoom :
    Does (makeRoom file) (Within (Act.Prepares file) fun _ _ => True) := by
  intro w
  refine Does.bind_within (Does.perform_within (.directory (directoryOf w file)))
    (fun _ _ _ => ?_) w
  split
  · exact (Does.perform_within .removal).mono fun _ _ h => ⟨h.ends, h.kind, fun _ _ => trivial⟩
  · exact Does.pure_within trivial

/-- The program runs as described, for some rows. -/
theorem does_fill :
    Does (fill file counts) fun result acts => ∃ rows, Run file counts rows result acts := by
  refine Does.bind does_makeRoom
    (fun _ _ made => ⟨⟨[], [], []⟩, .unprepared made.ends made.kind⟩) ?_
  intro _ room made
  refine Does.bind (does_print _) (by rintro _ _ ⟨⟨⟩, -⟩) ?_
  rintro _ _ ⟨-, rfl⟩
  have clean : Clean (room ++ [.print (announcement file)]) :=
    made.ends.clean.append (by simp [Clean, Act.fault?])
  have prepares : ∀ act ∈ room ++ [.print (announcement file)], act.Prepares file :=
    List.forall_mem_append.mpr ⟨made.kind, List.forall_mem_singleton.mpr .announcement⟩
  refine Does.bind (does_perform _) ?_ ?_
  · rintro fault _ ⟨fault?, ends, rfl⟩
    obtain rfl : fault? = some fault := by cases fault? <;> cases ends; rfl
    exact ⟨⟨[], [], []⟩, by simpa using @Run.unopened file counts _ _ clean prepares fault⟩
  · rintro _ _ ⟨fault?, ends, rfl⟩
    obtain rfl : fault? = none := by cases fault? <;> cases ends; rfl
    refine Does.thenRelease does_use (does_perform .close) ?_
    rintro result acts fault? _ ⟨rows, used⟩ rfl
    exact ⟨rows, by simpa using Run.opened clean prepares used fault?⟩

/-! ## parts of a run -/

variable {result : Except Fault Unit} {acts : List Act}

theorem Act.Prepares.quiet {act : Act} (h : act.Prepares file) :
    act.isStep = false ∧ act.isInsertion = false ∧ act.isClose = false ∧ act.isDraw = false := by
  cases h <;> exact ⟨rfl, rfl, rfl, rfl⟩

/-- A draw is no statement and no close. -/
theorem Act.DrawsFor.quiet {asks : List Ask} {act : Act} (h : act.DrawsFor asks) :
    act.isStep = false ∧ act.isInsertion = false ∧ act.isClose = false := by
  obtain ⟨ask, -, answer, rfl⟩ := h
  exact ⟨rfl, rfl, rfl⟩

theorem Told.ends (h : Told lines result acts) : Ends result acts := by
  obtain ⟨rfl, rfl⟩ := h
  exact .ok (by simp [Clean, Act.fault?])

theorem Told.no_event (h : Told lines result acts) : acts.filterMap Act.event? = [] := by
  obtain ⟨-, rfl⟩ := h
  simp [Act.event?]

/-- Nothing is drawn while rows are inserted. -/
theorem Calls.isDraw {events : List Event} (h : Calls (Told lines) events result acts) :
    ∀ act ∈ acts, act.isDraw = false := by
  refine h.forall_mem (fun _ _ _ => rfl) ?_
  rintro _ _ ⟨-, rfl⟩
  simp [Act.isDraw]

theorem Told.filter_isStep (h : Told lines result acts) : acts.filter Act.isStep = [] := by
  obtain ⟨-, rfl⟩ := h
  simp [Act.isStep]

/-- Filling the tables ends in the fault of its last act, or has none. -/
theorem Filled.ends (h : Filled counts lines rows result acts) : Ends result acts := by
  cases h with
  | undrawn drawing => cases drawing.ends with
    | error clean last => exact .error clean last
  | drawn drawing inserts => exact (inserts.ends Told.ends).append drawing.ends.clean

theorem Used.ends (h : Used file counts rows result acts) : Ends result acts :=
  Calls.ends h Filled.ends

/-- The steps of filling the tables are the insertions and the commit, as far as they come. -/
theorem Filled.upto (h : Filled counts lines rows result acts) :
    Upto (rows.insertions ++ [.commit]) (acts.filter Act.isStep) := by
  have none {draws : List Act} (kind : ∀ act ∈ draws, act.DrawsFor counts.asks) :
      draws.filter Act.isStep = [] :=
    List.filter_eq_nil_iff.mpr fun act mem => by simp [(kind act mem).quiet]
  cases h with
  | undrawn drawing => rw [none drawing.kind]; exact .stops _
  | drawn drawing inserts =>
      rw [List.filter_append, none drawing.kind]
      exact inserts.upto (by simp [Rows.insertions, Act.isStep]) Told.filter_isStep

/-- The steps of using the connection are those of the plan, as far as they come. -/
theorem Used.upto (h : Used file counts rows result acts) :
    Upto rows.plan (acts.filter Act.isStep) := by
  cases h with
  | fails fault => exact .fails fault
  | goes h => cases h with
    | fails fault => exact .goes (.fails fault)
    | goes h => cases h with
      | after filled => exact .goes (.goes filled.upto)

/-- The steps of a run are those of the plan, as far as they come. -/
theorem Run.upto (h : Run file counts rows result acts) :
    Upto rows.plan (acts.filter Act.isStep) := by
  have none {opening : List Act} (prepares : ∀ act ∈ opening, act.Prepares file) :
      opening.filter Act.isStep = [] :=
    List.filter_eq_nil_iff.mpr fun act mem => by simp [(prepares act mem).quiet]
  cases h with
  | unprepared ends prepares => rw [none prepares]; exact .stops _
  | unopened clean prepares fault =>
      rw [List.filter_append, none prepares]
      exact .stops _
  | opened clean prepares used fault? => simpa [none prepares, Act.isStep] using used.upto

end QueryGuard.Demo
