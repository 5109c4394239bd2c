import QueryGuard.Proofs.Demo.Runs

/-!
# QueryGuard.Proofs.Demo.Seeding

The demonstration database is filled with all rows or with none.

* `Run.commit` — before a commit, no rows are inserted or all rows of all tables;
* `Run.finish` — once all rows are inserted they are committed, and the success is told only after
  a commit that ends in no fault;
* `Run.drawsFirst` — all rows are drawn before the first is inserted;
* `Run.rowsDraws` — the rows that are inserted are made of what is drawn;
* `Run.closes` — a connection that is opened is closed in the end.

What a part of the program keeps, the program keeps with what is done before and after that part:
the lemmas that are named `within` say so.
-/

namespace QueryGuard.Demo

open World

variable {file : String} {counts : Counts} {lines : List String} {rows : Rows}
  {result : Except Fault Unit} {acts : List Act}

/-! ## commits -/

/-- Before a commit, no rows are inserted or all of them are. -/
theorem Upto.commit {before after : List Act} {fault? : Option Fault}
    (h : Upto rows.plan (before ++ .call .commit fault? :: after)) :
    before = [.call (.executeScript tableScript) none] ∨ before = created ++ rows.inserted := by
  obtain ⟨done, later, plan, rfl⟩ := h.split
  simp only [Rows.plan, Rows.insertions, List.cons_append, List.nil_append,
    List.cons_eq_append_iff, List.nil_eq, List.append_eq_nil_iff, List.cons.injEq, reduceCtorEq,
    false_and, and_false, true_and, exists_const, or_false, false_or] at plan
  obtain ⟨_, rfl, ⟨rfl, -⟩ | ⟨_, rfl, _, rfl, _, rfl, _, rfl, rfl, -⟩⟩ := plan
  · exact .inl rfl
  · exact .inr rfl

/-- Before a commit, the steps are the table script alone, or all that leads to the last commit. -/
theorem Run.commit {before after : List Act} {fault? : Option Fault}
    (h : Run file counts rows result (before ++ .call .commit fault? :: after)) :
    before.filter Act.isStep = [.call (.executeScript tableScript) none] ∨
      before.filter Act.isStep = created ++ rows.inserted := by
  have upto := h.upto
  rw [List.filter_append, List.filter_cons_of_pos rfl] at upto
  exact upto.commit

/-- The insertions among the steps are all insertions. -/
theorem filter_isInsertion (acts : List Act) :
    (acts.filter Act.isStep).filter Act.isInsertion = acts.filter Act.isInsertion := by
  rw [List.filter_filter]
  refine List.filter_congr fun act _ => ?_
  cases inserts : act.isInsertion with
  | false => rfl
  | true => rw [Act.isStep_of_isInsertion inserts]; rfl

/-! ## the end of a run -/

/-- A commit comes after an insertion. -/
def CommitsRows (acts : List Act) : Prop :=
  ∃ before fault? after, acts = before ++ .call .commit fault? :: after ∧
    ∃ insertion ∈ before, insertion.isInsertion = true

/-- Whether an act inserts the last of the rows or tells the success. -/
def Act.isLate (file : String) : Act → Bool
  | call (.executeMany sql _) none =>
      sql =
        "INSERT INTO orders (id, customer_id, product_id, quantity, order_date) VALUES (?, ?, ?, ?, ?)"
  | print line => line = success file
  | _ => false

/-- All rows are inserted and a commit comes next; the success is told after it if at all, and then
the commit has ended in no fault. -/
def Finishes (file : String) (rows : Rows) (acts : List Act) : Prop :=
  ∃ (front : List Act) (fault? : Option Fault) (back : List Act),
    acts = front ++ (rows.inserted ++ .call .commit fault? :: back) ∧
      Act.print (success file) ∉ front ∧ (.print (success file) ∈ back → fault? = none)

/-- What finishes does so also with acts before and after it that are not late. -/
theorem Finishes.within (h : Finishes file rows acts) {front back : List Act}
    (early : front.any (Act.isLate file) = false) (late : back.any (Act.isLate file) = false) :
    Finishes file rows (front ++ acts ++ back) := by
  have untold {others : List Act} (quiet : others.any (Act.isLate file) = false) :
      .print (success file) ∉ others := by
    intro mem
    have quiet := List.any_eq_false.mp quiet _ mem
    simp [Act.isLate] at quiet
  obtain ⟨before, fault?, after, rfl, first, told⟩ := h
  refine ⟨front ++ before, fault?, after ++ back, by simp, by simp [first, untold early], ?_⟩
  exact fun mem => told ((List.mem_append.mp mem).resolve_right (untold late))

theorem announcement_ne_success : announcement file ≠ success file := by
  intro same
  have heads : (announcement file).toList.head? = (success file).toList.head? := by rw [same]
  unfold announcement success at heads
  simp only [String.toList_append, List.head?_append] at heads
  simp at heads

/-- No draw is late. -/
theorem isLate_draws {draws : List Act} (kind : ∀ act ∈ draws, act.DrawsFor counts.asks) :
    draws.any (Act.isLate file) = false := by
  refine List.any_eq_false.mpr fun act mem => ?_
  obtain ⟨_, _, _, rfl⟩ := kind act mem
  simp [Act.isLate]

/-- Nothing before the connection is late. -/
theorem isLate_opening {opening : List Act} (prepares : ∀ act ∈ opening, act.Prepares file) :
    opening.any (Act.isLate file) = false := by
  refine List.any_eq_false.mpr fun act mem => ?_
  cases prepares act mem with
  | directory | removal => simp [Act.isLate]
  | announcement => simp [Act.isLate, announcement_ne_success]

/-- Filling the tables that comes to a late act has inserted all rows before it. -/
theorem Filled.finish (h : Filled counts lines rows result acts)
    (late : acts.any (Act.isLate file) = true) : Finishes file rows acts := by
  cases h with
  | undrawn drawing => simp [isLate_draws drawing.kind] at late
  | @drawn draws acts _ drawing inserts =>
    rw [List.any_append, isLate_draws drawing.kind, Bool.false_or] at late
    rw [← List.append_nil (draws ++ acts)]
    refine Finishes.within ?_ (isLate_draws drawing.kind) rfl
    -- the late acts come after the insertions that lead to them, unless one ends in a fault
    cases inserts with
    | fails fault => simp [Act.isLate] at late
    | goes inserts => cases inserts with
      | fails fault => simp [Act.isLate] at late
      | goes inserts => cases inserts with
        | fails fault => simp [Act.isLate] at late
        | goes inserts => cases inserts with
          | fails fault => exact ⟨[], some fault, [], rfl, by simp, by simp⟩
          | goes rest => exact ⟨[], none, _, rfl, by simp, fun _ => rfl⟩

theorem Used.finish (h : Used file counts rows result acts)
    (late : acts.any (Act.isLate file) = true) : Finishes file rows acts := by
  cases h with
  | fails fault => simp [Act.isLate] at late
  | goes h => cases h with
    | fails fault => simp [Act.isLate] at late
    | goes h => cases h with
      | after filled =>
          have finishes := filled.finish (by simpa [Act.isLate] using late)
          have early : created.any (Act.isLate file) = false := by simp [created, Act.isLate]
          simpa [created] using finishes.within early (List.any_nil ..)

/-- A run that comes to a late act has inserted all rows before it. -/
theorem Run.finish (h : Run file counts rows result acts)
    (late : acts.any (Act.isLate file) = true) : Finishes file rows acts := by
  cases h with
  | unprepared ends prepares => simp [isLate_opening prepares] at late
  | unopened clean prepares fault => simp [isLate_opening prepares, Act.isLate] at late
  | @opened opening acts _ clean prepares used fault? =>
      have early : (opening ++ [Act.call (.connect file) none]).any (Act.isLate file) = false := by
        simp [isLate_opening prepares, Act.isLate]
      have finishes := used.finish (by simpa [isLate_opening prepares, Act.isLate] using late)
      have closing : [Act.call .close fault?].any (Act.isLate file) = false := by
        simp [Act.isLate]
      have more := finishes.within early closing
      rwa [List.append_assoc opening] at more

/-! ## faults -/

/-- The connection was opened. -/
def Connected (acts : List Act) : Prop := ∃ path, .call (.connect path) none ∈ acts

/-- A connection that was opened is closed in the end, and only then. -/
inductive Closes : Except Fault Unit → List Act → Prop
  | unconnected {result : Except Fault Unit} {acts : List Act} (ends : Ends result acts)
      (unconnected : ¬ Connected acts) (open_ : ∀ act ∈ acts, act.isClose = false) :
      Closes result acts
  | connected {result : Except Fault Unit} {acts : List Act} (ends : Ends result acts)
      (connected : Connected acts) (open_ : ∀ act ∈ acts, act.isClose = false)
      (fault? : Option Fault) : Closes (orFault result fault?) (acts ++ [.call .close fault?])

/-- The connection is not closed while it is used. -/
theorem Used.isClose (h : Used file counts rows result acts) :
    ∀ act ∈ acts, act.isClose = false := by
  refine h.forall_mem (by simp [Act.isClose]) ?_
  rintro _ _ (⟨drawing⟩ | ⟨drawing, inserts⟩)
  · exact fun act mem => (drawing.kind act mem).quiet.2.2
  · refine List.forall_mem_append.mpr ⟨fun act mem => (drawing.kind act mem).quiet.2.2, ?_⟩
    refine inserts.forall_mem ?_ ?_
    · simp [Act.isClose, Rows.insertions]
    · rintro _ _ ⟨-, rfl⟩
      simp [Act.isClose]

/-- A run closes the connection in the end if it opened it. -/
theorem Run.closes (h : Run file counts rows result acts) : Closes result acts := by
  cases h with
  | unprepared ends prepares =>
      refine .unconnected ends ?_ fun act mem => (prepares act mem).quiet.2.2.1
      rintro ⟨path, mem⟩
      cases prepares _ mem
  | unopened clean prepares fault =>
      refine .unconnected (.error clean rfl) ?_ ?_
      · rintro ⟨path, mem⟩
        obtain mem | same := List.mem_append.mp mem
        · cases prepares _ mem
        · simp at same
      · exact List.forall_mem_append.mpr ⟨fun act mem => (prepares act mem).quiet.2.2.1,
          by simp [Act.isClose]⟩
  | @opened opening _ _ clean prepares used fault? =>
      refine .connected ?_ ⟨file, by simp⟩ ?_ fault?
      · exact Ends.append clean (@Ends.append _ [_] _ _ (by simp [Clean, Act.fault?]) used.ends)
      · exact List.forall_mem_append.mpr ⟨fun act mem => (prepares act mem).quiet.2.2.1,
          List.forall_mem_cons.mpr ⟨rfl, used.isClose⟩⟩

/-! ## draws and lines -/

/-- All draws come before the first insertion. -/
def DrawsFirst (acts : List Act) : Prop :=
  acts.Pairwise fun act later => act.isInsertion = true → later.isDraw = false

theorem DrawsFirst.of_no_draw (h : ∀ act ∈ acts, act.isDraw = false) : DrawsFirst acts :=
  List.pairwise_of_forall_mem_list fun _ _ later mem _ => h later mem

/-- Acts without insertions may come before, and acts without draws after. -/
theorem DrawsFirst.within (h : DrawsFirst acts) {front : List Act} (back : List Act)
    (noInsertion : ∀ act ∈ front, act.isInsertion = false)
    (noDraw : ∀ act ∈ back, act.isDraw = false) : DrawsFirst (front ++ acts ++ back) := by
  refine List.pairwise_append.mpr ⟨List.pairwise_append.mpr ⟨?_, h, ?_⟩, of_no_draw noDraw, ?_⟩
  · exact List.pairwise_of_forall_mem_list fun act mem _ _ => by simp [noInsertion act mem]
  · exact fun act mem _ _ => by simp [noInsertion act mem]
  · exact fun _ _ later mem _ => noDraw later mem

/-- Filling the tables draws all rows before it inserts the first. -/
theorem Filled.drawsFirst (h : Filled counts lines rows result acts) : DrawsFirst acts := by
  have noInsertion {draws : List Act} (kind : ∀ act ∈ draws, act.DrawsFor counts.asks) :
      ∀ act ∈ draws, act.isInsertion = false :=
    fun act mem => (kind act mem).quiet.2.1
  cases h with
  | undrawn drawing =>
      simpa using DrawsFirst.within .nil [] (noInsertion drawing.kind) (List.forall_mem_nil _)
  | drawn drawing inserts =>
      simpa using (DrawsFirst.of_no_draw inserts.isDraw).within [] (noInsertion drawing.kind)
        (List.forall_mem_nil _)

theorem Used.drawsFirst (h : Used file counts rows result acts) : DrawsFirst acts := by
  cases h with
  | fails fault => exact .of_no_draw (by simp [Act.isDraw])
  | goes h => cases h with
    | fails fault => exact .of_no_draw (by simp [Act.isDraw])
    | goes h => cases h with
      | after filled =>
          have noInsertion : ∀ act ∈ created, act.isInsertion = false := by
            simp [created, Act.isInsertion]
          simpa [created] using filled.drawsFirst.within [] noInsertion (List.forall_mem_nil _)

/-- A run draws all rows before it inserts the first. -/
theorem Run.drawsFirst (h : Run file counts rows result acts) : DrawsFirst acts := by
  have noDraw {opening : List Act} (prepares : ∀ act ∈ opening, act.Prepares file) :
      ∀ act ∈ opening, act.isDraw = false := fun act mem => (prepares act mem).quiet.2.2.2
  cases h with
  | unprepared ends prepares => exact .of_no_draw (noDraw prepares)
  | unopened clean prepares fault =>
      exact .of_no_draw (List.forall_mem_append.mpr ⟨noDraw prepares, by simp [Act.isDraw]⟩)
  | @opened opening acts _ clean prepares used fault? =>
      have noInsertion : ∀ act ∈ opening ++ [.call (.connect file) none], act.isInsertion = false :=
        List.forall_mem_append.mpr ⟨fun act mem => (prepares act mem).quiet.2.1,
          by simp [Act.isInsertion]⟩
      have more := used.drawsFirst.within [.call .close fault?] noInsertion (by simp [Act.isDraw])
      rwa [List.append_assoc opening] at more

/-- Rows that filling the tables inserts are made of what it draws. -/
theorem Filled.rowsDraws (h : Filled counts lines rows result acts)
    (inserts : acts.any Act.isInsertion = true) :
    RowsDraws counts rows (acts.filter Act.isDraw) := by
  cases h with
  | undrawn drawing =>
      obtain ⟨act, mem, insertion⟩ := List.any_eq_true.mp inserts
      simp [(drawing.kind act mem).quiet] at insertion
  | drawn drawing calls =>
      rw [List.filter_append, List.filter_eq_self.mpr fun act mem => (drawing.kind act mem).isDraw,
        List.filter_eq_nil_iff.mpr (by simpa using calls.isDraw), List.append_nil]
      exact drawing.told rows rfl

theorem Used.rowsDraws (h : Used file counts rows result acts)
    (inserts : acts.any Act.isInsertion = true) :
    RowsDraws counts rows (acts.filter Act.isDraw) := by
  cases h with
  | fails fault => simp [Act.isInsertion] at inserts
  | goes h => cases h with
    | fails fault => simp [Act.isInsertion] at inserts
    | goes h => cases h with
      | after filled => exact filled.rowsDraws (by simpa [Act.isInsertion] using inserts)

/-- The rows that are inserted are made of what the run draws. -/
theorem Run.rowsDraws (h : Run file counts rows result acts)
    (inserts : acts.any Act.isInsertion = true) :
    RowsDraws counts rows (acts.filter Act.isDraw) := by
  have noInsertion {opening : List Act} (prepares : ∀ act ∈ opening, act.Prepares file) :
      opening.any Act.isInsertion = false :=
    List.any_eq_false.mpr fun act mem => by simp [(prepares act mem).quiet]
  have noDraw {opening : List Act} (prepares : ∀ act ∈ opening, act.Prepares file) :
      opening.filter Act.isDraw = [] :=
    List.filter_eq_nil_iff.mpr fun act mem => by simp [(prepares act mem).quiet]
  cases h with
  | unprepared ends prepares => simp [noInsertion prepares] at inserts
  | unopened clean prepares fault => simp [noInsertion prepares, Act.isInsertion] at inserts
  | opened clean prepares used fault? =>
      have drawn := used.rowsDraws (by simpa [noInsertion prepares, Act.isInsertion] using inserts)
      simpa [noDraw prepares, Act.isDraw] using drawn

/-! ## all or nothing -/

/-- What is true of all that a run of the program does, and of its result: the connection is closed
if it was opened, rows are committed once the tables and all rows are there, a commit never keeps
the rows of some tables only, the rows are made of what is drawn, no draw comes after an insertion,
the success is told of rows that are kept, a fault is what the program ends in, and without a fault
it goes to its end. -/
structure AllOrNothing (file : String) (counts : Counts) (rows : Rows) (acts : List Act)
    (result : Except Fault Unit) : Prop where
  closed : Connected acts → acts.countP Act.isClose = 1
  unopened : ¬ Connected acts → acts.countP Act.isClose = 0
  committed : CommitsRows acts ↔ (created ++ rows.inserted).Sublist acts
  together : ∀ before fault? after, acts = before ++ .call .commit fault? :: after →
    before.filter Act.isInsertion = [] ∨ before.filter Act.isInsertion = rows.inserted
  numbered : acts.any Act.isInsertion = true → rows.Numbered counts
  drawn : acts.any Act.isInsertion = true → RowsDraws counts rows (acts.filter Act.isDraw)
  drawsFirst : DrawsFirst acts
  told : ∀ before after,
    acts = before ++ .print ("\n✅ Database created successfully at: " ++ file) :: after →
      rows.kept.Sublist before
  propagates : ∀ act ∈ acts, ∀ fault, act.fault? = some fault →
    (∀ other, .call .close (some other) ∉ acts) → result = .error fault
  closing : ∀ fault, .call .close (some fault) ∈ acts → result = .error fault
  clean : Clean acts → result = .ok () ∧ Connected acts ∧
    .print ("\n✅ Database created successfully at: " ++ file) ∈ acts

/-- Each of the acts that insert rows is an insertion. -/
theorem Rows.isInsertion_of_mem {act : Act} (mem : act ∈ rows.inserted) :
    act.isInsertion = true := by
  obtain ⟨event, inserts, rfl⟩ := List.mem_map.mp mem
  simp only [Rows.insertions, List.mem_cons, List.not_mem_nil, or_false] at inserts
  obtain rfl | rfl | rfl := inserts <;> rfl

/-- A commit comes after insertions if and only if the tables are created and all rows inserted. -/
theorem Run.committed (h : Run file counts rows result acts) :
    CommitsRows acts ↔ (created ++ rows.inserted).Sublist acts := by
  constructor
  · rintro ⟨before, fault?, after, rfl, insertion, mem, inserts⟩
    have step : insertion ∈ before.filter Act.isStep :=
      List.mem_filter.mpr ⟨mem, Act.isStep_of_isInsertion inserts⟩
    obtain early | late := h.commit
    · rw [early] at step
      obtain rfl := List.mem_singleton.mp step
      cases inserts
    · rw [← late]
      exact List.filter_sublist.trans (List.sublist_append_left _ _)
  · intro all
    have last : rows.inserted.any (Act.isLate file) = true := by
      simp [Rows.inserted, Rows.insertions, Act.isLate]
    obtain ⟨act, mem, late⟩ := List.any_eq_true.mp last
    have mem_acts : act ∈ acts := all.subset (List.mem_append_right _ mem)
    obtain ⟨front, fault?, back, rfl, -, -⟩ := h.finish (List.any_eq_true.mpr ⟨act, mem_acts, late⟩)
    exact ⟨front ++ rows.inserted, fault?, back, by simp, act, List.mem_append_right _ mem,
      Rows.isInsertion_of_mem mem⟩

/-- Before a commit, no rows are inserted or those of all tables are. -/
theorem Run.together {before after : List Act} {fault? : Option Fault}
    (h : Run file counts rows result (before ++ .call .commit fault? :: after)) :
    before.filter Act.isInsertion = [] ∨ before.filter Act.isInsertion = rows.inserted := by
  rw [← filter_isInsertion]
  obtain early | late := h.commit
  · rw [early]; exact .inl rfl
  · rw [late]; exact .inr rfl

/-- The success is told only once all rows are kept. -/
theorem Run.told {before after : List Act}
    (h : Run file counts rows result (before ++ .print (success file) :: after)) :
    rows.kept.Sublist before := by
  have late : .print (success file) ∈ before ++ .print (success file) :: after := by simp
  obtain ⟨front, fault?, back, same, untold, ok⟩ := h.finish
    (List.any_eq_true.mpr ⟨_, late, by simp [Act.isLate]⟩)
  have others : .print (success file) ∉ rows.inserted := by simp [Rows.inserted]
  rw [same] at late
  obtain rfl := ok (by simpa [untold, others] using late)
  have split : before ++ .print (success file) :: after = (front ++ rows.kept) ++ back := by
    simp [same, Rows.kept]
  have untold : .print (success file) ∉ front ++ rows.kept := by simp [untold, others, Rows.kept]
  -- the line is not in the kept part, so that part is not longer than `before`
  refine (List.sublist_append_right front rows.kept).trans ?_
  obtain ⟨between, longer, behind⟩ | ⟨between, rfl, -⟩ := List.append_eq_append_iff.mp split
  · obtain ⟨rfl, -⟩ | ⟨_, rfl, -⟩ := List.cons_eq_append_iff.mp behind
    · have same : front ++ rows.kept = before := longer.trans (List.append_nil before)
      exact same ▸ List.Sublist.refl _
    · simp [longer] at untold
  · exact List.sublist_append_left _ _

namespace Closes

variable (h : Closes result acts)

include h

/-- The connection is closed once if it is opened, and never otherwise. -/
theorem countP_isClose : (Connected acts → acts.countP Act.isClose = 1) ∧
    (¬ Connected acts → acts.countP Act.isClose = 0) := by
  cases h with
  | unconnected ends unconnected open_ =>
      have none : acts.countP Act.isClose = 0 := by simpa using open_
      exact ⟨fun connected => absurd connected unconnected, fun _ => none⟩
  | @connected _ acts ends connected open_ fault? =>
      have none : acts.countP Act.isClose = 0 := by simpa using open_
      obtain ⟨path, mem⟩ := connected
      refine ⟨fun _ => ?_, fun unconnected => absurd ⟨path, List.mem_append_left _ mem⟩ unconnected⟩
      rw [List.countP_append, none]
      rfl

/-- A fault of the close is what the run ends in. -/
theorem closing {fault : Fault} (mem : .call .close (some fault) ∈ acts) :
    result = .error fault := by
  cases h with
  | unconnected ends unconnected open_ => cases open_ _ mem
  | connected ends connected open_ fault? =>
      obtain mem | same := List.mem_append.mp mem
      · cases open_ _ mem
      · cases List.mem_singleton.mp same
        rfl

/-- A fault of any act is what the run ends in if the close has none. -/
theorem propagates {act : Act} (mem : act ∈ acts) {fault : Fault} (faulty : act.fault? = some fault)
    (closes : ∀ other, .call .close (some other) ∉ acts) : result = .error fault := by
  cases h with
  | unconnected ends unconnected open_ =>
      obtain ⟨before, after, rfl⟩ := List.append_of_mem mem
      exact (ends.split faulty).2
  | connected ends connected open_ fault? =>
      obtain rfl : fault? = none := by
        cases fault? with
        | none => rfl
        | some other => exact absurd (by simp) (closes other)
      obtain mem | same := List.mem_append.mp mem
      · obtain ⟨before, after, rfl⟩ := List.append_of_mem mem
        exact (ends.split faulty).2
      · cases List.mem_singleton.mp same
        cases faulty

end Closes

/-- Using the connection without a fault comes to tell the success. -/
theorem Used.tells_of_ok (h : Used file counts rows (.ok ()) acts) :
    .print (success file) ∈ acts := by
  obtain ⟨_, filled, rfl⟩ := Calls.of_ok h
  cases filled with
  | drawn drawing inserts =>
      obtain ⟨_, ⟨-, rfl⟩, rfl⟩ := inserts.of_ok
      simp

/-- A run without a fault goes to its end. -/
theorem Run.clean (h : Run file counts rows result acts) (clean : Clean acts) :
    result = .ok () ∧ Connected acts ∧ .print (success file) ∈ acts := by
  cases h with
  | unprepared ends prepares =>
      obtain ⟨_, ok⟩ := ends.ok_of_clean clean
      cases ok
  | @unopened opening _ prepares fault =>
      have none := clean (.call (.connect file) (some fault)) (by simp)
      cases none
  | @opened opening acts _ _ prepares used fault? =>
      obtain rfl : fault? = none := clean (.call .close fault?) (by simp)
      have quiet : Clean acts := fun act mem => clean act (by simp [mem])
      obtain ⟨⟨⟩, rfl⟩ := used.ends.ok_of_clean quiet
      have told := used.tells_of_ok
      exact ⟨rfl, ⟨file, by simp⟩, by simp [told]⟩

/-- Whatever the calls end in and whatever is drawn, the program does all or nothing; and what it
does is what the outside notes, in order, with its calls and its lines. -/
theorem fill_allOrNothing (file : String) (counts : Counts) (w : World) : ∃ acts rows,
    w.Leads acts ((fill file counts).run.run w).2 ∧
    ((fill file counts).run.run w).2.past.toList = w.past.toList ++ acts ∧
    ((fill file counts).run.run w).2.events.toList =
      w.events.toList ++ acts.filterMap Act.event? ∧
    ((fill file counts).run.run w).2.printed =
      w.printed ++ String.join ((acts.filterMap Act.line?).map (· ++ "\n")) ∧
    AllOrNothing file counts rows acts ((fill file counts).run.run w).1 := by
  obtain ⟨acts, leads, rows, run⟩ := @does_fill file counts w
  refine ⟨acts, rows, leads, leads.past_eq, leads.events_eq, leads.printed_eq, ?_⟩
  generalize ((fill file counts).run.run w).1 = result at run
  exact {
    closed := run.closes.countP_isClose.1
    unopened := run.closes.countP_isClose.2
    committed := run.committed
    together := by rintro before fault? after rfl; exact run.together
    numbered := fun inserts => (run.rowsDraws inserts).numbered
    drawn := run.rowsDraws
    drawsFirst := run.drawsFirst
    told := by rintro before after rfl; exact run.told
    propagates := fun act mem fault => run.closes.propagates mem
    closing := fun fault => run.closes.closing
    clean := run.clean }

end QueryGuard.Demo
