import QueryGuard.Proofs.Demo.Does

/-!
# QueryGuard.Proofs.Demo.Drawing

What is drawn for the rows of the demonstration database.

Each row is made of draws of its own, one row after another (`RowByRow`); how many draws a customer
takes depends on one of them (`CustomerDraws`).  So a column of a table is what is drawn for it, in
the order of the rows (`RowByRow.column`), whatever else is drawn in between.
-/

namespace QueryGuard.Demo

open World

variable {α β : Type}

/-- What an act draws, if it draws for what is asked. -/
def Act.answer? (ask : Ask) : Act → Option ask.Answer
  | draw other (.ok answer) => if same : other = ask then some (same ▸ answer) else none
  | draw _ (.error _) | call _ _ | print _ => none

/-- An act gives an answer to what is asked if it is the draw of that answer. -/
theorem Act.answer?_eq_some_iff {ask : Ask} {act : Act} {answer : ask.Answer} :
    act.answer? ask = some answer ↔ act = .draw ask (.ok answer) := by
  constructor
  · intro found
    match act with
    | .draw other (.ok drawn) =>
        by_cases same : other = ask
        · subst same
          have same : drawn = answer := by simpa [answer?] using found
          rw [same]
        · simp [answer?, same] at found
    | .draw _ (.error _) | .call _ _ | .print _ => cases found
  · rintro rfl
    simp [answer?]

/-- All that is drawn for what is asked. -/
def asked (ask : Ask) (acts : List Act) : List ask.Answer := acts.filterMap (Act.answer? ask)

theorem asked_append (ask : Ask) (acts later : List Act) :
    asked ask (acts ++ later) = asked ask acts ++ asked ask later := List.filterMap_append

theorem mem_asked_iff {ask : Ask} {acts : List Act} {answer : ask.Answer} :
    answer ∈ asked ask acts ↔ .draw ask (.ok answer) ∈ acts := by
  simp [asked, Act.answer?_eq_some_iff]

/-! ## computations that only draw -/

/-- A draw for one of the given asks. -/
def Act.DrawsFor (asks : List Ask) (act : Act) : Prop :=
  ∃ ask ∈ asks, ∃ answer, act = .draw ask answer

theorem Act.DrawsFor.isDraw {asks : List Ask} {act : Act} (h : act.DrawsFor asks) :
    act.isDraw = true := by
  obtain ⟨ask, -, answer, rfl⟩ := h
  rfl

/-- A computation only draws, and makes something of what is drawn. -/
def Draws (asks : List Ask) (x : DemoM α) (P : α → List Act → Prop) : Prop :=
  Does x (Within (Act.DrawsFor asks) P)

namespace Draws

variable {asks : List Ask} {P : α → List Act → Prop}

/-- One draw is a computation that only draws. -/
theorem nextDraw {ask : Ask} (mem : ask ∈ asks) :
    Draws asks (World.nextDraw ask) fun answer acts => acts = [.draw ask (.ok answer)] := by
  refine (does_nextDraw ask).mono fun result acts told => ?_
  subst told
  refine ⟨?_, List.forall_mem_singleton.mpr ⟨ask, mem, result, rfl⟩, fun answer ok => by rw [ok]⟩
  cases result with
  | ok answer => exact .ok (by simp [Clean, Act.fault?])
  | error fault => exact @Ends.error _ [] _ fault (by simp [Clean]) rfl

/-- A computation goes on with what is drawn. -/
theorem next {ask : Ask} {f : ask.Answer → DemoM α} (mem : ask ∈ asks)
    (hf : ∀ answer, Draws asks (f answer) fun a later => P a (.draw ask (.ok answer) :: later)) :
    Draws asks (World.nextDraw ask >>= f) P := by
  refine Does.bind_within (nextDraw mem) fun answer acts told => ?_
  subst told
  exact hf answer

end Draws

/-! ## rows -/

/-- Each row is made of draws of its own, and they follow each other as the rows do. -/
inductive RowByRow (P : Int → α → List Act → Prop) : List Int → List α → List Act → Prop
  | nil : RowByRow P [] [] []
  | cons {id : Int} {ids : List Int} {row : α} {rows : List α} {acts later : List Act}
      (first : P id row acts) (rest : RowByRow P ids rows later) :
      RowByRow P (id :: ids) (row :: rows) (acts ++ later)

namespace RowByRow

variable {P : Int → α → List Act → Prop} {ids : List Int} {rows : List α} {acts : List Act}

/-- A column that holds what is drawn for it in each row holds what is drawn for it in all. -/
theorem column (h : RowByRow P ids rows acts) {ask : Ask} {read : ask.Answer → β}
    {values : α → List β}
    (each : ∀ {id row acts}, P id row acts → values row = (asked ask acts).map read) :
    rows.flatMap values = (asked ask acts).map read := by
  induction h with
  | nil => rfl
  | cons first rest ih =>
      rw [List.flatMap_cons, each first, ih, asked_append, List.map_append]

/-- What no row draws is not drawn for all of them. -/
theorem asked_eq_nil (h : RowByRow P ids rows acts) {ask : Ask}
    (each : ∀ {id row acts}, P id row acts → asked ask acts = []) : asked ask acts = [] := by
  induction h with
  | nil => rfl
  | cons first rest ih => rw [asked_append, each first, ih, List.append_nil]

/-- What is asked for all rows is what is asked for each, in the order of the rows. -/
theorem asks_eq (h : RowByRow P ids rows acts) {asks : α → List Ask}
    (each : ∀ {id row acts}, P id row acts → acts.filterMap Act.ask? = asks row) :
    acts.filterMap Act.ask? = rows.flatMap asks := by
  induction h with
  | nil => rfl
  | cons first rest ih => rw [List.filterMap_append, each first, ih, List.flatMap_cons]

/-- The rows have the numbers that they are drawn for. -/
theorem ids_eq (h : RowByRow P ids rows acts) {number : α → Int}
    (each : ∀ {id row acts}, P id row acts → number row = id) : rows.map number = ids := by
  induction h with
  | nil => rfl
  | cons first rest ih => rw [List.map_cons, each first, ih]

end RowByRow

/-- Drawing row by row makes each row of draws of its own. -/
theorem draws_mapM {asks : List Ask} {P : Int → α → List Act → Prop} {f : Int → DemoM α}
    (each : ∀ id, Draws asks (f id) (P id)) :
    ∀ ids : List Int, Draws asks (ids.mapM f) (RowByRow P ids)
  | [] => by
      rw [List.mapM_nil]
      exact Does.pure_within .nil
  | id :: ids => by
      rw [List.mapM_cons]
      refine Does.bind_within (each id) fun row acts first =>
        Does.bind_within (draws_mapM each ids) fun rows later rest => Does.pure_within ?_
      rw [List.append_nil]
      exact .cons first rest

/-! ## the three tables -/

/-- What is drawn for a customer: a mail address only if the fraction drawn before exceeds a
bound. -/
inductive CustomerDraws (id : Int) : Customer → List Act → Prop
  | addressed {name address country : String} {share : Binary64} (exceeds : 0.1 < share) :
      CustomerDraws id ⟨id, name, some address, country⟩
        [.draw .name (.ok name), .draw .fraction (.ok share), .draw .address (.ok address),
          .draw .country (.ok country)]
  | unaddressed {name country : String} {share : Binary64} (within : ¬ 0.1 < share) :
      CustomerDraws id ⟨id, name, none, country⟩
        [.draw .name (.ok name), .draw .fraction (.ok share), .draw .country (.ok country)]

/-- What is drawn for a product. -/
inductive ProductDraws (id : Int) : Product → List Act → Prop
  | drawn {name category : String} {price : Binary64} :
      ProductDraws id ⟨id, name, category, price.roundTo 2⟩
        [.draw .phrase (.ok name),
          .draw (.item ["Hardware", "Software", "Services", "Accessories"]) (.ok category),
          .draw (.real 4.99 1499.99) (.ok price)]

/-- What is drawn for an order. -/
inductive OrderDraws (counts : Counts) (id : Int) : Order → List Act → Prop
  | drawn {customer product quantity day : Int} :
      OrderDraws counts id ⟨id, customer, product, quantity, .ofDayOfYear 2025 day.toNat⟩
        [.draw (.whole 1 counts.customers) (.ok customer),
          .draw (.whole 1 counts.products) (.ok product), .draw (.whole 1 10) (.ok quantity),
          .draw (.whole 0 364) (.ok day)]

/-- All that the program asks for. -/
def Counts.asks (counts : Counts) : List Ask :=
  [.name, .fraction, .address, .country,
    .phrase, .item categories, .real lowestPrice highestPrice,
    .whole 1 counts.customers, .whole 1 counts.products, .whole 1 10, .whole 0 364]

/-- A customer is made of what is drawn for one. -/
theorem draws_drawCustomer (counts : Counts) (id : Int) :
    Draws counts.asks (drawCustomer id) (CustomerDraws id) := by
  refine .next (by simp [Counts.asks]) fun name => .next (by simp [Counts.asks]) fun share => ?_
  by_cases exceeds : withoutAddress < share
  · simp only [exceeds, if_true, map_eq_pure_bind, bind_assoc, pure_bind]
    exact .next (by simp [Counts.asks]) fun address => .next (by simp [Counts.asks]) fun country =>
      Does.pure_within (.addressed exceeds)
  · simp only [exceeds, if_false, pure_bind]
    exact .next (by simp [Counts.asks]) fun country => Does.pure_within (.unaddressed exceeds)

/-- A product is made of what is drawn for one. -/
theorem draws_drawProduct (counts : Counts) (id : Int) :
    Draws counts.asks (drawProduct id) (ProductDraws id) :=
  .next (by simp [Counts.asks]) fun name => .next (by simp [Counts.asks]) fun category =>
    .next (by simp [Counts.asks]) fun price => Does.pure_within .drawn

/-- An order is made of what is drawn for one. -/
theorem draws_drawOrder (counts : Counts) (id : Int) :
    Draws counts.asks (drawOrder counts id) (OrderDraws counts id) :=
  .next (by simp [Counts.asks]) fun customer => .next (by simp [Counts.asks]) fun product =>
    .next (by simp [Counts.asks]) fun quantity => .next (by simp [Counts.asks]) fun day =>
    Does.pure_within .drawn

/-- The numbers from one to `count`. -/
def oneTo (count : Int) : List Int := (List.range' 1 count.toNat).map Int.ofNat

theorem ids_eq_oneTo (count : Int) : ids count = oneTo count := by
  rw [ids, oneTo, List.range'_eq_map_range, List.map_map]
  exact List.map_congr_left fun n _ => by simp [Nat.add_comm]

/-- What is drawn for the rows of all tables, one table after another. -/
inductive RowsDraws (counts : Counts) : Rows → List Act → Prop
  | drawn {customers : List Customer} {products : List Product} {orders : List Order}
      {first second third : List Act}
      (forCustomers : RowByRow CustomerDraws (oneTo counts.customers) customers first)
      (forProducts : RowByRow ProductDraws (oneTo counts.products) products second)
      (forOrders : RowByRow (OrderDraws counts) (oneTo counts.orders) orders third) :
      RowsDraws counts ⟨customers, products, orders⟩ (first ++ second ++ third)

/-- All rows are made of what is drawn for them, table by table. -/
theorem draws_drawRows (counts : Counts) :
    Draws counts.asks (drawRows counts) (RowsDraws counts) := by
  simp only [drawRows, ids_eq_oneTo]
  refine Does.bind_within (draws_mapM (draws_drawCustomer counts) _) fun _ _ forCustomers =>
    Does.bind_within (draws_mapM (draws_drawProduct counts) _) fun _ _ forProducts =>
      Does.bind_within (draws_mapM (draws_drawOrder counts) _) fun _ _ forOrders =>
        Does.pure_within ?_
  simpa using RowsDraws.drawn forCustomers forProducts forOrders

/-- The rows of each table are numbered from one on, and there are as many as are asked for. -/
structure Rows.Numbered (counts : Counts) (rows : Rows) : Prop where
  customers : rows.customers.map (·.id) = oneTo counts.customers
  products : rows.products.map (·.id) = oneTo counts.products
  orders : rows.orders.map (·.id) = oneTo counts.orders

namespace RowsDraws

variable {counts : Counts} {rows : Rows} {acts : List Act}

/-- Drawn rows are numbered from one on, as many as are asked for. -/
theorem numbered (h : RowsDraws counts rows acts) : rows.Numbered counts := by
  obtain ⟨forCustomers, forProducts, forOrders⟩ := h
  constructor
  · exact forCustomers.ids_eq (by rintro _ _ _ ⟨⟩ <;> rfl)
  · exact forProducts.ids_eq (by rintro _ _ _ ⟨⟩; rfl)
  · exact forOrders.ids_eq (by rintro _ _ _ ⟨⟩; rfl)

/-- A column of the customers holds what is drawn for it, if nothing of the kind is drawn for the
other tables. -/
theorem customerColumn (h : RowsDraws counts rows acts) (ask : Ask) (read : ask.Answer → β)
    {values : Customer → List β}
    (each : ∀ {id row acts}, CustomerDraws id row acts → values row = (asked ask acts).map read)
    (products : ∀ {id row acts}, ProductDraws id row acts → asked ask acts = [])
    (orders : ∀ {id row acts}, OrderDraws counts id row acts → asked ask acts = []) :
    rows.customers.flatMap values = (asked ask acts).map read := by
  obtain ⟨forCustomers, forProducts, forOrders⟩ := h
  rw [asked_append, asked_append, forProducts.asked_eq_nil products, forOrders.asked_eq_nil orders,
    List.append_nil, List.append_nil, forCustomers.column each]

/-- A column of the products holds what is drawn for it, if nothing of the kind is drawn for the
other tables. -/
theorem productColumn (h : RowsDraws counts rows acts) (ask : Ask) (read : ask.Answer → β)
    {values : Product → List β}
    (each : ∀ {id row acts}, ProductDraws id row acts → values row = (asked ask acts).map read)
    (customers : ∀ {id row acts}, CustomerDraws id row acts → asked ask acts = [])
    (orders : ∀ {id row acts}, OrderDraws counts id row acts → asked ask acts = []) :
    rows.products.flatMap values = (asked ask acts).map read := by
  obtain ⟨forCustomers, forProducts, forOrders⟩ := h
  rw [asked_append, asked_append, forCustomers.asked_eq_nil customers,
    forOrders.asked_eq_nil orders, List.nil_append, List.append_nil, forProducts.column each]

/-- A column of the orders holds what is drawn for it, if nothing of the kind is drawn for the other
tables. -/
theorem orderColumn (h : RowsDraws counts rows acts) (ask : Ask) (read : ask.Answer → β)
    {values : Order → List β}
    (each : ∀ {id row acts}, OrderDraws counts id row acts → values row = (asked ask acts).map read)
    (customers : ∀ {id row acts}, CustomerDraws id row acts → asked ask acts = [])
    (products : ∀ {id row acts}, ProductDraws id row acts → asked ask acts = []) :
    rows.orders.flatMap values = (asked ask acts).map read := by
  obtain ⟨forCustomers, forProducts, forOrders⟩ := h
  rw [asked_append, asked_append, forCustomers.asked_eq_nil customers,
    forProducts.asked_eq_nil products, List.nil_append, List.nil_append, forOrders.column each]

end RowsDraws

end QueryGuard.Demo
