import Mathlib.Data.List.Basic
import QueryGuard.Proofs.Demo.Calendar
import QueryGuard.Proofs.Demo.Runs

/-!
# QueryGuard.Proofs.Demo.Rows

The rows of the demonstration database.

The identifiers of a table are the numbers from one on, orders are of customers and products that
exist, and their days are days of the year 2025 (`Sound`).  The draws are used in the order in which
the program asks for them, none is left out and none is used twice, and each column has the draws
that are made for it, however many customers have no mail address (`InStep`).  Rows that are drawn
in the ranges asked for are sound and in step, and they are what is inserted (`populate_sound`).
-/

namespace QueryGuard.Demo

open World Date

/-- Whether what is drawn lies in the range that is asked for. -/
def Ask.Allows : (ask : Ask) → ask.Answer → Prop
  | name, _ | address, _ | country, _ | phrase, _ => True
  | fraction, (x : Binary64) => 0.0 ≤ x ∧ x < 1.0
  | real low high, (x : Binary64) => low ≤ x ∧ x ≤ high
  | whole low high, (n : Int) => low ≤ n ∧ n ≤ high
  | item items, (text : String) => text ∈ items

/-- All acts are draws, and what is drawn lies in the ranges that are asked for. -/
def InRange (acts : List Act) : Prop :=
  ∀ act ∈ acts, ∃ ask answer, act = .draw ask (.ok answer) ∧ ask.Allows answer

/-- The text of a day of 2025 with a month and a day of two digits each. -/
def textOf2025 (date : Date) : List Char :=
  ['2', '0', '2', '5', '-', digitAt date.month 1, digitAt date.month 0, '-', digitAt date.day 1,
    digitAt date.day 0]

/-- The tables refer to each other as they should. -/
structure Sound (rows : Rows) : Prop where
  customerIds : rows.customers.map (·.id) = (List.range' 1 200).map Int.ofNat
  productIds : rows.products.map (·.id) = (List.range' 1 40).map Int.ofNat
  orderIds : rows.orders.map (·.id) = (List.range' 1 600).map Int.ofNat
  customer : ∀ o ∈ rows.orders, ∃ c ∈ rows.customers, c.id = o.customerId
  product : ∀ o ∈ rows.orders, ∃ p ∈ rows.products, p.id = o.productId
  day : ∀ o ∈ rows.orders, o.date.IsDay ∧ o.date.year = 2025
  dayText : ∀ o ∈ rows.orders, o.date.toText = textOf2025 o.date

/-- What is asked for a customer. -/
def Customer.asks (c : Customer) : List Ask :=
  [.name, .fraction] ++ (if c.email.isSome then [.address] else []) ++ [.country]

/-- What is asked for a product. -/
def Product.asks (_ : Product) : List Ask :=
  [.phrase, .item ["Hardware", "Software", "Services", "Accessories"], .real 4.99 1499.99]

/-- What is asked for an order. -/
def Order.asks (_ : Order) : List Ask := [.whole 1 200, .whole 1 40, .whole 1 10, .whole 0 364]

/-- The rows use the draws in step. -/
structure InStep (rows : Rows) (acts : List Act) : Prop where
  order : acts.filterMap Act.ask? = rows.customers.flatMap Customer.asks ++
    rows.products.flatMap Product.asks ++ rows.orders.flatMap Order.asks
  names : rows.customers.map (·.name) = asked .name acts
  addressed : rows.customers.map (·.email.isSome) =
    (asked .fraction acts).map fun (x : Binary64) => decide (0.1 < x)
  addresses : rows.customers.filterMap (·.email) = asked .address acts
  countries : rows.customers.map (·.country) = asked .country acts
  phrases : rows.products.map (·.name) = asked .phrase acts
  categories : rows.products.map (·.category) =
    asked (.item ["Hardware", "Software", "Services", "Accessories"]) acts
  prices : rows.products.map (·.price) =
    (asked (.real 4.99 1499.99) acts).map (Binary64.roundTo 2)
  customers : rows.orders.map (·.customerId) = asked (.whole 1 200) acts
  products : rows.orders.map (·.productId) = asked (.whole 1 40) acts
  quantities : rows.orders.map (·.quantity) = asked (.whole 1 10) acts
  days : rows.orders.map (fun o => (o.date.dayOfYear : Int)) = asked (.whole 0 364) acts

/-! ## draws in step -/

/-- The text of a day of 2025 is that year with the month and the day in two digits each. -/
theorem toText_of_year {date : Date} (isDay : IsDay date) (year : date.year = 2025) :
    date.toText = textOf2025 date := by
  rw [toText_eq isDay (by omega), year]
  rfl

/-- What is drawn in range for what is asked is allowed for it. -/
theorem InRange.allows {acts : List Act} (h : InRange acts) {ask : Ask} {answer : ask.Answer}
    (mem : answer ∈ asked ask acts) : ask.Allows answer := by
  obtain ⟨_, _, same, allows⟩ := h _ (mem_asked_iff.mp mem)
  cases same
  exact allows

/-- Draws in range have no fault. -/
theorem InRange.clean {acts : List Act} (h : InRange acts) : Clean acts := by
  intro act mem
  obtain ⟨ask, answer, rfl, -⟩ := h act mem
  rfl

/-- The days that are drawn are days of the year 2025. -/
theorem InRange.day_lt {acts : List Act} (h : InRange acts) {n : Int}
    (mem : n ∈ asked (.whole 0 364) acts) : 0 ≤ n ∧ n.toNat < daysOfYear 2025 := by
  obtain ⟨low, high⟩ : 0 ≤ n ∧ n ≤ 364 := h.allows mem
  have : daysOfYear 2025 = 365 := by decide
  omega

theorem CustomerDraws.asks_eq {id : Int} {c : Customer} {acts : List Act}
    (h : CustomerDraws id c acts) : acts.filterMap Act.ask? = c.asks := by cases h <;> rfl

theorem ProductDraws.asks_eq {id : Int} {p : Product} {acts : List Act}
    (h : ProductDraws id p acts) : acts.filterMap Act.ask? = p.asks := by cases h; rfl

theorem OrderDraws.asks_eq {id : Int} {o : Order} {acts : List Act}
    (h : OrderDraws .standard id o acts) : acts.filterMap Act.ask? = o.asks := by cases h; rfl

theorem mem_oneTo {count n : Int} (low : 1 ≤ n) (high : n ≤ count) : n ∈ oneTo count :=
  List.mem_map.mpr ⟨n.toNat, List.mem_range'_1.mpr (by omega), by simp; omega⟩

namespace RowsDraws

variable {rows : Rows} {acts : List Act}

/-- The draws are asked for in the order of the rows, table by table. -/
theorem order_eq (h : RowsDraws .standard rows acts) :
    acts.filterMap Act.ask? = rows.customers.flatMap Customer.asks ++
      rows.products.flatMap Product.asks ++ rows.orders.flatMap Order.asks := by
  obtain ⟨forCustomers, forProducts, forOrders⟩ := h
  rw [List.filterMap_append, List.filterMap_append, forCustomers.asks_eq CustomerDraws.asks_eq,
    forProducts.asks_eq ProductDraws.asks_eq, forOrders.asks_eq OrderDraws.asks_eq]

/-- The days of the orders are those of the draws for them. -/
theorem dates (h : RowsDraws .standard rows acts) :
    rows.orders.map (·.date) =
      (asked (.whole 0 364) acts).map fun (n : Int) => .ofDayOfYear 2025 n.toNat := by
  rw [List.map_eq_flatMap]
  refine h.orderColumn (.whole 0 364) (fun n => ofDayOfYear 2025 (Int.toNat n)) ?_ ?_ ?_ <;>
    rintro _ _ _ ⟨⟩ <;> simp [asked, Act.answer?, Counts.standard]

/-- Drawn rows are in step with what is drawn for them. -/
theorem inStep (h : RowsDraws .standard rows acts) (inRange : InRange acts) : InStep rows acts where
  order := h.order_eq
  names := by
    rw [List.map_eq_flatMap, ← List.map_id (asked _ _)]
    refine h.customerColumn .name id ?_ ?_ ?_ <;> rintro _ _ _ ⟨⟩ <;> simp [asked, Act.answer?]
  addressed := by
    rw [List.map_eq_flatMap]
    refine h.customerColumn .fraction (fun x => decide (0.1 < x)) ?_ ?_ ?_ <;>
      rintro _ _ _ ⟨⟩ <;> simp_all [asked, Act.answer?]
  addresses := by
    rw [List.filterMap_eq_flatMap_toList, ← List.map_id (asked _ _)]
    refine h.customerColumn .address id ?_ ?_ ?_ <;> rintro _ _ _ ⟨⟩ <;> simp [asked, Act.answer?]
  countries := by
    rw [List.map_eq_flatMap, ← List.map_id (asked _ _)]
    refine h.customerColumn .country id ?_ ?_ ?_ <;> rintro _ _ _ ⟨⟩ <;> simp [asked, Act.answer?]
  phrases := by
    rw [List.map_eq_flatMap, ← List.map_id (asked _ _)]
    refine h.productColumn .phrase id ?_ ?_ ?_ <;> rintro _ _ _ ⟨⟩ <;> simp [asked, Act.answer?]
  categories := by
    rw [List.map_eq_flatMap, ← List.map_id (asked _ _)]
    refine h.productColumn (.item _) id ?_ ?_ ?_ <;> rintro _ _ _ ⟨⟩ <;> simp [asked, Act.answer?]
  prices := by
    rw [List.map_eq_flatMap]
    refine h.productColumn (.real 4.99 1499.99) (Binary64.roundTo 2) ?_ ?_ ?_ <;>
      rintro _ _ _ ⟨⟩ <;> simp [asked, Act.answer?]
  customers := by
    rw [List.map_eq_flatMap, ← List.map_id (asked _ _)]
    refine h.orderColumn (.whole 1 200) id ?_ ?_ ?_ <;>
      rintro _ _ _ ⟨⟩ <;> simp [asked, Act.answer?, Counts.standard]
  products := by
    rw [List.map_eq_flatMap, ← List.map_id (asked _ _)]
    refine h.orderColumn (.whole 1 40) id ?_ ?_ ?_ <;>
      rintro _ _ _ ⟨⟩ <;> simp [asked, Act.answer?, Counts.standard]
  quantities := by
    rw [List.map_eq_flatMap, ← List.map_id (asked _ _)]
    refine h.orderColumn (.whole 1 10) id ?_ ?_ ?_ <;>
      rintro _ _ _ ⟨⟩ <;> simp [asked, Act.answer?, Counts.standard]
  days := by
    have each := congrArg (List.map fun date => (date.dayOfYear : Int)) h.dates
    rw [List.map_map, List.map_map] at each
    refine each.trans ((List.map_congr_left fun n mem => ?_).trans (List.map_id _))
    obtain ⟨low, early⟩ := inRange.day_lt mem
    show ((ofDayOfYear 2025 n.toNat).dayOfYear : Int) = n
    rw [dayOfYear_ofDayOfYear early, Int.toNat_of_nonneg low]

/-- The day of an order is a day of the year 2025. -/
theorem date_eq (h : RowsDraws .standard rows acts) (inRange : InRange acts) :
    ∀ o ∈ rows.orders, ∃ day < daysOfYear 2025, o.date = ofDayOfYear 2025 day := by
  intro o mem
  have mem : o.date ∈ rows.orders.map (·.date) := List.mem_map_of_mem mem
  rw [h.dates] at mem
  obtain ⟨n, drawn, same⟩ := List.mem_map.mp mem
  exact ⟨n.toNat, (inRange.day_lt drawn).2, same.symm⟩

/-- Drawn rows refer to each other as they should. -/
theorem sound (h : RowsDraws .standard rows acts) (inRange : InRange acts) : Sound rows := by
  have numbered := h.numbered
  have steps := h.inStep inRange
  have days := h.date_eq inRange
  refine ⟨numbered.customers, numbered.products, numbered.orders, ?_, ?_, ?_, ?_⟩
  · intro o mem
    have drawn : o.customerId ∈ rows.orders.map (·.customerId) := List.mem_map_of_mem mem
    rw [steps.customers] at drawn
    obtain ⟨low, high⟩ : 1 ≤ o.customerId ∧ o.customerId ≤ 200 := inRange.allows drawn
    exact List.mem_map.mp (numbered.customers ▸ mem_oneTo low high)
  · intro o mem
    have drawn : o.productId ∈ rows.orders.map (·.productId) := List.mem_map_of_mem mem
    rw [steps.products] at drawn
    obtain ⟨low, high⟩ : 1 ≤ o.productId ∧ o.productId ≤ 40 := inRange.allows drawn
    exact List.mem_map.mp (numbered.products ▸ mem_oneTo low high)
  · intro o mem
    obtain ⟨day, early, same⟩ := days o mem
    rw [same]
    exact ⟨isDay_ofDayOfYear early, rfl⟩
  · intro o mem
    obtain ⟨day, early, same⟩ := days o mem
    rw [same]
    exact toText_of_year (isDay_ofDayOfYear early) rfl

end RowsDraws

/-! ## all rows -/

/-- A run of the part that draws and inserts rows, by what it draws and what it calls then. -/
theorem exists_draws (w : World) : ∃ rows draws calls,
    w.Leads (draws ++ calls) ((populate .standard).run.run w).2 ∧
    (∀ act ∈ draws, act.DrawsFor Counts.standard.asks) ∧ (∀ act ∈ calls, act.isDraw = false) ∧
    (Clean draws → RowsDraws .standard rows draws ∧
      Calls (Told [rows.report]) (rows.insertions ++ [.commit])
        ((populate .standard).run.run w).1 calls) := by
  have silent : Does (pure ()) (Told []) := Does.pure ⟨rfl, rfl⟩
  have does : Does (populate .standard) fun result acts =>
      ∃ rows, Filled .standard [] rows result acts := by
    simpa using does_populate silent
  obtain ⟨acts, leads, rows, filled⟩ := does w
  generalize ((populate .standard).run.run w).1 = result at filled ⊢
  cases filled with
  | undrawn drawing =>
      refine ⟨rows, acts, [], by simpa using leads, drawing.kind, by simp, fun clean => ?_⟩
      obtain ⟨_, ok⟩ := drawing.ends.ok_of_clean clean
      cases ok
  | @drawn draws calls _ drawing inserts =>
      exact ⟨rows, draws, calls, leads, drawing.kind, inserts.isDraw,
        fun _ => ⟨drawing.told _ rfl, inserts⟩⟩

/-- The draws are used one after another.  If what is drawn lies in the ranges that are asked for,
then it makes rows that are sound and in step with it, and those rows are inserted and committed,
unless a call ends in a fault. -/
theorem populate_sound (w : World) : ∃ draws calls,
    w.Leads (draws ++ calls) ((populate .standard).run.run w).2 ∧
    ((populate .standard).run.run w).2.used = w.used + draws.length ∧
    draws = w.inTurn (draws.filterMap Act.ask?) ∧
    (∀ ask ∈ draws.filterMap Act.ask?, ask ∈ Counts.standard.asks) ∧
    (∀ act ∈ calls, act.isDraw = false) ∧
    (InRange draws → ∃ rows, Sound rows ∧ InStep rows draws ∧
      calls.filterMap Act.event? <+: rows.insertions ++ [.commit] ∧
      (Clean calls → ((populate .standard).run.run w).1 = .ok () ∧
        calls.filterMap Act.event? = rows.insertions ++ [.commit])) := by
  obtain ⟨rows, draws, calls, leads, kind, quiet, inserts⟩ := exists_draws w
  have all : ∀ act ∈ draws, act.isDraw = true := fun act mem => (kind act mem).isDraw
  obtain ⟨v, first, rest⟩ := leads.split
  refine ⟨draws, calls, leads, ?_, first.draws_eq all, ?_, quiet, fun inRange => ?_⟩
  · have none : calls.countP Act.isDraw = 0 := by simpa using quiet
    rw [leads.used_eq, List.countP_append, List.countP_eq_length.mpr all, none, Nat.add_zero]
  · intro ask mem
    obtain ⟨act, made, found⟩ := List.mem_filterMap.mp mem
    obtain ⟨_, asked, _, rfl⟩ := kind act made
    exact Option.some.inj found ▸ asked
  · obtain ⟨drawn, inserts⟩ := inserts inRange.clean
    exact ⟨rows, drawn.sound inRange, drawn.inStep inRange, inserts.events_prefix Told.no_event,
      fun clean => inserts.events_eq Told.ends Told.no_event clean⟩

/-- Draws of some fractions that are too small for a mail address. -/
def sampleDraw (n : Nat) : (ask : Ask) → Except Fault ask.Answer
  | .name => .ok ("name " ++ toString n)
  | .address => .ok ("user" ++ toString n ++ "@example.com")
  | .country => .ok ("country " ++ toString n)
  | .phrase => .ok ("phrase " ++ toString n)
  | .fraction => .ok (if n % 5 = 1 then 0.0 else 0.5)
  | .real low _ => .ok low
  | .whole low high => .ok (low + n % (high - low + 1))
  | .item items => .ok (items.headD "")

/-- The sample draws are in the ranges that are asked for. -/
theorem allows_sampleDraw {ask : Ask} (mem : ask ∈ Counts.standard.asks) (n : Nat) :
    ∃ answer, sampleDraw n ask = .ok answer ∧ ask.Allows answer := by
  have whole {low high : Int} (some_ : low ≤ high) :
      ∃ answer, sampleDraw n (.whole low high) = .ok answer ∧
        (Ask.whole low high).Allows answer := by
    have := Int.emod_nonneg n (by omega : high - low + 1 ≠ 0)
    have := Int.emod_lt_of_pos n (by omega : 0 < high - low + 1)
    exact ⟨_, rfl, by unfold Ask.Allows; omega⟩
  simp only [Counts.asks, Counts.standard, List.mem_cons, List.not_mem_nil, or_false] at mem
  obtain rfl | rfl | rfl | rfl | rfl | rfl | rfl | rfl | rfl | rfl | rfl := mem
  · exact ⟨_, rfl, trivial⟩
  · have zero : (0.0 : Binary64) ≤ 0.0 ∧ (0.0 : Binary64) < 1.0 := by decide +kernel
    have half : (0.0 : Binary64) ≤ 0.5 ∧ (0.5 : Binary64) < 1.0 := by decide +kernel
    refine ⟨_, rfl, ?_⟩
    split
    · exact zero
    · exact half
  · exact ⟨_, rfl, trivial⟩
  · exact ⟨_, rfl, trivial⟩
  · exact ⟨_, rfl, trivial⟩
  · exact ⟨_, rfl, List.mem_cons_self⟩
  · exact ⟨_, rfl, by unfold Ask.Allows; decide +kernel⟩
  · exact whole (by decide)
  · exact whole (by decide)
  · exact whole (by decide)
  · exact whole (by decide)

/-- What an outside draws in turn is in range if all that it draws is. -/
theorem inRange_inTurn {w : World} {asks : List Ask}
    (allows : ∀ ask ∈ asks, ∀ n, ∃ answer, w.draw n ask = .ok answer ∧ ask.Allows answer) :
    InRange (w.inTurn asks) := by
  intro act mem
  obtain ⟨i, inside, rfl⟩ := List.mem_iff_getElem.mp mem
  have early : i < asks.length := by simpa [inTurn] using inside
  obtain ⟨answer, drawn, allows⟩ :=
    allows asks[i] (List.getElem_mem early) (w.used + i)
  exact ⟨asks[i], answer, by simp [inTurn, drawn], allows⟩

/-- The sample draws make rows that are sound and in step with them. -/
theorem populate_sound_sampled : ∃ draws rows,
    InRange draws ∧ Sound rows ∧ InStep rows draws := by
  obtain ⟨draws, _, -, -, turns, known, -, sound⟩ := populate_sound
    { home := ⟨false, []⟩, workingDirectory := ⟨false, []⟩, fileExists := fun _ => false
      draw := sampleDraw, fault? := fun _ _ => none
      used := 0, events := #[], printed := "" }
  have inRange : InRange draws := by
    rw [turns]
    exact inRange_inTurn fun ask mem n => allows_sampleDraw (known ask mem) n
  obtain ⟨rows, rowsSound, inStep, -⟩ := sound inRange
  exact ⟨draws, rows, inRange, rowsSound, inStep⟩

end QueryGuard.Demo
