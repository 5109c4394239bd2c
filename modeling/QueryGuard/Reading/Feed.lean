import QueryGuard.Fault

/-!
# QueryGuard.Reading.Feed

Items that are delivered one at a time, on request.

A `Feed` is what a source still has to deliver: items, and after the last of them either the end or
a fault.  A reader asks for one item after the other; `Feed.consume` is the one loop by which feeds
are read, and each request it makes is noted in the world of the source.
-/

namespace QueryGuard

/-- What a source still has to deliver. -/
inductive Feed (α : Type)
  /-- Nothing more. -/
  | done
  /-- A fault in place of whatever was to come. -/
  | broken (fault : Fault)
  /-- An item, and what comes after it. -/
  | item (a : α) (rest : Feed α)

/-- How far a reader got: what it made of the items, how many it was given, and the fault that
stopped it, if one did. -/
structure Progress (β : Type) where
  result : β
  seen : Nat
  fault? : Option Fault

namespace Progress

/-- The progress of a reader that has not begun. -/
def start {β : Type} (result : β) : Progress β := ⟨result, 0, none⟩

/-- The same progress, stopped by a fault. -/
def stop {β : Type} (progress : Progress β) (fault : Fault) : Progress β :=
  { progress with fault? := some fault }

end Progress

namespace Feed

variable {σ α β : Type}

/-- The feed of the items of a list, then a fault or the end. -/
def ofList (fault? : Option Fault) : List α → Feed α
  | [] => match fault? with
    | some fault => .broken fault
    | none => .done
  | a :: rest => .item a (ofList fault? rest)

/-- The items that a feed delivers. -/
def items : Feed α → List α
  | done => []
  | broken _ => []
  | item a rest => a :: rest.items

/-- The fault that a feed ends in. -/
def fault? : Feed α → Option Fault
  | done => none
  | broken fault => some fault
  | item _ rest => rest.fault?

/-- The feed with a function applied to each item. -/
def map (f : α → β) : Feed α → Feed β
  | done => .done
  | broken fault => .broken fault
  | item a rest => .item (f a) (rest.map f)

/-- Reads a feed to its end, or until `limit` items are there, or until a fault.

`ask` notes a request together with the fault that answers it, if one does.  `step` works an item
into the result and may itself raise a fault, which stops the reading. -/
def consume (ask : Option Fault → StateM σ Unit) (step : β → α → Except Fault β) :
    Option Nat → Feed α → Progress β → StateM σ (Progress β)
  | some 0, _, progress => pure progress
  | _, done, progress => do
      ask none
      pure progress
  | _, broken fault, progress => do
      ask (some fault)
      pure (progress.stop fault)
  | limit, item a rest, progress => do
      ask none
      let progress := { progress with seen := progress.seen + 1 }
      match step progress.result a with
      | .ok result => consume ask step (limit.map (· - 1)) rest { progress with result }
      | .error fault => pure (progress.stop fault)

theorem items_ofList (fault? : Option Fault) (as : List α) : (ofList fault? as).items = as := by
  induction as with
  | nil => cases fault? <;> rfl
  | cons a as ih => simp only [ofList, items, ih]

theorem fault?_ofList (fault? : Option Fault) (as : List α) :
    (ofList fault? as).fault? = fault? := by
  induction as with
  | nil => cases fault? <;> rfl
  | cons a as ih => simp only [ofList, Feed.fault?, ih]

theorem items_map (f : α → β) (feed : Feed α) : (feed.map f).items = feed.items.map f := by
  induction feed with
  | done => rfl
  | broken => rfl
  | item a rest ih => simp only [map, items, ih, List.map_cons]

end Feed

end QueryGuard
