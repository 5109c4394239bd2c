import Mathlib.Data.List.Forall2
import Mathlib.Data.Option.Defs
import QueryGuard.Proofs.Engine.Rows

/-!
# QueryGuard.Proofs.Engine.SideBySide

Two engines that fail at the same places, side by side.

Two scripts are `Alike` if they differ in the kinds and texts of their faults only.  The functions
of the database make the same calls of both engines and end alike: with the same result, with one
fault of their own, or with the faults in which one and the same call of the two engines ended
(`Ends`).  `Agree` states such a property of two computations, and its lemmas follow the ways in
which computations are put together.
-/

namespace QueryGuard

variable {σ α β γ : Type} {R : Fault → Fault → Prop}

/-! ## scripts -/

/-- Two statements fail at the same place, with faults in a relation, or neither fails. -/
inductive Failure.Alike (R : Fault → Fault → Prop) : Option Failure → Option Failure → Prop
  | none : Alike R none none
  | atOnce {fault fault' : Fault} (related : R fault fault') :
      Alike R (some (.atOnce fault)) (some (.atOnce fault'))
  | afterRows (count : Nat) {fault fault' : Fault} (related : R fault fault') :
      Alike R (some (.afterRows count fault)) (some (.afterRows count fault'))

/-- Two replies differ in their faults only, which stand in a relation. -/
structure Reply.Alike (R : Fault → Fault → Prop) (reply reply' : Reply) : Prop where
  columns : reply.columns = reply'.columns
  rows : reply.rows = reply'.rows
  rowCount : reply.rowCount = reply'.rowCount
  failure : Failure.Alike R reply.failure? reply'.failure?

/-- Two scripts differ in their faults only, which stand in a relation. -/
structure Script.Alike (R : Fault → Fault → Prop) (script script' : Script) : Prop where
  replies : List.Forall₂ (Reply.Alike R) script.replies script'.replies
  connect : Option.Rel R script.connectFault? script'.connectFault?
  pragma : Option.Rel R script.pragmaFault? script'.pragmaFault?
  commit : Option.Rel R script.commitFault? script'.commitFault?
  rollback : Option.Rel R script.rollbackFault? script'.rollbackFault?
  closeCursor : Option.Rel R script.closeCursorFault? script'.closeCursorFault?
  close : Option.Rel R script.closeFault? script'.closeFault?

/-- Two engines whose scripts are alike, with as many connections. -/
structure Engine.Alike (R : Fault → Fault → Prop) (engine engine' : Engine) : Prop where
  script : Script.Alike R engine.script engine'.script
  connections : engine.connections = engine'.connections

/-- Two feeds of the same items that both end, or both break. -/
inductive Feed.Alike (R : Fault → Fault → Prop) : Feed α → Feed α → Prop
  | done : Alike R .done .done
  | broken {fault fault' : Fault} (related : R fault fault') :
      Alike R (.broken fault) (.broken fault')
  | item (a : α) {rest rest' : Feed α} (later : Alike R rest rest') :
      Alike R (.item a rest) (.item a rest')

/-- Feeds stay alike when the same is made of their items. -/
theorem Feed.Alike.map {feed feed' : Feed α} (h : Feed.Alike R feed feed') (f : α → β) :
    Feed.Alike R (feed.map f) (feed'.map f) := by
  induction h with
  | done => exact .done
  | broken related => exact .broken related
  | item a _ ih => exact .item (f a) ih

/-- Feeds of the same items with faults that are alike are alike. -/
theorem Feed.alike_ofList {fault? fault?' : Option Fault} (h : Option.Rel R fault? fault?')
    (items : List α) : Feed.Alike R (.ofList fault? items) (.ofList fault?' items) := by
  induction items with
  | nil =>
      cases h with
      | none => exact .done
      | some related => exact .broken related
  | cons a items ih => exact .item a ih

/-- Replies that are alike have faults on execution that are alike. -/
theorem Reply.Alike.executeFault? {reply reply' : Reply} (h : Reply.Alike R reply reply') :
    Option.Rel R reply.executeFault? reply'.executeFault? := by
  obtain ⟨_, _, _, failure?⟩ := reply
  obtain ⟨_, _, _, failure?'⟩ := reply'
  cases h.failure with
  | none => exact .none
  | atOnce related => exact .some related
  | afterRows count related => exact .none

/-- Replies that are alike have feeds that are alike. -/
theorem Reply.Alike.feed {reply reply' : Reply} (h : Reply.Alike R reply reply') :
    Feed.Alike R reply.feed reply'.feed := by
  obtain ⟨_, rows, _, failure?⟩ := reply
  obtain ⟨_, rows', _, failure?'⟩ := reply'
  obtain rfl : rows = rows' := h.rows
  cases h.failure with
  | none => exact Feed.alike_ofList .none _
  | atOnce related => exact Feed.alike_ofList .none _
  | afterRows count related => exact Feed.alike_ofList (.some related) _

theorem Reply.alike_nothing : Reply.Alike R .nothing .nothing := ⟨rfl, rfl, rfl, .none⟩

/-! ## endings -/

/-- One and the same call of the two engines ended in the two faults, which stand in a relation. -/
def Raised (R : Fault → Fault → Prop) (fault fault' : Fault) (events : List (Event × Event)) :
    Prop :=
  R fault fault' ∧ ∃ conn call, (⟨conn, call, some fault⟩, ⟨conn, call, some fault'⟩) ∈ events

/-- Two attempts both have results, which stand in a relation, or both end in a fault: the same one,
or those of one and the same call. -/
inductive Ends (R : Fault → Fault → Prop) (S : α → β → Prop) :
    Except Fault α → Except Fault β → List (Event × Event) → Prop
  | ok {a : α} {b : β} {events : List (Event × Event)} (related : S a b) :
      Ends R S (.ok a) (.ok b) events
  | own (fault : Fault) (events : List (Event × Event)) :
      Ends R S (.error fault) (.error fault) events
  | raised {fault fault' : Fault} {events : List (Event × Event)}
      (raised : Raised R fault fault' events) : Ends R S (.error fault) (.error fault') events

/-- A fault that was raised stays so with more events. -/
theorem Raised.mono {fault fault' : Fault} {events later : List (Event × Event)}
    (h : Raised R fault fault' events) (kept : events ⊆ later) : Raised R fault fault' later := by
  obtain ⟨related, conn, call, mem⟩ := h
  exact ⟨related, conn, call, kept mem⟩

/-- What ends alike does so with more events and for a weaker relation of the results. -/
theorem Ends.mono {S U : α → β → Prop} {result : Except Fault α} {result' : Except Fault β}
    {events later : List (Event × Event)} (h : Ends R S result result' events)
    (weaker : ∀ a b, S a b → U a b) (kept : events ⊆ later) : Ends R U result result' later := by
  cases h with
  | ok related => exact .ok (weaker _ _ related)
  | own fault => exact .own fault later
  | raised raised => exact .raised (raised.mono kept)

/-- Endings after further calls. -/
theorem Ends.later {S : α → β → Prop} {result : Except Fault α} {result' : Except Fault β}
    {events : List (Event × Event)} (before : List (Event × Event))
    (h : Ends R S result result' events) : Ends R S result result' (before ++ events) :=
  h.mono (fun _ _ related => related) (List.subset_append_right before events)

/-- Two computations from states in a relation add to the traces side by side, come to states in the
relation, and have results that stand in another relation, as does what they add. -/
def Agree (trace : σ → List Event) (I : σ → σ → Prop) (x : StateM σ α) (y : StateM σ β)
    (T : α → β → List (Event × Event) → Prop) : Prop :=
  ∀ s t, I s t → ∃ events : List (Event × Event),
    trace (x.run s).2 = trace s ++ events.map Prod.fst ∧
      trace (y.run t).2 = trace t ++ events.map Prod.snd ∧
      I (x.run s).2 (y.run t).2 ∧ T (x.run s).1 (y.run t).1 events

namespace Agree

variable {trace : σ → List Event} {I : σ → σ → Prop} {x y : StateM σ α}
  {T : α → α → List (Event × Event) → Prop}

theorem pure {a b : α} (h : T a b []) : Agree trace I (Pure.pure a) (Pure.pure b) T := by
  intro s t related
  exact ⟨[], (List.append_nil _).symm, (List.append_nil _).symm, related, h⟩

/-- Computations that leave the traces as they are. -/
theorem quiet (h : ∀ s t, I s t → trace (x.run s).2 = trace s ∧ trace (y.run t).2 = trace t ∧
    I (x.run s).2 (y.run t).2 ∧ T (x.run s).1 (y.run t).1 []) : Agree trace I x y T := by
  intro s t related
  obtain ⟨kept, kept', after, told⟩ := h s t related
  exact ⟨[], kept.trans (List.append_nil _).symm, kept'.trans (List.append_nil _).symm, after, told⟩

/-- What follows from the results and the events is agreed on as well. -/
theorem mono {U : α → α → List (Event × Event) → Prop} (h : Agree trace I x y T)
    (weaker : ∀ a b events, T a b events → U a b events) : Agree trace I x y U := by
  intro s t related
  obtain ⟨events, added, added', later, told⟩ := h s t related
  exact ⟨events, added, added', later, weaker _ _ _ told⟩

/-- Computations that go on after others agree if the others do. -/
theorem bind {f g : α → StateM σ β} {U : β → β → List (Event × Event) → Prop}
    (hx : Agree trace I x y T)
    (hf : ∀ a b events, T a b events →
      Agree trace I (f a) (g b) fun c d later => U c d (events ++ later)) :
    Agree trace I (x >>= f) (y >>= g) U := by
  intro s t related
  obtain ⟨events, added, added', between, told⟩ := hx s t related
  obtain ⟨later, addedLater, addedLater', after, toldLater⟩ := hf _ _ _ told _ _ between
  refine ⟨events ++ later, ?_, ?_, after, toldLater⟩
  · show trace ((f (x.run s).1).run (x.run s).2).2 = _
    rw [addedLater, added, List.append_assoc, List.map_append]
  · show trace ((g (y.run t).1).run (y.run t).2).2 = _
    rw [addedLater', added', List.append_assoc, List.map_append]

/-- Computations go on alike after ones that have the same result and add nothing to the traces. -/
theorem afterSame {f g : α → StateM σ β} {U : β → β → List (Event × Event) → Prop}
    (hx : Agree trace I x y fun a b events => a = b ∧ events = [])
    (hf : ∀ a, Agree trace I (f a) (g a) U) : Agree trace I (x >>= f) (y >>= g) U := by
  refine hx.bind fun a b events told => ?_
  obtain ⟨rfl, rfl⟩ := told
  exact hf a

/-! ## attempts -/

theorem attemptPure {S : α → α → Prop} {a b : α} (h : S a b) :
    Agree trace I (Pure.pure a : Attempt σ α).run (Pure.pure b : Attempt σ α).run (Ends R S) :=
  pure (.ok h)

/-- Computations that go on after others end alike if the others do. -/
theorem attemptBind {x y : Attempt σ α} {f g : α → Attempt σ β} {S : α → α → Prop}
    {U : β → β → Prop} (hx : Agree trace I x.run y.run (Ends R S))
    (hf : ∀ a b, S a b → Agree trace I (f a).run (g b).run (Ends R U)) :
    Agree trace I (x >>= f).run (y >>= g).run (Ends R U) := by
  rw [ExceptT.run_bind, ExceptT.run_bind]
  refine hx.bind fun result result' events told => ?_
  cases told with
  | ok related => exact (hf _ _ related).mono fun _ _ later told => told.later events
  | own fault => exact pure (.own fault _)
  | raised raised => exact pure (.raised (raised.mono (List.subset_append_left events [])))

/-- One result that is there already for both. -/
theorem liftExcept {result : Except Fault α} :
    Agree trace I (liftExcept result : Attempt σ α).run (liftExcept result : Attempt σ α).run
      (Ends R Eq) := by
  cases result with
  | ok a => exact pure (.ok rfl)
  | error fault => exact pure (.own fault _)

/-- Attempts go on alike after ones that have the same result. -/
theorem attemptAfter {x y : Attempt σ α} {f g : α → Attempt σ β} {U : β → β → Prop}
    (hx : Agree trace I x.run y.run (Ends R Eq))
    (hf : ∀ a, Agree trace I (f a).run (g a).run (Ends R U)) :
    Agree trace I (x >>= f).run (y >>= g).run (Ends R U) := by
  refine attemptBind hx fun a b same => ?_
  subst same
  exact hf a

/-- After a release the faults of the bodies are raised again. -/
theorem thenThrow {release release' : Attempt σ Unit} {S : α → α → Prop} {fault fault' : Fault}
    {before : List (Event × Event)}
    (stopped : Ends R S (.error fault : Except Fault α) (.error fault') before)
    (hrelease : Agree trace I release.run release'.run (Ends R Eq)) :
    Agree trace I (release *> throw fault : Attempt σ α).run
      (release' *> throw fault' : Attempt σ α).run
      fun result result' later => Ends R S result result' (before ++ later) := by
  show Agree trace I (release >>= fun _ => throw fault).run
    (release' >>= fun _ => throw fault').run _
  rw [ExceptT.run_bind, ExceptT.run_bind]
  refine hrelease.bind fun result result' events told => ?_
  cases told with
  | ok _ => exact pure (stopped.mono (fun _ _ h => h) (List.subset_append_left before _))
  | own fault => exact pure (.own fault _)
  | raised raised =>
      refine pure (.raised (raised.mono ?_))
      rw [List.append_nil]
      exact List.subset_append_right before events

/-- Computations end alike if they and what is released after them do. -/
theorem thenRelease {body body' : Attempt σ α} {release release' : Attempt σ Unit}
    {S : α → α → Prop} (hbody : Agree trace I body.run body'.run (Ends R S))
    (hrelease : Agree trace I release.run release'.run (Ends R Eq)) :
    Agree trace I (body.thenRelease release).run (body'.thenRelease release').run (Ends R S) := by
  refine hbody.bind fun result result' events told => ?_
  refine hrelease.bind fun released released' later toldLater => ?_
  cases toldLater with
  | ok _ => exact pure (told.mono (fun _ _ h => h) (List.subset_append_left events _))
  | own fault => exact pure (.own fault _)
  | raised raised =>
      refine pure (.raised (raised.mono ?_))
      rw [List.append_nil]
      exact List.subset_append_right events later

/-- Computations end alike if they and what is released after a fault do. -/
theorem orRelease {body body' : Attempt σ α} {release release' : Attempt σ Unit}
    {S : α → α → Prop} (hbody : Agree trace I body.run body'.run (Ends R S))
    (hrelease : Agree trace I release.run release'.run (Ends R Eq)) :
    Agree trace I (body.orRelease release).run (body'.orRelease release').run (Ends R S) := by
  refine hbody.bind fun result result' events told => ?_
  cases told with
  | ok related => exact pure (.ok related)
  | own fault => exact thenThrow (.own fault events) hrelease
  | raised raised => exact thenThrow (.raised raised) hrelease

end Agree

end QueryGuard
