import QueryGuard.Demo.Fill
import QueryGuard.Proofs.Attempt

/-!
# QueryGuard.Proofs.Demo.Does

What the program that fills a demonstration database does to the outside.

The outside goes from one state to the next by an act, and it is the outside that says what a call
ends in and what is drawn (`World.Answers`).  `World.Leads` is a run of such steps; what a
run leaves behind is told from its acts by induction on it.

`Does x T` says of a computation that the outside runs through acts that stand in the relation `T`
to its result.  Its lemmas follow the ways in which computations are put together.  `Ends` is the
relation that all parts of the program have to their acts: only the last act may end in a fault, and
that is the fault of the computation.
-/

namespace QueryGuard.Demo

/-! ## acts -/

namespace Act

/-- The fault that an act ends in. -/
def fault? : Act → Option Fault
  | call _ fault? => fault?
  | draw _ (.error fault) => some fault
  | draw _ (.ok _) | print _ => none

/-- The call that is made. -/
def event? : Act → Option Event
  | call event _ => some event
  | draw _ _ | print _ => none

/-- The line that is printed. -/
def line? : Act → Option String
  | print line => some line
  | call _ _ | draw _ _ => none

/-- What is asked of a source of random data. -/
def ask? : Act → Option Ask
  | draw ask _ => some ask
  | call _ _ | print _ => none

/-- Whether an act is a draw. -/
def isDraw : Act → Bool
  | draw _ _ => true
  | call _ _ | print _ => false

end Act

/-! ## runs of the outside -/

namespace World

/-- The outside after an act. -/
def after (w : World) (act : Act) : World :=
  match act with
  | .call event _ => { w with events := w.events.push event, past := w.past.push act }
  | .draw _ _ => { w with used := w.used + 1, past := w.past.push act }
  | .print line => { w with printed := w.printed ++ line ++ "\n", past := w.past.push act }

/-- What the outside makes of an act: a call ends in the fault that it has for this call of its
kind, and what is drawn is that of the next draw. -/
def Answers (w : World) : Act → Prop
  | .call event fault? =>
      fault? = w.fault? event.kind ((w.events.push event).countP (·.kind == event.kind))
  | .draw ask answer => answer = w.draw w.used ask
  | .print _ => True

/-- The draws for what is asked, one after another. -/
def inTurn (w : World) (asks : List Ask) : List Act :=
  (List.range' w.used asks.length).zipWith (fun n ask => .draw ask (w.draw n ask)) asks

/-- The outside goes from one state to another by acts. -/
inductive Leads : World → List Act → World → Prop
  | nil (w : World) : Leads w [] w
  | cons {w v : World} {act : Act} {acts : List Act} (answers : w.Answers act)
      (later : Leads (w.after act) acts v) : Leads w (act :: acts) v

namespace Leads

variable {w v u : World} {acts later : List Act} {act : Act}

theorem single (answers : w.Answers act) : w.Leads [act] (w.after act) := .cons answers (.nil _)

/-- Runs follow each other. -/
theorem trans (h : w.Leads acts v) (k : v.Leads later u) : w.Leads (acts ++ later) u := by
  induction h with
  | nil => exact k
  | cons answers _ ih => exact .cons answers (ih k)

/-- A run of appended acts is a run of the first ones and then one of the others. -/
theorem split : ∀ {w u : World} {acts later : List Act}, w.Leads (acts ++ later) u →
    ∃ v : World, w.Leads acts v ∧ v.Leads later u
  | w, _, [], _, h => ⟨w, .nil w, h⟩
  | _, _, _ :: _, _, .cons answers more => by
      obtain ⟨v, first, rest⟩ := split more
      exact ⟨v, .cons answers first, rest⟩

/-- A run is noted as it goes. -/
theorem past_eq (h : w.Leads acts v) : v.past.toList = w.past.toList ++ acts := by
  induction h with
  | nil => simp
  | @cons w v act acts _ _ ih => rw [ih]; cases act <;> simp [after]

/-- The calls noted after a run are those before it and those of its acts. -/
theorem events_eq (h : w.Leads acts v) :
    v.events.toList = w.events.toList ++ acts.filterMap Act.event? := by
  induction h with
  | nil => simp
  | @cons w v act acts _ _ ih =>
      rw [ih]
      cases act <;> simp [after, Act.event?, List.filterMap_cons]

/-- The text printed after a run is the text before it and the lines of its acts. -/
theorem printed_eq (h : w.Leads acts v) :
    v.printed = w.printed ++ String.join ((acts.filterMap Act.line?).map (· ++ "\n")) := by
  induction h with
  | nil => simp
  | @cons w v act acts _ _ ih =>
      rw [ih]
      cases act <;> simp [after, Act.line?, List.filterMap_cons, String.append_assoc]

/-- A run uses one draw for each of its acts that is a draw. -/
theorem used_eq (h : w.Leads acts v) : v.used = w.used + acts.countP Act.isDraw := by
  induction h with
  | nil => rfl
  | @cons w v act acts _ _ ih =>
      rw [ih, List.countP_cons]
      cases act with
      | call | print => rfl
      | draw => exact Nat.add_right_comm ..

/-- In a run of draws, each takes the next one: none is left out and none is used twice. -/
theorem draws_eq (h : w.Leads acts v) (draws : ∀ act ∈ acts, act.isDraw = true) :
    acts = w.inTurn (acts.filterMap Act.ask?) := by
  induction h with
  | nil => rfl
  | @cons w v act acts answers later ih =>
      obtain ⟨first, rest⟩ := List.forall_mem_cons.mp draws
      cases act with
      | call | print => simp [Act.isDraw] at first
      | draw ask answer =>
          rw [List.filterMap_cons_some (rfl : Act.ask? (.draw ask answer) = some ask), inTurn,
            List.length_cons, List.range'_succ, List.zipWith_cons_cons, ← answers]
          exact congrArg _ (ih rest)

end Leads

end World

/-! ## what computations do -/

variable {α β : Type}

/-- The outside runs through acts that stand in a relation to the result of a computation. -/
def Does (x : DemoM α) (T : Except Fault α → List Act → Prop) : Prop :=
  ∀ w : World, ∃ acts, w.Leads acts (x.run.run w).2 ∧ T (x.run.run w).1 acts

namespace Does

variable {x : DemoM α} {T U : Except Fault α → List Act → Prop}

/-- What follows from the acts and the result is done as well. -/
theorem mono (h : Does x T) (weaker : ∀ result acts, T result acts → U result acts) :
    Does x U := by
  intro w
  obtain ⟨acts, leads, told⟩ := h w
  exact ⟨acts, leads, weaker _ _ told⟩

theorem pure {a : α} (h : T (.ok a) []) : Does (Pure.pure a) T :=
  fun w => ⟨[], .nil w, h⟩

/-- A computation that goes on after another stops with its fault or does what comes of its result.
-/
theorem bind {f : α → DemoM β} {V : Except Fault β → List Act → Prop} (hx : Does x T)
    (stops : ∀ fault acts, T (.error fault) acts → V (.error fault) acts)
    (hf : ∀ a acts, T (.ok a) acts → Does (f a) fun result later => V result (acts ++ later)) :
    Does (x >>= f) V := by
  intro w
  obtain ⟨acts, leads, told⟩ := hx w
  cases ended : x.run.run w with
  | mk result v =>
    rw [ended] at leads told
    cases result with
    | error fault =>
        rw [attempt_bind_of_error ended]
        exact ⟨acts, leads, stops fault acts told⟩
    | ok a =>
        obtain ⟨later, leadsLater, toldLater⟩ := hf a acts told v
        rw [attempt_bind_of_run ended]
        exact ⟨acts ++ later, leads.trans leadsLater, toldLater⟩

/-- What is released after a computation is released whatever it ends in. -/
theorem thenRelease {release : DemoM Unit} {R : Option Fault → List Act → Prop}
    {V : Except Fault α → List Act → Prop} (hx : Does x T)
    (hr : Does release fun result acts =>
      ∃ fault?, result = orFault (.ok ()) fault? ∧ R fault? acts)
    (both : ∀ result acts fault? later, T result acts → R fault? later →
      V (orFault result fault?) (acts ++ later)) :
    Does (x.thenRelease release) V := by
  intro w
  obtain ⟨acts, leads, told⟩ := hx w
  cases ended : x.run.run w with
  | mk result v =>
    rw [ended] at leads told
    obtain ⟨later, leadsLater, fault?, ends, toldLater⟩ := hr v
    rw [run_thenRelease ended (Prod.ext ends rfl)]
    exact ⟨acts ++ later, leads.trans leadsLater, both result acts fault? later told toldLater⟩

end Does

/-! ## single acts -/

namespace World

/-- A call is one act, and ends in the fault that the outside has for it. -/
theorem does_perform (event : Event) :
    Does (perform event) fun result acts =>
      ∃ fault?, result = orFault (.ok ()) fault? ∧ acts = [.call event fault?] := by
  intro w
  let fault? := w.fault? event.kind ((w.events.push event).countP (·.kind == event.kind))
  have runs : (perform event).run.run w =
      (orFault (.ok ()) fault?, w.after (.call event fault?)) := by
    show (Attempt.raise? fault? : DemoM Unit).run.run (w.after (.call event fault?)) = _
    cases fault? <;> rfl
  rw [runs]
  exact ⟨_, .single (show w.Answers (.call event fault?) from rfl), fault?, rfl, rfl⟩

theorem does_print (line : String) :
    Does (print line) fun result acts => result = .ok () ∧ acts = [.print line] :=
  fun w => ⟨_, .single (show w.Answers (.print line) from trivial), rfl, rfl⟩

/-- A draw is one act, and its result is what the outside answers. -/
theorem does_nextDraw (ask : Ask) :
    Does (nextDraw ask) fun result acts => acts = [.draw ask result] := by
  intro w
  let answer := w.draw w.used ask
  have runs : (nextDraw ask).run.run w = (answer, w.after (.draw ask answer)) := by
    show (liftExcept answer : DemoM ask.Answer).run.run (w.after (.draw ask answer)) = _
    cases answer <;> rfl
  rw [runs]
  exact ⟨_, .single (show w.Answers (.draw ask answer) from rfl), rfl⟩

end World

/-! ## faults -/

/-- No act ends in a fault. -/
def Clean (acts : List Act) : Prop := ∀ act ∈ acts, act.fault? = none

theorem Clean.append {acts later : List Act} (h : Clean acts) (k : Clean later) :
    Clean (acts ++ later) := List.forall_mem_append.mpr ⟨h, k⟩

/-- Only the last act may end in a fault, and a computation ends in it. -/
inductive Ends : Except Fault α → List Act → Prop
  | ok {a : α} {acts : List Act} (clean : Clean acts) : Ends (.ok a) acts
  | error {before : List Act} {act : Act} {fault : Fault} (clean : Clean before)
      (last : act.fault? = some fault) : Ends (.error fault) (before ++ [act])

theorem Ends.clean {a : α} {acts : List Act} (h : Ends (.ok a) acts) : Clean acts := by
  cases h; assumption

/-- A computation without a fault among its acts has a result. -/
theorem Ends.ok_of_clean {acts : List Act} {result : Except Fault α} (h : Ends result acts)
    (clean : Clean acts) : ∃ a, result = .ok a := by
  cases h with
  | ok => exact ⟨_, rfl⟩
  | error _ last =>
      have none := clean _ (List.mem_append_right _ (List.mem_singleton_self _))
      rw [none] at last
      cases last

/-- Acts without a fault may come before. -/
theorem Ends.append {acts later : List Act} {result : Except Fault α} (clean : Clean acts)
    (h : Ends result later) : Ends result (acts ++ later) := by
  cases h with
  | ok more => exact .ok (clean.append more)
  | error more last => rw [← List.append_assoc]; exact .error (clean.append more) last

/-- Nothing is done after a fault, and the computation ends in it. -/
theorem Ends.split {result : Except Fault α} {before after : List Act} {act : Act}
    {fault : Fault} (h : Ends result (before ++ act :: after)) (faulty : act.fault? = some fault) :
    after = [] ∧ result = .error fault := by
  generalize all : before ++ act :: after = acts at h
  cases h with
  | ok clean =>
      have none := clean act (by rw [← all]; simp)
      rw [none] at faulty
      cases faulty
  | @error front last other clean ends =>
      obtain rfl | ⟨more, final, rfl⟩ := List.eq_nil_or_concat after
      · obtain ⟨rfl, same⟩ := List.append_inj' all rfl
        obtain rfl := List.singleton_inj.mp same
        rw [faulty] at ends
        cases ends
        exact ⟨rfl, rfl⟩
      · rw [List.concat_eq_append, ← List.cons_append, ← List.append_assoc] at all
        obtain ⟨rfl, -⟩ := List.append_inj' all rfl
        have none := clean act (by simp)
        rw [none] at faulty
        cases faulty

/-! ## acts of one kind -/

/-- Only acts of one kind are done; what comes of them is told if none of them ends in a fault. -/
structure Within (Q : Act → Prop) (P : α → List Act → Prop) (result : Except Fault α)
    (acts : List Act) : Prop where
  ends : Ends result acts
  kind : ∀ act ∈ acts, Q act
  told : ∀ a, result = .ok a → P a acts

namespace Does

variable {Q : Act → Prop} {P : α → List Act → Prop}

theorem pure_within {a : α} (h : P a []) : Does (Pure.pure a) (Within Q P) :=
  Does.pure ⟨.ok (by simp [Clean]), by simp, fun _ ok => Except.ok.inj ok ▸ h⟩

/-- Computations of acts of one kind follow each other. -/
theorem bind_within {x : DemoM α} {f : α → DemoM β} {R : β → List Act → Prop}
    (hx : Does x (Within Q P))
    (hf : ∀ a acts, P a acts → Does (f a) (Within Q fun b later => R b (acts ++ later))) :
    Does (x >>= f) (Within Q R) := by
  refine Does.bind hx ?_ ?_
  · intro fault acts within
    refine ⟨?_, within.kind, by simp⟩
    cases within.ends with
    | error clean last => exact .error clean last
  · intro a acts within
    refine (hf a acts (within.told a rfl)).mono fun result later withinLater => ⟨?_, ?_, ?_⟩
    · exact withinLater.ends.append within.ends.clean
    · exact List.forall_mem_append.mpr ⟨within.kind, withinLater.kind⟩
    · exact withinLater.told

/-- A call of the right kind is an act of that kind. -/
theorem perform_within {event : Event} (kind : ∀ fault?, Q (.call event fault?)) :
    Does (World.perform event) (Within Q fun _ acts => acts = [.call event none]) := by
  refine (World.does_perform event).mono ?_
  rintro _ _ ⟨fault?, rfl, rfl⟩
  refine ⟨?_, List.forall_mem_singleton.mpr (kind fault?), ?_⟩
  · cases fault? with
    | none => exact .ok (by simp [Clean, Act.fault?])
    | some fault => exact @Ends.error _ [] _ fault (by simp [Clean]) rfl
  · intro _ ok
    rw [(orFault_eq_ok_iff.mp ok).2]

end Does

end QueryGuard.Demo
