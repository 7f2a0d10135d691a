import Evget.Event.EventLoop
import Evget.Event.Setters
import Evget.Storage.FilterStore
import Evget.Storage.ManagerReceived
import Mathlib.Data.List.Flatten

/-!
# From the event source to the stores

A backend has a source of events and a transformer.  Its handler fetches an event, transforms it and
gives what comes of it to the filter, which is in front of the database manager; and so on until it
is stopped, until an error or until an exception, which also stops the scheduler.  Meanwhile the
timer and the threads of the scheduler take their steps.

* `handler`                 the program of the handler, whose calls are those on the manager;
* `captures`                what the filter forwards, as a function of the backend alone;
* `loop_run`                alone, the handler is the event loop of its one listener;
* `run_prefix`              in every run the handler pushes what it captures, in order, and nothing
                            else is pushed;
* `run_received`            when all is stored, every store has received all that was captured;
* `run_received_in_order`   and in the order of the source, when the batches are stored in turn.
-/

set_option linter.unusedSectionVars false

namespace Evget
open Calls

/-- a source of events and a transformer on one world, whose exceptions are `E`; the source has no
answer when it waits for ever -/
structure Backend (σ T E : Type) where
  next : σ → Option (Result T × Bool × σ)
  transformEvent : T → σ → Except E (Data × σ)

theorem EventLoop.start_accepted {σ T : Type} {next : Awaited σ T}
    {listener : T → Awaited σ Unit} {self : EventLoop σ T} {event : T} {stops : Bool}
    {world after : σ}
    (hstopped : self.stopped_ = false) (hnext : next self.world = (.ok event, stops, world))
    (hlistener : listener event world = (.ok (), false, after)) (fuel : Nat) :
    ∃ trace, EventLoop.start next [listener] (fuel + 1) self
      = EventLoop.start next [listener] fuel ⟨after, stops, trace⟩ := by
  obtain ⟨start, stopped_, trace⟩ := self
  refine ⟨trace ++ [.fetch (.ok event)] ++ [.notify 0 event (.ok ())], ?_⟩
  cases hstopped
  rw [EventLoop.start, if_neg (by exact Bool.false_ne_true), EventLoop.notifyEach, EventLoop.fetch,
    EventLoop.await, show next start = _ from hnext]
  cases stops <;>
    · dsimp only [EventLoop.stop, andThen_ok, EventLoop.notify, EventLoop.await]
      rw [hlistener]
      rfl

namespace Capture
open DatabaseManager

section
variable {S σ T E : Type}

/-! ## the handler -/

inductive Ending where
  | returned (result : Result Unit)
  | thrown

def forwards (allowed : Option (Finset DeviceType)) (event : Data) :
    Except Thrown (Option Data) :=
  match allowed with
  | none => .ok (some event)
  | some allowed => (FilterStore.filter allowed event).map fun filtered =>
      if filtered.empty then none else some filtered

/-- `StoreEvent` of the filter in front of the manager -/
def storeEvent (nEvents : Nat) (allowed : Option (Finset DeviceType)) (event : Data) :
    Prog (DatabaseManager.Call S) Reply (Except Thrown (Result Unit)) :=
  match forwards allowed event with
  | .error e => .ret (.error e)
  | .ok none => .ret (.ok (.ok ()))
  | .ok (some event) => (DatabaseManager.storeEvent nEvents event).bind fun result =>
      .ret (.ok result)

section
variable (backend : Backend σ T E) (nEvents : Nat) (allowed : Option (Finset DeviceType))

/-- the loop of the handler for at most `fuel` iterations; no ending when it goes on after them, or
waits for the source -/
def loop : Nat → Bool → σ → Prog (DatabaseManager.Call S) Reply (Option Ending)
  | 0, _, _ => .ret none
  | fuel + 1, stopped_, world =>
    if stopped_ then .ret (some (.returned (.ok ())))
    else
      match backend.next world with
      | none => .ret none
      | some (.error e, _, _) => .ret (some (.returned (.error e)))
      | some (.ok event, stops, world) =>
        match backend.transformEvent event world with
        | .error _ => .ret (some .thrown)
        | .ok (data, world) =>
          (storeEvent nEvents allowed data).bind fun
            | .error _ => .ret (some .thrown)
            | .ok (.error e) => .ret (some (.returned (.error e)))
            | .ok (.ok ()) => loop fuel stops world

/-- the handler as a task of the scheduler, which an exception stops -/
def handler (fuel : Nat) (stopped_ : Bool) (world : σ) : Prog (DatabaseManager.Call S) Reply Unit :=
  (loop backend nEvents allowed fuel stopped_ world).bind fun
    | some .thrown => .call .stop .ret
    | _ => .ret ()

/-- what the handler gives to the manager in its first `fuel` iterations -/
def captures : Nat → Bool → σ → List Data
  | 0, _, _ => []
  | fuel + 1, stopped_, world =>
    if stopped_ then []
    else
      match backend.next world with
      | none => []
      | some (.error _, _, _) => []
      | some (.ok event, stops, world) =>
        match backend.transformEvent event world with
        | .error _ => []
        | .ok (data, world) =>
          match forwards allowed data with
          | .error _ => []
          | .ok forwarded => forwarded.toList ++ captures fuel stops world

end

/-! ## the handler alone -/

/-- the manager as a store -/
def managerStore (nEvents : Nat) : Store (State S) := fun event m =>
  let (result, m) := (DatabaseManager.storeEvent nEvents event).run answer m
  (.ok result, m)

theorem storeEvent_run (nEvents : Nat) (allowed : Option (Finset DeviceType)) (event : Data)
    (m : State S) : (storeEvent nEvents allowed event).run answer m
      = FilterStore.storeEvent ⟨managerStore nEvents, allowed⟩ event m := by
  unfold storeEvent forwards FilterStore.storeEvent managerStore
  cases allowed with
  | none =>
    dsimp only
    rw [Prog.run_bind]
    rfl
  | some allowed =>
    dsimp only
    cases FilterStore.filter allowed event with
    | error e => rfl
    | ok filtered =>
      simp only [Except.map]
      by_cases h : filtered.empty
      · rw [if_pos h, if_pos h]
        rfl
      · rw [if_neg h, if_neg h]
        dsimp only
        rw [Prog.run_bind]
        rfl

section
variable (next : Awaited σ T) (transform : T → σ → Data × σ) (nEvents : Nat)
  (allowed : Option (Finset DeviceType))

def ofTransform : Backend σ T Empty where
  next world := some (next world)
  transformEvent event world := .ok (transform event world)

def nextBeside : Awaited (σ × State S) T := fun world =>
  let (result, stops, rest) := next world.1
  (result, stops, rest, world.2)

def transformBeside (event : T) (world : σ × State S) : Data × (σ × State S) :=
  let (data, rest) := transform event world.1
  (data, rest, world.2)

/-- the filter beside the source; an exception would not be a return -/
def storeBeside (data : Data) : Awaited (σ × State S) Unit := fun world =>
  match FilterStore.storeEvent ⟨managerStore nEvents, allowed⟩ data world.2 with
  | (.ok result, m) => (result, false, world.1, m)
  | (.error _, m) => (.ok (), false, world.1, m)

theorem storeEvent_returns {data : Data} (h : (forwards allowed data).isOk) (m : State S) :
    ∃ m', (storeEvent nEvents allowed data).run answer m = (.ok (.ok ()), m') := by
  unfold storeEvent
  cases hforward : forwards allowed data with
  | error e => rw [hforward] at h; cases h
  | ok forwarded =>
    cases forwarded with
    | none => exact ⟨m, rfl⟩
    | some event =>
      dsimp only
      rw [Prog.run_bind]
      unfold DatabaseManager.storeEvent
      simp only [Prog.run, Prog.run_bind]
      exact ⟨_, rfl⟩

/-- **The handler alone** is the event loop with its one listener, which transforms an event and
stores what comes of it, as long as the filter does not throw. -/
theorem loop_run
    (hfilter : ∀ event world, (forwards allowed (transform event world).1).isOk)
    (fuel : Nat) (self : EventLoop (σ × State S) T) :
    let ran := EventLoop.start (nextBeside next)
      [EventHandler.notify (transformBeside transform) (storeBeside nEvents allowed)] fuel self
    (loop (ofTransform next transform) nEvents allowed fuel self.stopped_ self.world.1).run answer
      self.world.2 = (ran.1.map .returned, ran.2.world.2) := by
  induction fuel generalizing self with
  | zero => rfl
  | succ fuel ih =>
    intro ran
    obtain ⟨⟨world, m⟩, stopped_, trace⟩ := self
    cases stopped_ with
    | true => rfl
    | false =>
      cases hnext : next world with
      | mk fetched rest =>
        obtain ⟨stops, world'⟩ := rest
        cases fetched with
        | error e =>
          cases stops <;>
            simp [ran, loop, ofTransform, hnext, EventLoop.start, EventLoop.notifyEach,
              EventLoop.fetch, EventLoop.await, nextBeside, Prog.run, EventLoop.stop]
        | ok event =>
          obtain ⟨m', hstore⟩ := storeEvent_returns nEvents allowed (hfilter event world') m
          have hbeside : nextBeside next (world, m) = (.ok event, stops, world', m) := by
            unfold nextBeside
            rw [hnext]
          have hlistener : EventHandler.notify (transformBeside transform)
              (storeBeside nEvents allowed) event (world', m)
                = (.ok (), false, (transform event world').2, m') := by
            unfold EventHandler.notify transformBeside storeBeside
            dsimp only
            rw [← storeEvent_run, hstore]
          obtain ⟨trace', hstart⟩ := EventLoop.start_accepted
            (show EventLoop.stopped_ ⟨(world, m), false, trace⟩ = false from rfl) hbeside hlistener
            fuel
          have hran := ih ⟨((transform event world').2, m'), stops, trace'⟩
          rw [← hstart] at hran
          have hloop : (loop (ofTransform next transform) nEvents allowed (fuel + 1) false
              world).run answer m = (loop (ofTransform next transform) nEvents allowed fuel stops
                (transform event world').2).run answer m' := by
            simp only [loop, ofTransform, hnext, Bool.false_eq_true, if_false, Prog.run_bind,
              hstore]
          exact hloop.trans hran

end

/-! ## what is pushed -/

abbrev feeding : Protocol (DatabaseManager.Call S) Reply (List Data) := giving False

theorem storeEvent_feeds (nEvents : Nat) {allowed : Option (Finset DeviceType)} {event : Data}
    {forwarded : Option Data} (h : forwards allowed event = .ok forwarded) (rest : List Data) :
    Prog.Follows feeding (fun p result => p = rest ∧ result = .ok (.ok ()))
      (forwarded.toList ++ rest) (storeEvent (S := S) nEvents allowed event) := by
  unfold storeEvent
  rw [h]
  cases forwarded with
  | none => exact ⟨rfl, rfl⟩
  | some event =>
    refine (DatabaseManager.storeEvent_gives nEvents event rest).bind ?_
    rintro p a ⟨rfl, rfl⟩
    exact ⟨rfl, rfl⟩

theorem storeEvent_idles (nEvents : Nat) (allowed : Option (Finset DeviceType)) (event : Data) :
    Idles (storeEvent (S := S) nEvents allowed event) := by
  unfold storeEvent
  split
  · exact rfl
  · exact rfl
  · refine (DatabaseManager.storeEvent_idles nEvents _).bind ?_
    rintro p a rfl
    exact rfl

section
variable (backend : Backend σ T E) (nEvents : Nat) (allowed : Option (Finset DeviceType))

theorem loop_feeds (fuel : Nat) (stopped_ : Bool) (world : σ) :
    Gives False (captures backend allowed fuel stopped_ world) []
      (loop (S := S) backend nEvents allowed fuel stopped_ world) := by
  induction fuel generalizing stopped_ world with
  | zero => rfl
  | succ fuel ih =>
    unfold loop captures
    by_cases hstopped : stopped_ = true
    · rw [if_pos hstopped, if_pos hstopped]
      exact rfl
    · rw [if_neg hstopped, if_neg hstopped]
      split
      · exact rfl
      · exact rfl
      · split
        · exact rfl
        · rename_i data world' _
          cases hforward : forwards allowed data with
          | error e =>
            unfold storeEvent
            rw [hforward]
            exact rfl
          | ok forwarded =>
            refine (storeEvent_feeds nEvents hforward _).bind ?_
            rintro p result ⟨rfl, rfl⟩
            exact ih _ _

theorem loop_idles (fuel : Nat) (stopped_ : Bool) (world : σ) :
    Idles (loop (S := S) backend nEvents allowed fuel stopped_ world) := by
  induction fuel generalizing stopped_ world with
  | zero => exact rfl
  | succ fuel ih =>
    unfold loop
    by_cases hstopped : stopped_ = true
    · rw [if_pos hstopped]
      exact rfl
    · rw [if_neg hstopped]
      split
      · exact rfl
      · exact rfl
      · split
        · exact rfl
        · refine (storeEvent_idles nEvents allowed _).bind ?_
          rintro p (_ | _ | _) rfl
          · exact rfl
          · exact rfl
          · exact ih _ _

/-- **The handler** pushes what it captures and holds nothing at its end. -/
theorem handler_follows (fuel : Nat) (stopped_ : Bool) (world : σ) :
    (handler (S := S) backend nEvents allowed fuel stopped_ world).Follows
      (protocol.prod feeding) (fun p _ => p.1 = .idle ∧ p.2 = [])
      (.idle, captures backend allowed fuel stopped_ world) := by
  refine ((loop_idles backend nEvents allowed fuel stopped_ world).prod
    (loop_feeds backend nEvents allowed fuel stopped_ world)).bind ?_
  rintro ⟨p, rest⟩ ending ⟨rfl, rfl⟩
  split
  · exact ⟨⟨trivial, trivial⟩, fun _ _ => ⟨rfl, rfl⟩⟩
  · exact ⟨rfl, rfl⟩

end

/-! ## the other tasks of the scheduler -/

inductive Worker where
  | timer (ticks : List Tick)
  | thread (steps : List ThreadStep)

def Worker.client : Worker → Client S
  | .timer ticks => .timer ticks
  | .thread steps => .thread steps

theorem worker_gives (nEvents : Nat) (worker : Worker) :
    Gives False [] [] (worker.client.prog (S := S) nEvents) := by
  cases worker with
  | timer ticks => exact spawnStoreAfter_gives ticks
  | thread steps => exact threadSteps_gives steps

/-! ## runs -/

variable {ι : Type} [DecidableEq ι]

/-- the handler, as `none`, and the workers, of which none has taken a step -/
def start (backend : Backend σ T E) (nEvents : Nat) (allowed : Option (Finset DeviceType))
    (storeIn : List S) (fuel : Nat) (world : σ) (workers : ι → Worker) :
    Pool (Option ι) (DatabaseManager.Call S) Reply Unit (Phase S × List Data) (State S) where
  client
    | none => handler backend nEvents allowed fuel false world
    | some i => (workers i).client.prog nEvents
  phase
    | none => (.idle, captures backend allowed fuel false world)
    | some _ => (.idle, [])
  object := .new storeIn

/-- the handler is where it has pushed what it will not push any more, and nobody else pushes -/
structure Fed (captured : List Data) (storeIn : List S) (rest : Option ι → List Data)
    (m : State S) : Prop where
  pushed : m.pushed ++ rest none = captured
  workers : ∀ i, rest (some i) = []
  stores : m.storeIn = storeIn

section
variable {captured : List Data} {storeIn : List S} {rest : Option ι → List Data} {m : State S}

namespace Fed

theorem same (h : Fed captured storeIn rest m) {m' : State S}
    (hkeeps : m'.pushed = m.pushed ∧ m'.storeIn = m.storeIn) (i : Option ι) :
    Fed captured storeIn (Function.update rest i (rest i)) m' := by
  rw [Function.update_eq_self]
  exact ⟨hkeeps.1.symm ▸ h.pushed, h.workers, hkeeps.2.trans h.stores⟩

theorem push (h : Fed captured storeIn rest m) {i : Option ι} {events : Data}
    (ha : (rest i).head? = some events) :
    Fed captured storeIn (Function.update rest i (rest i).tail) (m.push events) := by
  cases i with
  | some i =>
    rw [h.workers i] at ha
    cases ha
  | none =>
    obtain ⟨later, hrest⟩ : ∃ later, rest none = events :: later :=
      ⟨(rest none).tail, (List.cons_head?_tail ha).symm⟩
    refine ⟨?_, fun i => ?_, h.stores⟩
    · show (m.pushed ++ [events]) ++ Function.update rest none (rest none).tail none = captured
      rw [Function.update_self, hrest, ← h.pushed, hrest, List.append_assoc]
      rfl
    · rw [Function.update_of_ne (Option.some_ne_none i)]
      exact h.workers i

/-- **One step** of the handler or of a worker. -/
theorem step (h : Fed captured storeIn rest m) {i : Option ι} {call : DatabaseManager.Call S}
    (ha : feeding.allowed (rest i) call) :
    Fed captured storeIn (Function.update rest i (feeding.next (rest i) call (answer call m).1))
      (answer call m).2 := by
  cases call with
  | pushBack events => exact h.push ha
  | intoInnerAt size => exact h.same (take_keeps _ m) i
  | intoInner => exact h.same (take_keeps _ m) i
  | snapshot => exact h.same ⟨rfl, rfl⟩ i
  | spawn batch data storeIn =>
    have hkeeps : (answer (.spawn batch data storeIn) m).2.pushed = m.pushed ∧
        (answer (.spawn batch data storeIn) m).2.storeIn = m.storeIn := ⟨rfl, rfl⟩
    exact h.same hkeeps i
  | addStore store => exact ha.elim
  | isStopped => exact h.same ⟨rfl, rfl⟩ i
  | stop =>
    have hkeeps : (answer .stop m).2.pushed = m.pushed ∧ (answer .stop m).2.storeIn = m.storeIn :=
      ⟨rfl, rfl⟩
    exact h.same hkeeps i
  | resume k => exact h.same (resume_keeps k m) i
  | finish k result => exact h.same (finish_keeps k result m) i

end Fed

def Holds (captured : List Data) (storeIn : List S) (phase : Option ι → Phase S × List Data)
    (m : State S) : Prop :=
  Kept storeIn (Prod.fst ∘ phase) m ∧ Fed captured storeIn (Prod.snd ∘ phase) m

theorem Holds.step {phase : Option ι → Phase S × List Data} (h : Holds captured storeIn phase m)
    {i : Option ι} {call : DatabaseManager.Call S}
    (ha : (protocol.prod feeding).allowed (phase i) call) :
    (protocol.prod feeding).possible (phase i) call (answer call m).1 ∧
      Holds captured storeIn (Function.update phase i
        ((protocol.prod feeding).next (phase i) call (answer call m).1)) (answer call m).2 := by
  unfold Holds
  rw [Function.comp_update, Function.comp_update]
  exact ⟨⟨trivial, trivial⟩, h.1.step ha.1, h.2.step ha.2⟩

end

section
variable (backend : Backend σ T E) (nEvents : Nat) (allowed : Option (Finset DeviceType))
  (storeIn : List S) (fuel : Nat) (world : σ) (workers : ι → Worker)

abbrev run (sched : List (Option ι)) :
    Pool (Option ι) (DatabaseManager.Call S) Reply Unit (Phase S × List Data) (State S) :=
  (start backend nEvents allowed storeIn fuel world workers).run answer (protocol.prod feeding)
    sched

theorem start_follows : (start backend nEvents allowed storeIn fuel world workers).Follows
    (protocol.prod feeding) fun _ phase _ => phase.1 = .idle ∧ phase.2 = [] := by
  rintro (_ | i)
  · exact handler_follows backend nEvents allowed fuel false world
  · exact (prog_idles nEvents (workers i).client).prod (worker_gives nEvents (workers i))

theorem start_holds : Holds (captures backend allowed fuel false world) storeIn
    (start backend nEvents allowed storeIn fuel world workers).phase
    (start backend nEvents allowed storeIn fuel world workers).object := by
  refine ⟨?_, ⟨rfl, fun i => rfl, rfl⟩⟩
  have hidle : Prod.fst ∘ (start backend nEvents allowed storeIn fuel world workers).phase
      = fun _ => Phase.idle := by
    funext i
    cases i <;> rfl
  rw [hidle]
  exact Kept.new storeIn

theorem run_holds (sched : List (Option ι)) :
    (run backend nEvents allowed storeIn fuel world workers sched).Follows (protocol.prod feeding)
      (fun _ phase _ => phase.1 = .idle ∧ phase.2 = []) ∧
    Holds (captures backend allowed fuel false world) storeIn
      (run backend nEvents allowed storeIn fuel world workers sched).phase
      (run backend nEvents allowed storeIn fuel world workers sched).object :=
  Pool.run_inv (Holds (captures backend allowed fuel false world) storeIn)
    (fun _ _ _ _ _ _ h ha => h.step ha)
    (start_follows backend nEvents allowed storeIn fuel world workers)
    (start_holds backend nEvents allowed storeIn fuel world workers) sched (Pool.under_true ..)

/-! ## what the stores receive -/

def transformed : Nat → Bool → σ → List Data
  | 0, _, _ => []
  | fuel + 1, stopped_, world =>
    if stopped_ then []
    else
      match backend.next world with
      | none => []
      | some (.error _, _, _) => []
      | some (.ok event, stops, world) =>
        match backend.transformEvent event world with
        | .error _ => []
        | .ok (data, world) => data :: transformed fuel stops world

/-- every entry that the transformer gives names a device type or none -/
def Decodes : Prop :=
  ∀ event world data world', backend.transformEvent event world = .ok (data, world') →
    ∀ entry ∈ data.entries, entry.Decodes

def admitted (data : Data) : List Entry :=
  match allowed with
  | none => data.entries
  | some allowed => (data.restrict allowed).entries

theorem forwards_admitted {data : Data} (h : ∀ entry ∈ data.entries, entry.Decodes) :
    ∃ forwarded, forwards allowed data = .ok forwarded ∧
      forwarded.toList.flatMap Data.entries = admitted allowed data := by
  unfold forwards admitted
  cases allowed with
  | none => exact ⟨some data, rfl, List.append_nil _⟩
  | some allowed =>
    dsimp only
    rw [FilterStore.filter_restricts allowed h]
    refine ⟨_, rfl, ?_⟩
    dsimp only
    by_cases hempty : (data.restrict allowed).empty
    · rw [if_pos hempty]
      exact (List.isEmpty_iff.mp hempty).symm
    · rw [if_neg hempty]
      exact List.append_nil _

/-- **What is captured** is what the transformer gives, without the entries of other devices. -/
theorem captures_entries (h : Decodes backend) (fuel : Nat) (stopped_ : Bool) (world : σ) :
    (captures backend allowed fuel stopped_ world).flatMap Data.entries
      = (transformed backend fuel stopped_ world).flatMap (admitted allowed) := by
  induction fuel generalizing stopped_ world with
  | zero => rfl
  | succ fuel ih =>
    unfold captures transformed
    by_cases hstopped : stopped_ = true
    · rw [if_pos hstopped, if_pos hstopped]
      rfl
    · rw [if_neg hstopped, if_neg hstopped]
      cases hnext : backend.next world with
      | none => rfl
      | some answer =>
        obtain ⟨fetched, stops, world'⟩ := answer
        cases fetched with
        | error e => rfl
        | ok event =>
          dsimp only
          cases htransform : backend.transformEvent event world' with
          | error e => rfl
          | ok transformed =>
            obtain ⟨data, world''⟩ := transformed
            obtain ⟨forwarded, hforward, hentries⟩ :=
              forwards_admitted allowed (h event world' data world'' htransform)
            dsimp only
            rw [hforward]
            dsimp only
            rw [List.flatMap_append, hentries, ih, List.flatMap_cons]

def expected : List Entry :=
  (transformed backend fuel false world).flatMap (admitted allowed)

variable {backend allowed fuel world} in
theorem mem_expected {entry : Entry} (h : entry ∈ expected backend allowed fuel world) :
    (∃ data ∈ transformed backend fuel false world, entry ∈ data.entries) ∧
      ∀ types ∈ allowed, ∀ device ∈ entry.device, device ∈ types := by
  obtain ⟨data, hdata, hentry⟩ := List.mem_flatMap.mp h
  cases allowed with
  | none => exact ⟨⟨data, hdata, hentry⟩, fun types htypes => absurd htypes (Option.not_mem_none _)⟩
  | some allowed =>
    obtain ⟨hmem, hall⟩ := List.mem_filter.mp hentry
    refine ⟨⟨data, hdata, hmem⟩, fun types htypes device hdevice => ?_⟩
    obtain rfl := Option.some.inj htypes
    rw [Option.mem_def.mp hdevice] at hall
    exact of_decide_eq_true hall

/-- what is stored is some of what the transformer gives, in its order -/
theorem expected_sublist :
    (expected backend allowed fuel world).Sublist
      ((transformed backend fuel false world).flatMap Data.entries) := by
  refine List.Sublist.flatMap_right _ fun data _ => ?_
  cases allowed with
  | none => exact .refl _
  | some allowed => exact List.filter_sublist

theorem transformed_forall {P : Entry → Prop}
    (h : ∀ event world data world', backend.transformEvent event world = .ok (data, world') →
      ∀ entry ∈ data.entries, P entry) (fuel : Nat) (stopped_ : Bool) (world : σ) :
    ∀ data ∈ transformed backend fuel stopped_ world, ∀ entry ∈ data.entries, P entry := by
  induction fuel generalizing stopped_ world with
  | zero => exact fun _ hd => absurd hd List.not_mem_nil
  | succ fuel ih =>
    unfold transformed
    by_cases hstopped : stopped_ = true
    · rw [if_pos hstopped]
      exact fun _ hd => absurd hd List.not_mem_nil
    · rw [if_neg hstopped]
      split
      · exact fun _ hd => absurd hd List.not_mem_nil
      · exact fun _ hd => absurd hd List.not_mem_nil
      · rename_i event stops world' _
        split
        · exact fun _ hd => absurd hd List.not_mem_nil
        · rename_i data world'' htransform
          exact List.forall_mem_cons.mpr ⟨h event world' data world'' htransform, ih stops world''⟩

theorem expected_forall {P : Entry → Prop}
    (h : ∀ event world data world', backend.transformEvent event world = .ok (data, world') →
      ∀ entry ∈ data.entries, P entry) :
    ∀ entry ∈ expected backend allowed fuel world, P entry := by
  intro entry hentry
  obtain ⟨data, hdata, hmem⟩ := (mem_expected hentry).1
  exact transformed_forall backend h fuel false world data hdata entry hmem

/-- the handler has ended, and everything that has been taken from the buffer has been stored -/
structure Drained (p : Pool (Option ι) (DatabaseManager.Call S) Reply Unit (Phase S × List Data)
    (State S)) : Prop where
  ended : p.client none = .ret ()
  idle : ∀ i, (p.phase i).1 = .idle
  buffer : p.object.data.inner = []
  stored : ∀ task ∈ p.object.tasks, task.coroutine = .ret (.ok ())

omit [DecidableEq ι] in
theorem Drained.of_replicate {p : Pool (Option ι) (DatabaseManager.Call S) Reply Unit
    (Phase S × List Data) (State S)} (count : Nat) (hended : p.client none = .ret ())
    (hidle : ∀ i, (p.phase i).1 = .idle) (hbuffer : p.object.data.inner = [])
    (htasks : p.object.tasks.map Task.coroutine = List.replicate count (.ret (.ok ()))) :
    Drained p := by
  refine ⟨hended, hidle, hbuffer, fun task htask => ?_⟩
  exact List.eq_of_mem_replicate (htasks ▸ List.mem_map_of_mem htask)

variable {backend nEvents allowed storeIn fuel world workers}

theorem run_prefix (sched : List (Option ι)) :
    let p := run backend nEvents allowed storeIn fuel world workers sched
    p.object.taken.flatten ++ p.object.data.inner ++ (p.phase none).2
      = captures backend allowed fuel false world := by
  intro p
  obtain ⟨-, hK, hF⟩ := run_holds backend nEvents allowed storeIn fuel world workers sched
  rw [hK.buffer]
  exact hF.pushed

theorem run_ended {sched : List (Option ι)}
    (h : (run backend nEvents allowed storeIn fuel world workers sched).client none = .ret ()) :
    ((run backend nEvents allowed storeIn fuel world workers sched).phase none).2 = [] :=
  (Pool.Follows.ended
    (run_holds backend nEvents allowed storeIn fuel world workers sched).1 h).2

theorem taken_sublist (hdecodes : Decodes backend) (sched : List (Option ι)) :
    let p := run backend nEvents allowed storeIn fuel world workers sched
    (p.object.taken.flatten.flatMap Data.entries).Sublist
      (expected backend allowed fuel world) := by
  intro p
  rw [expected, ← captures_entries backend allowed hdecodes, ← run_prefix sched,
    List.append_assoc, List.flatMap_append]
  exact List.sublist_append_left ..

theorem taken_drained (hdecodes : Decodes backend) {sched : List (Option ι)}
    (h : Drained (run backend nEvents allowed storeIn fuel world workers sched)) :
    (run backend nEvents allowed storeIn fuel world workers sched).object.taken.flatten.flatMap
      Data.entries = expected backend allowed fuel world := by
  have hpushed : (run backend nEvents allowed storeIn fuel world workers sched).object.taken.flatten
      ++ (run backend nEvents allowed storeIn fuel world workers sched).object.data.inner
      ++ ((run backend nEvents allowed storeIn fuel world workers sched).phase none).2
        = captures backend allowed fuel false world := run_prefix sched
  rw [run_ended h.ended, h.buffer, List.append_nil, List.append_nil] at hpushed
  rw [hpushed]
  exact captures_entries backend allowed hdecodes fuel false world

/-- everything that should be stored has been received -/
theorem received_drained [DecidableEq S] (hstores : storeIn.Nodup) (hdecodes : Decodes backend)
    {sched : List (Option ι)}
    (h : Drained (run backend nEvents allowed storeIn fuel world workers sched)) {store : S}
    (hstore : store ∈ storeIn) :
    ((run backend nEvents allowed storeIn fuel world workers sched).object.received store).Perm
      (expected backend allowed fuel world) := by
  obtain ⟨-, hK, hF⟩ := run_holds backend nEvents allowed storeIn fuel world workers sched
  have hnodup := hF.stores.symm ▸ hstores
  rw [← taken_drained hdecodes h]
  refine hK.received_perm hnodup (fun batch hlt => ?_) hstore
  rcases hK.cover batch hlt with hmem | ⟨i, hi⟩
  · obtain ⟨task, htask, hb⟩ := List.mem_map.mp hmem
    exact ⟨task, htask, hb, h.stored task htask⟩
  · rw [Function.comp_apply, h.idle i] at hi
    cases hi

theorem received_subperm [DecidableEq S] (hstores : storeIn.Nodup) (hdecodes : Decodes backend)
    (sched : List (Option ι)) (store : S) :
    ((run backend nEvents allowed storeIn fuel world workers sched).object.received store).Subperm
      (expected backend allowed fuel world) := by
  obtain ⟨-, hK, hF⟩ := run_holds backend nEvents allowed storeIn fuel world workers sched
  exact (hK.received_subperm (hF.stores.symm ▸ hstores) store).trans
    (taken_sublist hdecodes sched).subperm

/-- **Every schedule**: a store receives what the transformer gives of the allowed devices, each
entry at most as often as it was given, and nothing else.  When the handler has ended and everything
that was taken has been stored, each store has received exactly that. -/
theorem run_received [DecidableEq S] (hstores : storeIn.Nodup) (hdecodes : Decodes backend)
    (sched : List (Option ι)) :
    let p := run backend nEvents allowed storeIn fuel world workers sched
    (∀ store, (p.object.received store).Subperm (expected backend allowed fuel world)) ∧
      (Drained p → ∀ store ∈ storeIn,
        (p.object.received store).Perm (expected backend allowed fuel world)) := by
  intro p
  exact ⟨received_subperm hstores hdecodes sched, fun hdrained store hstore =>
    received_drained hstores hdecodes hdrained hstore⟩

/-! ### runs in order -/

/-- a step that starts a call on a store is taken when it is the turn of its batch -/
def InTurn (p : Pool (Option ι) (DatabaseManager.Call S) Reply Unit (Phase S × List Data)
    (State S)) (i : Option ι) : Prop :=
  ∀ k next task c after, p.client i = .call (.resume k) next → p.object.tasks[k]? = some task →
    task.calling = false → task.coroutine = .call c after → p.object.Turn task.batch c.store

theorem run_ordered_holds [DecidableEq S] (sched : List (Option ι))
    (hturn : (start backend nEvents allowed storeIn fuel world workers).Under answer
      (protocol.prod feeding) InTurn sched) :
    let p := run backend nEvents allowed storeIn fuel world workers sched
    Holds (captures backend allowed fuel false world) storeIn p.phase p.object ∧
      Ordered p.object :=
  (Pool.run_inv
    (fun phase m => Holds (captures backend allowed fuel false world) storeIn phase m ∧ Ordered m)
    (fun p i call next hcall hok hI ha => ⟨(hI.1.step ha).1, (hI.1.step ha).2,
      hI.2.step hI.1.1 call fun k task c after e => by
        subst e
        exact hok k next task c after hcall⟩)
    (start_follows backend nEvents allowed storeIn fuel world workers)
    ⟨start_holds backend nEvents allowed storeIn fuel world workers, ⟨.nil, nofun⟩⟩ sched hturn).2

theorem received_sublist [DecidableEq S] (hdecodes : Decodes backend) (sched : List (Option ι))
    (hturn : (start backend nEvents allowed storeIn fuel world workers).Under answer
      (protocol.prod feeding) InTurn sched) (store : S) :
    ((run backend nEvents allowed storeIn fuel world workers sched).object.received store).Sublist
      (expected backend allowed fuel world) := by
  obtain ⟨hH, hO⟩ := run_ordered_holds sched hturn
  refine (hO.received_sublist hH.1 store).trans ?_
  rw [expected, ← captures_entries backend allowed hdecodes, ← hH.2.pushed, List.flatMap_append]
  exact List.sublist_append_left ..

theorem received_drained_in_order [DecidableEq S] (hstores : storeIn.Nodup)
    (hdecodes : Decodes backend) {sched : List (Option ι)}
    (hturn : (start backend nEvents allowed storeIn fuel world workers).Under answer
      (protocol.prod feeding) InTurn sched)
    (h : Drained (run backend nEvents allowed storeIn fuel world workers sched)) {store : S}
    (hstore : store ∈ storeIn) :
    (run backend nEvents allowed storeIn fuel world workers sched).object.received store
      = expected backend allowed fuel world :=
  (received_sublist hdecodes sched hturn store).eq_of_length
    (received_drained hstores hdecodes h hstore).length_eq

/-- **Schedules in order**: when the calls on a store start in the order of the batches, the store
receives what the transformer gives of the allowed devices in the order of the source, and in the
end all of it. -/
theorem run_received_in_order [DecidableEq S] (hstores : storeIn.Nodup)
    (hdecodes : Decodes backend) (sched : List (Option ι))
    (hturn : (start backend nEvents allowed storeIn fuel world workers).Under answer
      (protocol.prod feeding) InTurn sched) :
    let p := run backend nEvents allowed storeIn fuel world workers sched
    (∀ store, (p.object.received store).Sublist (expected backend allowed fuel world)) ∧
      (Drained p → ∀ store ∈ storeIn,
        p.object.received store = expected backend allowed fuel world) := by
  intro p
  refine ⟨received_sublist hdecodes sched hturn, fun hdrained store hstore => ?_⟩
  exact received_drained_in_order hstores hdecodes hturn hdrained hstore

end

/-! ### a key, and a movement of the mouse -/

def threeEvents : Awaited Nat Nat := fun n =>
  if n < 3 then (.ok n, false, n + 1) else (.error ⟨.eventHandlerError, "no more events"⟩, false, n)

def keyboardRelease : Entry := Key.entry { device_ := some .keyboard, action_ := some .release }

/-- a key is pressed and released, and in between the mouse moves -/
def keystroke (event : Nat) (world : Nat) : Data × Nat :=
  (⟨[if event = 0 then FilterStore.keyboardPress
    else if event = 1 then FilterStore.mouseMovement
    else keyboardRelease]⟩, world)

theorem keystroke_decodes : Decodes (ofTransform threeEvents keystroke) := by
  rintro event world data world' h entry hentry
  cases h
  obtain rfl := List.mem_singleton.mp hentry
  split_ifs
  · exact (Entry.Built.key _).decodes
  · exact (Entry.Built.mouseMove _).decodes
  · exact (Entry.Built.key _).decodes

def twoPasses : Unit → Worker := fun _ =>
  .thread [.resume 0, .finish 0 (.ok ()), .resume 1, .finish 1 (.ok ())]

def handlerFirst : List (Option Unit) := List.replicate 8 none ++ List.replicate 4 (some ())

theorem keystroke_drained : Drained (run (ofTransform threeEvents keystroke) 1
    (some {.keyboard}) [0] 4 0 twoPasses handlerFirst) :=
  .of_replicate 2 rfl (by rintro (_ | _) <;> rfl) rfl rfl

theorem keystroke_expected : expected (ofTransform threeEvents keystroke) (some {.keyboard}) 4 0
    = [FilterStore.keyboardPress, keyboardRelease] := rfl

theorem keystroke_received :
    let p := run (ofTransform threeEvents keystroke) 1 (some {.keyboard}) [0] 4 0 twoPasses
      handlerFirst
    (∀ store, (p.object.received store).Subperm [FilterStore.keyboardPress, keyboardRelease]) ∧
      (p.object.received 0).Perm [FilterStore.keyboardPress, keyboardRelease] := by
  intro p
  have h := @run_received Nat Nat Nat Empty Unit _ (ofTransform threeEvents keystroke) 1
    (some {.keyboard}) [0] 4 0 twoPasses _ (List.nodup_singleton 0) keystroke_decodes handlerFirst
  rw [keystroke_expected] at h
  exact ⟨h.1, h.2 keystroke_drained 0 (List.mem_singleton_self 0)⟩

theorem keystroke_in_turn : (start (ofTransform threeEvents keystroke) 1 (some {.keyboard}) [0] 4 0
    twoPasses).Under answer (protocol.prod feeding) InTurn handlerFirst := by
  refine ⟨?_, ?_, ?_, ?_, ?_, ?_, ?_, ?_, ?_, ?_, ?_, ?_, trivial⟩
  all_goals
    intro k next task c after hcall hk hcalling hco
    cases hcall
    try cases hk
    try cases hco
  · exact ⟨fun earlier h => absurd h (Nat.not_lt_zero earlier),
      fun pass hpass => absurd hpass List.not_mem_nil⟩
  · refine ⟨fun earlier hlt => ?_, fun pass hpass hbatch => ?_⟩
    · obtain rfl : earlier = 0 := Nat.lt_one_iff.mp hlt
      exact ⟨_, List.mem_cons_self .., rfl, List.not_mem_nil⟩
    · obtain rfl := List.mem_singleton.mp hpass
      cases hbatch

theorem keystroke_received_in_order :
    let p := run (ofTransform threeEvents keystroke) 1 (some {.keyboard}) [0] 4 0 twoPasses
      handlerFirst
    (∀ store, (p.object.received store).Sublist [FilterStore.keyboardPress, keyboardRelease]) ∧
      p.object.received 0 = [FilterStore.keyboardPress, keyboardRelease] := by
  intro p
  have h := @run_received_in_order Nat Nat Nat Empty Unit _ (ofTransform threeEvents keystroke) 1
    (some {.keyboard}) [0] 4 0 twoPasses _ (List.nodup_singleton 0) keystroke_decodes handlerFirst
    keystroke_in_turn
  rw [keystroke_expected] at h
  exact ⟨h.1, h.2 keystroke_drained 0 (List.mem_singleton_self 0)⟩

end
end Capture
end Evget
