import Evget.Capture
import Evget.LibInput.Devices
import Evget.LibInput.Drm
import Evget.LibInput.GetEvent

/-!
# Capturing with libinput

The backend fetches the events of a libinput context and stamps them with the time of their arrival.

* `create`              the backend, from the dimensions of the screen, libinput and xkbcommon;
* `capture`             its source and its transformer as a backend of the event handler;
* `fetches`             the calls of `GetEvent` that the handler makes;
* `capture_received`    in every run a store receives what the transformer makes of the events that
                        libinput has queued, in the order of the queue.
-/

set_option linter.unusedSectionVars false

namespace Evget.LibInput
open Calls

variable {ω κ : Type}

/-! ## creation -/

/-- `XkbCommon::New`, where the three calls of xkbcommon answer so -/
def xkbNew (context keyMap : Bool) (state : Option κ) : Result κ :=
  if !context then .error ⟨.eventHandlerError, "unable to initialize xkb context"⟩
  else if !keyMap then .error ⟨.eventHandlerError, "unable to initialize xkb keymap"⟩
  else
    match state with
    | none => .error ⟨.eventHandlerError, "unable to initialize xkb state"⟩
    | some state => .ok state

structure System (ω κ : Type) where
  deviceCount : Int
  devices : List DrmDevice
  udev : Bool
  libinput : Bool
  assignSeat : String → Int
  world : ω
  xkbContext : Bool
  xkbKeyMap : Bool
  xkbState : Option κ

structure Source (ω κ : Type) where
  context : LibInputContext ω LibInputEvent
  transformer : EventTransformer κ
  fetched : Nat

structure Backend (ω κ : Type) where
  dimensions : ScreenDimensions
  source : Source ω κ

/-- DRM is only asked for dimensions that were not given -/
def System.resolveDimensions (system : System ω κ) :
    Option ScreenDimensions → Result ScreenDimensions
  | some dimensions => .ok dimensions
  | none => (DrmOutput.new system.deviceCount system.devices).map DrmOutput.getDimensions

/-- `Backend::Create` -/
def Backend.create (system : System ω κ) (dimensions : Option ScreenDimensions)
    (seat : Option String) : Result (Backend ω κ) := do
  let resolvedDimensions ← system.resolveDimensions dimensions
  let context ← LibInputContext.new system.udev system.libinput system.assignSeat seat system.world
  let xkb ← xkbNew system.xkbContext system.xkbKeyMap system.xkbState
  return ⟨resolvedDimensions, context, { xkb := xkb }, 0⟩

/-- a backend that was created starts with nothing in the queue -/
theorem Backend.create_context {system : System ω κ} {dimensions : Option ScreenDimensions}
    {seat : Option String} {backend : Backend ω κ}
    (h : Backend.create system dimensions seat = .ok backend) :
    backend.source.context = LibInputContext.start system.world ∧ backend.source.fetched = 0 := by
  unfold Backend.create at h
  cases hdimensions : system.resolveDimensions dimensions with
  | error e => rw [hdimensions] at h; cases h
  | ok resolved =>
    rw [hdimensions] at h
    cases hcontext : LibInputContext.new system.udev system.libinput system.assignSeat seat
      system.world with
    | error e => rw [hcontext] at h; cases h
    | ok context =>
      rw [hcontext] at h
      cases hxkb : xkbNew system.xkbContext system.xkbKeyMap system.xkbState with
      | error e => rw [hxkb] at h; cases h
      | ok xkb =>
        rw [hxkb] at h
        cases h
        exact ⟨LibInputContext.new_ok hcontext, rfl⟩

/-! ## the source -/

section
variable (context : Context ω LibInputEvent) (clock : Nat → Int) (polls : Nat)

/-- `Next`: the event with the time at which it was fetched -/
def nextEvent (self : Source ω κ) : Option (Result InputEvent × Bool × Source ω κ) :=
  match self.context.getEvent context polls with
  | (none, _) => none
  | (some (.error e), after) => some (.error e, false, { self with context := after })
  | (some (.ok event), after) =>
    some (.ok ⟨clock self.fetched, some event⟩, false,
      { self with context := after, fetched := self.fetched + 1 })

def capture (platform : Platform κ) : Evget.Backend (Source ω κ) InputEvent Empty where
  next := nextEvent context clock polls
  transformEvent event self :=
    let (data, transformer) := self.transformer.transformEvent platform event
    .ok (data, { self with transformer := transformer })

/-- the calls of the handler in its first `fuel` iterations, of which only the last one may fail or
go on -/
def fetches : Nat → LibInputContext ω LibInputEvent →
    List (LibInputContext.Call LibInputEvent) × LibInputContext ω LibInputEvent
  | 0, self => ([], self)
  | fuel + 1, self =>
    match self.getEvent context polls with
    | (some (.ok event), after) =>
      let (log, last) := fetches fuel after
      (⟨some (.ok event), after.actions⟩ :: log, last)
    | (result, after) => ([⟨result, after.actions⟩], after)

/-- they are a sequence of calls -/
theorem fetches_calls (fuel : Nat) (self : LibInputContext ω LibInputEvent) :
    ∃ count, self.calls context (List.replicate count polls) = fetches context polls fuel self := by
  induction fuel generalizing self with
  | zero => exact ⟨0, rfl⟩
  | succ fuel ih =>
    rw [fetches]
    cases hcall : self.getEvent context polls with
    | mk result after =>
      cases result with
      | none =>
        refine ⟨1, ?_⟩
        show LibInputContext.calls context [polls] self = _
        rw [LibInputContext.calls, hcall]
      | some result =>
        cases result with
        | error e =>
          refine ⟨1, ?_⟩
          show LibInputContext.calls context [polls] self = _
          rw [LibInputContext.calls, hcall]
          rfl
        | ok event =>
          obtain ⟨count, hcount⟩ := ih after
          refine ⟨count + 1, ?_⟩
          show LibInputContext.calls context (polls :: List.replicate count polls) self = _
          rw [LibInputContext.calls, hcall]
          dsimp only
          rw [hcount]

def stamp : Nat → List LibInputEvent → List InputEvent
  | _, [] => []
  | fetched, event :: events => ⟨clock fetched, some event⟩ :: stamp (fetched + 1) events

/-- what the transformer makes of the events that are fetched -/
theorem transformed_capture (platform : Platform κ) (fuel : Nat) (self : Source ω κ) :
    Capture.transformed (capture context clock polls platform) fuel false self
      = (self.transformer.run platform (stamp clock self.fetched
          (LibInputContext.returned (fetches context polls fuel self.context).1))).map
            Prod.snd := by
  induction fuel generalizing self with
  | zero => rfl
  | succ fuel ih =>
    have hnext : (capture context clock polls platform).next self
        = nextEvent context clock polls self := rfl
    rw [Capture.transformed, if_neg (by exact Bool.false_ne_true), fetches, hnext, nextEvent]
    cases hcall : self.context.getEvent context polls with
    | mk result after =>
      cases result with
      | none => rfl
      | some result =>
        cases result with
        | error e => rfl
        | ok event =>
          exact congrArg (_ :: ·) (ih _)

theorem capture_decodes (platform : Platform κ) :
    Capture.Decodes (capture context clock polls platform) := by
  rintro event self data self' h entry hentry
  cases h
  obtain ⟨record, -, rfl⟩ := List.mem_map.mp hentry
  cases record with
  | key builder => exact (Entry.Built.key builder).decodes
  | mouseClick builder => exact (Entry.Built.mouseClick builder).decodes
  | mouseMove builder => exact (Entry.Built.mouseMove builder).decodes
  | mouseScroll builder => exact (Entry.Built.mouseScroll builder).decodes

end

/-! ## runs -/

section
variable {S ι : Type} [DecidableEq S] [DecidableEq ι]
open Capture DatabaseManager

/-- **Capturing with libinput**, in every schedule of the handler, the timer and the threads.  The
events that the handler has fetched are the first ones of those that libinput has queued, each once
and in order.  A store receives what the transformer makes of them of the allowed devices, nothing
twice and nothing else, and in the end all of it. -/
theorem capture_received {system : System ω κ} {dimensions : Option ScreenDimensions}
    {seat : Option String} {backend : Backend ω κ}
    (hcreate : Backend.create system dimensions seat = .ok backend)
    (context : Context ω LibInputEvent) (clock : Nat → Int) (polls : Nat) (platform : Platform κ)
    (nEvents : Nat) (allowed : Option (Finset DeviceType)) {storeIn : List S}
    (hstores : storeIn.Nodup) (fuel : Nat) (workers : ι → Worker) (sched : List (Option ι)) :
    let platform := { platform with dimensions := backend.dimensions }
    let p := Capture.run (capture context clock polls platform) nEvents allowed storeIn fuel
      backend.source workers sched
    let log := fetches context polls fuel (LibInputContext.start system.world)
    let entries := (backend.source.transformer.run platform
      (stamp clock 0 (LibInputContext.returned log.1))).flatMap
        fun output => admitted allowed output.2
    LibInputContext.queued log.1 = LibInputContext.returned log.1 ++ log.2.queue.map Prod.fst ∧
      (∀ store, (p.object.received store).Subperm entries) ∧
      (Drained p → ∀ store ∈ storeIn, (p.object.received store).Perm entries) := by
  intro platform p log entries
  obtain ⟨hcontext, hfetched⟩ := Backend.create_context hcreate
  have hentries : expected (capture context clock polls platform) allowed fuel backend.source
      = entries := by
    rw [expected, transformed_capture, hcontext, hfetched, List.flatMap_map]
  have hqueue : LibInputContext.queued log.1
      = LibInputContext.returned log.1 ++ log.2.queue.map Prod.fst := by
    obtain ⟨count, hcount⟩ := fetches_calls context polls fuel (LibInputContext.start system.world)
    have hcalls := LibInputContext.calls_from context (List.replicate count polls)
      (LibInputContext.start system.world) fun _ => by simp [LibInputContext.start]
    rw [hcount] at hcalls
    exact hcalls.1
  rw [← hentries]
  have hdecodes := capture_decodes context clock polls platform
  exact ⟨hqueue, received_subperm hstores hdecodes sched, fun hdrained store hstore =>
    received_drained hstores hdecodes hdrained hstore⟩

/-! ### a key is pressed and released -/

def sampleSystem : System Bool Bool where
  deviceCount := 0
  devices := []
  udev := true
  libinput := true
  assignSeat _ := 0
  world := false
  xkbContext := true
  xkbKeyMap := true
  xkbState := some false

def keyEvent (time : UInt64) (state : KeyState) : LibInputEvent :=
  ⟨some ⟨2, SQLite.bytes "keyboard", 0, false, false⟩, .keyboardKey time 30 state⟩

/-- the first dispatch appends the press and the release, and the next one fails -/
def sampleContext : Context Bool LibInputEvent where
  poll dispatched := (⟨1, 0, by decide⟩, dispatched)
  dispatch dispatched :=
    if dispatched then (-1, [], dispatched)
    else (0, [keyEvent 5000 .pressed, keyEvent 9000 .released], true)

def sampleBackend : Backend Bool Bool := ⟨⟨1920, 1080⟩, .start false, { xkb := false }, 0⟩

/-- the handler fetches until the dispatch fails, and then the thread stores two batches -/
def samplePool : Pool (Option Unit) (DatabaseManager.Call Nat) Reply Unit (Phase Nat × List Data)
    (State Nat) :=
  Capture.run (capture sampleContext (fun fetched => fetched) 3
      { samplePlatform with dimensions := sampleBackend.dimensions })
    1 (some {.keyboard}) [0] 3 sampleBackend.source twoPasses handlerFirst

theorem samplePool_drained : Drained samplePool :=
  .of_replicate 2 rfl (by rintro (_ | _) <;> rfl) rfl rfl

/-- both events are taken from the queue, and both entries are stored -/
theorem capture_received_press :
    let platform := { samplePlatform with dimensions := sampleBackend.dimensions }
    let log := fetches sampleContext 3 3 (LibInputContext.start false)
    let entries := (sampleBackend.source.transformer.run platform
      (stamp (fun fetched => fetched) 0 (LibInputContext.returned log.1))).flatMap
        fun output => admitted (some {.keyboard}) output.2
    (LibInputContext.returned log.1).length = 2 ∧
      LibInputContext.queued log.1 = LibInputContext.returned log.1 ++ log.2.queue.map Prod.fst ∧
      (samplePool.object.received 0).map (·.getEntryWithFields.field (SQLite.bytes "button_action"))
        = [some (SQLite.bytes "0"), some (SQLite.bytes "1")] ∧
      (samplePool.object.received 0).Perm entries := by
  have h := capture_received
    (show Backend.create sampleSystem (some ⟨1920, 1080⟩) none = .ok sampleBackend from rfl)
    sampleContext (fun fetched => fetched) 3 samplePlatform 1 (some {.keyboard})
    (List.nodup_singleton 0) 3 twoPasses handlerFirst
  exact ⟨rfl, h.1, by decide +kernel, h.2.2 samplePool_drained 0 (List.mem_singleton_self 0)⟩

end
end Evget.LibInput
