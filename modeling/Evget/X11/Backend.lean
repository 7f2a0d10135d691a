import Evget.Capture
import Evget.X11.ButtonEvents
import Evget.X11.Characters
import Evget.X11.Listings
import Evget.X11.Masks
import Evget.X11.Sources

/-!
# Capturing with X11

The backend opens a display, makes the transformer, announces the version of XInput that it wants
and selects the types of events that it wants to get.  The `cookie_` of a fetched event points into
the object that was made first, and still does so when the event has been moved out of it.

* `Backend.create`        the backend;
* `selected_iff`          **what is selected** is what the transformer may not ignore;
* `EventObject`           the objects of an event, and what is read of them;
* `readEvent_next`        **of a fetched event** what is left of its first object is read;
* `capture`               the source and the transformer as a backend of the event handler;
* `listings`              the listings of the devices that the handler gets;
* `capture_fromListed`    in every run a store receives entries of listed devices of the allowed
                          types, and in the end all of them.
-/

set_option linter.unusedSectionVars false

namespace Evget.X11
open SQLite Calls

variable {ω : Type}

/-! ## the display -/

def genericEvent : Int := 35

def xiAllMasterDevices : Int := 1

/-- an event with the data that X has for it, to which `XGetEventData` makes its cookie point -/
structure XEvent where
  type : Int
  data : Option XIRawEvent
deriving DecidableEq, Repr

structure XIEventMask where
  deviceid : Int
  mask : List UInt8
deriving DecidableEq, Repr

/-- the functions of Xlib that the input handler and the backend call; there is no next event when
the display waits for ever -/
structure Display (ω : Type) where
  api : X11Api ω
  opens : Option String → Bool
  queryVersion : Int → Int → ω → (Int × Int × Int) × ω
  selectEvents : XIEventMask → ω → ω
  nextEvent : ω → Option (XEvent × ω)
  /-- `XI_LASTEVENT` -/
  lastEvent : Nat

def XEvent.eventData (event : XEvent) : Option XIRawEvent :=
  if event.type = genericEvent then event.data else none

/-! ## the input handler -/

namespace InputHandlerBuilder

def kVersionMajor : Int := 2
def kVersionMinor : Int := 2

/-- the versions are what `XIQueryVersion` has replaced them by -/
def announceVersion (display : Display ω) (world : ω) : Result Unit × ω :=
  let ((status, major, minor), world) := display.queryVersion kVersionMajor kVersionMinor world
  if status = success then (.ok (), world)
  else (.error ⟨.eventHandlerError, "XI2 is not supported, only version " ++ toString major ++ "."
    ++ toString minor ++ " is available."⟩, world)

def selectedEvents : List Int := [
  xiRawButtonPress,
  xiRawButtonRelease,
  xiRawKeyPress,
  xiRawKeyRelease,
  xiRawMotion,
  xiDeviceChanged,
  xiRawTouchBegin,
  xiRawTouchEnd,
  xiRawTouchUpdate]

/-- one byte for every event, although one bit would do -/
def eventMask (lastEvent : Nat) : XIEventMask where
  deviceid := xiAllMasterDevices
  mask := X11.setMask (List.replicate lastEvent 0) (selectedEvents.map Int.toNat)

def setMask (display : Display ω) (world : ω) : ω :=
  display.selectEvents (eventMask display.lastEvent) world

def build (display : Display ω) (world : ω) : Result Unit × ω :=
  match announceVersion display world with
  | (.error e, world) => (.error e, world)
  | (.ok (), world) => (.ok (), setMask display world)

end InputHandlerBuilder

/-! ## the selection -/

theorem xiMaskIsSet_eventMask {lastEvent : Nat} (hlast : 3 < lastEvent) (evtype : Int) :
    xiMaskIsSet (InputHandlerBuilder.eventMask lastEvent).mask evtype.toNat
      = decide (evtype ∈ InputHandlerBuilder.selectedEvents) := by
  have hzeros : ∀ event ∈ InputHandlerBuilder.selectedEvents.map Int.toNat,
      event < 8 * (List.replicate lastEvent (0 : UInt8)).length := by
    have hbound : ∀ event ∈ InputHandlerBuilder.selectedEvents.map Int.toNat, event < 25 := by
      decide
    intro event hevent
    have hlt := hbound event hevent
    rw [List.length_replicate]
    omega
  have hpositive : ∀ event ∈ InputHandlerBuilder.selectedEvents, 0 < event := by decide
  unfold InputHandlerBuilder.eventMask
  rw [xiMaskIsSet_setMask hzeros, xiMaskIsSet_zeros, Bool.or_false]
  refine decide_eq_decide.mpr ⟨fun h => ?_, List.mem_map_of_mem⟩
  obtain ⟨event, hevent, hsame⟩ := List.mem_map.mp h
  have hpos := hpositive event hevent
  have heq : evtype = event := by omega
  exact heq ▸ hevent

/-- **What has not been selected** would be ignored, except for a changed hierarchy. -/
theorem selected_handled {lastEvent : Nat} (hlast : 3 < lastEvent) (api : X11Api ω)
    {event : InputEvent} {raw : XIRawEvent} (hraw : event.cookie = some raw)
    (hselected : xiMaskIsSet (InputHandlerBuilder.eventMask lastEvent).mask raw.evtype.toNat
      = false)
    (hhierarchy : raw.evtype ≠ xiHierarchyChanged) (self : EventTransformer) (world : ω) :
    EventTransformer.transformEvent api event self world = .ok (.new, self, world) := by
  rw [xiMaskIsSet_eventMask hlast, decide_eq_false_iff_not] at hselected
  simp only [InputHandlerBuilder.selectedEvents, List.mem_cons, not_or] at hselected
  obtain ⟨hpress, hrelease, hkeyPress, hkeyRelease, hmotion, hchanged, hbegin, hend, hupdate, -⟩ :=
    hselected
  unfold EventTransformer.transformEvent
  rw [hraw]
  dsimp only
  rw [if_neg (not_or.mpr ⟨hchanged, hhierarchy⟩)]
  unfold EventTransformer.switchOnEvent EventSwitchPointerKey.switchOnEvent
    EventSwitchTouch.switchOnEvent
  simp only [if_neg hmotion, if_neg hpress, if_neg hrelease, if_neg hkeyPress, if_neg hkeyRelease,
    if_neg hbegin, if_neg hend, if_neg hupdate]
  obtain ⟨xEventSwitch, devices, idToName, deviceIntervals, pointerKey, touch, pointerId⟩ := self
  cases touch with
  | false => rfl
  | true => rfl

def knowingMouse : EventTransformer where
  xEventSwitch := mouse
  pointerKey := { valuatorX := (∅ : Dict Int (Option Int)).insert 6 (some 0) }
  touch := true

def goneApi : X11Api ω where
  lookupCharacter _ _ world := (([], 0), world)
  getDeviceButtonMapping _ _ world := (none, world)
  listInputDevices world := ([EventTransformer.touchpadDevice], world)
  queryDevice world := ([], world)
  atomName _ world := (some (bytes "Button Left"), world)
  getActiveWindow world := (none, world)
  getFocusWindow world := (none, world)
  getWindowName _ world := (none, world)
  getWindowSize _ world := (none, world)
  getWindowPosition _ world := (none, world)
  queryPointer _ world := (⟨.finite false 0, .finite false 0, 0, 0⟩, world)
  keysymName _ := none
  randomUuid world := (bytes "uuid", world)

def mouseEvent (evtype : Int) : InputEvent :=
  ⟨0, some ⟨evtype, 6, 1, 0, 0, ⟨1, [1], [.finite false 0]⟩⟩⟩

theorem mouseEvent_handled (world : ω) :
    ∀ evtype ∈ xiHierarchyChanged :: InputHandlerBuilder.selectedEvents,
      EventTransformer.transformEvent goneApi (mouseEvent evtype) knowingMouse world
        ≠ .ok (.new, knowingMouse, world) := by
  have hne : ∀ evtype ∈ xiHierarchyChanged :: InputHandlerBuilder.selectedEvents,
      (EventTransformer.transformEvent goneApi (mouseEvent evtype) knowingMouse
        world).toOption.map (fun result => result.1.entries.length) ≠ some 0 := by
    simp only [InputHandlerBuilder.selectedEvents, List.forall_mem_cons]
    refine ⟨?_, ?_, ?_, ?_, ?_, ?_, ?_, ?_, ?_, ?_, fun evtype h => absurd h List.not_mem_nil⟩
    all_goals
      intro h
      cases h
  intro evtype hmem hignored
  have hlength := hne evtype hmem
  rw [hignored] at hlength
  exact hlength rfl

/-- **What is selected** is exactly what the transformer may not ignore, apart from changes of the
hierarchy, which it handles as well. -/
theorem selected_iff {lastEvent : Nat} (hlast : 3 < lastEvent) (evtype : Int) (world : ω) :
    xiMaskIsSet (InputHandlerBuilder.eventMask lastEvent).mask evtype.toNat = true ∨
        evtype = xiHierarchyChanged ↔
      ∃ (api : X11Api ω) (event : InputEvent) (raw : XIRawEvent) (self : EventTransformer),
        event.cookie = some raw ∧ raw.evtype = evtype ∧
        EventTransformer.transformEvent api event self world ≠ .ok (.new, self, world) := by
  constructor
  · intro h
    have hmem : evtype ∈ xiHierarchyChanged :: InputHandlerBuilder.selectedEvents := by
      rw [xiMaskIsSet_eventMask hlast, decide_eq_true_eq] at h
      exact List.mem_cons.mpr h.symm
    exact ⟨goneApi, mouseEvent evtype, _, knowingMouse, rfl, rfl,
      mouseEvent_handled world evtype hmem⟩
  · rintro ⟨api, event, raw, self, hraw, rfl, hne⟩
    by_contra hnot
    obtain ⟨hselected, hhierarchy⟩ := not_or.mp hnot
    exact hne (selected_handled hlast api hraw (Bool.not_eq_true _ ▸ hselected) hhierarchy self
      world)

/-- a changed hierarchy is handled, and its bit is not among those that are set -/
theorem selected_iff_hierarchy :
    (xiMaskIsSet (InputHandlerBuilder.eventMask 26).mask xiHierarchyChanged.toNat = true ∨
        xiHierarchyChanged = xiHierarchyChanged ↔
      ∃ (api : X11Api Nat) (event : InputEvent) (raw : XIRawEvent) (self : EventTransformer),
        event.cookie = some raw ∧ raw.evtype = xiHierarchyChanged ∧
        EventTransformer.transformEvent api event self 0 ≠ .ok (.new, self, 0)) ∧
    xiMaskIsSet (InputHandlerBuilder.eventMask 26).mask xiHierarchyChanged.toNat = false :=
  ⟨selected_iff (by decide) xiHierarchyChanged 0, by decide⟩

/-! ## creation -/

structure Source (ω : Type) where
  transformer : EventTransformer
  world : ω
  fetched : Nat

/-- `Backend::Create`; the message formats the name of the display, also when there is none -/
def Backend.create (display : Display ω) (displayName : Option String) (world : ω) :
    Except Fault (Result (Source ω)) :=
  if !display.opens displayName then
    match displayName with
    | none => .error .nullPointer
    | some name => .ok (.error ⟨.eventHandlerError,
        "unable to open X11 display '" ++ name ++ "'"⟩)
  else
    match EventTransformer.build display.api ⟨true, true⟩ world with
    | none => .error .nullPointer
    | some built =>
      match built with
      | .error e => .error e
      | .ok (transformer, world) =>
        let (result, world) := InputHandlerBuilder.build display world
        .ok (result.map fun _ => ⟨transformer, world, 0⟩)

/-- a backend that was created knows its first listing -/
theorem Backend.create_reached {display : Display ω} {displayName : Option String} {world : ω}
    {source : Source ω} (h : Backend.create display displayName world = .ok (.ok source)) :
    ∃ listed world', listing display.api world = .ok (listed, world') ∧
      EventTransformer.Reached display.api [listed] source.transformer := by
  unfold Backend.create at h
  by_cases hopens : display.opens displayName
  · rw [if_neg (by simp [hopens])] at h
    dsimp only [EventTransformer.build] at h
    cases hnew : EventTransformer.new display.api true world with
    | error e =>
      simp [hnew] at h
    | ok built =>
      obtain ⟨transformer, world'⟩ := built
      obtain ⟨listed, hlisting, -⟩ := EventTransformer.refreshDevices_known hnew
      have hreached := EventTransformer.Reached.new hlisting hnew
      simp only [if_true, hnew] at h
      cases hresult : (InputHandlerBuilder.build display world').1 with
      | error e =>
        rw [hresult] at h
        cases h
      | ok done =>
        rw [hresult] at h
        cases h
        exact ⟨listed, world', hlisting, hreached⟩
  · rw [if_pos (by simp [hopens])] at h
    cases displayName with
    | none => cases h
    | some name => cases h

/-! ## the objects of an event -/

/-- where an event is, one place after the other -/
inductive Owner where
  /-- the object that `NextEvent` makes -/
  | nextEvent
  /-- the result of `Next` -/
  | next
  /-- the argument of `Notify` -/
  | notify
  /-- the argument of `TransformEvent` -/
  | transformEvent
deriving DecidableEq, Repr

/-- an object of the class `InputEvent`; `cookie` says into whose event the pointer points -/
structure EventObject where
  owner : Owner
  event : XEvent
  timestamp : Int
  cookie : Option Owner
deriving DecidableEq, Repr

namespace EventObject

/-- the constructor: the pointer points into the new object itself -/
def new (owner : Owner) (event : XEvent) (timestamp : Int) : EventObject :=
  ⟨owner, event, timestamp, event.eventData.map fun _ => owner⟩

/-- the implicit move, which copies the event and takes the pointer as it is -/
def move (owner : Owner) (self : EventObject) : EventObject := { self with owner := owner }

/-- what is read of an object.  A pointer into the object itself leads to the data of its event;
any other one leads to an object that does not exist any more, and to the data `found` there. -/
def read (found : XIRawEvent) (self : EventObject) : InputEvent where
  timestamp := self.timestamp
  cookie := self.cookie.bind fun owner =>
    if owner = self.owner then self.event.eventData else some found

/-- of the object that was made first, its own data is read -/
theorem read_new (found : XIRawEvent) (owner : Owner) (event : XEvent) (timestamp : Int) :
    (new owner event timestamp).read found = ⟨timestamp, event.eventData⟩ := by
  unfold new read
  cases hdata : event.eventData with
  | none => rfl
  | some data =>
    exact congrArg (InputEvent.mk timestamp) (if_pos rfl)

/-- **Of a moved event** nothing is read of its own data: only whether there is any, and what is
left of the first object. -/
theorem read_moved (found : XIRawEvent) {first last : Owner} (h : first ≠ last) (event : XEvent)
    (timestamp : Int) : ((new first event timestamp).move last).read found
      = ⟨timestamp, event.eventData.map fun _ => found⟩ := by
  unfold new move read
  cases event.eventData with
  | none => rfl
  | some data => exact congrArg (InputEvent.mk timestamp) (if_neg h)

theorem move_move (self : EventObject) (owner last : Owner) :
    (self.move owner).move last = self.move last := rfl

end EventObject

/-! ## the source -/

section
variable (display : Display ω) (clock : Nat → Int) (found : Nat → XIRawEvent)

/-- `Next`: the event with the time at which it was fetched -/
def nextEvent (self : Source ω) : Option (Result EventObject × Bool × Source ω) :=
  (display.nextEvent self.world).map fun (event, world) =>
    (.ok ((EventObject.new .nextEvent event (clock self.fetched)).move .next), false,
      { self with world := world, fetched := self.fetched + 1 })

/-- what `TransformEvent` reads of the event that `Notify` gives it, which is the one that was
fetched last; `found` tells for every event what is left of its first object, and stays left while
the event is transformed.  A read that ends the program ends the run before this event. -/
def readEvent (event : EventObject) (self : Source ω) : InputEvent :=
  ((event.move .notify).move .transformEvent).read (found self.fetched)

def capture : Evget.Backend (Source ω) EventObject Fault where
  next := nextEvent display clock
  transformEvent event self := do
    let (data, transformer, world) ←
      self.transformer.transformEvent display.api (readEvent found event self) self.world
    return (data, { self with transformer := transformer, world := world })

def InputEvent.listings (api : X11Api ω) (event : InputEvent) (world : ω) : List (List Listed) :=
  match event.cookie with
  | none => []
  | some raw =>
    if raw.evtype = xiDeviceChanged ∨ raw.evtype = xiHierarchyChanged then
      (listing api world).toOption.toList.map Prod.fst
    else []

def listings : Nat → Source ω → List (List Listed)
  | 0, _ => []
  | fuel + 1, self =>
    match (capture display clock found).next self with
    | some (.ok event, _, self) =>
      match (capture display clock found).transformEvent event self with
      | .ok (_, after) =>
        (readEvent found event self).listings display.api self.world ++ listings fuel after
      | .error _ => []
    | _ => []

end

/-- an event adds its listing to what has been reached -/
theorem EventTransformer.Reached.transformEvent {api : X11Api ω} {history : List (List Listed)}
    {self self' : EventTransformer} (hself : EventTransformer.Reached api history self)
    {event : InputEvent} {world world' : ω} {data : Data}
    (h : EventTransformer.transformEvent api event self world = .ok (data, self', world')) :
    EventTransformer.Reached api (history ++ event.listings api world) self' := by
  unfold InputEvent.listings
  cases hraw : event.cookie with
  | none =>
    rw [List.append_nil]
    exact hself.event (by simp [hraw]) h
  | some raw =>
    by_cases hevent : raw.evtype = xiDeviceChanged ∨ raw.evtype = xiHierarchyChanged
    · dsimp only
      rw [if_pos hevent]
      have hrefresh := h
      unfold EventTransformer.transformEvent at hrefresh
      rw [hraw] at hrefresh
      dsimp only at hrefresh
      rw [if_pos hevent] at hrefresh
      obtain ⟨⟨refreshed, last⟩, hrefreshed, hdone⟩ := bind_eq_ok hrefresh
      cases hdone
      obtain ⟨listed, hlisting, -⟩ := EventTransformer.refreshDevices_known hrefreshed
      rw [hlisting]
      exact hself.refresh hraw hevent hlisting h
    · dsimp only
      rw [if_neg hevent, List.append_nil]
      refine hself.event (fun raw' hraw' => ?_) h
      obtain rfl := Option.some.inj (hraw.symm.trans hraw')
      exact hevent

section
variable {display : Display ω} {clock : Nat → Int} {found : Nat → XIRawEvent}

/-- **Of a fetched event** nothing is read of its own data, however often it is moved. -/
theorem readEvent_next {self after : Source ω} {object : EventObject} {stops : Bool}
    (h : nextEvent display clock self = some (.ok object, stops, after)) :
    ∃ event, display.nextEvent self.world = some (event, after.world) ∧
      readEvent found object after
        = ⟨clock self.fetched, event.eventData.map fun _ => found after.fetched⟩ := by
  unfold nextEvent at h
  cases hnext : display.nextEvent self.world with
  | none =>
    rw [hnext] at h
    cases h
  | some fetched =>
    obtain ⟨event, world⟩ := fetched
    rw [hnext] at h
    cases h
    refine ⟨event, rfl, ?_⟩
    rw [readEvent, EventObject.move_move, EventObject.move_move]
    exact EventObject.read_moved _ (by decide) event _

theorem next_none {self : Source ω} (h : display.nextEvent self.world = none) :
    (capture display clock found).next self = none := by
  simp [capture, nextEvent, h]

theorem next_some (clock : Nat → Int) (found : Nat → XIRawEvent) {self : Source ω}
    {xEvent : XEvent} {world : ω} (h : display.nextEvent self.world = some (xEvent, world)) :
    ∃ event, (capture display clock found).next self = some (.ok event, false,
      { self with world := world, fetched := self.fetched + 1 }) := by
  simp [capture, nextEvent, h]

theorem transformEvent_ok {event : EventObject} {self after : Source ω} {data : Data}
    (h : (capture display clock found).transformEvent event self = .ok (data, after)) :
    self.transformer.transformEvent display.api (readEvent found event self) self.world
        = .ok (data, after.transformer, after.world) ∧ after.fetched = self.fetched := by
  obtain ⟨⟨data', transformer, world'⟩, htransform, hdone⟩ := bind_eq_ok h
  cases hdone
  exact ⟨htransform, rfl⟩

/-- **What the transformer gives** are entries of the devices of the listings. -/
theorem transformed_fromListed {history : List (List Listed)} (fuel : Nat) {self : Source ω}
    (hself : EventTransformer.Reached display.api history self.transformer) :
    ∀ data ∈ Capture.transformed (capture display clock found) fuel false self,
      ∀ entry ∈ data.entries, ∃ listed ∈ history ++ listings display clock found fuel self,
        ∃ device ∈ listed, EventTransformer.FromListed device entry := by
  induction fuel generalizing history self with
  | zero => exact fun data hdata => absurd hdata List.not_mem_nil
  | succ fuel ih =>
    unfold Capture.transformed listings
    rw [if_neg Bool.false_ne_true]
    cases hnext : display.nextEvent self.world with
    | none =>
      rw [next_none hnext]
      exact fun data hdata => absurd hdata List.not_mem_nil
    | some fetched =>
      obtain ⟨event, hfetched⟩ := next_some clock found hnext
      rw [hfetched]
      dsimp only
      cases hevent : (capture display clock found).transformEvent event
          { self with world := fetched.2, fetched := self.fetched + 1 } with
      | error e => exact fun data hdata => absurd hdata List.not_mem_nil
      | ok result =>
        obtain ⟨data, after⟩ := result
        obtain ⟨htransform, -⟩ := transformEvent_ok hevent
        dsimp only
        have hafter := hself.transformEvent htransform
        intro added hadded entry hentry
        rcases List.mem_cons.mp hadded with rfl | hlater
        · obtain ⟨raw, -, hfrom⟩ := EventTransformer.transformEvent_sources htransform entry hentry
          obtain ⟨listed, hlisted, hdevice⟩ := hself.fromListed hfrom
          exact ⟨listed, List.mem_append_left _ hlisted, hdevice⟩
        · obtain ⟨listed, hlisted, hdevice⟩ := ih hafter added hlater entry hentry
          rw [List.append_assoc] at hlisted
          exact ⟨listed, hlisted, hdevice⟩

theorem capture_decodes : Capture.Decodes (capture display clock found) := by
  intro event self data after h entry hentry
  obtain ⟨raw, -, hfrom⟩ :=
    EventTransformer.transformEvent_sources (transformEvent_ok h).1 entry hentry
  exact hfrom.built.decodes

end

/-! ## runs -/

section
variable {S ι : Type} [DecidableEq S] [DecidableEq ι]
open Capture DatabaseManager

/-- **Capturing with X11**, in every schedule of the handler, the timer and the threads, whatever is
left of the events when they are transformed.  Whatever a store receives is an entry of a device
that X has listed: one of the listing at the creation, or of one that the handler got later.  The
entry has the name of this device and its type, if it is not of a key, and only allowed types are
received.  No entry is received more often than the transformer gave it, and in the end every store
has received all of those that are allowed. -/
theorem capture_fromListed {display : Display ω} {displayName : Option String} {world : ω}
    {source : Source ω}
    (hcreate : Backend.create display displayName world = .ok (.ok source)) (clock : Nat → Int)
    (found : Nat → XIRawEvent) (nEvents : Nat) (allowed : Option (Finset DeviceType))
    {storeIn : List S} (hstores : storeIn.Nodup) (fuel : Nat) (workers : ι → Worker)
    (sched : List (Option ι)) :
    let p := Capture.run (capture display clock found) nEvents allowed storeIn fuel source workers
      sched
    let entries := expected (capture display clock found) allowed fuel source
    ∃ first world', listing display.api world = .ok (first, world') ∧
      (∀ store, ∀ entry ∈ p.object.received store,
        ∃ listed ∈ first :: listings display clock found fuel source, ∃ device ∈ listed,
          EventTransformer.FromListed device entry ∧
          ∀ types ∈ allowed, (if entry.type = .key then .keyboard else device.type) ∈ types) ∧
      (∀ store, (p.object.received store).Subperm entries) ∧
      (Drained p → ∀ store ∈ storeIn, (p.object.received store).Perm entries) := by
  intro p entries
  obtain ⟨first, world', hlisting, hreached⟩ := Backend.create_reached hcreate
  have hsubperm : ∀ store, (p.object.received store).Subperm entries := fun store =>
    received_subperm hstores capture_decodes sched store
  refine ⟨first, world', hlisting, fun store entry hentry => ?_, hsubperm,
    fun hdrained store hstore => received_drained hstores capture_decodes hdrained hstore⟩
  obtain ⟨⟨data, hdata, hmem⟩, hallowed⟩ := mem_expected ((hsubperm store).subset hentry)
  obtain ⟨listed, hlisted, device, hdevice, hfrom⟩ :=
    transformed_fromListed fuel hreached data hdata entry hmem
  exact ⟨listed, hlisted, device, hdevice, hfrom, fun types htypes =>
    hallowed types htypes _ hfrom.named⟩

/-! ### a movement of a mouse -/

def toTheRight : XIRawEvent := ⟨xiRawMotion, 6, 0, 0, 0, ⟨1, [1], [.finite false 5]⟩⟩

def mouseDisplay : Display Unit where
  api :=
    { EventTransformer.listingApi [EventTransformer.pointerDevice, EventTransformer.mouseDevice]
        [⟨2, true, []⟩, ⟨6, true, [some (.valuator ⟨0, 2⟩)]⟩] with
      atomName := fun atom _ =>
        (some (if atom = 1 then bytes "MOUSE" else EventSwitchPointerKey.kRelX), ()) }
  opens _ := true
  queryVersion major minor world := ((success, major, minor), world)
  selectEvents _ world := world
  nextEvent world := some (⟨genericEvent, some toTheRight⟩, world)
  lastEvent := 26

def onlyMice : Option (Finset DeviceType) := some {.mouse}

/-- the entry of the movement is stored, and the memory of the event has not been used again -/
theorem capture_fromListed_mouse : ∃ source,
    Backend.create mouseDisplay none () = .ok (.ok source) ∧
    let p := Capture.run (capture mouseDisplay (fun _ => 0) fun _ => toTheRight) 1 onlyMice [0] 1
      source (fun _ : Unit => .thread [.resume 0, .finish 0 (.ok ())])
      [none, none, none, none, some (), some ()]
    let entries := expected (capture mouseDisplay (fun _ => 0) fun _ => toTheRight) onlyMice 1
      source
    ∃ first world', listing mouseDisplay.api () = .ok (first, world') ∧
      (p.object.received 0).map Entry.type = [.mouseMove] ∧
      (∀ store, ∀ entry ∈ p.object.received store,
        ∃ listed ∈ first :: listings mouseDisplay (fun _ => 0) (fun _ => toTheRight) 1 source,
          ∃ device ∈ listed, EventTransformer.FromListed device entry ∧ ∀ types ∈ onlyMice,
            (if entry.type = .key then .keyboard else device.type) ∈ types) ∧
      (∀ store, (p.object.received store).Subperm entries) ∧
      (p.object.received 0).Perm entries := by
  refine ⟨_, rfl, ?_⟩
  intro p entries
  obtain ⟨first, world', hfirst, hlisted, hsubperm, hperm⟩ := capture_fromListed
    (show Backend.create mouseDisplay none () = .ok (.ok _) from rfl) (fun _ => 0)
    (fun _ => toTheRight) 1 onlyMice (List.nodup_singleton 0) 1
    (fun _ : Unit => .thread [.resume 0, .finish 0 (.ok ())])
    [none, none, none, none, some (), some ()]
  have hdrained : Drained p :=
    .of_replicate 1 rfl (by rintro (_ | _) <;> rfl) rfl rfl
  exact ⟨first, world', hfirst, rfl, hlisted, hsubperm,
    hperm hdrained 0 (List.mem_singleton_self 0)⟩

end

end Evget.X11
