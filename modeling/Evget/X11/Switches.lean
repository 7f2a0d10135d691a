import Evget.X11.EventSwitch
import Mathlib.Data.Int.Log

/-!
# The switches for pointers, keys and touches

`EventSwitchPointerKey` and `EventSwitchTouch` handle an event when it is of one of their types.
A handler ends with an exception (`Fault`) or with what it leaves behind.

* `getValuators`, `onMasks`                     the valuators of an event;
* `EventSwitchPointerKey.refreshDevices`        scroll axes and X/Y axes of a device;
* `buttonEvent`, `keyEvent`, `motionEvent`, `scrollEvent`, `touchButton`, `touchMotion`
                                                the handlers;
* `EventSwitchPointerKey.switchOnEvent`, `EventSwitchTouch.switchOnEvent`   the dispatch.
-/

namespace Evget.X11
open SQLite

variable {ω τ : Type}

/-! ## doubles -/

/-- the distance of neighbouring doubles at a magnitude -/
def quantum (magnitude : Rat) : Rat := 2 ^ max (Int.log 2 magnitude - 52) (-1074)

def roundDouble (x : Rat) : Double :=
  let magnitude := if x < 0 then -x else x
  let rounded := if magnitude = 0 then 0
    else (roundEven (magnitude / quantum magnitude) : Rat) * quantum magnitude
  if rounded < 2 ^ 1024 then .finite (x < 0) rounded else .infinite (x < 0)

/-- `value++` leaves this behind -/
def increment : Double → Double
  | .finite negative magnitude => roundDouble ((if negative then -magnitude else magnitude) + 1)
  | value => value

/-- a `double` as an `int`: the integer part; outside of `int` C++ defines no value and the machine
gives the least one -/
def truncate : Double → Int
  | .finite negative magnitude =>
    let n := if negative then -magnitude.floor else magnitude.floor
    if -2147483648 ≤ n ∧ n ≤ 2147483647 then n else -2147483648
  | _ => -2147483648

/-! ## valuators -/

def xiMaskIsSet (mask : List UInt8) (bit : Nat) : Bool :=
  (mask.getD (bit / 8) 0).toNat.testBit (bit % 8)

/-- the bits for which `OnMasks` calls its function, in the order of the calls -/
def onMasks (mask : List UInt8) (maskLen : Nat) : List Nat :=
  (List.range (maskLen * 8)).filter (xiMaskIsSet mask)

/-- `valuators.emplace(mask, (*values)++)` for every bit; `values` points to the first value all the
time.  The keys come in increasing order. -/
def emplaceValuators : List Nat → List Double → List (Int × Int) × List Double
  | [], values => ([], values)
  | bit :: bits, values =>
    let value := values.headD (.finite false 0)
    let (valuators, values) := emplaceValuators bits (values.modifyHead increment)
    (((bit : Int), truncate value) :: valuators, values)

def getValuators (state : XIValuatorState) : List (Int × Int) × XIValuatorState :=
  let (valuators, values) := emplaceValuators (onMasks state.mask state.maskLen) state.values
  (valuators, { state with values := values })

/-! ## the switch for pointers and keys -/

structure EventSwitchPointerKey where
  scrollMap : Dict Int (Dict Int XIScrollClassInfo) := ∅
  valuatorX : Dict Int (Option Int) := ∅
  valuatorY : Dict Int (Option Int) := ∅
  pointerId : Int := 0

namespace EventSwitchPointerKey

def kRelX : List UInt8 := bytes "Rel X"
def kRelY : List UInt8 := bytes "Rel Y"
def kAbsX : List UInt8 := bytes "Abs X"
def kAbsY : List UInt8 := bytes "Abs Y"

def setScroll (deviceId : Int) (self : EventSwitchPointerKey) (info : XIScrollClassInfo) :
    EventSwitchPointerKey :=
  { self with
    scrollMap := self.scrollMap.insert deviceId
      (((self.scrollMap.lookup deviceId).getD ∅).insert info.number info) }

def setValuators (api : X11Api ω) (deviceId : Int) : List XIValuatorClassInfo →
    EventSwitchPointerKey → ω → EventSwitchPointerKey × ω
  | [], self, world => (self, world)
  | info :: infos, self, world =>
    let (name, world) := api.atomName info.label world
    let self := match name with
      | none => self
      | some name =>
        if name = kAbsX ∨ name = kRelX then
          { self with valuatorX := self.valuatorX.insert deviceId (some info.number) }
        else if name = kAbsY ∨ name = kRelY then
          { self with valuatorY := self.valuatorY.insert deviceId (some info.number) }
        else self
    setValuators api deviceId infos self world

def scrollClass : Option XIAnyClassInfo → Option XIScrollClassInfo
  | some (.scroll info) => some info
  | _ => none

def valuatorClass : Option XIAnyClassInfo → Option XIValuatorClassInfo
  | some (.valuator info) => some info
  | _ => none

def refreshDevices (api : X11Api ω) (deviceId : Int) (pointerId : Option Int) (device : DeviceType)
    (name : List UInt8) (info : XIDeviceInfo) (self : EventSwitchPointerKey)
    (xEventSwitch : EventSwitch) (world : ω) : EventSwitchPointerKey × EventSwitch × ω :=
  let (xEventSwitch, world) :=
    xEventSwitch.refreshDevices api deviceId pointerId device name info world
  let self := { self with pointerId := pointerId.getD self.pointerId }
  let self := (info.classes.filterMap scrollClass).foldl (setScroll deviceId) self
  let (self, world) := setValuators api deviceId (info.classes.filterMap valuatorClass) self world
  (self, xEventSwitch, world)

/-! ### handlers -/

def kWheelLabels : List (List UInt8) := [
  bytes "Button Wheel Up",
  bytes "Button Wheel Down",
  bytes "Button Horiz Wheel Left",
  bytes "Button Horiz Wheel Right"]

def buttonEvent (api : X11Api ω) (getTime : Nat → τ → Option Int × τ) (event : XIRawEvent)
    (timestamp : Int) (action : ButtonAction) (systemEvent : List UInt8) (s : Handling ω τ) :
    Except Fault (Handling ω τ) := do
  let button ← s.xEventSwitch.getButtonName event.sourceid event.detail
  if !s.xEventSwitch.hasDevice event.sourceid ∨ event.flags &&& xiPointerEmulated ≠ 0 ∨
      button ∈ kWheelLabels then
    return s
  EventSwitch.addButtonEvent api getTime event timestamp action event.detail systemEvent s

def keyAction (event : XIRawEvent) : ButtonAction :=
  if event.evtype ≠ xiKeyRelease then
    if event.flags &&& xiKeyRepeat ≠ 0 then .repeat else .press
  else .release

def keyEvent (api : X11Api ω) (getTime : Nat → τ → Option Int × τ) (event : XIRawEvent)
    (timestamp : Int) (systemEvent : List UInt8) (self : EventSwitchPointerKey)
    (s : Handling ω τ) : Except Fault (Handling ω τ) :=
  if !s.xEventSwitch.hasDevice event.sourceid then .ok s
  else
    let (pointer, world) := api.queryPointer self.pointerId s.world
    let ((character, keySym), world) := api.lookupCharacter event pointer world
    EventSwitch.emit api getTime event timestamp systemEvent pointer
      ((((({} : Key).action (keyAction event)).button event.detail).character character).buttonName
        (api.keySymToString keySym))
      { s with world := world }

/-- whether one of the valuators is the X or the Y axis of the device; `[]` inserts an empty axis
where the device has none -/
def hasAxis (deviceId : Int) : List Int → EventSwitchPointerKey → Bool × EventSwitchPointerKey
  | [], self => (false, self)
  | valuator :: valuators, self =>
    let (x, valuatorX) := self.valuatorX.subscript deviceId none
    let self := { self with valuatorX := valuatorX }
    if x = some valuator then (true, self)
    else
      let (y, valuatorY) := self.valuatorY.subscript deviceId none
      let self := { self with valuatorY := valuatorY }
      if y = some valuator then (true, self) else hasAxis deviceId valuators self

/-- the event is given back, whose values `getValuators` has changed -/
def motionEvent (api : X11Api ω) (getTime : Nat → τ → Option Int × τ) (event : XIRawEvent)
    (timestamp : Int) (systemEvent : List UInt8) (self : EventSwitchPointerKey)
    (s : Handling ω τ) : Except Fault (XIRawEvent × EventSwitchPointerKey × Handling ω τ) :=
  if !s.xEventSwitch.hasDevice event.sourceid ∨ event.flags &&& xiPointerEmulated ≠ 0 then
    .ok (event, self, s)
  else
    let (valuators, state) := getValuators event.valuators
    let event := { event with valuators := state }
    match hasAxis event.sourceid (valuators.map Prod.fst) self with
    | (false, self) => .ok (event, self, s)
    | (true, self) => do
      let s ← EventSwitch.addMotionEvent api getTime event timestamp systemEvent s
      return (event, self, s)

def setScrollAmount (valuators : List (Int × Int)) (builder : MouseScroll)
    (info : XIScrollClassInfo) : MouseScroll :=
  let amount := roundDouble ((valuators.lookup info.number).getD 0)
  match info.scrollType with
  | .horizontal => builder.horizontal amount
  | .vertical => builder.vertical amount

/-- a hash table has no order of its own; it is gone through in the order of `entries` -/
def scrollEvent (api : X11Api ω) (getTime : Nat → τ → Option Int × τ) (event : XIRawEvent)
    (timestamp : Int) (systemEvent : List UInt8) (self : EventSwitchPointerKey)
    (s : Handling ω τ) : Except Fault (XIRawEvent × Handling ω τ) :=
  match self.scrollMap.lookup event.sourceid with
  | none => .ok (event, s)
  | some scrolls =>
    if !s.xEventSwitch.hasDevice event.sourceid ∨ event.flags &&& xiPointerEmulated ≠ 0 then
      .ok (event, s)
    else
      let (valuators, state) := getValuators event.valuators
      let event := { event with valuators := state }
      let processed := (scrolls.entries.filter fun scroll =>
        (valuators.lookup scroll.1).isSome).map Sigma.snd
      if processed.isEmpty then .ok (event, s)
      else do
        let builder := processed.foldl (setScrollAmount valuators) ({} : MouseScroll)
        let (pointer, world) := api.queryPointer self.pointerId s.world
        let s ← EventSwitch.emit api getTime event timestamp systemEvent pointer builder
          { s with world := world }
        return (event, s)

/-- whether the event is of a type of this switch, and what it leaves behind -/
def switchOnEvent (api : X11Api ω) (getTime : Nat → τ → Option Int × τ) (event : XIRawEvent)
    (timestamp : Int) (self : EventSwitchPointerKey) (s : Handling ω τ) :
    Except Fault (Bool × EventSwitchPointerKey × Handling ω τ) :=
  if event.evtype = xiRawMotion then do
    let (event, self, s) ← motionEvent api getTime event timestamp (bytes "XI_RawMotion") self s
    let (_, s) ← scrollEvent api getTime event timestamp (bytes "XI_RawMotion") self s
    return (true, self, s)
  else if event.evtype = xiRawButtonPress then do
    let s ← buttonEvent api getTime event timestamp .press (bytes "XI_RawButtonPress") s
    return (true, self, s)
  else if event.evtype = xiRawButtonRelease then do
    let s ← buttonEvent api getTime event timestamp .release (bytes "XI_RawButtonRelease") s
    return (true, self, s)
  else if event.evtype = xiRawKeyPress then do
    let s ← keyEvent api getTime event timestamp (bytes "XI_RawKeyPress") self s
    return (true, self, s)
  else if event.evtype = xiRawKeyRelease then do
    let s ← keyEvent api getTime event timestamp (bytes "XI_RawKeyRelease") self s
    return (true, self, s)
  else .ok (false, self, s)

end EventSwitchPointerKey

/-! ## the switch for touches -/

namespace EventSwitchTouch

section
variable {B : Type} [Builder B]

/-- what both handlers of a touch do with their builder -/
def touch (api : X11Api ω) (getTime : Nat → τ → Option Int × τ) (event : XIRawEvent)
    (timestamp : Int) (systemEvent : List UInt8) (builder : B) (s : Handling ω τ) :
    Except Fault (Handling ω τ) :=
  if !s.xEventSwitch.hasDevice event.sourceid then .ok s
  else
    let (pointer, world) := s.xEventSwitch.queryPointerForDevice api s.world
    EventSwitch.emit api getTime event timestamp systemEvent pointer builder
      { s with world := world }

end

def touchButton (api : X11Api ω) (getTime : Nat → τ → Option Int × τ) (event : XIRawEvent)
    (timestamp : Int) (action : ButtonAction) (systemEvent : List UInt8) (s : Handling ω τ) :
    Except Fault (Handling ω τ) :=
  touch api getTime event timestamp systemEvent
    ((({} : MouseClick).action action).touchId event.detail) s

def touchMotion (api : X11Api ω) (getTime : Nat → τ → Option Int × τ) (event : XIRawEvent)
    (timestamp : Int) (systemEvent : List UInt8) (s : Handling ω τ) : Except Fault (Handling ω τ) :=
  touch api getTime event timestamp systemEvent (({} : MouseMove).touchId event.detail) s

def switchOnEvent (api : X11Api ω) (getTime : Nat → τ → Option Int × τ) (event : XIRawEvent)
    (timestamp : Int) (s : Handling ω τ) : Except Fault (Bool × Handling ω τ) :=
  if event.evtype = xiRawTouchBegin then do
    let s ← touchMotion api getTime event timestamp (bytes "XI_RawTouchBegin") s
    let s ← touchButton api getTime event timestamp .press (bytes "XI_RawTouchBegin") s
    return (true, s)
  else if event.evtype = xiRawTouchUpdate then do
    let s ← touchMotion api getTime event timestamp (bytes "XI_RawTouchUpdate") s
    return (true, s)
  else if event.evtype = xiRawTouchEnd then do
    let s ← touchMotion api getTime event timestamp (bytes "XI_RawTouchEnd") s
    let s ← touchButton api getTime event timestamp .release (bytes "XI_RawTouchEnd") s
    return (true, s)
  else .ok (false, s)

end EventSwitchTouch
end Evget.X11
