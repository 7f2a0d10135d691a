import Evget.Event.Builders
import Evget.Lib.Dict
import Evget.X11.Api

/-!
# The event switch

`EventSwitch` knows the devices: their types, their names and the names of their buttons.  The
switches for pointers, keys and touches share it, and emit their entries through it.

* `refreshDevices`       what it is told about a device;
* `emit`                 what every handler does with its builder, once it has set its own fields;
* `addMotionEvent`, `addButtonEvent`   two of the handlers;
* `Registered`           a device whose type and name are known, the precondition of `emit`;
* `emit_spec`            then exactly the entry of the builder is added.
-/

namespace Evget.X11
open SQLite

structure EventSwitch where
  buttonMap : Dict Int (Dict Int (List UInt8)) := ∅
  devices : Dict Int DeviceType := ∅
  idToName : Dict Int (List UInt8) := ∅
  deviceIds : Dict Int (List UInt8) := ∅
  pointerId : Int := 0

def kEventSourceName : List UInt8 := bytes "x11"

/-- what a handler reads and writes, apart from its own switch; `times` is the state of the function
that gives the intervals -/
structure Handling (ω τ : Type) where
  world : ω
  times : τ
  xEventSwitch : EventSwitch
  data : Data

theorem bind_eq_ok {ε α β : Type} {x : Except ε α} {f : α → Except ε β} {b : β}
    (h : x >>= f = .ok b) : ∃ a, x = .ok a ∧ f a = .ok b := by
  cases x with
  | error e => cases h
  | ok a => exact ⟨a, rfl, h⟩

namespace EventSwitch
variable {ω τ : Type}

/-! ## devices -/

def getDevice (deviceId xi2EventType : Int) (self : EventSwitch) : Except Fault DeviceType :=
  if xi2EventType = xiRawKeyPress ∨ xi2EventType = xiRawKeyRelease then .ok .keyboard
  else self.devices.fetch .outOfRange deviceId

def hasDevice (deviceId : Int) (self : EventSwitch) : Bool := deviceId ∈ self.devices

def getButtonName (deviceId button : Int) (self : EventSwitch) : Except Fault (List UInt8) := do
  let labels ← self.buttonMap.fetch .outOfRange deviceId
  labels.fetch .outOfRange button

def getDeviceUuid (api : X11Api ω) (deviceId : Int) (self : EventSwitch) (world : ω) :
    List UInt8 × EventSwitch × ω :=
  match self.deviceIds.lookup deviceId with
  | some uuid => (uuid, self, world)
  | none =>
    let (uuid, world) := api.randomUuid world
    (uuid, { self with deviceIds := self.deviceIds.insert deviceId uuid }, world)

/-- `button_map_[device_id][button_index] = name` -/
def setButtonName (deviceId button : Int) (name : List UInt8) (self : EventSwitch) : EventSwitch :=
  { self with
    buttonMap := self.buttonMap.insert deviceId
      (((self.buttonMap.lookup deviceId).getD ∅).insert button name) }

def setButtonLabels (api : X11Api ω) (deviceId : Int) :
    List (Atom × UInt8) → EventSwitch → ω → EventSwitch × ω
  | [], self, world => (self, world)
  | (label, buttonIndex) :: labels, self, world =>
    if label = 0 then setButtonLabels api deviceId labels self world
    else
      let (name, world) := api.atomName label world
      setButtonLabels api deviceId labels
        (self.setButtonName deviceId buttonIndex.toNat (name.getD [])) world

def setButtonMap (api : X11Api ω) (buttonInfo : XIButtonClassInfo) (deviceId : Int)
    (self : EventSwitch) (world : ω) : EventSwitch × ω :=
  match api.getDeviceButtonMapping deviceId buttonInfo.numButtons world with
  | (none, world) => (self, world)
  | (some map, world) => setButtonLabels api deviceId (buttonInfo.labels.zip map) self world

def buttonClass : Option XIAnyClassInfo → Option XIButtonClassInfo
  | some (.button info) => some info
  | _ => none

def refreshDevices (api : X11Api ω) (deviceId : Int) (pointerId : Option Int) (device : DeviceType)
    (name : List UInt8) (info : XIDeviceInfo) (self : EventSwitch) (world : ω) : EventSwitch × ω :=
  let self := { self with
    pointerId := pointerId.getD self.pointerId
    devices := self.devices.emplace deviceId device
    idToName := self.idToName.emplace deviceId name }
  match info.classes.findSome? buttonClass with
  | none => (self, world)
  | some buttonInfo =>
    if buttonInfo.numButtons > 0 then setButtonMap api buttonInfo info.deviceid self world
    else (self, world)

def queryPointerForDevice (api : X11Api ω) (self : EventSwitch) (world : ω) :
    QueryPointerResult × ω := api.queryPointer self.pointerId world

/-! ## fields -/

def modifierMasks : List (UInt32 × ModifierValue) := [
  (0x01, .shift),
  (0x02, .capsLock),
  (0x04, .control),
  (0x08, .alt),
  (0x10, .numLock),
  (0x20, .mod3),
  (0x40, .super),
  (0x80, .mod5)]

def setModifierValue (modifierState : UInt32) (base : Base) : Base :=
  modifierMasks.foldl (fun base (mask, value) =>
    if modifierState &&& mask ≠ 0 then base.modifier value else base) base

def double (n : Nat) : Double := .finite false n

/-- the fields of the active window, or else of the window with the focus -/
def setWindowFields (api : X11Api ω) (world : ω) : (Base → Base) × ω :=
  let (active, world) := api.getActiveWindow world
  let (window, world) := match active with
    | some window => (some window, world)
    | none => api.getFocusWindow world
  match window with
  | none => (id, world)
  | some window =>
    let (name, world) := api.getWindowName window world
    let (position, world) := api.getWindowPosition window world
    let (size, world) := api.getWindowSize window world
    (fun base =>
      let base := name.elim base base.focusWindowName
      let base := position.elim base fun p =>
        (base.focusWindowPositionX (double p.width)).focusWindowPositionY (double p.height)
      size.elim base fun s =>
        (base.focusWindowWidth (double s.width)).focusWindowHeight (double s.height), world)

def setDeviceNameFields (event : XIRawEvent) (screen : Int) (self : EventSwitch) :
    Except Fault (Base → Base) := do
  let name ← self.idToName.fetch .outOfRange event.sourceid
  return fun base => (base.deviceName name).screen screen

/-! ## handlers -/

section
variable {B : Type} [Builder B]

/-- set the fields that all handlers set, and build the entry -/
def emit (api : X11Api ω) (getTime : Nat → τ → Option Int × τ) (event : XIRawEvent)
    (timestamp : Int) (systemEvent : List UInt8) (pointer : QueryPointerResult) (builder : B)
    (s : Handling ω τ) : Except Fault (Handling ω τ) := do
  let (interval, times) := getTime event.time s.times
  let device ← s.xEventSwitch.getDevice event.sourceid event.evtype
  let (uuid, xEventSwitch, world) := s.xEventSwitch.getDeviceUuid api event.sourceid s.world
  let (window, world) := setWindowFields api world
  let names ← xEventSwitch.setDeviceNameFields event pointer.screenNumber
  let fields (base : Base) : Base :=
    let base := (((base.interval interval).timestamp timestamp).device device).deviceId uuid
    let base := ((base.systemEvent systemEvent).positionX pointer.rootX).positionY pointer.rootY
    names (window (setModifierValue pointer.modifierState (base.eventSource kEventSourceName)))
  return ⟨world, times, xEventSwitch, Builder.build (Builder.mapBase fields builder) s.data⟩

end

def addMotionEvent (api : X11Api ω) (getTime : Nat → τ → Option Int × τ) (event : XIRawEvent)
    (dateTime : Int) (systemEvent : List UInt8) (s : Handling ω τ) : Except Fault (Handling ω τ) :=
  let (pointer, world) := s.xEventSwitch.queryPointerForDevice api s.world
  emit api getTime event dateTime systemEvent pointer ({} : MouseMove) { s with world := world }

def addButtonEvent (api : X11Api ω) (getTime : Nat → τ → Option Int × τ) (event : XIRawEvent)
    (dateTime : Int) (action : ButtonAction) (button : Int) (systemEvent : List UInt8)
    (s : Handling ω τ) : Except Fault (Handling ω τ) :=
  let (pointer, world) := s.xEventSwitch.queryPointerForDevice api s.world
  -- `button_map_[event.sourceid][button]`
  let (labels, buttonMap) := s.xEventSwitch.buttonMap.subscript event.sourceid ∅
  let (name, labels) := labels.subscript button []
  let xEventSwitch := { s.xEventSwitch with buttonMap := buttonMap.insert event.sourceid labels }
  emit api getTime event dateTime systemEvent pointer
    (((({} : MouseClick).action action).button button).buttonName name)
    { s with world := world, xEventSwitch := xEventSwitch }

/-! ## what a handler needs and adds -/

def Registered (deviceId : Int) (self : EventSwitch) : Prop :=
  deviceId ∈ self.devices ∧ deviceId ∈ self.idToName

def Consistent (self : EventSwitch) : Prop :=
  ∀ deviceId, deviceId ∈ self.devices ↔ deviceId ∈ self.idToName

theorem Consistent.registered {self : EventSwitch} (h : self.Consistent) {deviceId : Int}
    (hd : self.hasDevice deviceId) : self.Registered deviceId := by
  have hmem : deviceId ∈ self.devices := of_decide_eq_true hd
  exact ⟨hmem, (h deviceId).mp hmem⟩

theorem known_of_not {self : EventSwitch} {deviceId : Int} {q : Prop}
    (h : ¬ ((!self.hasDevice deviceId) = true ∨ q)) : self.hasDevice deviceId = true :=
  Bool.eq_true_of_not_eq_false fun hd => h (.inl (Bool.not_eq_true' _ ▸ hd))

theorem consistent_new : Consistent {} := fun _ => Iff.rfl

/-- a handler does not change what is known about the devices, apart from their uuids and from
default names of buttons -/
structure SameDevices (a b : EventSwitch) : Prop where
  devices : b.devices = a.devices
  idToName : b.idToName = a.idToName

theorem SameDevices.consistent {a b : EventSwitch} (h : SameDevices a b) (ha : a.Consistent) :
    b.Consistent := by
  intro deviceId
  rw [h.devices, h.idToName]
  exact ha deviceId

theorem getDevice_ok {self : EventSwitch} {deviceId : Int} (h : self.Registered deviceId)
    (evtype : Int) : ∃ device, self.getDevice deviceId evtype = .ok device := by
  unfold getDevice
  by_cases hkey : evtype = xiRawKeyPress ∨ evtype = xiRawKeyRelease
  · exact ⟨.keyboard, if_pos hkey⟩
  · rw [if_neg hkey]
    exact Dict.fetch_of_mem h.1

theorem getDeviceUuid_same (api : X11Api ω) (deviceId : Int) (self : EventSwitch) (world : ω) :
    SameDevices self (self.getDeviceUuid api deviceId world).2.1 := by
  unfold getDeviceUuid
  cases self.deviceIds.lookup deviceId <;> exact ⟨rfl, rfl⟩

/-- **One entry**: for a registered device the builder's entry is added, with other shared fields,
and nothing else. -/
theorem emit_spec {B : Type} [Builder B] (api : X11Api ω) (getTime : Nat → τ → Option Int × τ)
    (event : XIRawEvent) (timestamp : Int) (systemEvent : List UInt8) (pointer : QueryPointerResult)
    (builder : B) (s : Handling ω τ) (h : s.xEventSwitch.Registered event.sourceid) :
    ∃ fields s', emit api getTime event timestamp systemEvent pointer builder s = .ok s' ∧
      s'.data = Builder.build (Builder.mapBase fields builder) s.data ∧
        SameDevices s.xEventSwitch s'.xEventSwitch := by
  obtain ⟨device, hdevice⟩ := getDevice_ok h event.evtype
  have hsame := getDeviceUuid_same api event.sourceid s.xEventSwitch s.world
  obtain ⟨name, hname⟩ : ∃ name, (s.xEventSwitch.getDeviceUuid api event.sourceid
      s.world).2.1.idToName.fetch Fault.outOfRange event.sourceid = .ok name := by
    rw [hsame.idToName]
    exact Dict.fetch_of_mem h.2
  unfold emit
  simp only [hdevice, setDeviceNameFields, hname]
  exact ⟨_, _, rfl, rfl, hsame⟩

end EventSwitch
end Evget.X11
