import Evget.IntervalTracker
import Evget.X11.Switches

/-!
# The event transformer

`EventTransformer` refreshes its switches with the devices that X lists, and gives every event to
the switches in turn, until one of them handles it.

* `refreshDevices`    the listing of the devices; also done by the constructor;
* `transformEvent`    one event;
* `Step`, `run`       the events of a run up to the first exception, which ends the capture.
-/

namespace Evget.X11
open SQLite

variable {ω : Type}

/-- `touch` tells whether there is a touch switch behind the one for pointers and keys, which every
transformer has that a builder can build -/
structure EventTransformer where
  xEventSwitch : EventSwitch := {}
  devices : Dict Int DeviceType := ∅
  idToName : Dict Int (List UInt8) := ∅
  deviceIntervals : Dict Int IntervalTracker := ∅
  pointerKey : EventSwitchPointerKey := {}
  touch : Bool
  pointerId : Option Int := none

structure EventTransformerBuilder where
  pointerKey : Bool := false
  touch : Bool := false

namespace EventTransformer

/-! ## devices -/

/-- the first device of an id counts -/
def xi2Devices (infos : List XIDeviceInfo) : Dict Int XIDeviceInfo :=
  infos.foldl (fun devices info => devices.emplace info.deviceid info) ∅

def deviceTypeOf (type : List UInt8) : DeviceType :=
  if type = bytes "MOUSE" then .mouse
  else if type = bytes "KEYBOARD" then .keyboard
  else if type = bytes "TOUCHPAD" then .touchpad
  else if type = bytes "TOUCHSCREEN" then .touchscreen
  else if type = bytes "TABLET" ∨ type = bytes "PAD" ∨ type = bytes "STYLUS" ∨
      type = bytes "ERASER" ∨ type = bytes "CURSOR" then .tablet
  else .unknown

/-- an enabled device with a type is told to the switches; the touch switch needs nothing of it -/
def refreshDevice (api : X11Api ω) (xi2 : Dict Int XIDeviceInfo) (device : XDeviceInfo)
    (self : EventTransformer) (world : ω) : Except Fault (EventTransformer × ω) :=
  if device.id > 2147483647 then .error .badNumericCast
  else do
    let deviceId : Int := device.id
    let self := { self with
      pointerId := if device.use = .isXPointer then some deviceId else self.pointerId }
    let xi2Device ← xi2.fetch .outOfRange deviceId
    if xi2Device.enabled = true ∧ device.type ≠ 0 then
      let (type, world) := api.atomName device.type world
      match type with
      | none => .error .nullPointer
      | some type =>
        let deviceType := deviceTypeOf type
        let (pointerKey, xEventSwitch, world) := self.pointerKey.refreshDevices api deviceId
          self.pointerId deviceType device.name xi2Device self.xEventSwitch world
        return ({ self with
          devices := self.devices.emplace deviceId deviceType
          idToName := self.idToName.emplace deviceId device.name
          pointerKey := pointerKey
          xEventSwitch := xEventSwitch }, world)
    else return (self, world)

def refreshListed (api : X11Api ω) (xi2 : Dict Int XIDeviceInfo) : List XDeviceInfo →
    EventTransformer → ω → Except Fault (EventTransformer × ω)
  | [], self, world => .ok (self, world)
  | device :: devices, self, world => do
    let (self, world) ← refreshDevice api xi2 device self world
    refreshListed api xi2 devices self world

def refreshDevices (api : X11Api ω) (self : EventTransformer) (world : ω) :
    Except Fault (EventTransformer × ω) :=
  let (info, world) := api.listInputDevices world
  let (xi2Info, world) := api.queryDevice world
  refreshListed api (xi2Devices xi2Info) info self world

def new (api : X11Api ω) (touch : Bool) (world : ω) : Except Fault (EventTransformer × ω) :=
  refreshDevices api { touch := touch } world

/-- `Build`; the third of its conditions is the first one again -/
def build (api : X11Api ω) (builder : EventTransformerBuilder) (world : ω) :
    Option (Except Fault (EventTransformer × ω)) :=
  if builder.pointerKey then some (new api builder.touch world) else none

/-! ## events -/

/-- `device_intervals_[source_id].Interval(time)` -/
def getTime (sourceId : Int) (time : Nat) (intervals : Dict Int IntervalTracker) :
    Option Int × Dict Int IntervalTracker :=
  let (tracker, intervals) := intervals.subscript sourceId {}
  let (interval, tracker) := tracker.interval time
  (interval, intervals.insert sourceId tracker)

def switchOnEvent (api : X11Api ω) (event : XIRawEvent) (timestamp : Int)
    (self : EventTransformer) (s : Handling ω (Dict Int IntervalTracker)) :
    Except Fault (EventSwitchPointerKey × Handling ω (Dict Int IntervalTracker)) := do
  let (handled, pointerKey, s) ←
    self.pointerKey.switchOnEvent api (getTime event.sourceid) event timestamp s
  if handled ∨ !self.touch then return (pointerKey, s)
  let (_, s) ← EventSwitchTouch.switchOnEvent api (getTime event.sourceid) event timestamp s
  return (pointerKey, s)

def transformEvent (api : X11Api ω) (event : InputEvent) (self : EventTransformer) (world : ω) :
    Except Fault (Data × EventTransformer × ω) :=
  match event.cookie with
  | none => .ok (.new, self, world)
  | some raw =>
    if raw.evtype = xiDeviceChanged ∨ raw.evtype = xiHierarchyChanged then do
      let (self, world) ← refreshDevices api self world
      return (.new, self, world)
    else do
      let (pointerKey, s) ← self.switchOnEvent api raw event.timestamp
        ⟨world, self.deviceIntervals, self.xEventSwitch, .new⟩
      return (s.data, { self with
        xEventSwitch := s.xEventSwitch
        deviceIntervals := s.times
        pointerKey := pointerKey }, s.world)

/-! ## runs -/

/-- an event that has been handled, what was known of the devices before, and what came of it -/
structure Step where
  event : XIRawEvent
  before : EventSwitch
  data : Data

def step (event : InputEvent) (self : EventTransformer) (data : Data) : List Step :=
  match event.cookie with
  | none => []
  | some raw => [⟨raw, self.xEventSwitch, data⟩]

/-- events without data leave no step -/
def run (api : X11Api ω) : List InputEvent → EventTransformer → ω → List Step
  | [], _, _ => []
  | event :: events, self, world =>
    match transformEvent api event self world with
    | .error _ => []
    | .ok (data, self', world) => step event self data ++ run api events self' world

def capture (api : X11Api ω) (touch : Bool) (world : ω) (events : List InputEvent) : List Step :=
  match new api touch world with
  | .error _ => []
  | .ok (self, world) => run api events self world

end EventTransformer
end Evget.X11
