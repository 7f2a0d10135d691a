import Evget.Event.Builders
import Evget.IntervalTracker
import Evget.Lib.Dict
import Evget.Lib.Mealy
import Evget.LibInput.Api

/-!
# The libinput event transformer

`EventTransformer` makes entries of the events of libinput.  It keeps a uuid for every device, and
by uuid what it needs of the device's past: the time of the last event, the last absolute position,
and the last position of every touch.

* `Record`             a builder that has been built;
* `records`            the builders of one event, and the state after it;
* `transformEvent`     the entries of one event, and the state after it;
* `run`                the events of a run, each with its entries.
-/

namespace Evget.LibInput
open SQLite

variable {κ : Type}

inductive Record where
  | key (builder : Key)
  | mouseClick (builder : MouseClick)
  | mouseMove (builder : MouseMove)
  | mouseScroll (builder : MouseScroll)
deriving DecidableEq, Repr

namespace Record

def base : Record → Base
  | key builder => builder.toBase
  | mouseClick builder => builder.toBase
  | mouseMove builder => builder.toBase
  | mouseScroll builder => builder.toBase

def entry : Record → Entry
  | key builder => builder.entry
  | mouseClick builder => builder.entry
  | mouseMove builder => builder.entry
  | mouseScroll builder => builder.entry

end Record

structure EventContext where
  timestamp : Int
  deviceType : DeviceType
  deviceName : List UInt8
  deviceUuid : List UInt8
  systemEvent : List UInt8
deriving DecidableEq, Repr

/-- `generated` counts the uuids that have been drawn -/
structure EventTransformer (κ : Type) where
  xkb : κ
  deviceIds : Dict Nat (List UInt8) := ∅
  generated : Nat := 0
  previousAbsoluteX : Dict (List UInt8) Double := ∅
  previousAbsoluteY : Dict (List UInt8) Double := ∅
  previousTouchX : Dict (List UInt8 × Int32) Double := ∅
  previousTouchY : Dict (List UInt8 × Int32) Double := ∅
  deviceIntervals : Dict (List UInt8) IntervalTracker := ∅

def kEventSourceName : List UInt8 := bytes "libinput"

/-- `static_cast<int>` of a code -/
def int (code : UInt32) : Int := Int.bmod code.toNat 0x100000000

/-! ## answers of libinput -/

def getButtonAction : ButtonState → ButtonAction
  | .pressed => .press
  | .released => .release

def getTipAction : TipState → ButtonAction
  | .down => .press
  | .up => .release

def getKeyAction : KeyState → ButtonAction
  | .pressed => .press
  | .released => .release

def getXkbDirection : KeyState → XkbKeyDirection
  | .pressed => .down
  | .released => .up

/-- the type that an event alone tells, and else what the device is capable of -/
def getDeviceType (event : LibInputEvent) : DeviceType :=
  match event.data with
  | .keyboardKey .. | .tabletPadKey .. => .keyboard
  | .tabletToolAxis .. | .tabletToolProximity .. | .tabletToolTip .. | .tabletToolButton ..
  | .tabletPadButton .. | .tabletPadRing | .tabletPadStrip => .tablet
  | _ =>
    match event.device with
    | none => .unknown
    | some device =>
      if device.fingerCount > 0 then .touchpad
      else if device.hasTouch then .touchscreen
      else if device.hasPointer then .mouse
      else .unknown

/-! ## fields -/

def modifierNames : List (List UInt8 × ModifierValue) := [
  (bytes "Shift", .shift),
  (bytes "Lock", .capsLock),
  (bytes "Control", .control),
  (bytes "Alt", .alt),
  (bytes "NumLock", .numLock),
  (bytes "Mod3", .mod3),
  (bytes "Super", .super),
  (bytes "Mod5", .mod5)]

def setModifierValues (xkb : Xkb κ) (state : κ) (base : Base) : Base :=
  modifierNames.foldl (fun base (name, value) =>
    if xkb.isModifierActive state name then base.modifier value else base) base

def setPosition {B : Type} [Builder B] (x y : Double) (builder : B) : B :=
  Builder.mapBase (fun base => (base.positionX x).positionY y) builder

/-- absolute motion as relative motion: the position is set when both coordinates of the previous
one are there -/
def setDifference (platform : Platform κ) (previousX previousY : Option Double)
    (absoluteX absoluteY : Double) (builder : MouseMove) : MouseMove :=
  match previousX, previousY with
  | some previousX, some previousY =>
    setPosition (platform.minus absoluteX previousX) (platform.minus absoluteY previousY) builder
  | _, _ => builder

def setButtonName {B : Type} (platform : Platform κ) (code : UInt32) (buttonName : List UInt8 → B)
    (builder : B) : B :=
  (platform.eventCodeName code).elim builder buttonName

namespace EventTransformer

def uuid (platform : Platform κ) (handle : Nat) (self : EventTransformer κ) :
    List UInt8 × EventTransformer κ :=
  match self.deviceIds.lookup handle with
  | some uuid => (uuid, self)
  | none =>
    let uuid := platform.randomUuid self.generated
    (uuid, { self with
      deviceIds := self.deviceIds.insert handle uuid
      generated := self.generated + 1 })

section
variable {B : Type} [Builder B]

/-- `device_intervals_[uuid]` is advanced to the time of the event -/
def setBaseFields (platform : Platform κ) (builder : B) (ctx : EventContext) (eventTime : UInt64)
    (self : EventTransformer κ) : B × EventTransformer κ :=
  let (tracker, deviceIntervals) := self.deviceIntervals.subscript ctx.deviceUuid {}
  let (interval, tracker) := tracker.interval eventTime.toNat
  let fields (base : Base) : Base :=
    let base := ((base.timestamp ctx.timestamp).interval interval).device ctx.deviceType
    let base := (base.deviceName ctx.deviceName).deviceId ctx.deviceUuid
    setModifierValues platform.xkb self.xkb
      ((base.systemEvent ctx.systemEvent).eventSource kEventSourceName)
  (Builder.mapBase fields builder,
    { self with deviceIntervals := deviceIntervals.insert ctx.deviceUuid tracker })

end

def setRelativePosition (platform : Platform κ) (builder : MouseMove) (deviceUuid : List UInt8)
    (x y : UInt32 → Double) (self : EventTransformer κ) : MouseMove × EventTransformer κ :=
  let absoluteX := x platform.dimensions.width
  let absoluteY := y platform.dimensions.height
  let previousX := self.previousAbsoluteX.lookup deviceUuid
  let previousY := self.previousAbsoluteY.lookup deviceUuid
  (setDifference platform previousX previousY absoluteX absoluteY builder, { self with
    previousAbsoluteX := self.previousAbsoluteX.insert deviceUuid absoluteX
    previousAbsoluteY := self.previousAbsoluteY.insert deviceUuid absoluteY })

def setTouchRelativePosition (platform : Platform κ) (builder : MouseMove)
    (deviceUuid : List UInt8) (seatSlot : Int32) (x y : UInt32 → Double)
    (self : EventTransformer κ) : MouseMove × EventTransformer κ :=
  let key := (deviceUuid, seatSlot)
  let absoluteX := x platform.dimensions.width
  let absoluteY := y platform.dimensions.height
  let previousX := self.previousTouchX.lookup key
  let previousY := self.previousTouchY.lookup key
  (setDifference platform previousX previousY absoluteX absoluteY builder, { self with
    previousTouchX := self.previousTouchX.insert key absoluteX
    previousTouchY := self.previousTouchY.insert key absoluteY })

def clearTouchPosition (deviceUuid : List UInt8) (seatSlot : Int32) (self : EventTransformer κ) :
    EventTransformer κ :=
  { self with
    previousTouchX := self.previousTouchX.erase (deviceUuid, seatSlot)
    previousTouchY := self.previousTouchY.erase (deviceUuid, seatSlot) }

/-! ## builders -/

def buildTabletToolMove (platform : Platform κ) (ctx : EventContext) (eventTime : UInt64)
    (dx dy : Double) (self : EventTransformer κ) : Record × EventTransformer κ :=
  let (builder, self) := self.setBaseFields platform ({} : MouseMove) ctx eventTime
  (.mouseMove (setPosition dx dy builder), self)

def buildScrollEvent (platform : Platform κ) (ctx : EventContext) (eventTime : UInt64)
    (vertical horizontal : Option Double) (self : EventTransformer κ) :
    List Record × EventTransformer κ :=
  let (builder, self) := self.setBaseFields platform ({} : MouseScroll) ctx eventTime
  let builder := vertical.elim builder builder.vertical
  let builder := horizontal.elim builder builder.horizontal
  ([.mouseScroll builder], self)

/-- there is no position when a touch ends -/
def buildTouchRelease (platform : Platform κ) (ctx : EventContext) (deviceUuid : List UInt8)
    (eventTime : UInt64) (seatSlot : Int32) (self : EventTransformer κ) :
    List Record × EventTransformer κ :=
  let (move, self) := self.setBaseFields platform ({} : MouseMove) ctx eventTime
  let (click, self) := self.setBaseFields platform ({} : MouseClick) ctx eventTime
  let self := self.clearTouchPosition deviceUuid seatSlot
  ([.mouseMove (move.touchId seatSlot.toInt),
    .mouseClick ((click.action .release).touchId seatSlot.toInt)], self)

def build (platform : Platform κ) (ctx : EventContext) (deviceUuid : List UInt8)
    (data : EventData) (self : EventTransformer κ) : List Record × EventTransformer κ :=
  match data with
  | .pointerMotion time dx dy =>
    let (builder, self) := self.setBaseFields platform ({} : MouseMove) ctx time
    ([.mouseMove (setPosition dx dy builder)], self)
  | .pointerMotionAbsolute time x y =>
    let (builder, self) := self.setBaseFields platform ({} : MouseMove) ctx time
    let (builder, self) := self.setRelativePosition platform builder deviceUuid x y
    ([.mouseMove builder], self)
  | .pointerButton time button state =>
    let (builder, self) := self.setBaseFields platform ({} : MouseClick) ctx time
    let builder := (builder.button (int button)).action (getButtonAction state)
    ([.mouseClick (setButtonName platform button builder.buttonName builder)], self)
  | .tabletToolProximity time dx dy state =>
    match state with
    | .stateIn =>
      let (move, self) := self.buildTabletToolMove platform ctx time dx dy
      ([move], self)
    | .stateOut => ([], self)
  | .tabletToolAxis time dx dy =>
    let (move, self) := self.buildTabletToolMove platform ctx time dx dy
    ([move], self)
  | .tabletToolTip time dx dy state =>
    let (move, self) := self.buildTabletToolMove platform ctx time dx dy
    let (click, self) := self.setBaseFields platform ({} : MouseClick) ctx time
    ([move, .mouseClick (click.action (getTipAction state))], self)
  | .tabletToolButton time button state =>
    let (builder, self) := self.setBaseFields platform ({} : MouseClick) ctx time
    let builder := setButtonName platform button builder.buttonName builder
    ([.mouseClick ((builder.button (int button)).action (getButtonAction state))], self)
  | .tabletPadButton time button state =>
    let (builder, self) := self.setBaseFields platform ({} : MouseClick) ctx time
    ([.mouseClick ((builder.button (int button)).action (getButtonAction state))], self)
  | .touchDown time seatSlot x y =>
    let (move, self) := self.setBaseFields platform ({} : MouseMove) ctx time
    let (move, self) := self.setTouchRelativePosition platform (move.touchId seatSlot.toInt)
      deviceUuid seatSlot x y
    let (click, self) := self.setBaseFields platform ({} : MouseClick) ctx time
    ([.mouseMove move, .mouseClick ((click.action .press).touchId seatSlot.toInt)], self)
  | .touchMotion time seatSlot x y =>
    let (builder, self) := self.setBaseFields platform ({} : MouseMove) ctx time
    let (builder, self) := self.setTouchRelativePosition platform
      (builder.touchId seatSlot.toInt) deviceUuid seatSlot x y
    ([.mouseMove builder], self)
  | .touchCancel time seatSlot => self.buildTouchRelease platform ctx deviceUuid time seatSlot
  | .touchUp time seatSlot => self.buildTouchRelease platform ctx deviceUuid time seatSlot
  | .pointerScrollWheel time vertical horizontal =>
    self.buildScrollEvent platform ctx time vertical horizontal
  | .pointerScrollFinger time vertical horizontal =>
    self.buildScrollEvent platform ctx time vertical horizontal
  | .pointerScrollContinuous time vertical horizontal =>
    self.buildScrollEvent platform ctx time vertical horizontal
  | .keyboardKey time key state =>
    -- xkb key codes are evdev key codes + 8
    let xkbKey := key + 8
    let keyName := platform.xkb.keyName self.xkb xkbKey
    let character := platform.xkb.keyCharacter self.xkb xkbKey
    let (builder, self) := self.setBaseFields platform ({} : Key) ctx time
    let builder := (builder.button (int key)).action (getKeyAction state)
    let builder := keyName.elim builder builder.buttonName
    let builder := character.elim builder builder.character
    ([.key builder], { self with
      xkb := platform.xkb.updateKeyState self.xkb xkbKey (getXkbDirection state) })
  | .tabletPadKey time key state =>
    let (builder, self) := self.setBaseFields platform ({} : Key) ctx time
    let builder := (builder.button (int key)).action (getKeyAction state)
    ([.key (setButtonName platform key builder.buttonName builder)], self)
  | .deviceAdded | .deviceRemoved | .tabletPadRing | .tabletPadStrip | .other => ([], self)

end EventTransformer

/-! ## events -/

def EventData.systemEvent : EventData → List UInt8
  | .pointerMotion .. => bytes "LIBINPUT_EVENT_POINTER_MOTION"
  | .pointerMotionAbsolute .. => bytes "LIBINPUT_EVENT_POINTER_MOTION_ABSOLUTE"
  | .pointerButton .. => bytes "LIBINPUT_EVENT_POINTER_BUTTON"
  | .tabletToolProximity .. => bytes "LIBINPUT_EVENT_TABLET_TOOL_PROXIMITY"
  | .tabletToolAxis .. => bytes "LIBINPUT_EVENT_TABLET_TOOL_AXIS"
  | .tabletToolTip .. => bytes "LIBINPUT_EVENT_TABLET_TOOL_TIP"
  | .tabletToolButton .. => bytes "LIBINPUT_EVENT_TABLET_TOOL_BUTTON"
  | .tabletPadButton .. => bytes "LIBINPUT_EVENT_TABLET_PAD_BUTTON"
  | .touchDown .. => bytes "LIBINPUT_EVENT_TOUCH_DOWN"
  | .touchMotion .. => bytes "LIBINPUT_EVENT_TOUCH_MOTION"
  | .touchCancel .. => bytes "LIBINPUT_EVENT_TOUCH_CANCEL"
  | .touchUp .. => bytes "LIBINPUT_EVENT_TOUCH_UP"
  | .pointerScrollWheel .. => bytes "LIBINPUT_EVENT_POINTER_SCROLL_WHEEL"
  | .pointerScrollFinger .. => bytes "LIBINPUT_EVENT_POINTER_SCROLL_FINGER"
  | .pointerScrollContinuous .. => bytes "LIBINPUT_EVENT_POINTER_SCROLL_CONTINUOUS"
  | .keyboardKey .. => bytes "LIBINPUT_EVENT_KEYBOARD_KEY"
  | .tabletPadKey .. => bytes "LIBINPUT_EVENT_TABLET_PAD_KEY"
  | .deviceAdded | .deviceRemoved | .tabletPadRing | .tabletPadStrip | .other => []

def context (timestamp : Int) (event : LibInputEvent) (device : Device) (deviceUuid : List UInt8) :
    EventContext :=
  ⟨timestamp, getDeviceType event, device.name, deviceUuid, event.data.systemEvent⟩

namespace EventTransformer

def records (platform : Platform κ) (self : EventTransformer κ) (event : InputEvent) :
    List Record × EventTransformer κ :=
  match event.event with
  | none => ([], self)
  | some innerEvent =>
    match innerEvent.device with
    | none => ([], self)
    | some device =>
      let (deviceUuid, self) := self.uuid platform device.handle
      self.build platform (context event.timestamp innerEvent device deviceUuid) deviceUuid
        innerEvent.data

def transformEvent (platform : Platform κ) (self : EventTransformer κ) (event : InputEvent) :
    Data × EventTransformer κ :=
  let (records, self) := self.records platform event
  (⟨records.map Record.entry⟩, self)

def run (platform : Platform κ) (self : EventTransformer κ) (events : List InputEvent) :
    List (InputEvent × Data) :=
  Mealy.outputs (transformEvent platform) self events

end EventTransformer
end Evget.LibInput
