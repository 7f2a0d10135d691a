import Evget.Event.Texts

/-!
# What the libinput backend sees of libinput and xkbcommon

* `Device`, `EventData`, `LibInputEvent`   an event, with what the interface returns for it;
* `Xkb`                                    the keyboard state of xkbcommon;
* `Platform`                               what else the backend calls;
* `exactMinus`                             the difference of doubles without rounding.
-/

namespace Evget

/-- a double as a rational number; infinities and values that are no numbers, which libinput does
not report, count as 0 -/
def Double.value : Double → Rat
  | .finite negative magnitude => if negative then -magnitude else magnitude
  | _ => 0

def Double.ofRat (x : Rat) : Double := .finite (x < 0) (if x < 0 then -x else x)

@[simp] theorem Double.value_ofRat (x : Rat) : (Double.ofRat x).value = x := by
  unfold ofRat value
  by_cases h : x < 0
  · simp [h]
  · simp [h]

end Evget

namespace Evget.LibInput
open SQLite

/-! ## events -/

/-- a device as the interface reports it; `handle` is its address -/
structure Device where
  handle : Nat
  name : List UInt8
  fingerCount : Int
  hasTouch : Bool
  hasPointer : Bool
deriving DecidableEq, Repr

inductive ButtonState where
  | released | pressed
deriving DecidableEq, Repr

inductive KeyState where
  | released | pressed
deriving DecidableEq, Repr

inductive TipState where
  | up | down
deriving DecidableEq, Repr

inductive ProximityState where
  | stateOut | stateIn
deriving DecidableEq, Repr

/-- the type of an event with the answers of its accessors.  Times are microseconds; an absolute
position depends on the width or the height that it is asked for; a scroll event has a value for
the axes that it has. -/
inductive EventData where
  | deviceAdded
  | deviceRemoved
  | keyboardKey (time : UInt64) (key : UInt32) (state : KeyState)
  | pointerMotion (time : UInt64) (dx dy : Double)
  | pointerMotionAbsolute (time : UInt64) (x y : UInt32 → Double)
  | pointerButton (time : UInt64) (button : UInt32) (state : ButtonState)
  | pointerScrollWheel (time : UInt64) (vertical horizontal : Option Double)
  | pointerScrollFinger (time : UInt64) (vertical horizontal : Option Double)
  | pointerScrollContinuous (time : UInt64) (vertical horizontal : Option Double)
  | touchDown (time : UInt64) (seatSlot : Int32) (x y : UInt32 → Double)
  | touchUp (time : UInt64) (seatSlot : Int32)
  | touchMotion (time : UInt64) (seatSlot : Int32) (x y : UInt32 → Double)
  | touchCancel (time : UInt64) (seatSlot : Int32)
  | tabletToolAxis (time : UInt64) (dx dy : Double)
  | tabletToolProximity (time : UInt64) (dx dy : Double) (state : ProximityState)
  | tabletToolTip (time : UInt64) (dx dy : Double) (state : TipState)
  | tabletToolButton (time : UInt64) (button : UInt32) (state : ButtonState)
  | tabletPadButton (time : UInt64) (button : UInt32) (state : ButtonState)
  | tabletPadKey (time : UInt64) (key : UInt32) (state : KeyState)
  | tabletPadRing
  | tabletPadStrip
  | other

structure LibInputEvent where
  device : Option Device
  data : EventData

/-- an event, which can be null, with the time of its arrival in nanoseconds -/
structure InputEvent where
  timestamp : Int
  event : Option LibInputEvent

/-! ## the rest of the world -/

inductive XkbKeyDirection where
  | up | down
deriving DecidableEq, Repr

/-- xkbcommon as a machine with the states `κ` -/
structure Xkb (κ : Type) where
  keyName : κ → UInt32 → Option (List UInt8)
  keyCharacter : κ → UInt32 → Option (List UInt8)
  isModifierActive : κ → List UInt8 → Bool
  updateKeyState : κ → UInt32 → XkbKeyDirection → κ

structure ScreenDimensions where
  width : UInt32
  height : UInt32
deriving DecidableEq, Repr

structure Platform (κ : Type) where
  xkb : Xkb κ
  dimensions : ScreenDimensions
  /-- `libevdev_event_code_get_name` for keys -/
  eventCodeName : UInt32 → Option (List UInt8)
  /-- the uuids in the order in which the random generator gives them -/
  randomUuid : Nat → List UInt8
  /-- the difference of two doubles, rounded or exact -/
  minus : Double → Double → Double

def exactMinus (x y : Double) : Double := .ofRat (x.value - y.value)

/-! ### a platform with a shift key -/

def sampleUuid (n : Nat) : List UInt8 :=
  bytes "00000000-0000-4000-8000-" ++ decimal (100000000000 + n : Nat)

theorem sampleUuid_injective : Function.Injective sampleUuid := by
  intro m n h
  have := decimal_injective (List.append_cancel_left h)
  omega

/-- the state tells whether the shift key, which is 42 for evdev, is held; the key 30 is an A -/
def sampleXkb : Xkb Bool where
  keyName state key :=
    if key = 38 then some (if state then bytes "A" else bytes "a")
    else if key = 50 then some (bytes "Shift_L")
    else none
  keyCharacter state key :=
    if key = 38 then some (if state then bytes "A" else bytes "a") else none
  isModifierActive state name := state && name == bytes "Shift"
  updateKeyState state key direction := if key = 50 then direction == .down else state

def samplePlatform : Platform Bool where
  xkb := sampleXkb
  dimensions := ⟨1920, 1080⟩
  eventCodeName code := if code = 272 then some (bytes "BTN_LEFT") else none
  randomUuid := sampleUuid
  minus := exactMinus

end Evget.LibInput
