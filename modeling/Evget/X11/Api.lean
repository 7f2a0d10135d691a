import Evget.Event.Schema

/-!
# What the X11 backend sees of X

The types of Xlib and XInput 2 with the members that the backend reads, and `X11Api`, the interface
behind which it calls them.  An answer of the interface can depend on everything that has happened:
every function takes the state of the world and returns the next one.

* `XIRawEvent`, `XIDeviceInfo`, `XDeviceInfo`   events and devices;
* `X11Api`                                      the interface;
* `Fault`                                       what ends a handler other than a return.
-/

namespace Evget.X11
open SQLite

/-- an exception, or a use of a null pointer -/
inductive Fault where
  | outOfRange
  | badNumericCast
  | nullPointer
deriving DecidableEq, Repr

abbrev Atom := Nat
abbrev Window := Nat
abbrev KeySym := Nat

/-! ## event types and flags -/

def xiDeviceChanged : Int := 1
def xiKeyRelease : Int := 3
def xiHierarchyChanged : Int := 11
def xiRawKeyPress : Int := 13
def xiRawKeyRelease : Int := 14
def xiRawButtonPress : Int := 15
def xiRawButtonRelease : Int := 16
def xiRawMotion : Int := 17
def xiRawTouchBegin : Int := 22
def xiRawTouchUpdate : Int := 23
def xiRawTouchEnd : Int := 24

/-- the same bit stands for both -/
def xiPointerEmulated : UInt32 := 0x10000
def xiKeyRepeat : UInt32 := 0x10000

/-! ## events -/

/-- the values of the valuators whose bits are set in the mask, in their order -/
structure XIValuatorState where
  maskLen : Nat
  mask : List UInt8
  values : List Double
deriving DecidableEq, Repr

structure XIRawEvent where
  evtype : Int
  sourceid : Int
  detail : Int
  flags : UInt32
  time : Nat
  valuators : XIValuatorState
deriving DecidableEq, Repr

/-- what the transformer and its switches read of an event: the time of its arrival in nanoseconds
and, through a `cookie_` that is not null, its data, whose type is also that of the cookie -/
structure InputEvent where
  timestamp : Int
  cookie : Option XIRawEvent
deriving DecidableEq, Repr

/-! ## devices -/

structure XIButtonClassInfo where
  labels : List Atom
deriving DecidableEq, Repr

def XIButtonClassInfo.numButtons (info : XIButtonClassInfo) : Nat := info.labels.length

inductive XIScrollType where
  | vertical | horizontal
deriving DecidableEq, Repr

structure XIScrollClassInfo where
  number : Int
  scrollType : XIScrollType
deriving DecidableEq, Repr

structure XIValuatorClassInfo where
  number : Int
  label : Atom
deriving DecidableEq, Repr

inductive XIAnyClassInfo where
  | button (info : XIButtonClassInfo)
  | scroll (info : XIScrollClassInfo)
  | valuator (info : XIValuatorClassInfo)
  | other
deriving DecidableEq, Repr

/-- a device of `XIQueryDevice`; a pointer to a class can be null -/
structure XIDeviceInfo where
  deviceid : Int
  enabled : Bool
  classes : List (Option XIAnyClassInfo)
deriving DecidableEq, Repr

inductive DeviceUse where
  | isXPointer | isXKeyboard | isXExtensionDevice | isXExtensionKeyboard | isXExtensionPointer
deriving DecidableEq, Repr

structure XDeviceInfo where
  id : Nat
  type : Atom
  name : List UInt8
  use : DeviceUse
deriving DecidableEq, Repr

/-! ## the interface -/

structure XWindowDimensions where
  width : Nat
  height : Nat
deriving DecidableEq, Repr

/-- `modifierState` is the effective state -/
structure QueryPointerResult where
  rootX : Double
  rootY : Double
  modifierState : UInt32
  screenNumber : Int
deriving DecidableEq, Repr

structure X11Api (ω : Type) where
  lookupCharacter : XIRawEvent → QueryPointerResult → ω → (List UInt8 × KeySym) × ω
  getDeviceButtonMapping : Int → Nat → ω → Option (List UInt8) × ω
  listInputDevices : ω → List XDeviceInfo × ω
  queryDevice : ω → List XIDeviceInfo × ω
  atomName : Atom → ω → Option (List UInt8) × ω
  getActiveWindow : ω → Option Window × ω
  getFocusWindow : ω → Option Window × ω
  getWindowName : Window → ω → Option (List UInt8) × ω
  getWindowSize : Window → ω → Option XWindowDimensions × ω
  getWindowPosition : Window → ω → Option XWindowDimensions × ω
  queryPointer : Int → ω → QueryPointerResult × ω
  /-- `XKeysymToString` -/
  keysymName : KeySym → Option (List UInt8)
  /-- the generator of random uuids -/
  randomUuid : ω → List UInt8 × ω

def X11Api.keySymToString {ω : Type} (api : X11Api ω) (keySym : KeySym) : List UInt8 :=
  if keySym ≠ 0 then (api.keysymName keySym).getD [] else []

end Evget.X11
