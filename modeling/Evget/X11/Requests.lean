import Evget.Lib.Observed
import Evget.X11.EventTransformer

/-!
# Requests to X

The world of X goes on with every request of the backend.

* `Request`, `Later`       one request, and any number of them;
* `refreshDevices_later`   a refresh makes requests and nothing else.
-/

namespace Evget.X11
open SQLite
open Relation (ReflTransGen)

variable {ω : Type}

inductive Request (api : X11Api ω) : ω → ω → Prop
  | lookupCharacter (event : XIRawEvent) (pointer : QueryPointerResult) (world : ω) :
    Request api world (api.lookupCharacter event pointer world).2
  | getDeviceButtonMapping (deviceId : Int) (size : Nat) (world : ω) :
    Request api world (api.getDeviceButtonMapping deviceId size world).2
  | listInputDevices (world : ω) : Request api world (api.listInputDevices world).2
  | queryDevice (world : ω) : Request api world (api.queryDevice world).2
  | atomName (atom : Atom) (world : ω) : Request api world (api.atomName atom world).2
  | getActiveWindow (world : ω) : Request api world (api.getActiveWindow world).2
  | getFocusWindow (world : ω) : Request api world (api.getFocusWindow world).2
  | getWindowName (window : Window) (world : ω) :
    Request api world (api.getWindowName window world).2
  | getWindowSize (window : Window) (world : ω) :
    Request api world (api.getWindowSize window world).2
  | getWindowPosition (window : Window) (world : ω) :
    Request api world (api.getWindowPosition window world).2
  | queryPointer (deviceId : Int) (world : ω) :
    Request api world (api.queryPointer deviceId world).2
  | randomUuid (world : ω) : Request api world (api.randomUuid world).2

abbrev Later (api : X11Api ω) : ω → ω → Prop := ReflTransGen (Request api)

/-! ## a refresh -/

section
variable (api : X11Api ω)

namespace EventSwitch

theorem getDeviceUuid_later (deviceId : Int) (self : EventSwitch) (world : ω) :
    Later api world (self.getDeviceUuid api deviceId world).2.2 := by
  unfold getDeviceUuid
  cases self.deviceIds.lookup deviceId with
  | some uuid => exact .refl
  | none => exact .single (.randomUuid world)

theorem setButtonLabels_later (deviceId : Int) (labels : List (Atom × UInt8)) (self : EventSwitch)
    (world : ω) : Later api world (setButtonLabels api deviceId labels self world).2 := by
  induction labels generalizing self world with
  | nil => exact .refl
  | cons label labels ih =>
    unfold setButtonLabels
    dsimp only
    split
    · exact ih self world
    · exact .head (.atomName label.1 world) (ih _ _)

theorem setButtonMap_later (buttonInfo : XIButtonClassInfo) (deviceId : Int) (self : EventSwitch)
    (world : ω) : Later api world (setButtonMap api buttonInfo deviceId self world).2 := by
  unfold setButtonMap
  have hmapping : Request api world
      (api.getDeviceButtonMapping deviceId buttonInfo.numButtons world).2 :=
    .getDeviceButtonMapping deviceId buttonInfo.numButtons world
  rcases hmap : api.getDeviceButtonMapping deviceId buttonInfo.numButtons world with ⟨_ | map, next⟩
  · rw [hmap] at hmapping
    exact .single hmapping
  · rw [hmap] at hmapping
    exact .head hmapping (setButtonLabels_later api deviceId _ self next)

theorem refreshDevices_later (deviceId : Int) (pointerId : Option Int) (device : DeviceType)
    (name : List UInt8) (info : XIDeviceInfo) (self : EventSwitch) (world : ω) :
    Later api world (self.refreshDevices api deviceId pointerId device name info world).2 := by
  unfold refreshDevices
  split
  · exact .refl
  · split
    · exact setButtonMap_later ..
    · exact .refl

end EventSwitch

namespace EventSwitchPointerKey

theorem setValuators_later (deviceId : Int) (infos : List XIValuatorClassInfo)
    (self : EventSwitchPointerKey) (world : ω) :
    Later api world (setValuators api deviceId infos self world).2 := by
  induction infos generalizing self world with
  | nil => exact .refl
  | cons info infos ih => exact .head (.atomName info.label world) (ih _ _)

theorem refreshDevices_later (deviceId : Int) (pointerId : Option Int) (device : DeviceType)
    (name : List UInt8) (info : XIDeviceInfo) (self : EventSwitchPointerKey) (x : EventSwitch)
    (world : ω) :
    Later api world (self.refreshDevices api deviceId pointerId device name info x world).2.2 :=
  (EventSwitch.refreshDevices_later api deviceId pointerId device name info x world).trans
    (setValuators_later ..)

end EventSwitchPointerKey
end

namespace EventTransformer
variable {api : X11Api ω} {xi2 : Dict Int XIDeviceInfo} {self self' : EventTransformer}
  {world world' : ω}

theorem refreshDevice_later {device : XDeviceInfo}
    (h : refreshDevice api xi2 device self world = .ok (self', world')) :
    Later api world world' := by
  unfold refreshDevice at h
  split at h
  · cases h
  · obtain ⟨info, -, h⟩ := bind_eq_ok h
    dsimp only at h
    split at h
    · cases htype : (api.atomName device.type world).1 with
      | none =>
        rw [htype] at h
        cases h
      | some type =>
        rw [htype] at h
        cases h
        exact .head (.atomName device.type world) (EventSwitchPointerKey.refreshDevices_later ..)
    · cases h
      exact .refl

theorem refreshListed_later {devices : List XDeviceInfo}
    (h : refreshListed api xi2 devices self world = .ok (self', world')) :
    Later api world world' := by
  induction devices generalizing self world with
  | nil =>
    cases h
    exact .refl
  | cons device devices ih =>
    obtain ⟨⟨next, between⟩, hdevice, h⟩ := bind_eq_ok h
    exact (refreshDevice_later hdevice).trans (ih h)

/-- **A refresh**: two listings, and then more requests about the devices. -/
theorem refreshDevices_later (h : refreshDevices api self world = .ok (self', world')) :
    Later api (api.listInputDevices world).2 world' :=
  .head (.queryDevice _) (refreshListed_later h)

end EventTransformer
end Evget.X11
