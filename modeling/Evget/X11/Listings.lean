import Evget.X11.Refreshes

/-!
# Two listings and their order

A refresh asks X for two listings.  It goes through the first one in its order, and looks every
device up in the second one.

* `InBoth`, `Told`                  a device that is in both, and one that the switches are told of;
* `Refreshes`                       what one device of the first listing changes;
* `refreshDevices_completes_iff`    **a refresh completes** when all devices are in both listings;
* `refreshListed_pointer`           the id that the switches have of the pointer;
* `SameMaps`                        what does not depend on the order of the listing;
* `new_hands_iff`                   **the pointer** gets known to the switches with a device that
                                    comes with it or after it.
-/

namespace Evget.X11
open SQLite

variable {ω : Type}

/-! ## the switches and the id of the pointer -/

namespace EventSwitch

theorem setButtonLabels_pointerId (api : X11Api ω) (deviceId : Int) (labels : List (Atom × UInt8))
    (self : EventSwitch) (world : ω) :
    (setButtonLabels api deviceId labels self world).1.pointerId = self.pointerId := by
  induction labels generalizing self world with
  | nil => rfl
  | cons label labels ih =>
    unfold setButtonLabels
    dsimp only
    split
    · exact ih self world
    · exact ih _ _

theorem refreshDevices_pointerId (api : X11Api ω) (deviceId : Int) (pointerId : Option Int)
    (device : DeviceType) (name : List UInt8) (info : XIDeviceInfo) (self : EventSwitch)
    (world : ω) :
    (self.refreshDevices api deviceId pointerId device name info world).1.pointerId
      = pointerId.getD self.pointerId := by
  unfold refreshDevices
  split
  · rfl
  · split
    · unfold setButtonMap
      split
      · rfl
      · exact setButtonLabels_pointerId ..
    · rfl

end EventSwitch

namespace EventSwitchPointerKey

theorem setScrolls_pointerId (deviceId : Int) (infos : List XIScrollClassInfo)
    (self : EventSwitchPointerKey) :
    (infos.foldl (setScroll deviceId) self).pointerId = self.pointerId := by
  induction infos generalizing self with
  | nil => rfl
  | cons info infos ih => exact ih _

theorem setValuators_pointerId (api : X11Api ω) (deviceId : Int)
    (infos : List XIValuatorClassInfo) (self : EventSwitchPointerKey) (world : ω) :
    (setValuators api deviceId infos self world).1.pointerId = self.pointerId := by
  induction infos generalizing self world with
  | nil => rfl
  | cons info infos ih =>
    unfold setValuators
    refine (ih _ _).trans ?_
    cases (api.atomName info.label world).1 with
    | none => rfl
    | some name =>
      dsimp only
      split_ifs <;> rfl

theorem refreshDevices_pointerId (api : X11Api ω) (deviceId : Int) (pointerId : Option Int)
    (device : DeviceType) (name : List UInt8) (info : XIDeviceInfo) (self : EventSwitchPointerKey)
    (x : EventSwitch) (world : ω) :
    (self.refreshDevices api deviceId pointerId device name info x world).1.pointerId
      = pointerId.getD self.pointerId := by
  unfold refreshDevices
  exact (setValuators_pointerId ..).trans (setScrolls_pointerId ..)

end EventSwitchPointerKey

/-! ## one device -/

/-- a device of the first listing that the second one has too; ids there are `int` -/
def InBoth (infos : List XIDeviceInfo) (device : XDeviceInfo) : Prop :=
  device.id ≤ 2147483647 ∧ ∃ info ∈ infos, info.deviceid = (device.id : Int)

/-- a device that the switches are told of: it has a type, and is enabled where the second listing
has it first -/
def Told (infos : List XIDeviceInfo) (device : XDeviceInfo) : Prop :=
  ((infos.find? fun info => info.deviceid = (device.id : Int)).any XIDeviceInfo.enabled) = true ∧
    device.type ≠ 0

instance (infos : List XIDeviceInfo) (device : XDeviceInfo) : Decidable (Told infos device) :=
  inferInstanceAs (Decidable (_ ∧ _))

namespace EventTransformer
variable {api : X11Api ω} {infos : List XIDeviceInfo}

theorem inBoth_lookup {device : XDeviceInfo} (h : InBoth infos device) :
    ∃ info, (xi2Devices infos).lookup (device.id : Int) = some info := by
  obtain ⟨-, info, hmem, hid⟩ := h
  rw [← Option.isSome_iff_exists, xi2Devices_lookup, List.find?_isSome]
  exact ⟨info, hmem, decide_eq_true hid⟩

theorem told_iff {device : XDeviceInfo} {info : XIDeviceInfo}
    (h : (xi2Devices infos).lookup (device.id : Int) = some info) :
    Told infos device ↔ info.enabled = true ∧ device.type ≠ 0 := by
  rw [xi2Devices_lookup] at h
  unfold Told
  rw [h]
  rfl

/-- a switch that is told of a device knows it -/
theorem refreshDevices_hasDevice (api : X11Api ω) {id : Int} (pointerId : Option Int)
    (device : DeviceType) (name : List UInt8) {info : XIDeviceInfo} (self : EventSwitch) (world : ω)
    (hid : info.deviceid = id) (deviceId : Int) :
    (self.refreshDevices api id pointerId device name info world).1.hasDevice deviceId = true ↔
      self.hasDevice deviceId = true ∨ id = deviceId := by
  have hdevices := (refreshDevices_eventSwitch api id pointerId device name info self world
    hid).2.1 deviceId
  unfold EventSwitch.hasDevice
  rw [decide_eq_true_iff, decide_eq_true_iff, ← AList.lookup_isSome, ← AList.lookup_isSome,
    hdevices, Option.isSome_or, Bool.or_eq_true]
  refine or_congr Iff.rfl ?_
  by_cases hsame : id = deviceId
  · rw [if_pos hsame]
    exact iff_of_true rfl hsame
  · rw [if_neg hsame]
    exact iff_of_false Bool.false_ne_true hsame

structure Refreshes (infos : List XIDeviceInfo) (device : XDeviceInfo)
    (before after : EventTransformer) : Prop where
  pointerId : after.pointerId
    = if device.use = .isXPointer then some (device.id : Int) else before.pointerId
  eventSwitch : after.xEventSwitch.pointerId = if Told infos device then
      after.pointerId.getD before.xEventSwitch.pointerId else before.xEventSwitch.pointerId
  pointerKey : after.pointerKey.pointerId = if Told infos device then
      after.pointerId.getD before.pointerKey.pointerId else before.pointerKey.pointerId
  hasDevice : ∀ deviceId, after.xEventSwitch.hasDevice deviceId = true ↔
    before.xEventSwitch.hasDevice deviceId = true ∨
      (Told infos device ∧ (device.id : Int) = deviceId)

theorem refreshDevice_refreshes {device : XDeviceInfo} {self self' : EventTransformer}
    {world world' : ω}
    (h : refreshDevice api (xi2Devices infos) device self world = .ok (self', world')) :
    InBoth infos device ∧ Refreshes infos device self self' := by
  unfold refreshDevice at h
  by_cases hrange : device.id > 2147483647
  · rw [if_pos hrange] at h
    cases h
  · rw [if_neg hrange] at h
    obtain ⟨info, hfetch, h⟩ := bind_eq_ok h
    have hlookup := Dict.lookup_of_fetch hfetch
    have hid := xi2Devices_id hlookup
    have hboth : InBoth infos device := by
      rw [xi2Devices_lookup] at hlookup
      exact ⟨Nat.le_of_not_lt hrange, info, List.mem_of_find?_eq_some hlookup, hid⟩
    refine ⟨hboth, ?_⟩
    dsimp only at h
    by_cases htyped : info.enabled = true ∧ device.type ≠ 0
    · have htold : Told infos device := (told_iff hlookup).mpr htyped
      rw [if_pos htyped] at h
      cases htype : (api.atomName device.type world).1 with
      | none =>
        rw [htype] at h
        cases h
      | some type =>
        rw [htype] at h
        cases h
        refine ⟨rfl, ?_, ?_, fun deviceId => ?_⟩
        · rw [if_pos htold]
          exact EventSwitch.refreshDevices_pointerId ..
        · rw [if_pos htold]
          exact EventSwitchPointerKey.refreshDevices_pointerId ..
        · rw [and_iff_right htold]
          exact refreshDevices_hasDevice api _ _ device.name self.xEventSwitch _ hid deviceId
    · have htold : ¬ Told infos device := fun ht => htyped ((told_iff hlookup).mp ht)
      rw [if_neg htyped] at h
      cases h
      refine ⟨rfl, (if_neg htold).symm, (if_neg htold).symm, fun deviceId => ?_⟩
      exact (or_iff_left fun ht => htold ht.1).symm

/-- the types of the devices have names, whenever X is asked for them -/
def TypesNamed (api : X11Api ω) (devices : List XDeviceInfo) : Prop :=
  ∀ device ∈ devices, device.type ≠ 0 → ∀ world, (api.atomName device.type world).1 ≠ none

theorem refreshDevice_returns (api : X11Api ω) {device : XDeviceInfo} (h : InBoth infos device)
    (hnamed : device.type ≠ 0 → ∀ world, (api.atomName device.type world).1 ≠ none)
    (self : EventTransformer) (world : ω) :
    ∃ self' world', refreshDevice api (xi2Devices infos) device self world
      = .ok (self', world') := by
  obtain ⟨info, hlookup⟩ := inBoth_lookup h
  unfold refreshDevice
  rw [if_neg (Nat.not_lt.mpr h.1)]
  dsimp only
  rw [Dict.fetch_of_lookup hlookup]
  show ∃ self' world', (if info.enabled = true ∧ device.type ≠ 0 then _ else _) = _
  by_cases htyped : info.enabled = true ∧ device.type ≠ 0
  · rw [if_pos htyped]
    cases htype : (api.atomName device.type world).1 with
    | none => exact absurd htype (hnamed htyped.2 world)
    | some type => exact ⟨_, _, rfl⟩
  · rw [if_neg htyped]
    exact ⟨_, _, rfl⟩

/-! ## a refresh completes -/

/-- the devices that a refresh knows of are those it knew of before and those it is told of -/
theorem refreshListed_devices {devices : List XDeviceInfo} {self self' : EventTransformer}
    {world world' : ω}
    (h : refreshListed api (xi2Devices infos) devices self world = .ok (self', world')) :
    (∀ device ∈ devices, InBoth infos device) ∧
      ∀ deviceId, self'.xEventSwitch.hasDevice deviceId = true ↔
        self.xEventSwitch.hasDevice deviceId = true ∨
          ∃ device ∈ devices, Told infos device ∧ (device.id : Int) = deviceId := by
  induction devices generalizing self world with
  | nil =>
    cases h
    exact ⟨nofun, fun deviceId => (or_iff_left (by rintro ⟨_, h, -⟩; cases h)).symm⟩
  | cons device devices ih =>
    obtain ⟨⟨next, world''⟩, hdevice, h⟩ := bind_eq_ok h
    obtain ⟨hboth, hrefreshes⟩ := refreshDevice_refreshes hdevice
    obtain ⟨hrest, hknown⟩ := ih h
    refine ⟨List.forall_mem_cons.mpr ⟨hboth, hrest⟩, fun deviceId => ?_⟩
    rw [hknown, hrefreshes.hasDevice, List.exists_mem_cons_iff, or_assoc]

theorem refreshListed_returns (api : X11Api ω) {devices : List XDeviceInfo}
    (h : ∀ device ∈ devices, InBoth infos device) (hnamed : TypesNamed api devices)
    (self : EventTransformer) (world : ω) :
    ∃ self' world', refreshListed api (xi2Devices infos) devices self world
      = .ok (self', world') := by
  induction devices generalizing self world with
  | nil => exact ⟨self, world, rfl⟩
  | cons device devices ih =>
    obtain ⟨next, world'', hnext⟩ := refreshDevice_returns api
      (h device (List.mem_cons_self ..)) (hnamed device (List.mem_cons_self ..)) self world
    obtain ⟨self', world', hrest⟩ := ih (fun d hd => h d (List.mem_cons_of_mem _ hd))
      (fun d hd => hnamed d (List.mem_cons_of_mem _ hd)) next world''
    refine ⟨self', world', ?_⟩
    unfold refreshListed
    rw [hnext]
    exact hrest

/-- the refresh ends without an exception, and the enabled devices with a type that are in both
listings are known -/
def Completes (api : X11Api ω) (self : EventTransformer) (world : ω) : Prop :=
  ∃ self' world', refreshDevices api self world = .ok (self', world') ∧
    ∀ device ∈ (api.listInputDevices world).1,
      Told (api.queryDevice (api.listInputDevices world).2).1 device →
      self'.xEventSwitch.hasDevice (device.id : Int) = true

/-- **When a refresh completes**: exactly when every device of the first listing is in the
second. -/
theorem refreshDevices_completes_iff (api : X11Api ω) (self : EventTransformer) (world : ω)
    (hnamed : TypesNamed api (api.listInputDevices world).1) :
    Completes api self world ↔ ∀ device ∈ (api.listInputDevices world).1,
      InBoth (api.queryDevice (api.listInputDevices world).2).1 device := by
  constructor
  · rintro ⟨self', world', h, -⟩
    exact (refreshListed_devices h).1
  · intro hboth
    obtain ⟨self', world', h⟩ := refreshListed_returns api hboth hnamed self
      (api.queryDevice (api.listInputDevices world).2).2
    refine ⟨self', world', h, fun device hdevice htold => ?_⟩
    exact ((refreshListed_devices h).2 device.id).mpr (.inr ⟨device, hdevice, htold, rfl⟩)

/-! ### a device that goes between the two requests -/

def listingApi (devices : List XDeviceInfo) (infos : List XIDeviceInfo) : X11Api Unit :=
  { namingApi with
    listInputDevices := fun _ => (devices, ())
    queryDevice := fun _ => (infos, ())
    atomName := fun _ _ => (some (bytes "MOUSE"), ()) }

def pointerDevice : XDeviceInfo := ⟨2, 0, bytes "pointer", .isXPointer⟩

def mouseDevice : XDeviceInfo := ⟨6, 1, bytes "mouse", .isXExtensionPointer⟩

def touchpadDevice : XDeviceInfo := ⟨7, 1, bytes "touchpad", .isXExtensionPointer⟩

theorem listedMouse_completes :
    Completes (listingApi [mouseDevice] [⟨6, true, []⟩, ⟨200, true, []⟩]) { touch := true } () := by
  refine (refreshDevices_completes_iff _ _ () ?_).mpr ?_
  · intro device _ _ world
    exact nofun
  · intro device hdevice
    rw [List.mem_singleton.mp hdevice]
    exact ⟨by decide, ⟨6, true, []⟩, by decide, rfl⟩

/-- **Gone**: the touchpad is in the first listing only, so that the refresh ends with an exception,
and the mouse behind it is not known. -/
theorem goneTouchpad_throws :
    (refreshDevices (listingApi [touchpadDevice, mouseDevice] [⟨6, true, []⟩]) { touch := true }
        ()).toOption.isNone = true ∧
      ¬ Completes (listingApi [touchpadDevice, mouseDevice] [⟨6, true, []⟩]) { touch := true }
        () := by
  refine ⟨rfl, ?_⟩
  rintro ⟨self', world', h, -⟩
  cases h

/-! ## the id of the pointer -/

theorem refreshListed_append {xs ys : List XDeviceInfo} {self self' : EventTransformer}
    {world world' : ω}
    (h : refreshListed api (xi2Devices infos) (xs ++ ys) self world = .ok (self', world')) :
    ∃ between world'', refreshListed api (xi2Devices infos) xs self world = .ok (between, world'') ∧
      refreshListed api (xi2Devices infos) ys between world'' = .ok (self', world') := by
  induction xs generalizing self world with
  | nil => exact ⟨self, world, rfl, h⟩
  | cons device xs ih =>
    obtain ⟨⟨next, world''⟩, hdevice, h⟩ := bind_eq_ok h
    obtain ⟨between, last, hbetween, hlast⟩ := ih h
    refine ⟨between, last, ?_, hlast⟩
    unfold refreshListed
    rw [hdevice]
    exact hbetween

/-- devices that are not the pointer hand on the id that is known of it -/
theorem refreshListed_pointer {devices : List XDeviceInfo} {self self' : EventTransformer}
    {world world' : ω} (hother : ∀ device ∈ devices, device.use ≠ .isXPointer)
    (h : refreshListed api (xi2Devices infos) devices self world = .ok (self', world')) :
    self'.pointerId = self.pointerId ∧
      (self'.xEventSwitch.pointerId = if ∃ device ∈ devices, Told infos device then
        self.pointerId.getD self.xEventSwitch.pointerId else self.xEventSwitch.pointerId) ∧
      (self'.pointerKey.pointerId = if ∃ device ∈ devices, Told infos device then
        self.pointerId.getD self.pointerKey.pointerId else self.pointerKey.pointerId) := by
  induction devices generalizing self world with
  | nil =>
    cases h
    exact ⟨rfl, (if_neg (by rintro ⟨_, h, -⟩; cases h)).symm,
      (if_neg (by rintro ⟨_, h, -⟩; cases h)).symm⟩
  | cons device devices ih =>
    obtain ⟨⟨next, world''⟩, hdevice, h⟩ := bind_eq_ok h
    obtain ⟨-, hpointer, hx, hkey, -⟩ := refreshDevice_refreshes hdevice
    rw [if_neg (hother device (List.mem_cons_self ..))] at hpointer
    obtain ⟨hlast, hx', hkey'⟩ := ih (fun d hd => hother d (List.mem_cons_of_mem _ hd)) h
    -- a second hand-over gives the same id
    have htwice : ∀ (pointer : Option Int) (old : Int) (p q : Prop) [Decidable p] [Decidable q],
        (if q then pointer.getD (if p then pointer.getD old else old)
          else if p then pointer.getD old else old) = if p ∨ q then pointer.getD old else old := by
      intro pointer old p q _ _
      cases pointer <;> by_cases hp : p <;> by_cases hq : q <;> simp [hp, hq]
    simp only [List.exists_mem_cons_iff]
    refine ⟨hlast.trans hpointer, ?_, ?_⟩
    · rw [hx', hx, hpointer]
      exact htwice ..
    · rw [hkey', hkey, hpointer]
      exact htwice ..

/-- from a fresh state: the switches get the id with a device that comes with the pointer or after
it, and keep 0 without one -/
theorem refreshListed_hands {before after : List XDeviceInfo} {pointer : XDeviceInfo}
    {touch : Bool} {self' : EventTransformer} {world world' : ω}
    (huse : pointer.use = .isXPointer)
    (hother : ∀ device ∈ before ++ after, device.use ≠ .isXPointer)
    (h : refreshListed api (xi2Devices infos) (before ++ pointer :: after) { touch := touch } world
      = .ok (self', world')) :
    self'.xEventSwitch.pointerId
        = (if ∃ device ∈ pointer :: after, Told infos device then (pointer.id : Int) else 0) ∧
      self'.pointerKey.pointerId
        = if ∃ device ∈ pointer :: after, Told infos device then (pointer.id : Int) else 0 := by
  obtain ⟨between, world₁, hbefore, h⟩ := refreshListed_append h
  obtain ⟨⟨at', world₂⟩, hpointer, hafter⟩ := bind_eq_ok h
  obtain ⟨hid, hx, hkey⟩ := refreshListed_pointer
    (fun device hd => hother device (List.mem_append_left _ hd)) hbefore
  obtain ⟨-, hid', hx', hkey', -⟩ := refreshDevice_refreshes hpointer
  obtain ⟨-, hx'', hkey''⟩ := refreshListed_pointer
    (fun device hd => hother device (List.mem_append_right _ hd)) hafter
  have hzero : between.xEventSwitch.pointerId = 0 := hx.trans (ite_self 0)
  have hzero' : between.pointerKey.pointerId = 0 := hkey.trans (ite_self 0)
  rw [if_pos huse] at hid'
  rw [hid', hzero] at hx'
  rw [hid', hzero'] at hkey'
  rw [hid', hx'] at hx''
  rw [hid', hkey'] at hkey''
  simp only [List.exists_mem_cons_iff]
  refine ⟨hx''.trans ?_, hkey''.trans ?_⟩
  · by_cases htold : Told infos pointer <;> simp [htold]
  · by_cases htold : Told infos pointer <;> simp [htold]

/-! ## the order of the listing -/

/-- what a refresh learns of a device but for its buttons, when X gives the same names all the
time -/
def describe (names : Atom → Option (List UInt8)) (infos : List XIDeviceInfo)
    (device : XDeviceInfo) : Option Listed :=
  (infos.find? fun info => info.deviceid = (device.id : Int)).bind fun info =>
    if info.enabled = true ∧ device.type ≠ 0 then
      let valuators := info.classes.filterMap EventSwitchPointerKey.valuatorClass
      some {
        id := device.id
        type := deviceTypeOf ((names device.type).getD [])
        name := device.name
        buttons := []
        scrolls := info.classes.filterMap EventSwitchPointerKey.scrollClass
        xs := (valuators.filter fun info => isX (names info.label)).map XIValuatorClassInfo.number
        ys := (valuators.filter fun info => isY (names info.label)).map XIValuatorClassInfo.number }
    else none

def withoutButtons (listed : Listed) : Listed := { listed with buttons := [] }

section
variable {names : Atom → Option (List UInt8)}

theorem readAxes_names (hnames : ∀ atom world, (api.atomName atom world).1 = names atom)
    (infos : List XIValuatorClassInfo) (world : ω) :
    (readAxes api infos world).1
      = ((infos.filter fun info => isX (names info.label)).map XIValuatorClassInfo.number,
        (infos.filter fun info => isY (names info.label)).map XIValuatorClassInfo.number) := by
  induction infos generalizing world with
  | nil => rfl
  | cons info infos ih =>
    have hcons : (readAxes api (info :: infos) world).1
        = (let rest := (readAxes api infos (api.atomName info.label world).2).1
          (if isX (api.atomName info.label world).1 then info.number :: rest.1 else rest.1,
            if isY (api.atomName info.label world).1 then info.number :: rest.2 else rest.2)) := rfl
    rw [ih] at hcons
    rw [hcons, hnames, List.filter_cons, List.filter_cons]
    refine Prod.ext ?_ ?_
    · dsimp only
      split <;> rfl
    · dsimp only
      split <;> rfl

theorem readDevice_describe (hnames : ∀ atom world, (api.atomName atom world).1 = names atom)
    {device : XDeviceInfo} {listed : Option Listed} {world world' : ω}
    (h : readDevice api (xi2Devices infos) device world = .ok (listed, world')) :
    listed.map withoutButtons = describe names infos device := by
  unfold readDevice at h
  unfold describe
  split at h
  · cases h
  · obtain ⟨info, hfetch, h⟩ := bind_eq_ok h
    rw [← xi2Devices_lookup, Dict.lookup_of_fetch hfetch, Option.bind_some]
    by_cases htyped : info.enabled = true ∧ device.type ≠ 0
    · rw [if_pos htyped] at h
      rw [if_pos htyped]
      dsimp only at h
      cases htype : (api.atomName device.type world).1 with
      | none =>
        rw [htype] at h
        cases h
      | some type =>
        rw [htype] at h
        cases h
        rw [hnames] at htype
        show some ({
          id := _
          type := _
          name := _
          buttons := []
          scrolls := _
          xs := (readAxes api _ _).1.1
          ys := (readAxes api _ _).1.2 } : Listed) = _
        rw [readAxes_names hnames, htype]
        rfl
    · rw [if_neg htyped] at h
      rw [if_neg htyped]
      cases h
      rfl

theorem readDevices_describe (hnames : ∀ atom world, (api.atomName atom world).1 = names atom)
    {devices : List XDeviceInfo} {listed : List Listed} {world world' : ω}
    (h : readDevices api (xi2Devices infos) devices world = .ok (listed, world')) :
    listed.map withoutButtons = devices.filterMap (describe names infos) := by
  induction devices generalizing listed world with
  | nil =>
    cases h
    rfl
  | cons device devices ih =>
    obtain ⟨⟨first, world₁⟩, hfirst, h⟩ := bind_eq_ok h
    obtain ⟨⟨rest, world₂⟩, hrest, h⟩ := bind_eq_ok h
    cases h
    rw [List.map_append, ih hrest, List.filterMap_cons, ← readDevice_describe hnames hfirst]
    cases first <;> rfl

theorem describe_id {device : XDeviceInfo} {listed : Listed}
    (h : describe names infos device = some listed) : listed.id = (device.id : Int) := by
  obtain ⟨info, -, h⟩ := Option.bind_eq_some_iff.mp h
  split at h
  · cases h
    rfl
  · cases h

/-- what is given to a device comes from one device of the listing -/
theorem describe_agree {devices : List XDeviceInfo}
    (hids : (devices.map XDeviceInfo.id).Nodup) {α : Type} (f : Listed → Option α)
    (deviceId : Int) :
    Latest.Agree (Listed.given f deviceId) (devices.filterMap (describe names infos)) := by
  intro a ha b hb v w hv hw
  obtain ⟨device, hdevice, hda⟩ := List.mem_filterMap.mp ha
  obtain ⟨device', hdevice', hdb⟩ := List.mem_filterMap.mp hb
  unfold Listed.given at hv hw
  split at hv
  · split at hw
    · rename_i hida hidb
      have hid : device'.id = device.id := by
        have hsame : (device'.id : Int) = device.id :=
          ((describe_id hdb).symm.trans hidb).trans (hida.symm.trans (describe_id hda))
        exact Int.ofNat_inj.mp hsame
      have heq : device' = device := List.inj_on_of_nodup_map hids hdevice' hdevice hid
      rw [heq, hda] at hdb
      cases hdb
      exact Option.some.inj (hv.symm.trans hw)
    · cases hw
  · cases hv

structure SameMaps (a b : EventTransformer) : Prop where
  devices : ∀ deviceId, a.xEventSwitch.devices.lookup deviceId
    = b.xEventSwitch.devices.lookup deviceId
  names : ∀ deviceId, a.xEventSwitch.idToName.lookup deviceId
    = b.xEventSwitch.idToName.lookup deviceId
  scrolls : ∀ deviceId number,
    ((a.pointerKey.scrollMap.lookup deviceId).bind fun axes => axes.lookup number)
      = (b.pointerKey.scrollMap.lookup deviceId).bind fun axes => axes.lookup number
  x : ∀ deviceId, axis deviceId a.pointerKey.valuatorX = axis deviceId b.pointerKey.valuatorX
  y : ∀ deviceId, axis deviceId a.pointerKey.valuatorY = axis deviceId b.pointerKey.valuatorY

structure Learns (listed : List Listed) (after : EventTransformer) : Prop where
  devices : ∀ deviceId, after.xEventSwitch.devices.lookup deviceId
    = listed.findSome? (Listed.given (fun device => some device.type) deviceId)
  names : ∀ deviceId, after.xEventSwitch.idToName.lookup deviceId
    = listed.findSome? (Listed.given (fun device => some device.name) deviceId)
  scrolls : ∀ deviceId number,
    ((after.pointerKey.scrollMap.lookup deviceId).bind fun axes => axes.lookup number)
      = Latest.of (Listed.given (Listed.scroll number) deviceId) listed
  x : ∀ deviceId, axis deviceId after.pointerKey.valuatorX
    = Latest.of (Listed.given Listed.x deviceId) listed
  y : ∀ deviceId, axis deviceId after.pointerKey.valuatorY
    = Latest.of (Listed.given Listed.y deviceId) listed

theorem refreshListed_learns (api : X11Api ω)
    (hnames : ∀ atom world, (api.atomName atom world).1 = names atom)
    {devices : List XDeviceInfo} {touch : Bool} {self' : EventTransformer} {world world' : ω}
    (h : refreshListed api (xi2Devices infos) devices { touch := touch } world
      = .ok (self', world')) :
    Learns (devices.filterMap (describe names infos)) self' := by
  obtain ⟨listed, hlisted, hknown⟩ := refreshListed_known h
  have hempty : (EventTransformer.known { touch := touch }) = {} := rfl
  rw [hempty] at hknown
  rw [← readDevices_describe hnames hlisted]
  have hfirst : ∀ {α : Type} (view : Known → Option α) (f : Listed → α) (deviceId : Int),
      view {} = none →
      (∀ known device, view (learn known device)
        = (view known).or (device.given (fun d => some (f d)) deviceId)) →
      (∀ device, f (withoutButtons device) = f device) →
      view self'.known = (listed.map withoutButtons).findSome?
        (Listed.given (fun d => some (f d)) deviceId) := by
    intro α view f deviceId hnone hstep hf
    rw [hknown, Latest.foldl_first view hstep, hnone, Option.none_or, List.findSome?_map]
    refine congrArg (fun g => listed.findSome? g) (funext fun device => ?_)
    show _ = Listed.given _ deviceId (withoutButtons device)
    unfold Listed.given
    dsimp only
    rw [hf]
    rfl
  have hlast : ∀ {α : Type} (view : Known → Option α) (f : Listed → Option α) (deviceId : Int),
      view {} = none →
      (∀ known device, view (learn known device) = (device.given f deviceId).or (view known)) →
      (∀ device, f (withoutButtons device) = f device) →
      view self'.known = Latest.of (Listed.given f deviceId) (listed.map withoutButtons) := by
    intro α view f deviceId hnone hstep hf
    rw [hknown, Latest.foldl_of view hstep, hnone, Option.or_none, Latest.of_map]
    refine congrArg (fun g => Latest.of g listed) (funext fun device => ?_)
    unfold Listed.given
    rw [hf]
    rfl
  exact {
    devices := fun d => hfirst (fun known => known.type d) Listed.type d rfl (fun _ _ => rfl)
      fun _ => rfl
    names := fun d => hfirst (fun known => known.name d) Listed.name d rfl (fun _ _ => rfl)
      fun _ => rfl
    scrolls := fun d number => hlast (fun known => known.scroll d number) (Listed.scroll number) d
      rfl (fun _ _ => rfl) fun _ => rfl
    x := fun d => hlast (fun known => known.x d) Listed.x d rfl (fun _ _ => rfl) fun _ => rfl
    y := fun d => hlast (fun known => known.y d) Listed.y d rfl (fun _ _ => rfl) fun _ => rfl }

/-- **The order** of the listing makes no difference to the maps. -/
theorem Learns.same {devices order : List XDeviceInfo} (hp : order.Perm devices)
    (hids : (devices.map XDeviceInfo.id).Nodup) {a b : EventTransformer}
    (ha : Learns (devices.filterMap (describe names infos)) a)
    (hb : Learns (order.filterMap (describe names infos)) b) : SameMaps a b := by
  have hperm := (hp.symm.filterMap (describe names infos))
  refine ⟨fun d => ?_, fun d => ?_, fun d number => ?_, fun d => ?_, fun d => ?_⟩
  · rw [ha.devices, hb.devices]
    exact Latest.findSome?_perm hperm (describe_agree hids _ d)
  · rw [ha.names, hb.names]
    exact Latest.findSome?_perm hperm (describe_agree hids _ d)
  · rw [ha.scrolls, hb.scrolls]
    exact Latest.of_perm hperm (describe_agree hids _ d)
  · rw [ha.x, hb.x]
    exact Latest.of_perm hperm (describe_agree hids _ d)
  · rw [ha.y, hb.y]
    exact Latest.of_perm hperm (describe_agree hids _ d)

end

/-! ## the pointer of a fresh transformer -/

def reordered (order : List XDeviceInfo) (api : X11Api ω) : X11Api ω :=
  { api with listInputDevices := fun world => (order, (api.listInputDevices world).2) }

/-- a fresh transformer asks for the pointer with its id in both switches, and its maps are the same
for every order of the listing -/
def Hands (api : X11Api ω) (touch : Bool) (world : ω) (pointer : XDeviceInfo) : Prop :=
  ∃ self' world', new api touch world = .ok (self', world') ∧
    self'.xEventSwitch.pointerId = (pointer.id : Int) ∧
    self'.pointerKey.pointerId = (pointer.id : Int) ∧
    ∀ order : List XDeviceInfo, order.Perm (api.listInputDevices world).1 →
      ∃ self'' world'', new (reordered order api) touch world = .ok (self'', world'') ∧
        SameMaps self' self''

/-- **When the pointer is handed over**: exactly when some enabled device with a type comes with the
pointer or after it in the listing, or the pointer has the id that the switches begin with. -/
theorem new_hands_iff (api : X11Api ω) (touch : Bool) (world : ω)
    (names : Atom → Option (List UInt8))
    (hnames : ∀ atom world, (api.atomName atom world).1 = names atom)
    (before after : List XDeviceInfo) (pointer : XDeviceInfo)
    (hdevices : (api.listInputDevices world).1 = before ++ pointer :: after)
    (huse : pointer.use = .isXPointer)
    (hother : ∀ device ∈ before ++ after, device.use ≠ .isXPointer)
    (hids : ((api.listInputDevices world).1.map XDeviceInfo.id).Nodup)
    (hboth : ∀ device ∈ (api.listInputDevices world).1,
      InBoth (api.queryDevice (api.listInputDevices world).2).1 device)
    (htypes : ∀ device ∈ (api.listInputDevices world).1, device.type ≠ 0 →
      names device.type ≠ none) :
    Hands api touch world pointer ↔ pointer.id = 0 ∨ ∃ device ∈ pointer :: after,
      Told (api.queryDevice (api.listInputDevices world).2).1 device := by
  have hnamed : ∀ order : List XDeviceInfo, order.Perm (api.listInputDevices world).1 →
      TypesNamed api order := by
    intro order hp device hdevice htype w
    rw [hnames]
    exact htypes device (hp.mem_iff.mp hdevice) htype
  obtain ⟨self', world', h⟩ := refreshListed_returns api hboth (hnamed _ (.refl _))
    { touch := touch } (api.queryDevice (api.listInputDevices world).2).2
  have hnew : new api touch world = .ok (self', world') := h
  have hpointer := refreshListed_hands huse hother (hdevices ▸ h)
  have hmaps : ∀ order : List XDeviceInfo, order.Perm (api.listInputDevices world).1 →
      ∃ self'' world'', new (reordered order api) touch world = .ok (self'', world'') ∧
        SameMaps self' self'' := by
    intro order hp
    obtain ⟨self'', world'', h'⟩ := refreshListed_returns (reordered order api)
      (fun device hdevice => hboth device (hp.mem_iff.mp hdevice)) (hnamed order hp)
      { touch := touch } (api.queryDevice (api.listInputDevices world).2).2
    exact ⟨self'', world'', h', (refreshListed_learns api hnames h).same hp hids
      (refreshListed_learns (reordered order api) hnames h')⟩
  constructor
  · rintro ⟨found, last, hfound, hx, -⟩
    obtain rfl : self' = found := congrArg Prod.fst (Except.ok.inj (hnew.symm.trans hfound))
    by_cases htold : ∃ device ∈ pointer :: after,
        Told (api.queryDevice (api.listInputDevices world).2).1 device
    · exact .inr htold
    · rw [if_neg htold] at hpointer
      exact .inl (Int.ofNat_eq_zero.mp (hx.symm.trans hpointer.1))
  · intro hcond
    have hid : (if ∃ device ∈ pointer :: after,
        Told (api.queryDevice (api.listInputDevices world).2).1 device then (pointer.id : Int)
          else 0) = (pointer.id : Int) := by
      rcases hcond with hzero | htold
      · rw [hzero]
        exact ite_self _
      · exact if_pos htold
    exact ⟨self', world', hnew, hpointer.1.trans hid, hpointer.2.trans hid, hmaps⟩

/-! ### the pointer before and after a mouse -/

def bothEnabled : List XIDeviceInfo := [⟨2, true, []⟩, ⟨6, true, []⟩]

theorem pointerFirst_hands : Hands (listingApi [pointerDevice, mouseDevice] bothEnabled) true ()
    pointerDevice := by
  refine (new_hands_iff _ true () (fun _ => some (bytes "MOUSE")) (fun _ _ => rfl) []
    [mouseDevice] pointerDevice rfl rfl ?_ (by decide) ?_ fun _ _ _ => nofun).mpr
    (.inr ⟨mouseDevice, by decide, by decide⟩)
  · intro device hdevice
    rw [List.mem_singleton.mp hdevice]
    decide
  · intro device hdevice
    rcases List.mem_cons.mp hdevice with rfl | hdevice
    · exact ⟨by decide, ⟨2, true, []⟩, by decide, rfl⟩
    · rw [List.mem_singleton.mp hdevice]
      exact ⟨by decide, ⟨6, true, []⟩, by decide, rfl⟩

/-- **Not handed over**: the pointer comes last and has no type, so that both switches ask for the
pointer of the device 0. -/
theorem pointerLast_fails :
    (∀ device ∈ [mouseDevice, pointerDevice], InBoth bothEnabled device) ∧
      Told bothEnabled mouseDevice ∧
      ¬ Hands (listingApi [mouseDevice, pointerDevice] bothEnabled) true () pointerDevice := by
  refine ⟨fun device hdevice => ?_, by decide, ?_⟩
  · rcases List.mem_cons.mp hdevice with rfl | hdevice
    · exact ⟨by decide, ⟨6, true, []⟩, by decide, rfl⟩
    · rw [List.mem_singleton.mp hdevice]
      exact ⟨by decide, ⟨2, true, []⟩, by decide, rfl⟩
  · rintro ⟨self', world', h, hx, -⟩
    cases h
    exact absurd hx (by decide)

end EventTransformer
end Evget.X11
