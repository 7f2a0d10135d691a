import Evget.Lib.Latest
import Evget.X11.Handlers

/-!
# What is known of the devices

Refreshes add to what is known of the devices and forget nothing.  A listing names the enabled
devices that have a type, with what X says of their classes.

* `Listed`, `listing`      a device of a listing, and the listing that a refresh gets;
* `Known`, `learn`         what is known of the devices, and what a listed device adds to it;
* `refreshDevices_known`   **a refresh** learns its listing;
* `Reached`                the states of a run, with the listings that have been learnt so far;
* `reached_remembers`      **what is known** in a run;
* `sampleListings_stale`   a device that is taken for the device of an earlier listing.
-/

namespace Evget.X11
open SQLite

variable {ω : Type}

/-! ## listings -/

/-- an enabled device with a type: what X says of it, its buttons in the order of their names, its
scroll axes, and the valuators that are labelled as X and Y axes -/
structure Listed where
  id : Int
  type : DeviceType
  name : List UInt8
  buttons : List (Int × List UInt8)
  scrolls : List XIScrollClassInfo
  xs : List Int
  ys : List Int
deriving DecidableEq, Repr

namespace Listed

/-- the name of a button is the last one that is given to it, and so for axes -/
def label (button : Int) (self : Listed) : Option (List UInt8) :=
  Latest.of (fun named => if named.1 = button then some named.2 else none) self.buttons

def scroll (number : Int) (self : Listed) : Option XIScrollClassInfo :=
  Latest.of (fun info => if info.number = number then some info else none) self.scrolls

def x (self : Listed) : Option Int := Latest.of some self.xs

def y (self : Listed) : Option Int := Latest.of some self.ys

end Listed

def readLabels (api : X11Api ω) : List (Atom × UInt8) → ω → List (Int × List UInt8) × ω
  | [], world => ([], world)
  | (label, button) :: labels, world =>
    if label = 0 then readLabels api labels world
    else
      let (name, world) := api.atomName label world
      let (buttons, world) := readLabels api labels world
      (((button.toNat : Int), name.getD []) :: buttons, world)

/-- the buttons of the first class of buttons, if X maps them -/
def readButtons (api : X11Api ω) (info : XIDeviceInfo) (world : ω) :
    List (Int × List UInt8) × ω :=
  match info.classes.findSome? EventSwitch.buttonClass with
  | none => ([], world)
  | some buttons =>
    if buttons.numButtons > 0 then
      match api.getDeviceButtonMapping info.deviceid buttons.numButtons world with
      | (none, world) => ([], world)
      | (some map, world) => readLabels api (buttons.labels.zip map) world
    else ([], world)

def isX (name : Option (List UInt8)) : Bool :=
  name == some EventSwitchPointerKey.kAbsX || name == some EventSwitchPointerKey.kRelX

def isY (name : Option (List UInt8)) : Bool :=
  name == some EventSwitchPointerKey.kAbsY || name == some EventSwitchPointerKey.kRelY

def readAxes (api : X11Api ω) : List XIValuatorClassInfo → ω → (List Int × List Int) × ω
  | [], world => (([], []), world)
  | info :: infos, world =>
    let (name, world) := api.atomName info.label world
    let ((xs, ys), world) := readAxes api infos world
    ((if isX name then info.number :: xs else xs,
      if isY name then info.number :: ys else ys), world)

def readDevice (api : X11Api ω) (xi2 : Dict Int XIDeviceInfo) (device : XDeviceInfo) (world : ω) :
    Except Fault (Option Listed × ω) :=
  if device.id > 2147483647 then .error .badNumericCast
  else do
    let info ← xi2.fetch .outOfRange (device.id : Int)
    if info.enabled = true ∧ device.type ≠ 0 then
      let (type, world) := api.atomName device.type world
      match type with
      | none => .error .nullPointer
      | some type =>
        let (buttons, world) := readButtons api info world
        let ((xs, ys), world) :=
          readAxes api (info.classes.filterMap EventSwitchPointerKey.valuatorClass) world
        return (some {
          id := device.id
          type := EventTransformer.deviceTypeOf type
          name := device.name
          buttons := buttons
          scrolls := info.classes.filterMap EventSwitchPointerKey.scrollClass
          xs := xs
          ys := ys }, world)
    else return (none, world)

def readDevices (api : X11Api ω) (xi2 : Dict Int XIDeviceInfo) : List XDeviceInfo → ω →
    Except Fault (List Listed × ω)
  | [], world => .ok ([], world)
  | device :: devices, world => do
    let (listed, world) ← readDevice api xi2 device world
    let (rest, world) ← readDevices api xi2 devices world
    return (listed.toList ++ rest, world)

/-- the enabled devices with a type that X lists, in its order -/
def listing (api : X11Api ω) (world : ω) : Except Fault (List Listed × ω) :=
  let (devices, world) := api.listInputDevices world
  let (infos, world) := api.queryDevice world
  readDevices api (EventTransformer.xi2Devices infos) devices world

/-! ## what is known -/

@[ext] structure Known where
  type : Int → Option DeviceType := fun _ => none
  name : Int → Option (List UInt8) := fun _ => none
  label : Int → Int → Option (List UInt8) := fun _ _ => none
  scroll : Int → Int → Option XIScrollClassInfo := fun _ _ => none
  x : Int → Option Int := fun _ => none
  y : Int → Option Int := fun _ => none

def knownOf (x : EventSwitch) (self : EventSwitchPointerKey) : Known where
  type := x.devices.lookup
  name := x.idToName.lookup
  label deviceId button := x.buttonName deviceId button
  scroll deviceId number := (self.scrollMap.lookup deviceId).bind fun axes => axes.lookup number
  x deviceId := axis deviceId self.valuatorX
  y deviceId := axis deviceId self.valuatorY

def EventTransformer.known (self : EventTransformer) : Known :=
  knownOf self.xEventSwitch self.pointerKey

def Listed.given {α : Type} (f : Listed → Option α) (deviceId : Int) (self : Listed) : Option α :=
  if self.id = deviceId then f self else none

/-- the type and the name of a device are kept, everything else is replaced -/
def learn (known : Known) (device : Listed) : Known where
  type deviceId := (known.type deviceId).or (device.given (fun d => some d.type) deviceId)
  name deviceId := (known.name deviceId).or (device.given (fun d => some d.name) deviceId)
  label deviceId button := (device.given (Listed.label button) deviceId).or
    (known.label deviceId button)
  scroll deviceId number := (device.given (Listed.scroll number) deviceId).or
    (known.scroll deviceId number)
  x deviceId := (device.given Listed.x deviceId).or (known.x deviceId)
  y deviceId := (device.given Listed.y deviceId).or (known.y deviceId)

/-! ## a refresh learns its listing -/

theorem setButtonName_buttonName (deviceId button : Int) (name : List UInt8) (self : EventSwitch)
    (d b : Int) :
    (self.setButtonName deviceId button name).buttonName d b
      = (if deviceId = d then if button = b then some name else none else none).or
          (self.buttonName d b) :=
  Dict.lookup_insert_nested self.buttonMap deviceId button name d b

theorem setButtonLabels_read (api : X11Api ω) (deviceId : Int) (labels : List (Atom × UInt8))
    (self : EventSwitch) (world : ω) :
    (EventSwitch.setButtonLabels api deviceId labels self world).2
        = (readLabels api labels world).2 ∧
      ∀ d b, (EventSwitch.setButtonLabels api deviceId labels self world).1.buttonName d b
        = (if deviceId = d then Latest.of (fun named => if named.1 = b then some named.2 else none)
            (readLabels api labels world).1 else none).or (self.buttonName d b) := by
  induction labels generalizing self world with
  | nil =>
    refine ⟨rfl, fun d b => ?_⟩
    show _ = (if deviceId = d then none else none).or _
    rw [ite_self, Option.none_or]
    rfl
  | cons label labels ih =>
    obtain ⟨label, button⟩ := label
    unfold EventSwitch.setButtonLabels readLabels
    by_cases h : label = 0
    · rw [if_pos h, if_pos h]
      exact ih self world
    · rw [if_neg h, if_neg h]
      obtain ⟨hworld, hnames⟩ := ih (self.setButtonName deviceId button.toNat
        ((api.atomName label world).1.getD [])) (api.atomName label world).2
      refine ⟨hworld, fun d b => (hnames d b).trans ?_⟩
      rw [setButtonName_buttonName, ← Option.or_assoc]
      dsimp only
      rw [Latest.of_cons]
      by_cases hd : deviceId = d
      · rw [if_pos hd, if_pos hd, if_pos hd]
      · rw [if_neg hd, if_neg hd, if_neg hd]
        rfl

theorem refreshDevices_eventSwitch (api : X11Api ω) (deviceId : Int) (pointerId : Option Int)
    (device : DeviceType) (name : List UInt8) (info : XIDeviceInfo) (self : EventSwitch)
    (world : ω) (hid : info.deviceid = deviceId) :
    (self.refreshDevices api deviceId pointerId device name info world).2
        = (readButtons api info world).2 ∧
      (∀ d, (self.refreshDevices api deviceId pointerId device name info world).1.devices.lookup d
        = (self.devices.lookup d).or (if deviceId = d then some device else none)) ∧
      (∀ d, (self.refreshDevices api deviceId pointerId device name info world).1.idToName.lookup d
        = (self.idToName.lookup d).or (if deviceId = d then some name else none)) ∧
      ∀ d b, (self.refreshDevices api deviceId pointerId device name info world).1.buttonName d b
        = (if deviceId = d then Latest.of (fun named => if named.1 = b then some named.2 else none)
            (readButtons api info world).1 else none).or (self.buttonName d b) := by
  have hdevices := fun d => Dict.lookup_emplace self.devices deviceId device d
  have hnames := fun d => Dict.lookup_emplace self.idToName deviceId name d
  have hnone : ∀ d b, self.buttonName d b
      = (if deviceId = d then Latest.of (fun named : Int × List UInt8 =>
          if named.1 = b then some named.2 else none) [] else none).or (self.buttonName d b) := by
    intro d b
    rw [Latest.of_nil, ite_self, Option.none_or]
  unfold EventSwitch.refreshDevices readButtons
  dsimp only
  cases info.classes.findSome? EventSwitch.buttonClass with
  | none => exact ⟨rfl, hdevices, hnames, hnone⟩
  | some buttons =>
    dsimp only
    by_cases hpos : buttons.numButtons > 0
    · rw [if_pos hpos, if_pos hpos]
      unfold EventSwitch.setButtonMap
      rcases hmap : api.getDeviceButtonMapping info.deviceid buttons.numButtons world
        with ⟨_ | map, world'⟩
      · exact ⟨rfl, hdevices, hnames, hnone⟩
      · dsimp only
        obtain ⟨hworld, hbuttons⟩ := setButtonLabels_read api info.deviceid
          (buttons.labels.zip map) { self with
            pointerId := pointerId.getD self.pointerId
            devices := self.devices.emplace deviceId device
            idToName := self.idToName.emplace deviceId name } world'
        have hsame := EventSwitch.setButtonLabels_same api info.deviceid (buttons.labels.zip map)
          { self with
            pointerId := pointerId.getD self.pointerId
            devices := self.devices.emplace deviceId device
            idToName := self.idToName.emplace deviceId name } world'
        refine ⟨hworld, fun d => ?_, fun d => ?_, fun d b => ?_⟩
        · rw [hsame.devices]
          exact hdevices d
        · rw [hsame.idToName]
          exact hnames d
        · rw [hbuttons, hid]
          rfl
    · rw [if_neg hpos, if_neg hpos]
      exact ⟨rfl, hdevices, hnames, hnone⟩

theorem setScroll_scroll (deviceId : Int) (infos : List XIScrollClassInfo)
    (self : EventSwitchPointerKey) (d n : Int) :
    (((infos.foldl (EventSwitchPointerKey.setScroll deviceId) self).scrollMap.lookup d).bind
        fun axes => axes.lookup n)
      = (if deviceId = d then Latest.of (fun info : XIScrollClassInfo =>
          if info.number = n then some info else none) infos else none).or
            ((self.scrollMap.lookup d).bind fun axes => axes.lookup n) := by
  have hstep : ∀ (s : EventSwitchPointerKey) (info : XIScrollClassInfo),
      (((EventSwitchPointerKey.setScroll deviceId s info).scrollMap.lookup d).bind
          fun axes => axes.lookup n)
        = (if deviceId = d then if info.number = n then some info else none else none).or
            ((s.scrollMap.lookup d).bind fun axes => axes.lookup n) :=
    fun s info => Dict.lookup_insert_nested s.scrollMap deviceId info.number info d n
  have hfold := Latest.foldl_of (fun s : EventSwitchPointerKey =>
    (s.scrollMap.lookup d).bind fun axes => axes.lookup n) hstep infos self
  rw [Latest.of_if] at hfold
  exact hfold

theorem setScroll_axes (deviceId : Int) (infos : List XIScrollClassInfo)
    (self : EventSwitchPointerKey) :
    (infos.foldl (EventSwitchPointerKey.setScroll deviceId) self).valuatorX = self.valuatorX ∧
      (infos.foldl (EventSwitchPointerKey.setScroll deviceId) self).valuatorY
        = self.valuatorY := by
  induction infos generalizing self with
  | nil => exact ⟨rfl, rfl⟩
  | cons info infos ih => exact ih _

theorem axis_insert (valuators : Dict Int (Option Int)) (deviceId number d : Int) :
    axis d (valuators.insert deviceId (some number))
      = (if deviceId = d then some number else none).or (axis d valuators) := by
  unfold axis
  by_cases hd : deviceId = d
  · rw [if_pos hd, hd, AList.lookup_insert]
    rfl
  · rw [if_neg hd, AList.lookup_insert_ne (Ne.symm hd), Option.none_or]

theorem not_isY_of_isX {name : Option (List UInt8)} (h : isX name = true) : isY name = false := by
  unfold isX at h
  rw [Bool.or_eq_true, beq_iff_eq, beq_iff_eq] at h
  rcases h with rfl | rfl <;> rfl

theorem setValuators_cons (api : X11Api ω) (deviceId : Int) (info : XIValuatorClassInfo)
    (infos : List XIValuatorClassInfo) (self : EventSwitchPointerKey) (world : ω) :
    ∃ next : EventSwitchPointerKey,
      EventSwitchPointerKey.setValuators api deviceId (info :: infos) self world
        = EventSwitchPointerKey.setValuators api deviceId infos next
            (api.atomName info.label world).2 ∧
      next.scrollMap = self.scrollMap ∧
      (∀ d, axis d next.valuatorX = (if deviceId = d then
          if isX (api.atomName info.label world).1 then some info.number else none
        else none).or (axis d self.valuatorX)) ∧
      ∀ d, axis d next.valuatorY = (if deviceId = d then
          if isY (api.atomName info.label world).1 then some info.number else none
        else none).or (axis d self.valuatorY) := by
  have hsame : ∀ (d : Int) (v : Option Int), v = (if deviceId = d then none else none).or v :=
    fun d v => by rw [ite_self, Option.none_or]
  refine ⟨_, rfl, ?_⟩
  cases hname : (api.atomName info.label world).1 with
  | none => exact ⟨rfl, fun d => hsame d _, fun d => hsame d _⟩
  | some name =>
    dsimp only
    by_cases hx : name = EventSwitchPointerKey.kAbsX ∨ name = EventSwitchPointerKey.kRelX
    · have hisX : isX (some name) = true := by
        rcases hx with rfl | rfl <;> rfl
      rw [if_pos hx, hisX, not_isY_of_isX hisX]
      exact ⟨rfl, fun d => axis_insert self.valuatorX deviceId info.number d, fun d => hsame d _⟩
    · have hisX : isX (some name) = false := by
        unfold isX
        simpa using hx
      rw [if_neg hx, hisX]
      by_cases hy : name = EventSwitchPointerKey.kAbsY ∨ name = EventSwitchPointerKey.kRelY
      · have hisY : isY (some name) = true := by
          rcases hy with rfl | rfl <;> rfl
        rw [if_pos hy, hisY]
        exact ⟨rfl, fun d => hsame d _, fun d => axis_insert self.valuatorY deviceId info.number d⟩
      · have hisY : isY (some name) = false := by
          unfold isY
          simpa using hy
        rw [if_neg hy, hisY]
        exact ⟨rfl, fun d => hsame d _, fun d => hsame d _⟩

theorem setValuators_read (api : X11Api ω) (deviceId : Int) (infos : List XIValuatorClassInfo)
    (self : EventSwitchPointerKey) (world : ω) :
    (EventSwitchPointerKey.setValuators api deviceId infos self world).2
        = (readAxes api infos world).2 ∧
      (EventSwitchPointerKey.setValuators api deviceId infos self world).1.scrollMap
        = self.scrollMap ∧
      (∀ d, axis d (EventSwitchPointerKey.setValuators api deviceId infos self world).1.valuatorX
        = (if deviceId = d then Latest.of some (readAxes api infos world).1.1 else none).or
            (axis d self.valuatorX)) ∧
      ∀ d, axis d (EventSwitchPointerKey.setValuators api deviceId infos self world).1.valuatorY
        = (if deviceId = d then Latest.of some (readAxes api infos world).1.2 else none).or
            (axis d self.valuatorY) := by
  induction infos generalizing self world with
  | nil =>
    have hnone : ∀ (d : Int) (v : Option Int), v
        = (if deviceId = d then (Latest.of some ([] : List Int)) else none).or v := by
      intro d v
      rw [Latest.of_nil, ite_self, Option.none_or]
    exact ⟨rfl, rfl, fun d => hnone d _, fun d => hnone d _⟩
  | cons info infos ih =>
    obtain ⟨next, hnext, hscroll, hx, hy⟩ := setValuators_cons api deviceId info infos self world
    obtain ⟨hworld, hscroll', hx', hy'⟩ := ih next (api.atomName info.label world).2
    -- the numbers of the valuators so far, with one more when it is such an axis
    have hadd : ∀ (found : Bool) (numbers : List Int) (d : Int) (v : Option Int),
        (if deviceId = d then Latest.of some numbers else none).or
            ((if deviceId = d then if found then some info.number else none else none).or v)
          = (if deviceId = d then
              Latest.of some (if found then info.number :: numbers else numbers)
            else none).or v := by
      intro found numbers d v
      by_cases hd : deviceId = d
      · simp only [if_pos hd]
        cases found with
        | false => rfl
        | true =>
          rw [if_pos rfl, if_pos rfl, Latest.of_cons, Option.or_assoc]
      · simp only [if_neg hd, Option.none_or]
    rw [hnext]
    refine ⟨hworld, hscroll'.trans hscroll, fun d => ?_, fun d => ?_⟩
    · rw [hx', hx]
      exact hadd _ _ d _
    · rw [hy', hy]
      exact hadd _ _ d _

theorem refreshDevices_learn (api : X11Api ω) (deviceId : Int) (pointerId : Option Int)
    (device : DeviceType) (name : List UInt8) (info : XIDeviceInfo) (self : EventSwitchPointerKey)
    (x : EventSwitch) (world : ω) (hid : info.deviceid = deviceId) :
    (self.refreshDevices api deviceId pointerId device name info x world).2.2
        = (readAxes api (info.classes.filterMap EventSwitchPointerKey.valuatorClass)
            (readButtons api info world).2).2 ∧
      knownOf (self.refreshDevices api deviceId pointerId device name info x world).2.1
          (self.refreshDevices api deviceId pointerId device name info x world).1
        = learn (knownOf x self) {
            id := deviceId
            type := device
            name := name
            buttons := (readButtons api info world).1
            scrolls := info.classes.filterMap EventSwitchPointerKey.scrollClass
            xs := (readAxes api (info.classes.filterMap EventSwitchPointerKey.valuatorClass)
              (readButtons api info world).2).1.1
            ys := (readAxes api (info.classes.filterMap EventSwitchPointerKey.valuatorClass)
              (readButtons api info world).2).1.2 } := by
  obtain ⟨hworld, hdevices, hnames, hbuttons⟩ := refreshDevices_eventSwitch api deviceId pointerId
    device name info x world hid
  unfold EventSwitchPointerKey.refreshDevices
  dsimp only
  rw [hworld]
  obtain ⟨hlast, hscroll, hx, hy⟩ := setValuators_read api deviceId
    (info.classes.filterMap EventSwitchPointerKey.valuatorClass)
    ((info.classes.filterMap EventSwitchPointerKey.scrollClass).foldl
      (EventSwitchPointerKey.setScroll deviceId)
      { self with pointerId := pointerId.getD self.pointerId }) (readButtons api info world).2
  refine ⟨hlast, ?_⟩
  apply Known.ext
  · funext d
    exact hdevices d
  · funext d
    exact hnames d
  · funext d b
    exact hbuttons d b
  · funext d n
    show ((EventSwitchPointerKey.scrollMap _).lookup d).bind _ = _
    rw [hscroll]
    exact setScroll_scroll deviceId _ _ d n
  · funext d
    show axis d (EventSwitchPointerKey.valuatorX _) = _
    rw [hx, (setScroll_axes ..).1]
    rfl
  · funext d
    show axis d (EventSwitchPointerKey.valuatorY _) = _
    rw [hy, (setScroll_axes ..).2]
    rfl

namespace EventTransformer

/-- the devices of XInput 2 are kept under their ids, the first of each -/
theorem xi2Devices_lookup (infos : List XIDeviceInfo) (deviceId : Int) :
    (xi2Devices infos).lookup deviceId = infos.find? fun info => info.deviceid = deviceId := by
  have hfirst : (xi2Devices infos).lookup deviceId
      = ((∅ : Dict Int XIDeviceInfo).lookup deviceId).or (infos.findSome? fun info =>
          if info.deviceid = deviceId then some info else none) :=
    Latest.foldl_first (fun devices : Dict Int XIDeviceInfo => devices.lookup deviceId)
      (fun devices info => Dict.lookup_emplace devices info.deviceid info deviceId) infos ∅
  rw [hfirst, AList.lookup_empty, Option.none_or]
  exact (Latest.findSome?_if id infos).trans Option.map_id_apply

theorem xi2Devices_id {infos : List XIDeviceInfo} {deviceId : Int} {info : XIDeviceInfo}
    (h : (xi2Devices infos).lookup deviceId = some info) :
    info.deviceid = deviceId := by
  rw [xi2Devices_lookup] at h
  have hfound := List.find?_some h
  exact of_decide_eq_true hfound

theorem refreshDevice_known {api : X11Api ω} {infos : List XIDeviceInfo} {device : XDeviceInfo}
    {self self' : EventTransformer} {world world' : ω}
    (h : refreshDevice api (xi2Devices infos) device self world = .ok (self', world')) :
    ∃ listed, readDevice api (xi2Devices infos) device world = .ok (listed, world') ∧
      self'.known = listed.toList.foldl learn self.known := by
  unfold refreshDevice at h
  unfold readDevice
  by_cases hrange : device.id > 2147483647
  · rw [if_pos hrange] at h
    cases h
  · rw [if_neg hrange] at h
    rw [if_neg hrange]
    obtain ⟨info, hinfo, h⟩ := bind_eq_ok h
    have hid : info.deviceid = (device.id : Int) := xi2Devices_id (Dict.lookup_of_fetch hinfo)
    rw [hinfo]
    by_cases htyped : info.enabled = true ∧ device.type ≠ 0
    · rw [if_pos htyped] at h
      show ∃ listed, (if info.enabled = true ∧ device.type ≠ 0 then _ else _) = _ ∧ _
      rw [if_pos htyped]
      dsimp only at h ⊢
      cases htype : (api.atomName device.type world).1 with
      | none =>
        rw [htype] at h
        cases h
      | some type =>
        rw [htype] at h
        cases h
        obtain ⟨hworld, hknown⟩ := refreshDevices_learn api (device.id : Int)
          (if device.use = .isXPointer then some (device.id : Int) else self.pointerId)
          (deviceTypeOf type) device.name info self.pointerKey self.xEventSwitch
          (api.atomName device.type world).2 hid
        exact ⟨some _, by rw [hworld]; rfl, hknown⟩
    · rw [if_neg htyped] at h
      cases h
      exact ⟨none, if_neg htyped, rfl⟩

theorem refreshListed_known {api : X11Api ω} {infos : List XIDeviceInfo}
    {devices : List XDeviceInfo} {self self' : EventTransformer} {world world' : ω}
    (h : refreshListed api (xi2Devices infos) devices self world = .ok (self', world')) :
    ∃ listed, readDevices api (xi2Devices infos) devices world = .ok (listed, world') ∧
      self'.known = listed.foldl learn self.known := by
  induction devices generalizing self world with
  | nil =>
    cases h
    exact ⟨[], rfl, rfl⟩
  | cons device devices ih =>
    obtain ⟨⟨next, world''⟩, hdevice, h⟩ := bind_eq_ok h
    obtain ⟨first, hfirst, hlearn⟩ := refreshDevice_known hdevice
    obtain ⟨rest, hrest, hknown⟩ := ih h
    refine ⟨first.toList ++ rest, ?_, ?_⟩
    · unfold readDevices
      rw [hfirst]
      show (readDevices api (xi2Devices infos) devices world'' >>= _) = _
      rw [hrest]
      rfl
    · rw [hknown, hlearn, List.foldl_append]

/-- **A refresh** learns its listing, one device after the other. -/
theorem refreshDevices_known {api : X11Api ω} {self self' : EventTransformer} {world world' : ω}
    (h : refreshDevices api self world = .ok (self', world')) :
    ∃ listed, listing api world = .ok (listed, world') ∧
      self'.known = listed.foldl learn self.known :=
  refreshListed_known h

/-- other events learn nothing -/
theorem transformEvent_known {api : X11Api ω} {event : InputEvent} {self self' : EventTransformer}
    {world world' : ω} {data : Data}
    (hevent : ∀ raw, event.cookie = some raw →
      ¬ (raw.evtype = xiDeviceChanged ∨ raw.evtype = xiHierarchyChanged))
    (h : transformEvent api event self world = .ok (data, self', world')) :
    self'.known = self.known := by
  unfold transformEvent at h
  cases hraw : event.cookie with
  | none =>
    rw [hraw] at h
    cases h
    rfl
  | some raw =>
    rw [hraw] at h
    dsimp only at h
    rw [if_neg (hevent raw hraw)] at h
    obtain ⟨⟨pointerKey, last⟩, hswitch, h⟩ := bind_eq_ok h
    cases h
    obtain ⟨haxes, hemits⟩ := switchOnEvent_emits api raw event.timestamp hswitch
    have hsame : SameButtons self.xEventSwitch last.xEventSwitch := hemits.same
    apply Known.ext
    · funext d
      show last.xEventSwitch.devices.lookup d = _
      rw [hsame.devices]
      rfl
    · funext d
      show last.xEventSwitch.idToName.lookup d = _
      rw [hsame.idToName]
      rfl
    · funext d b
      exact hsame.buttonName d b
    · funext d n
      show ((pointerKey.scrollMap).lookup d).bind _ = _
      rw [haxes.scrollMap]
      rfl
    · exact funext haxes.x
    · exact funext haxes.y

/-! ## runs -/

/-- the states of a run, with the listings of its refreshes: the one of the construction, and those
of the events that tell of changed devices; the world can change in between -/
inductive Reached (api : X11Api ω) : List (List Listed) → EventTransformer → Prop
  | new {touch : Bool} {world world' : ω} {listed : List Listed} {self : EventTransformer}
      (hlisting : listing api world = .ok (listed, world'))
      (h : EventTransformer.new api touch world = .ok (self, world')) : Reached api [listed] self
  | refresh {history : List (List Listed)} {self self' : EventTransformer} {event : InputEvent}
      {raw : XIRawEvent} {world world' : ω} {data : Data} {listed : List Listed}
      (hself : Reached api history self) (hraw : event.cookie = some raw)
      (hevent : raw.evtype = xiDeviceChanged ∨ raw.evtype = xiHierarchyChanged)
      (hlisting : listing api world = .ok (listed, world'))
      (h : transformEvent api event self world = .ok (data, self', world')) :
    Reached api (history ++ [listed]) self'
  | event {history : List (List Listed)} {self self' : EventTransformer} {event : InputEvent}
      {world world' : ω} {data : Data} (hself : Reached api history self)
      (hevent : ∀ raw, event.cookie = some raw →
        ¬ (raw.evtype = xiDeviceChanged ∨ raw.evtype = xiHierarchyChanged))
      (h : transformEvent api event self world = .ok (data, self', world')) :
    Reached api history self'

/-- what is known is what the listings have taught -/
theorem reached_learn {api : X11Api ω} {history : List (List Listed)} {self : EventTransformer}
    (h : Reached api history self) : self.known = history.flatten.foldl learn {} := by
  induction h with
  | @new touch world world' listed self hlisting h =>
    obtain ⟨found, hfound, hknown⟩ := refreshDevices_known h
    obtain rfl : found = listed := congrArg Prod.fst (Except.ok.inj (hfound.symm.trans hlisting))
    rw [hknown, List.flatten_singleton]
    rfl
  | @refresh history self self' event raw world world' data listed _ hraw hevent hlisting h ih =>
    unfold transformEvent at h
    rw [hraw] at h
    dsimp only at h
    rw [if_pos hevent] at h
    obtain ⟨⟨refreshed, world''⟩, hrefresh, h⟩ := bind_eq_ok h
    cases h
    obtain ⟨found, hfound, hknown⟩ := refreshDevices_known hrefresh
    obtain rfl : found = listed := congrArg Prod.fst (Except.ok.inj (hfound.symm.trans hlisting))
    rw [hknown, ih, List.flatten_concat, List.foldl_append]
  | event _ hevent h ih => rw [transformEvent_known hevent h, ih]

/-! ## what is known in a run -/

def lastGiven {α : Type} (f : Listed → Option α) (deviceId : Int) (listed : List Listed) :
    Option α := Latest.of (Listed.given f deviceId) listed

/-- The known devices are those that some listing had, with the type and the name that one of these
listings gave.  The names of buttons, the scroll axes and the X and Y axes are those that the last
listing gives, and for what it does not give those that were given last before. -/
structure Remembers (earlier : List (List Listed)) (last : List Listed) (s : EventTransformer) :
    Prop where
  known : ∀ deviceId, s.xEventSwitch.hasDevice deviceId = true ↔
    ∃ listed ∈ earlier ++ [last], ∃ device ∈ listed, device.id = deviceId
  reported : ∀ deviceId, s.xEventSwitch.hasDevice deviceId = true →
    ∃ listed ∈ earlier ++ [last], ∃ device ∈ listed, device.id = deviceId ∧
      s.xEventSwitch.devices.lookup deviceId = some device.type ∧
      s.xEventSwitch.idToName.lookup deviceId = some device.name
  label : ∀ deviceId button, s.xEventSwitch.buttonName deviceId button
    = (lastGiven (Listed.label button) deviceId last).or
        (lastGiven (Listed.label button) deviceId earlier.flatten)
  scroll : ∀ deviceId number,
    ((s.pointerKey.scrollMap.lookup deviceId).bind fun axes => axes.lookup number)
      = (lastGiven (Listed.scroll number) deviceId last).or
          (lastGiven (Listed.scroll number) deviceId earlier.flatten)
  x : ∀ deviceId, axis deviceId s.pointerKey.valuatorX
    = (lastGiven Listed.x deviceId last).or (lastGiven Listed.x deviceId earlier.flatten)
  y : ∀ deviceId, axis deviceId s.pointerKey.valuatorY
    = (lastGiven Listed.y deviceId last).or (lastGiven Listed.y deviceId earlier.flatten)

section
variable {earlier : List (List Listed)} {last : List Listed} {known : Known}

/-- what a device keeps is what the first listed one gave -/
theorem learn_first (h : known = (earlier.flatten ++ last).foldl learn {}) {α : Type}
    (view : Known → Option α) (f : Listed → α) (deviceId : Int) (hempty : view {} = none)
    (hstep : ∀ known device, view (learn known device)
      = (view known).or (device.given (fun d => some (f d)) deviceId)) :
    view known = ((earlier.flatten ++ last).find? fun device => device.id = deviceId).map f := by
  rw [h, Latest.foldl_first view hstep, hempty, Option.none_or]
  exact Latest.findSome?_if f _

/-- what is replaced is what was given last -/
theorem learn_last (h : known = (earlier.flatten ++ last).foldl learn {}) {α : Type}
    (view : Known → Option α) (f : Listed → Option α) (deviceId : Int) (hempty : view {} = none)
    (hstep : ∀ known device, view (learn known device)
      = (device.given f deviceId).or (view known)) :
    view known = (lastGiven f deviceId last).or (lastGiven f deviceId earlier.flatten) := by
  rw [h, Latest.foldl_of view hstep, hempty, Option.or_none, Latest.of_append]
  rfl

end

/-- **What is known in a run** is what its listings have given, first for types and names, and last
for everything else. -/
theorem reached_remembers {api : X11Api ω} {earlier : List (List Listed)} {last : List Listed}
    {self : EventTransformer} (h : Reached api (earlier ++ [last]) self) :
    Remembers earlier last self := by
  have hlearn := reached_learn h
  rw [List.flatten_concat] at hlearn
  have htype : ∀ deviceId, self.xEventSwitch.devices.lookup deviceId = _ := fun deviceId =>
    learn_first hlearn (fun known => known.type deviceId) Listed.type deviceId rfl fun _ _ => rfl
  have hname : ∀ deviceId, self.xEventSwitch.idToName.lookup deviceId = _ := fun deviceId =>
    learn_first hlearn (fun known => known.name deviceId) Listed.name deviceId rfl fun _ _ => rfl
  have hmem : ∀ device : Listed, device ∈ earlier.flatten ++ last ↔
      ∃ listed ∈ earlier ++ [last], device ∈ listed := by
    intro device
    rw [← List.flatten_concat, List.mem_flatten]
  have hreported : ∀ deviceId, self.xEventSwitch.hasDevice deviceId = true →
      ∃ listed ∈ earlier ++ [last], ∃ device ∈ listed, device.id = deviceId ∧
        self.xEventSwitch.devices.lookup deviceId = some device.type ∧
        self.xEventSwitch.idToName.lookup deviceId = some device.name := by
    intro deviceId hhas
    have hsome := AList.lookup_isSome.mpr (of_decide_eq_true hhas)
    have ht := htype deviceId
    have hn := hname deviceId
    cases hfind : (earlier.flatten ++ last).find? fun device => device.id = deviceId with
    | none =>
      rw [ht, hfind] at hsome
      cases hsome
    | some device =>
      rw [hfind] at ht hn
      obtain ⟨listed, hlisted, hdevice⟩ := (hmem device).mp (List.mem_of_find?_eq_some hfind)
      exact ⟨listed, hlisted, device, hdevice, by simpa using List.find?_some hfind, ht, hn⟩
  refine ⟨fun deviceId => ⟨fun hhas => ?_, ?_⟩, hreported, ?_, ?_, ?_, ?_⟩
  · obtain ⟨listed, hlisted, device, hdevice, hid, -⟩ := hreported deviceId hhas
    exact ⟨listed, hlisted, device, hdevice, hid⟩
  · rintro ⟨listed, hlisted, device, hdevice, hid⟩
    refine decide_eq_true (AList.lookup_isSome.mp ?_)
    rw [htype, Option.isSome_map, List.find?_isSome]
    exact ⟨device, (hmem device).mpr ⟨listed, hlisted, hdevice⟩, decide_eq_true hid⟩
  · intro deviceId button
    exact learn_last hlearn (fun known => known.label deviceId button) _ deviceId rfl
      fun _ _ => rfl
  · intro deviceId number
    exact learn_last hlearn (fun known => known.scroll deviceId number) _ deviceId rfl
      fun _ _ => rfl
  · intro deviceId
    exact learn_last hlearn (fun known => known.x deviceId) _ deviceId rfl fun _ _ => rfl
  · intro deviceId
    exact learn_last hlearn (fun known => known.y deviceId) _ deviceId rfl fun _ _ => rfl

/-! ### an id that is used again -/

def replacingApi : X11Api Nat where
  lookupCharacter _ _ world := (([], 0), world)
  getDeviceButtonMapping _ n world := (some ((List.range n).map fun k => (k + 1).toUInt8), world)
  listInputDevices world := (match world with
    | 0 => [⟨6, 1, bytes "mouse", .isXExtensionPointer⟩]
    | 1 => [⟨6, 2, bytes "keyboard", .isXExtensionKeyboard⟩]
    | _ => [], world)
  queryDevice world := (match world with
    | 0 => [⟨6, true, [some (.button ⟨[3]⟩)]⟩]
    | 1 => [⟨6, true, []⟩]
    | _ => [], world)
  atomName atom world := (match atom with
    | 1 => some (bytes "MOUSE")
    | 2 => some (bytes "KEYBOARD")
    | 3 => some (bytes "Button Left")
    | _ => none, world)
  getActiveWindow world := (none, world)
  getFocusWindow world := (none, world)
  getWindowName _ world := (none, world)
  getWindowSize _ world := (none, world)
  getWindowPosition _ world := (none, world)
  queryPointer _ world := (⟨.finite false 0, .finite false 0, 0, 0⟩, world)
  keysymName _ := none
  randomUuid world := (bytes "uuid", world)

def hierarchyChanged : InputEvent := ⟨0, some ⟨xiHierarchyChanged, 0, 0, 0, 0, ⟨0, [], []⟩⟩⟩

def listedMouse : Listed :=
  ⟨6, .mouse, bytes "mouse", [(1, bytes "Button Left")], [], [], []⟩

def listedKeyboard : Listed := ⟨6, .keyboard, bytes "keyboard", [], [], [], []⟩

/-- what should be known after a listing -/
structure Current (last : List Listed) (s : EventTransformer) : Prop where
  reported : ∀ device ∈ last, s.xEventSwitch.devices.lookup device.id = some device.type ∧
    s.xEventSwitch.idToName.lookup device.id = some device.name
  label : ∀ device ∈ last, ∀ button,
    s.xEventSwitch.buttonName device.id button = device.label button
  scroll : ∀ device ∈ last, ∀ number,
    ((s.pointerKey.scrollMap.lookup device.id).bind fun axes => axes.lookup number)
      = device.scroll number
  axes : ∀ device ∈ last, axis device.id s.pointerKey.valuatorX = device.x ∧
    axis device.id s.pointerKey.valuatorY = device.y
  unknown : ∀ deviceId, (∀ device ∈ last, device.id ≠ deviceId) →
    s.xEventSwitch.hasDevice deviceId = false

theorem replacing_reached : ∃ keyboard nothing,
    (Reached replacingApi [[listedMouse], [listedKeyboard]] keyboard ∧
      keyboard.xEventSwitch.devices.lookup 6 = some .mouse ∧
      keyboard.xEventSwitch.buttonName 6 1 = some (bytes "Button Left")) ∧
    Reached replacingApi [[listedMouse], []] nothing ∧ nothing.xEventSwitch.hasDevice 6 = true := by
  have hmouse := Reached.new (show listing replacingApi 0 = .ok ([listedMouse], 0) from rfl)
    (show new replacingApi true 0 = .ok (_, 0) from rfl)
  have hkeyboard := hmouse.refresh rfl (.inr rfl)
    (show listing replacingApi 1 = .ok ([listedKeyboard], 1) from rfl)
    (show transformEvent replacingApi hierarchyChanged _ 1 = .ok (_, _, 1) from rfl)
  have hnothing := hmouse.refresh rfl (.inr rfl)
    (show listing replacingApi 2 = .ok ([], 2) from rfl)
    (show transformEvent replacingApi hierarchyChanged _ 2 = .ok (_, _, 2) from rfl)
  exact ⟨_, _, ⟨hkeyboard, rfl, rfl⟩, hnothing, rfl⟩

/-- the keyboard has the button of the mouse -/
theorem sampleListings_remembered : ∃ keyboard,
    keyboard.xEventSwitch.buttonName 6 1 = some (bytes "Button Left") ∧
      Remembers [[listedMouse]] [listedKeyboard] keyboard := by
  obtain ⟨keyboard, -, ⟨hreached, -, hlabel⟩, -⟩ := replacing_reached
  have hlast : Reached replacingApi ([[listedMouse]] ++ [[listedKeyboard]]) keyboard := hreached
  exact ⟨keyboard, hlabel, reached_remembers hlast⟩

/-- **Stale**: a keyboard that gets the id of a mouse is taken for the mouse and has its button, and
a mouse that is not listed any more is still known. -/
theorem sampleListings_stale :
    (∃ keyboard, Reached replacingApi [[listedMouse], [listedKeyboard]] keyboard ∧
      keyboard.xEventSwitch.devices.lookup 6 ≠ some listedKeyboard.type ∧
      keyboard.xEventSwitch.buttonName 6 1 ≠ listedKeyboard.label 1 ∧
      ¬ Current [listedKeyboard] keyboard) ∧
    ∃ nothing, Reached replacingApi [[listedMouse], []] nothing ∧
      nothing.xEventSwitch.hasDevice 6 = true ∧ ¬ Current [] nothing := by
  obtain ⟨keyboard, nothing, ⟨hkeyboard, htype, hlabel⟩, hnothing, hhas⟩ := replacing_reached
  have hother : keyboard.xEventSwitch.devices.lookup 6 ≠ some listedKeyboard.type := by
    rw [htype]
    decide
  have hbutton : keyboard.xEventSwitch.buttonName 6 1 ≠ listedKeyboard.label 1 := by
    rw [hlabel]
    decide
  refine ⟨⟨keyboard, hkeyboard, hother, hbutton, fun h => ?_⟩, nothing, hnothing, hhas, fun h => ?_⟩
  · exact hbutton (h.label listedKeyboard List.mem_cons_self 1)
  · have hunknown := h.unknown 6 fun device hdevice => absurd hdevice List.not_mem_nil
    rw [hhas] at hunknown
    cases hunknown

end EventTransformer

end Evget.X11
