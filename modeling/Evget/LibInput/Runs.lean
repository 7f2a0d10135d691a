import Evget.LibInput.Devices

/-!
# Runs of the libinput transformer

The machines of `Evget.LibInput.Devices` belong to uuids.  As long as the random generator does not
repeat itself every device has a uuid of its own, so that they belong to devices: a run of the
transformer is one run of a machine for every device, and one of the keyboard.

* `Sound`              every uuid in use has been drawn, and belongs to one device;
* `machine`            the machine of a device;
* `records_spec`       one event moves the machine of its device and the keyboard;
* `run_eq`             the data of a run are the entries of the builders of its events;
* `mine`, `entriesOf`  the events of a device, and the entries of some events;
* `outputs_machine`    the run of a device is the run of its machine.
-/

namespace Evget.LibInput
open SQLite

variable {κ : Type}

def InputEvent.device (event : InputEvent) : Option Device := event.event.bind LibInputEvent.device

def InputEvent.handle (event : InputEvent) : Option Nat := event.device.map Device.handle

/-- what an event without a device is, is of no importance -/
def InputEvent.data (event : InputEvent) : EventData :=
  event.event.elim .other LibInputEvent.data

def InputEvent.context (event : InputEvent) (device : Device) (deviceUuid : List UInt8) :
    EventContext :=
  LibInput.context event.timestamp ⟨some device, event.data⟩ device deviceUuid

namespace EventTransformer

/-- the uuids in use have been drawn, no two devices share one, and nothing is kept for a uuid that
has not been drawn -/
structure Sound (platform : Platform κ) (s : EventTransformer κ) : Prop where
  drawn : ∀ handle uuid, s.deviceIds.lookup handle = some uuid →
    ∃ n, n < s.generated ∧ uuid = platform.randomUuid n
  distinct : ∀ handle handle' uuid, s.deviceIds.lookup handle = some uuid →
    s.deviceIds.lookup handle' = some uuid → handle = handle'
  fresh : ∀ n, s.generated ≤ n → s.view (platform.randomUuid n) = {}

def machine (handle : Nat) (self : EventTransformer κ) : Machine :=
  match self.deviceIds.lookup handle with
  | none => {}
  | some uuid => self.view uuid

theorem machine_of_lookup {self : EventTransformer κ} {handle : Nat} {uuid : List UInt8}
    (h : self.deviceIds.lookup handle = some uuid) : self.machine handle = self.view uuid := by
  unfold machine
  rw [h]

theorem machine_of_none {self : EventTransformer κ} {handle : Nat}
    (h : self.deviceIds.lookup handle = none) : self.machine handle = {} := by
  unfold machine
  rw [h]

theorem sound_new (platform : Platform κ) (xkb : κ) :
    Sound platform ({ xkb := xkb } : EventTransformer κ) := by
  refine ⟨?_, ?_, fun n _ => rfl⟩
  · intro handle uuid h
    cases h
  · intro handle handle' uuid h
    cases h

/-! ## one event -/

theorem Sound.unused {platform : Platform κ} (hu : Function.Injective platform.randomUuid)
    {self : EventTransformer κ} (hs : self.Sound platform) (handle : Nat) :
    self.deviceIds.lookup handle ≠ some (platform.randomUuid self.generated) := by
  intro h
  obtain ⟨n, hn, he⟩ := hs.drawn handle _ h
  exact absurd (hu he) (by omega)

/-- a device without a uuid gets the next one -/
theorem Sound.insert {platform : Platform κ} (hu : Function.Injective platform.randomUuid)
    {self : EventTransformer κ} (hs : self.Sound platform) (handle : Nat) :
    Sound platform { self with
      deviceIds := self.deviceIds.insert handle (platform.randomUuid self.generated)
      generated := self.generated + 1 } := by
  have hself : (self.deviceIds.insert handle (platform.randomUuid self.generated)).lookup handle
      = some (platform.randomUuid self.generated) := AList.lookup_insert _
  have hother : ∀ other, other ≠ handle →
      (self.deviceIds.insert handle (platform.randomUuid self.generated)).lookup other
        = self.deviceIds.lookup other := fun other ho => AList.lookup_insert_ne ho
  constructor
  · intro other uuid h
    by_cases ho : other = handle
    · rw [ho, hself] at h
      cases h
      exact ⟨self.generated, Nat.lt_succ_self _, rfl⟩
    · rw [hother other ho] at h
      obtain ⟨n, hn, he⟩ := hs.drawn other uuid h
      exact ⟨n, Nat.lt_succ_of_lt hn, he⟩
  · intro first second uuid h h'
    by_cases hf : first = handle
    · by_cases hg : second = handle
      · rw [hf, hg]
      · rw [hf, hself] at h
        rw [hother second hg] at h'
        cases h
        exact absurd h' (hs.unused hu second)
    · rw [hother first hf] at h
      by_cases hg : second = handle
      · rw [hg, hself] at h'
        cases h'
        exact absurd h (hs.unused hu first)
      · rw [hother second hg] at h'
        exact hs.distinct first second uuid h h'
  · intro n hn
    exact hs.fresh n (Nat.le_of_succ_le hn)

/-- the device has a uuid of its own now, which is what has changed -/
theorem uuid_spec {platform : Platform κ} (hu : Function.Injective platform.randomUuid)
    {self : EventTransformer κ} (hs : self.Sound platform) (handle : Nat) :
    (self.uuid platform handle).2.Sound platform ∧
      (self.uuid platform handle).2.deviceIds.lookup handle
        = some (self.uuid platform handle).1 ∧
      (∀ other, other ≠ handle → (self.uuid platform handle).2.deviceIds.lookup other
        = self.deviceIds.lookup other) ∧
      (∀ uuid, self.deviceIds.lookup handle = some uuid →
        (self.uuid platform handle).1 = uuid) ∧
      (∀ other, (self.uuid platform handle).2.machine other = self.machine other) ∧
      (self.uuid platform handle).2.xkb = self.xkb := by
  unfold uuid
  cases hl : self.deviceIds.lookup handle with
  | some found =>
    exact ⟨hs, hl, fun _ _ => rfl, fun uuid h => Option.some.inj h, fun _ => rfl, rfl⟩
  | none =>
    have hself : (self.deviceIds.insert handle (platform.randomUuid self.generated)).lookup handle
        = some (platform.randomUuid self.generated) := AList.lookup_insert _
    have hother : ∀ other, other ≠ handle →
        (self.deviceIds.insert handle (platform.randomUuid self.generated)).lookup other
          = self.deviceIds.lookup other := fun other ho => AList.lookup_insert_ne ho
    refine ⟨hs.insert hu handle, hself, hother, fun uuid h => (by cases h), ?_, rfl⟩
    intro other
    by_cases ho : other = handle
    · rw [ho, machine_of_lookup hself, machine_of_none hl]
      exact hs.fresh _ (Nat.le_refl _)
    · unfold machine
      rw [hother other ho]
      rfl

theorem Sound.moves {platform : Platform κ} (hu : Function.Injective platform.randomUuid)
    {a b : EventTransformer κ} (hs : a.Sound platform) {handle : Nat} {uuid : List UInt8}
    (h : a.deviceIds.lookup handle = some uuid) {f : Machine → Machine}
    (hmoves : Moves uuid f a b) : b.Sound platform := by
  constructor
  · rw [hmoves.deviceIds, hmoves.generated]
    exact hs.drawn
  · rw [hmoves.deviceIds]
    exact hs.distinct
  · rw [hmoves.generated]
    intro n hn
    -- the uuid of the device has been drawn, and so is not one of those that are to come
    have hne : platform.randomUuid n ≠ uuid := by
      intro e
      obtain ⟨k, hk, hek⟩ := hs.drawn handle uuid h
      have hnk := hu (e.trans hek)
      omega
    rw [hmoves.other _ hne]
    exact hs.fresh n hn

theorem Moves.machine {a b : EventTransformer κ} {handle : Nat} {uuid : List UInt8}
    {f : Machine → Machine} (hmoves : Moves uuid f a b)
    (h : a.deviceIds.lookup handle = some uuid) : b.machine handle = f (a.machine handle) := by
  rw [machine_of_lookup h, machine_of_lookup (by rw [hmoves.deviceIds]; exact h)]
  exact hmoves.same

theorem Moves.machine_other {platform : Platform κ} {a b : EventTransformer κ}
    (hs : a.Sound platform) {handle other : Nat} {uuid : List UInt8} {f : Machine → Machine}
    (hmoves : Moves uuid f a b) (h : a.deviceIds.lookup handle = some uuid)
    (ho : other ≠ handle) : b.machine other = a.machine other := by
  cases hl : a.deviceIds.lookup other with
  | none => rw [machine_of_none hl, machine_of_none (by rw [hmoves.deviceIds]; exact hl)]
  | some found =>
    rw [machine_of_lookup hl, machine_of_lookup (by rw [hmoves.deviceIds]; exact hl)]
    apply hmoves.other found
    intro e
    exact ho (hs.distinct other handle found hl (e ▸ h))

/-- what an event of a device makes of the state: the machine of the device moves, and the
keyboard -/
structure Handled (platform : Platform κ) (device : Device) (data : EventData)
    (uuid : List UInt8) (a b : EventTransformer κ) : Prop where
  sound : b.Sound platform
  lookup : b.deviceIds.lookup device.handle = some uuid
  known : ∀ found, a.deviceIds.lookup device.handle = some found → uuid = found
  others : ∀ other, other ≠ device.handle →
    b.deviceIds.lookup other = a.deviceIds.lookup other ∧ b.machine other = a.machine other
  machine : b.machine device.handle = (a.machine device.handle).step platform.dimensions data
  xkb : b.xkb = keyboard platform.xkb data a.xkb

theorem records_eq (platform : Platform κ) (self : EventTransformer κ) {event : InputEvent}
    {device : Device} (h : event.device = some device) :
    self.records platform event
      = (self.uuid platform device.handle).2.build platform
          (event.context device (self.uuid platform device.handle).1)
          (event.context device (self.uuid platform device.handle).1).deviceUuid event.data := by
  obtain ⟨timestamp, event⟩ := event
  obtain ⟨⟨_, data⟩, rfl, hd⟩ := Option.bind_eq_some_iff.mp h
  cases show _ = some device from hd
  rfl

/-- **One event**: its builders are those of the machine of its device, which is what it moves. -/
theorem records_spec {platform : Platform κ} (hu : Function.Injective platform.randomUuid)
    {self : EventTransformer κ} (hs : self.Sound platform) {event : InputEvent} {device : Device}
    (h : event.device = some device) :
    ∃ uuid, (self.records platform event).1
        = (self.machine device.handle).records platform (event.context device uuid) self.xkb
            event.data ∧
      Handled platform device event.data uuid self (self.records platform event).2 := by
  obtain ⟨hs', hlookup, hother, hknown, hmachine, hxkb⟩ := uuid_spec hu hs device.handle
  have hbuild := records_eq platform self h
  generalize self.uuid platform device.handle = p at hbuild hs' hlookup hother hknown hmachine hxkb
  obtain ⟨uuid, start⟩ := p
  have hmoves := build_moves platform (event.context device uuid) event.data start
  rw [hbuild]
  refine ⟨uuid, ?_, ⟨hs'.moves hu hlookup hmoves, ?_, hknown, ?_, ?_, ?_⟩⟩
  · rw [← hmachine, machine_of_lookup hlookup, ← show start.xkb = self.xkb from hxkb]
    exact build_records ..
  · rw [hmoves.deviceIds]
    exact hlookup
  · intro other ho
    rw [hmoves.deviceIds, hmoves.machine_other hs' hlookup ho]
    exact ⟨hother other ho, hmachine other⟩
  · rw [hmoves.machine hlookup]
    exact congrArg _ (hmachine device.handle)
  · exact (build_xkb ..).trans (congrArg _ hxkb)

theorem records_none (platform : Platform κ) (self : EventTransformer κ) {event : InputEvent}
    (h : event.device = none) : self.records platform event = ([], self) := by
  obtain ⟨timestamp, _ | ⟨_ | device, data⟩⟩ := event
  · rfl
  · rfl
  · cases h

theorem records_sound {platform : Platform κ} (hu : Function.Injective platform.randomUuid)
    {self : EventTransformer κ} (hs : self.Sound platform) (event : InputEvent) :
    (self.records platform event).2.Sound platform := by
  cases h : event.device with
  | none =>
    rw [records_none platform self h]
    exact hs
  | some device =>
    obtain ⟨uuid, -, hb⟩ := records_spec hu hs h
    exact hb.sound

/-! ## runs -/

theorem final_eq (platform : Platform κ) (self : EventTransformer κ) (events : List InputEvent) :
    Mealy.final (transformEvent platform) self events
      = Mealy.final (records platform) self events := by
  induction events generalizing self with
  | nil => rfl
  | cons event events ih => exact ih _

/-- what the run has for an event: the entries of its builders, in the state after the events before
it -/
theorem run_split {platform : Platform κ} {self : EventTransformer κ} {events : List InputEvent}
    {before after : List (InputEvent × Data)} {x : InputEvent × Data}
    (h : run platform self events = before ++ x :: after) :
    x.2 = ⟨((Mealy.final (records platform) self (before.map Prod.fst)).records platform
      x.1).1.map Record.entry⟩ := by
  have hx := (Mealy.outputs_split (show Mealy.outputs _ _ _ = _ from h)).2
  rw [final_eq] at hx
  exact congrArg Prod.snd (List.cons.inj hx).1

theorem run_eq (platform : Platform κ) (self : EventTransformer κ) (events : List InputEvent) :
    run platform self events = (Mealy.outputs (records platform) self events).map
      fun x => (x.1, ⟨x.2.map Record.entry⟩) := by
  unfold run
  induction events generalizing self with
  | nil => rfl
  | cons event events ih =>
    show (event, _) :: Mealy.outputs (transformEvent platform) (self.records platform event).2
      events = (event, _) :: _
    rw [ih]
    rfl

end EventTransformer

def mine (handle : Nat) (event : InputEvent) : Bool := event.handle == some handle

def entriesOf (select : InputEvent → Bool) (run : List (InputEvent × Data)) : List Entry :=
  (run.filter fun x => select x.1).flatMap fun x => x.2.entries

def entries (run : List (InputEvent × Data)) : List Entry := run.flatMap fun x => x.2.entries

def text (name : String) (entry : Entry) : List UInt8 :=
  (entry.getEntryWithFields.field (bytes name)).getD []

theorem interval_text (record : Record) :
    text "interval" record.entry = fromInterval record.shared.interval_ := by
  cases record <;> rfl

theorem deviceId_text (record : Record) :
    text "device_id" record.entry = fromString record.shared.deviceId_ := by
  cases record <;> rfl

theorem position_text (record : Record) :
    text "position_x" record.entry = fromDouble record.base.positionX_ ∧
      text "position_y" record.entry = fromDouble record.base.positionY_ := by
  cases record <;> exact ⟨rfl, rfl⟩

theorem mine_iff {handle : Nat} {event : InputEvent} :
    mine handle event = true ↔ ∃ device, event.device = some device ∧ device.handle = handle := by
  unfold mine InputEvent.handle
  rw [beq_iff_eq, Option.map_eq_some_iff]

namespace EventTransformer

/-- **The run of a device**: what can be seen of the builders of a device's events, when it does not
depend on uuids and on the keyboard, is what the machine of the device shows. -/
theorem outputs_machine {p : Type} {platform : Platform κ}
    (hu : Function.Injective platform.randomUuid) (see : Record → p)
    (view : InputEvent → Machine → List p)
    (hview : ∀ (event : InputEvent) (device : Device) (uuid : List UInt8) (state : κ)
      (m : Machine), (m.records platform (event.context device uuid) state event.data).map see
        = view event m)
    {self : EventTransformer κ} (hs : self.Sound platform) (handle : Nat)
    (events : List InputEvent) :
    ((Mealy.outputs (records platform) self events).filter fun x => mine handle x.1).map
        (fun x => (x.1, x.2.map see))
      = Mealy.outputs (fun m event => (view event m, m.step platform.dimensions event.data))
          (self.machine handle) (events.filter (mine handle)) := by
  refine (Mealy.outputs_project (fun (a : EventTransformer κ) m =>
    a.Sound platform ∧ a.machine handle = m) (List.map see) id ?_ ?_ ⟨hs, rfl⟩ events).trans
      (List.map_id _)
  · rintro a _ event ⟨ha, rfl⟩ he
    obtain ⟨device, hd, rfl⟩ := mine_iff.mp he
    obtain ⟨uuid, hrecords, hb⟩ := records_spec hu ha hd
    refine ⟨?_, hb.sound, hb.machine⟩
    rw [hrecords, hview]
    rfl
  · rintro a _ event ⟨ha, rfl⟩ he
    refine ⟨records_sound hu ha event, ?_⟩
    cases hd : event.device with
    | none => rw [records_none platform a hd]
    | some device =>
      obtain ⟨uuid, -, hb⟩ := records_spec hu ha hd
      refine (hb.others handle fun e => ?_).2
      rw [mine_iff.mpr ⟨device, hd, e.symm⟩] at he
      cases he

end EventTransformer

/-- what can be seen of the entries of some events can be seen of their builders -/
theorem run_flatMap {p q : Type} (see : Record → q) (look : InputEvent → Entry → p)
    (view : InputEvent → q → p)
    (hlook : ∀ event record, look event (Record.entry record) = view event (see record))
    (select : InputEvent → Bool) (platform : Platform κ) (self : EventTransformer κ)
    (events : List InputEvent) :
    ((EventTransformer.run platform self events).filter fun x => select x.1).flatMap
        (fun x => x.2.entries.map (look x.1))
      = (((Mealy.outputs (EventTransformer.records platform) self events).filter fun x =>
          select x.1).map fun x => (x.1, x.2.map see)).flatMap fun x => x.2.map (view x.1) := by
  rw [EventTransformer.run_eq, List.filter_map, List.flatMap_map, List.flatMap_map]
  refine List.flatMap_congr fun x _ => ?_
  show (x.2.map Record.entry).map (look x.1) = (x.2.map see).map (view x.1)
  rw [List.map_map, List.map_map]
  exact List.map_congr_left fun record _ => hlook x.1 record

/-! ### two devices -/

def sampleScreen : Device := ⟨1, bytes "screen", 0, true, false⟩
def sampleKeyboard : Device := ⟨2, bytes "keyboard", 0, false, false⟩

def sampleEvent (device : Device) (data : EventData) : InputEvent := ⟨0, some ⟨some device, data⟩⟩

def coordinate (x : Rat) (_ : UInt32) : Double := .ofRat x

/-- a touch on the screen, while shift is pressed on the keyboard -/
def sampleTouch : List InputEvent := [
  sampleEvent sampleScreen (.touchDown 100 0 (coordinate 10) (coordinate 20)),
  sampleEvent sampleKeyboard (.keyboardKey 130 42 .pressed),
  sampleEvent sampleScreen (.touchMotion 150 0 (coordinate 13) (coordinate 21)),
  ⟨0, none⟩,
  sampleEvent sampleKeyboard (.keyboardKey 160 30 .pressed),
  sampleEvent sampleScreen (.touchUp 170 0)]

end Evget.LibInput
