import Evget.LibInput.Runs

/-!
# Devices do not disturb each other

What is recorded of a device's events depends on these events alone, but for the uuid that the
device is given and for what the keyboard adds: the modifiers, and the names and the characters of
keys.  What is recorded of the positions of a touch depends on the events of this touch alone.

* `isolated`        the fields of an entry that its device alone determines;
* `slotFields`      the fields of an entry that its touch alone determines;
* `run_isolated`    **isolation** of devices, and of the touches of a device.
-/

namespace Evget.LibInput
open SQLite

variable {κ : Type}

/-- the names of the fields that depend on other devices -/
def foreignFields : EntryType → List (List UInt8)
  | .key => [bytes "device_id", bytes "button_name", bytes "character"]
  | _ => [bytes "device_id"]

/-- the type and the fields of an entry that do not depend on other devices -/
def isolated (entry : Entry) : EntryType × List (List UInt8 × List UInt8) :=
  (entry.type, (entry.type.fields.zip entry.data).filter fun field =>
    !(foreignFields entry.type).contains field.1)

def kSlotFields : List (List UInt8) :=
  [bytes "position_x", bytes "position_y", bytes "touch_id", bytes "button_action"]

def slotFields (entry : Entry) : EntryType × List (List UInt8 × List UInt8) :=
  (entry.type, (entry.type.fields.zip entry.data).filter fun field => kSlotFields.contains field.1)

def Record.alone : Record → Record
  | .key builder => .key { builder with
      deviceId_ := none
      modifiers_ := []
      name_ := none
      character_ := none }
  | .mouseClick builder => .mouseClick { builder with deviceId_ := none, modifiers_ := [] }
  | .mouseMove builder => .mouseMove { builder with deviceId_ := none, modifiers_ := [] }
  | .mouseScroll builder => .mouseScroll { builder with deviceId_ := none, modifiers_ := [] }

theorem isolated_alone (record : Record) : isolated record.alone.entry = isolated record.entry := by
  cases record <;> rfl

theorem setDifference_alone (platform : Platform κ) (previousX previousY : Option Double)
    (x y : Double) (builder : MouseMove) :
    (Record.mouseMove (setDifference platform previousX previousY x y builder)).alone
      = .mouseMove (setDifference platform previousX previousY x y
          { builder with deviceId_ := none, modifiers_ := [] }) := by
  cases previousX with
  | none => rfl
  | some previousX => cases previousY <;> rfl

/-- the builders of an event, but for the uuid of the device and for what the keyboard adds -/
theorem records_alone (platform : Platform κ) (randomUuid : Nat → List UInt8) (event : InputEvent)
    (device : Device) (uuid uuid' : List UInt8) (state state' : κ) (machine : Machine) :
    (machine.records platform (event.context device uuid) state event.data).map Record.alone
      = (machine.records { platform with randomUuid := randomUuid } (event.context device uuid')
          state' event.data).map Record.alone := by
  have hcontext : event.context device uuid'
      = { event.context device uuid with deviceUuid := uuid' } := rfl
  rw [hcontext]
  generalize event.context device uuid = ctx
  unfold Machine.records
  cases event.data with
  | tabletToolProximity time dx dy proximity =>
    cases proximity with
    | stateOut => rfl
    | stateIn =>
      simp only [EventData.time, fields, setModifierValues_eq]
      rfl
  | pointerMotionAbsolute | touchDown | touchMotion =>
    simp only [EventData.time, fields, setModifierValues_eq, List.map_cons, List.map_nil,
      setDifference_alone]
    rfl
  | deviceAdded | deviceRemoved | tabletPadRing | tabletPadStrip | other => rfl
  | _ =>
    simp only [EventData.time, fields, setModifierValues_eq]
    rfl

/-! ## touches -/

def EventData.seatSlot : EventData → Option Int32
  | .touchDown _ seatSlot _ _ => some seatSlot
  | .touchMotion _ seatSlot _ _ => some seatSlot
  | .touchUp _ seatSlot => some seatSlot
  | .touchCancel _ seatSlot => some seatSlot
  | _ => none

def onSlot (handle : Nat) (seatSlot : Int32) (event : InputEvent) : Bool :=
  mine handle event && event.data.seatSlot == some seatSlot

def Record.touch : Record → Record
  | .key builder => .key {
      positionX_ := builder.positionX_
      positionY_ := builder.positionY_
      action_ := builder.action_ }
  | .mouseClick builder => .mouseClick {
      positionX_ := builder.positionX_
      positionY_ := builder.positionY_
      touchId_ := builder.touchId_
      action_ := builder.action_ }
  | .mouseMove builder => .mouseMove {
      positionX_ := builder.positionX_
      positionY_ := builder.positionY_
      touchId_ := builder.touchId_ }
  | .mouseScroll builder => .mouseScroll {
      positionX_ := builder.positionX_
      positionY_ := builder.positionY_ }

theorem slotFields_touch (record : Record) :
    slotFields record.touch.entry = slotFields record.entry := by
  cases record <;> rfl

theorem setDifference_touch (platform : Platform κ) (previousX previousY : Option Double)
    (x y : Double) (builder : MouseMove) :
    (Record.mouseMove (setDifference platform previousX previousY x y builder)).touch
      = .mouseMove (setDifference platform previousX previousY x y {
          positionX_ := builder.positionX_
          positionY_ := builder.positionY_
          touchId_ := builder.touchId_ }) := by
  cases previousX with
  | none => rfl
  | some previousX => cases previousY <;> rfl

theorem records_touch (platform : Platform κ) (randomUuid : Nat → List UInt8)
    (ctx ctx' : EventContext) (state state' : κ) {machine machine' : Machine} {seatSlot : Int32}
    {data : EventData} (h : data.seatSlot = some seatSlot)
    (hx : machine.touchX seatSlot = machine'.touchX seatSlot)
    (hy : machine.touchY seatSlot = machine'.touchY seatSlot) :
    (machine.records platform ctx state data).map Record.touch
      = (machine'.records { platform with randomUuid := randomUuid } ctx' state' data).map
          Record.touch := by
  unfold Machine.records
  cases data with
  | touchDown | touchMotion =>
    cases h
    simp only [EventData.time, fields, setModifierValues_eq, List.map_cons, List.map_nil,
      setDifference_touch, hx, hy]
    rfl
  | touchUp | touchCancel =>
    simp only [EventData.time, fields, setModifierValues_eq]
    rfl
  | _ => cases h

theorem step_touch (dimensions : ScreenDimensions) {data : EventData} {seatSlot : Int32}
    (h : data.seatSlot ≠ some seatSlot) (machine : Machine) :
    (machine.step dimensions data).touchX seatSlot = machine.touchX seatSlot ∧
      (machine.step dimensions data).touchY seatSlot = machine.touchY seatSlot := by
  cases data with
  | touchDown | touchMotion | touchUp | touchCancel =>
    have hne : seatSlot ≠ _ := fun e => h (congrArg some e.symm)
    exact ⟨Function.update_of_ne hne _ _, Function.update_of_ne hne _ _⟩
  | tabletToolProximity time dx dy state => cases state <;> exact ⟨rfl, rfl⟩
  | _ => exact ⟨rfl, rfl⟩

theorem step_touch_same (dimensions : ScreenDimensions) {data : EventData} {seatSlot : Int32}
    (h : data.seatSlot = some seatSlot) (machine machine' : Machine) :
    (machine.step dimensions data).touchX seatSlot
        = (machine'.step dimensions data).touchX seatSlot ∧
      (machine.step dimensions data).touchY seatSlot
        = (machine'.step dimensions data).touchY seatSlot := by
  cases data with
  | touchDown | touchMotion | touchUp | touchCancel =>
    cases h
    simp only [Machine.step, EventData.time, Machine.move, Machine.putTouch, Function.update_self,
      and_self]
  | _ => cases h

/-! ## runs -/

namespace EventTransformer

/-- two sound transformers keep similar things of a device -/
structure Agree (similar : Machine → Machine → Prop) (platform platform' : Platform κ)
    (handle : Nat) (a b : EventTransformer κ) : Prop where
  left : a.Sound platform
  right : b.Sound platform'
  machines : similar (a.machine handle) (b.machine handle)

theorem agree_new {similar : Machine → Machine → Prop} (h : similar {} {})
    (platform platform' : Platform κ) (handle : Nat) (xkb xkb' : κ) :
    Agree similar platform platform' handle { xkb := xkb } { xkb := xkb' } :=
  ⟨sound_new platform xkb, sound_new platform' xkb', h⟩

/-- What can be seen of the selected events of a device is the same when a transformer with other
uuids has these events alone, if similar machines show the same for them, and if no other event of
the device makes a difference. -/
theorem outputs_select {p : Type} {platform : Platform κ} {randomUuid : Nat → List UInt8}
    (hu : Function.Injective platform.randomUuid) (hu' : Function.Injective randomUuid)
    {handle : Nat} {select : InputEvent → Bool} {see : Record → p}
    (similar : Machine → Machine → Prop)
    (hselect : ∀ event, select event = true → mine handle event = true)
    (hsame : ∀ (event : InputEvent) (device : Device) (uuid uuid' : List UInt8) (state state' : κ)
      (m m' : Machine), select event = true → similar m m' →
      (m.records platform (event.context device uuid) state event.data).map see
          = (m'.records { platform with randomUuid := randomUuid } (event.context device uuid')
              state' event.data).map see ∧
        similar (m.step platform.dimensions event.data) (m'.step platform.dimensions event.data))
    (hother : ∀ (event : InputEvent) (m m' : Machine), mine handle event = true →
      select event = false → similar m m' → similar (m.step platform.dimensions event.data) m')
    {a b : EventTransformer κ}
    (h : Agree similar platform { platform with randomUuid := randomUuid } handle a b)
    (events : List InputEvent) :
    ((Mealy.outputs (records platform) a events).filter fun x => select x.1).map
        (fun x => (x.1, x.2.map see))
      = (Mealy.outputs (records { platform with randomUuid := randomUuid }) b
          (events.filter select)).map fun x => (x.1, x.2.map see) := by
  refine Mealy.outputs_project (Agree similar platform { platform with randomUuid := randomUuid }
    handle) (List.map see) (List.map see) ?_ ?_ h events
  · intro a b event hab he
    obtain ⟨device, hd, rfl⟩ := mine_iff.mp (hselect event he)
    obtain ⟨uuid, hrecords, hb⟩ := records_spec hu hab.left hd
    obtain ⟨uuid', hrecords', hb'⟩ := records_spec hu' hab.right hd
    obtain ⟨hsee, hnext⟩ := hsame event device uuid uuid' a.xkb b.xkb _ _ he hab.machines
    refine ⟨?_, hb.sound, hb'.sound, ?_⟩
    · rw [hrecords, hrecords', hsee]
    · rw [hb.machine, hb'.machine]
      exact hnext
  · intro a b event hab he
    cases hd : event.device with
    | none =>
      rw [records_none platform a hd]
      exact hab
    | some device =>
      obtain ⟨uuid, -, hb⟩ := records_spec hu hab.left hd
      refine ⟨hb.sound, hab.right, ?_⟩
      by_cases hh : device.handle = handle
      · rw [← hh, hb.machine, hh]
        exact hother event _ _ (mine_iff.mpr ⟨device, hd, hh⟩) he hab.machines
      · rw [(hb.others handle (Ne.symm hh)).2]
        exact hab.machines

theorem entriesOf_select {p : Type} {see : Record → Record} {look : Entry → p}
    (hlook : ∀ record, look (see record).entry = look record.entry)
    {platform platform' : Platform κ} {select : InputEvent → Bool} {a b : EventTransformer κ}
    {events : List InputEvent}
    (h : ((Mealy.outputs (records platform) a events).filter fun x => select x.1).map
        (fun x => (x.1, x.2.map see))
      = (Mealy.outputs (records platform') b (events.filter select)).map
          fun x => (x.1, x.2.map see)) :
    (entriesOf select (run platform a events)).map look
      = (entries (run platform' b (events.filter select))).map look := by
  have key : ∀ xs : List (InputEvent × List Record),
      ((xs.map fun x => (x.1, (⟨x.2.map Record.entry⟩ : Data))).flatMap fun x =>
        x.2.entries).map look
        = (xs.map fun x => (x.1, x.2.map see)).flatMap fun x =>
            x.2.map fun record => look record.entry := by
    intro xs
    induction xs with
    | nil => rfl
    | cons x xs ih =>
      rw [List.map_cons, List.flatMap_cons, List.map_append, ih, List.map_cons, List.flatMap_cons]
      congr 1
      show (x.2.map Record.entry).map look = (x.2.map see).map fun record => look record.entry
      rw [List.map_map, List.map_map]
      exact List.map_congr_left fun record _ => (hlook record).symm
  unfold entriesOf entries
  rw [run_eq, run_eq, List.filter_map, key, key, ← h]
  rfl

/-- **Devices do not disturb each other**: whatever happens on other devices, and whatever uuids are
drawn, the entries of a device's events are those of a transformer that has only these events, but
for uuids, modifiers, and names and characters of keys.  The positions, touches and actions of the
entries of a touch are those of a transformer that has only the events of this touch. -/
theorem run_isolated (platform : Platform κ) (randomUuid : Nat → List UInt8)
    (hu : Function.Injective platform.randomUuid) (hu' : Function.Injective randomUuid)
    (xkb xkb' : κ) (events : List InputEvent) (handle : Nat) :
    (entriesOf (mine handle) (run platform { xkb := xkb } events)).map isolated
        = (entries (run { platform with randomUuid := randomUuid } { xkb := xkb' }
            (events.filter (mine handle)))).map isolated ∧
      ∀ seatSlot,
        (entriesOf (onSlot handle seatSlot) (run platform { xkb := xkb } events)).map slotFields
          = (entries (run { platform with randomUuid := randomUuid } { xkb := xkb' }
              (events.filter (onSlot handle seatSlot)))).map slotFields := by
  constructor
  · refine entriesOf_select isolated_alone ?_
    refine outputs_select hu hu' Eq (fun _ h => h) ?_ ?_
      (agree_new rfl platform _ handle xkb xkb') events
    · intro event device uuid uuid' state state' m m' _ hm
      cases hm
      exact ⟨records_alone platform randomUuid event device uuid uuid' state state' m, rfl⟩
    · intro event m m' hmine hnot _
      rw [hmine] at hnot
      cases hnot
  · intro seatSlot
    refine entriesOf_select slotFields_touch ?_
    refine outputs_select hu hu' (fun m m' => m.touchX seatSlot = m'.touchX seatSlot ∧
      m.touchY seatSlot = m'.touchY seatSlot) ?_ ?_ ?_
      (agree_new ⟨rfl, rfl⟩ platform _ handle xkb xkb') events
    · intro event h
      exact (Bool.and_eq_true_iff.mp h).1
    · intro event device uuid uuid' state state' m m' h hm
      have hslot := beq_iff_eq.mp (Bool.and_eq_true_iff.mp h).2
      exact ⟨records_touch platform randomUuid _ _ state state' hslot hm.1 hm.2,
        step_touch_same _ hslot m m'⟩
    · intro event m m' hmine hnot hm
      have hslot : event.data.seatSlot ≠ some seatSlot := by
        intro e
        unfold onSlot at hnot
        rw [hmine, e] at hnot
        simp at hnot
      obtain ⟨hx, hy⟩ := step_touch platform.dimensions hslot m
      exact ⟨hx.trans hm.1, hy.trans hm.2⟩

theorem sampleTouch_isolated :
    (entriesOf (mine 1) (run samplePlatform { xkb := false } sampleTouch)).length = 5 ∧
      (entriesOf (mine 1) (run samplePlatform { xkb := false } sampleTouch)).map isolated
        = (entries (run { samplePlatform with randomUuid := sampleUuid } { xkb := false }
            (sampleTouch.filter (mine 1)))).map isolated ∧
      (entriesOf (onSlot 1 0) (run samplePlatform { xkb := false } sampleTouch)).map slotFields
        = (entries (run { samplePlatform with randomUuid := sampleUuid } { xkb := false }
            (sampleTouch.filter (onSlot 1 0)))).map slotFields := by
  have h := run_isolated samplePlatform sampleUuid sampleUuid_injective sampleUuid_injective
    false false sampleTouch 1
  exact ⟨rfl, h.1, h.2 0⟩

end EventTransformer

end Evget.LibInput
