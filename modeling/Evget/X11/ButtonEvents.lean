import Evget.X11.Switches

/-!
# Button events

A button event asks for the name of the button before it looks at the device, and the name is asked
for by a lookup that throws.

* `Refreshed`           the states of the switches that refreshes lead to;
* `Keeps`               what is promised of a button event;
* `switchOnEvent_keeps_iff`   in every state that refreshes lead to, the promise is kept exactly for
                        the buttons that have a name in the button map;
* `unnamed_throws`      an unknown device, and a device without a name for the button.
-/

namespace Evget.X11
open SQLite

variable {ω τ : Type}

namespace EventSwitch

/-! ## what a refresh keeps -/

theorem setButtonLabels_same (api : X11Api ω) (deviceId : Int) (labels : List (Atom × UInt8))
    (self : EventSwitch) (world : ω) :
    SameDevices self (setButtonLabels api deviceId labels self world).1 := by
  induction labels generalizing self world with
  | nil => exact ⟨rfl, rfl⟩
  | cons label labels ih =>
    obtain ⟨label, buttonIndex⟩ := label
    unfold setButtonLabels
    by_cases h : label = 0
    · rw [if_pos h]
      exact ih self world
    · rw [if_neg h]
      have hrest := ih (self.setButtonName deviceId buttonIndex.toNat
        ((api.atomName label world).1.getD [])) (api.atomName label world).2
      exact ⟨hrest.devices, hrest.idToName⟩

theorem setButtonMap_same (api : X11Api ω) (buttonInfo : XIButtonClassInfo) (deviceId : Int)
    (self : EventSwitch) (world : ω) :
    SameDevices self (self.setButtonMap api buttonInfo deviceId world).1 := by
  unfold setButtonMap
  split
  · exact ⟨rfl, rfl⟩
  · exact setButtonLabels_same ..

theorem refreshDevices_consistent {self : EventSwitch} (h : self.Consistent) (api : X11Api ω)
    (deviceId : Int) (pointerId : Option Int) (device : DeviceType) (name : List UInt8)
    (info : XIDeviceInfo) (world : ω) :
    (self.refreshDevices api deviceId pointerId device name info world).1.Consistent := by
  have hadd : ({ self with
      pointerId := pointerId.getD self.pointerId
      devices := self.devices.emplace deviceId device
      idToName := self.idToName.emplace deviceId name } : EventSwitch).Consistent := by
    intro k
    show k ∈ self.devices.emplace deviceId device ↔ k ∈ self.idToName.emplace deviceId name
    rw [Dict.mem_emplace, Dict.mem_emplace, h k]
  unfold refreshDevices
  split
  · exact hadd
  · rename_i buttonInfo _
    by_cases hpos : buttonInfo.numButtons > 0
    · rw [if_pos hpos]
      exact (setButtonMap_same ..).consistent hadd
    · rw [if_neg hpos]
      exact hadd

def buttonName (deviceId button : Int) (self : EventSwitch) : Option (List UInt8) :=
  (self.buttonMap.lookup deviceId).bind fun labels => labels.lookup button

theorem getButtonName_eq (deviceId button : Int) (self : EventSwitch) :
    self.getButtonName deviceId button
      = match self.buttonName deviceId button with
        | some name => .ok name
        | none => .error .outOfRange := by
  unfold getButtonName buttonName
  cases hd : self.buttonMap.lookup deviceId with
  | none =>
    rw [Dict.fetch_of_not_mem hd]
    rfl
  | some labels =>
    rw [Dict.fetch_of_lookup hd]
    show labels.fetch Fault.outOfRange button = match labels.lookup button with
      | some name => .ok name
      | none => .error .outOfRange
    cases hb : labels.lookup button with
    | none => rw [Dict.fetch_of_not_mem hb]
    | some name => rw [Dict.fetch_of_lookup hb]

end EventSwitch

/-- the states of the two switches that refreshes lead to, whatever the answers of X are -/
inductive Refreshed (api : X11Api ω) : EventSwitch → EventSwitchPointerKey → Prop
  | new : Refreshed api {} {}
  | eventSwitch {x : EventSwitch} {self : EventSwitchPointerKey} (h : Refreshed api x self)
      (deviceId : Int) (pointerId : Option Int) (device : DeviceType) (name : List UInt8)
      (info : XIDeviceInfo) (world : ω) :
    Refreshed api (x.refreshDevices api deviceId pointerId device name info world).1 self
  | pointerKey {x : EventSwitch} {self : EventSwitchPointerKey} (h : Refreshed api x self)
      (deviceId : Int) (pointerId : Option Int) (device : DeviceType) (name : List UInt8)
      (info : XIDeviceInfo) (world : ω) :
    Refreshed api (self.refreshDevices api deviceId pointerId device name info x world).2.1
      (self.refreshDevices api deviceId pointerId device name info x world).1

theorem EventSwitchPointerKey.refreshDevices_eventSwitch (api : X11Api ω) (deviceId : Int)
    (pointerId : Option Int) (device : DeviceType) (name : List UInt8) (info : XIDeviceInfo)
    (self : EventSwitchPointerKey) (x : EventSwitch) (world : ω) :
    (self.refreshDevices api deviceId pointerId device name info x world).2.1
      = (x.refreshDevices api deviceId pointerId device name info world).1 := rfl

theorem Refreshed.consistent {api : X11Api ω} {x : EventSwitch} {self : EventSwitchPointerKey}
    (h : Refreshed api x self) : x.Consistent := by
  induction h with
  | new => exact EventSwitch.consistent_new
  | eventSwitch _ deviceId pointerId device name info world ih =>
    exact EventSwitch.refreshDevices_consistent ih api deviceId pointerId device name info world
  | pointerKey _ deviceId pointerId device name info world ih =>
    rw [EventSwitchPointerKey.refreshDevices_eventSwitch]
    exact EventSwitch.refreshDevices_consistent ih api deviceId pointerId device name info world

/-! ## what a button event does -/

/-- the device is not known, the event is emulated, or the button is a direction of a wheel -/
def Ignored (event : XIRawEvent) (x : EventSwitch) : Prop :=
  x.hasDevice event.sourceid = false ∨ event.flags &&& xiPointerEmulated ≠ 0 ∨
    ∃ name ∈ EventSwitchPointerKey.kWheelLabels,
      x.buttonName event.sourceid event.detail = some name

instance (event : XIRawEvent) (x : EventSwitch) : Decidable (Ignored event x) :=
  inferInstanceAs (Decidable (_ ∨ _ ∨ _))

theorem known_of_not_ignored {event : XIRawEvent} {x : EventSwitch} (h : ¬ Ignored event x) :
    x.hasDevice event.sourceid = true := Bool.eq_true_of_not_eq_false fun hd => h (.inl hd)

/-- the event is handled without an exception; when it is not ignored one click is added, with the
name of the button, which is empty for a button without a name -/
def Keeps (event : XIRawEvent) (s : Handling ω τ)
    (out : Except Fault (Bool × EventSwitchPointerKey × Handling ω τ)) : Prop :=
  ∃ self' s', out = .ok (true, self', s') ∧
    (Ignored event s.xEventSwitch → s'.data = s.data) ∧
    (¬ Ignored event s.xEventSwitch → ∃ click : MouseClick, s'.data = s.data.addEntry click.entry ∧
      click.name_ = some ((s.xEventSwitch.buttonName event.sourceid event.detail).getD []))

theorem addButtonEvent_spec (api : X11Api ω) (getTime : Nat → τ → Option Int × τ)
    (event : XIRawEvent) (timestamp : Int) (action : ButtonAction) (systemEvent : List UInt8)
    (s : Handling ω τ) (h : s.xEventSwitch.Registered event.sourceid) :
    ∃ s' : Handling ω τ, ∃ click : MouseClick,
      EventSwitch.addButtonEvent api getTime event timestamp action event.detail systemEvent s
        = .ok s' ∧
      s'.data = s.data.addEntry click.entry ∧ click.action_ = some action ∧
      click.name_ = some ((s.xEventSwitch.buttonName event.sourceid event.detail).getD []) ∧
      EventSwitch.SameDevices s.xEventSwitch s'.xEventSwitch := by
  unfold EventSwitch.addButtonEvent
  set labels := s.xEventSwitch.buttonMap.subscript event.sourceid ∅ with hlabels
  obtain ⟨fields, s', hs', hdata, hsame⟩ := EventSwitch.emit_spec api getTime event timestamp
    systemEvent (s.xEventSwitch.queryPointerForDevice api s.world).1
    (((({} : MouseClick).action action).button event.detail).buttonName
      (labels.1.subscript event.detail []).1)
    { s with
      world := (s.xEventSwitch.queryPointerForDevice api s.world).2
      xEventSwitch := { s.xEventSwitch with
        buttonMap := labels.2.insert event.sourceid (labels.1.subscript event.detail []).2 } } h
  refine ⟨s', _, hs', hdata, rfl, ?_, ⟨hsame.devices, hsame.idToName⟩⟩
  show some (labels.1.subscript event.detail []).1 = _
  rw [hlabels, Dict.subscript_fst, Dict.subscript_fst, EventSwitch.buttonName]
  cases s.xEventSwitch.buttonMap.lookup event.sourceid <;> rfl

theorem buttonEvent_unnamed (api : X11Api ω) (getTime : Nat → τ → Option Int × τ)
    (event : XIRawEvent) (timestamp : Int) (action : ButtonAction) (systemEvent : List UInt8)
    (s : Handling ω τ) (h : s.xEventSwitch.buttonName event.sourceid event.detail = none) :
    EventSwitchPointerKey.buttonEvent api getTime event timestamp action systemEvent s
      = .error .outOfRange := by
  unfold EventSwitchPointerKey.buttonEvent
  rw [EventSwitch.getButtonName_eq, h]
  rfl

/-- with a name for the button, an ignored event changes nothing and any other adds its click -/
theorem buttonEvent_named (api : X11Api ω) (getTime : Nat → τ → Option Int × τ)
    (event : XIRawEvent) (timestamp : Int) (action : ButtonAction) (systemEvent : List UInt8)
    (s : Handling ω τ) (hs : s.xEventSwitch.Consistent) {name : List UInt8}
    (h : s.xEventSwitch.buttonName event.sourceid event.detail = some name) :
    ∃ s', EventSwitchPointerKey.buttonEvent api getTime event timestamp action systemEvent s
        = .ok s' ∧
      (Ignored event s.xEventSwitch → s' = s) ∧
      (¬ Ignored event s.xEventSwitch → ∃ click : MouseClick,
        s'.data = s.data.addEntry click.entry ∧ click.action_ = some action ∧
          click.name_ = some name) ∧
      EventSwitch.SameDevices s.xEventSwitch s'.xEventSwitch := by
  have hignored : Ignored event s.xEventSwitch ↔
      (!s.xEventSwitch.hasDevice event.sourceid) = true ∨ event.flags &&& xiPointerEmulated ≠ 0 ∨
        name ∈ EventSwitchPointerKey.kWheelLabels := by
    unfold Ignored
    rw [h, Bool.not_eq_true']
    constructor
    · rintro (hd | he | ⟨label, hl, e⟩)
      · exact .inl hd
      · exact .inr (.inl he)
      · cases e
        exact .inr (.inr hl)
    · rintro (hd | he | hl)
      · exact .inl hd
      · exact .inr (.inl he)
      · exact .inr (.inr ⟨name, hl, rfl⟩)
  unfold EventSwitchPointerKey.buttonEvent
  rw [EventSwitch.getButtonName_eq, h]
  by_cases hi : Ignored event s.xEventSwitch
  · refine ⟨s, if_pos (hignored.mp hi), fun _ => rfl, fun hn => absurd hi hn, ⟨rfl, rfl⟩⟩
  · have hd := known_of_not_ignored hi
    obtain ⟨s', click, hs', hdata, haction, hname, hsame⟩ := addButtonEvent_spec api getTime event
      timestamp action systemEvent s (hs.registered hd)
    rw [h] at hname
    exact ⟨s', (if_neg fun hc => hi (hignored.mpr hc)).trans hs', fun hc => absurd hc hi,
      fun _ => ⟨click, hdata, haction, hname⟩, hsame⟩

/-- the dispatch of a press or release of a button -/
theorem switchOnEvent_button (api : X11Api ω) (getTime : Nat → τ → Option Int × τ)
    (event : XIRawEvent) (timestamp : Int) (self : EventSwitchPointerKey) (s : Handling ω τ)
    (htype : event.evtype = xiRawButtonPress ∨ event.evtype = xiRawButtonRelease) :
    ∃ action systemEvent, self.switchOnEvent api getTime event timestamp s
      = (EventSwitchPointerKey.buttonEvent api getTime event timestamp action systemEvent s).map
          fun s' => (true, self, s') := by
  unfold EventSwitchPointerKey.switchOnEvent
  rcases htype with h | h
  · refine ⟨.press, bytes "XI_RawButtonPress", ?_⟩
    rw [if_neg (by rw [h]; decide), if_pos h]
    cases EventSwitchPointerKey.buttonEvent api getTime event timestamp .press
      (bytes "XI_RawButtonPress") s <;> rfl
  · refine ⟨.release, bytes "XI_RawButtonRelease", ?_⟩
    rw [if_neg (by rw [h]; decide), if_neg (by rw [h]; decide), if_pos h]
    cases EventSwitchPointerKey.buttonEvent api getTime event timestamp .release
      (bytes "XI_RawButtonRelease") s <;> rfl

/-- **When the promise is kept**: in every state that refreshes lead to, for every button event,
exactly when the button map has a name for the button of the device. -/
theorem switchOnEvent_keeps_iff (api : X11Api ω) (getTime : Nat → τ → Option Int × τ)
    (event : XIRawEvent) (timestamp : Int) (self : EventSwitchPointerKey) (s : Handling ω τ)
    (hreach : Refreshed api s.xEventSwitch self)
    (htype : event.evtype = xiRawButtonPress ∨ event.evtype = xiRawButtonRelease) :
    Keeps event s (self.switchOnEvent api getTime event timestamp s) ↔
      s.xEventSwitch.buttonName event.sourceid event.detail ≠ none := by
  obtain ⟨action, systemEvent, hswitch⟩ :=
    switchOnEvent_button api getTime event timestamp self s htype
  rw [hswitch]
  cases hname : s.xEventSwitch.buttonName event.sourceid event.detail with
  | none =>
    rw [buttonEvent_unnamed api getTime event timestamp action systemEvent s hname]
    constructor
    · rintro ⟨self', s', h, -⟩
      cases h
    · intro h
      exact absurd rfl h
  | some name =>
    obtain ⟨s', hs', hign, hnot, -⟩ := buttonEvent_named api getTime event timestamp action
      systemEvent s hreach.consistent hname
    rw [hs']
    refine ⟨fun _ => nofun, fun _ => ⟨self, s', rfl, fun hi => by rw [hign hi], fun hi => ?_⟩⟩
    obtain ⟨click, hdata, -, hclick⟩ := hnot hi
    refine ⟨click, hdata, ?_⟩
    rw [hname]
    exact hclick

/-! ### a mouse with one named button -/

def namingApi : X11Api Unit where
  lookupCharacter _ _ _ := (([], 0), ())
  getDeviceButtonMapping _ n _ := (some ((List.range n).map fun k => (k + 1).toUInt8), ())
  listInputDevices _ := ([], ())
  queryDevice _ := ([], ())
  atomName _ _ := (some (bytes "Button Left"), ())
  getActiveWindow _ := (none, ())
  getFocusWindow _ := (none, ())
  getWindowName _ _ := (none, ())
  getWindowSize _ _ := (none, ())
  getWindowPosition _ _ := (none, ())
  queryPointer _ _ := (⟨.finite false 0, .finite false 0, 0, 0⟩, ())
  keysymName _ := none
  randomUuid _ := (bytes "uuid", ())

def mouse : EventSwitch :=
  (({} : EventSwitch).refreshDevices namingApi 6 (some 2) .mouse (bytes "mouse")
    ⟨6, true, [some (.button ⟨[150, 0]⟩)]⟩ ()).1

def buttonPress (deviceId button : Int) : XIRawEvent :=
  ⟨xiRawButtonPress, deviceId, button, 0, 1000, ⟨0, [], []⟩⟩

def noTime (_ : Nat) (times : Unit) : Option Int × Unit := (none, times)

theorem named_press_keeps :
    Keeps (buttonPress 6 1) ⟨(), (), mouse, .new⟩ (EventSwitchPointerKey.switchOnEvent namingApi
      noTime (buttonPress 6 1) 0 {} ⟨(), (), mouse, .new⟩) :=
  (switchOnEvent_keeps_iff namingApi noTime (buttonPress 6 1) 0 {} ⟨(), (), mouse, .new⟩
    (.eventSwitch .new 6 (some 2) .mouse (bytes "mouse") ⟨6, true, [some (.button ⟨[150, 0]⟩)]⟩ ())
    (.inl rfl)).mpr (by decide)

/-- **Not kept**: a press on a device that was never registered, and one of a button without a label
on a registered device, end with an exception. -/
theorem unnamed_throws :
    (EventSwitchPointerKey.switchOnEvent namingApi noTime (buttonPress 9 1) 0 {}
        ⟨(), (), mouse, .new⟩).toOption.isNone ∧
      (EventSwitchPointerKey.switchOnEvent namingApi noTime (buttonPress 6 2) 0 {}
        ⟨(), (), mouse, .new⟩).toOption.isNone ∧
      ¬ Keeps (buttonPress 6 2) ⟨(), (), mouse, .new⟩ (EventSwitchPointerKey.switchOnEvent namingApi
        noTime (buttonPress 6 2) 0 {} ⟨(), (), mouse, .new⟩) := by
  refine ⟨rfl, rfl, ?_⟩
  rintro ⟨self', s', h, -⟩
  cases h

end Evget.X11
