import Evget.LibInput.Runs

/-!
# The keyboard state

All builders read the state of the keyboard, and the event of a key changes it once its own builder
has been made.

* `heldAfter`       the keyboard state after some events: the keys among them, in their order;
* `run_keyboard`    **read before update**: an entry has the modifiers, and that of a key also the
                    name and the character, of the state that the keys before its event lead to.
-/

namespace Evget.LibInput
open SQLite

variable {κ : Type}

def InputEvent.keyUpdate (event : InputEvent) : Option (UInt32 × XkbKeyDirection) :=
  match event.event with
  | some ⟨some _, .keyboardKey _ key state⟩ => some (key + 8, getXkbDirection state)
  | _ => none

def heldAfter (xkb : Xkb κ) (state : κ) (events : List InputEvent) : κ :=
  (events.filterMap InputEvent.keyUpdate).foldl
    (fun state update => xkb.updateKeyState state update.1 update.2) state

theorem heldAfter_append (xkb : Xkb κ) (state : κ) (events more : List InputEvent) :
    heldAfter xkb state (events ++ more) = heldAfter xkb (heldAfter xkb state events) more := by
  unfold heldAfter
  rw [List.filterMap_append, List.foldl_append]

/-! ## one event -/

theorem entry_modifiers (record : Record) : record.entry.modifiers = record.shared.modifiers_ := by
  cases record <;> rfl

/-- the builders of an event have the modifiers that are active before it -/
theorem records_modifiers {platform : Platform κ} {ctx : EventContext} {state : κ}
    {data : EventData} {machine : Machine} {record : Record}
    (h : record ∈ machine.records platform ctx state data) :
    record.entry.modifiers = activeModifiers platform.xkb state := by
  obtain ⟨interval, hshared⟩ := shared_of_mem h
  rw [entry_modifiers, hshared, fields, setModifierValues_eq]
  rfl

namespace EventTransformer

/-- the builders of an event of a device are those of a machine, in the keyboard state before it,
and the keyboard state is updated -/
theorem records_device (platform : Platform κ) (self : EventTransformer κ) {event : InputEvent}
    {device : Device} (h : event.device = some device) :
    ∃ uuid machine, (self.records platform event).1
        = Machine.records platform (event.context device uuid) self.xkb event.data machine ∧
      (self.records platform event).2.xkb = keyboard platform.xkb event.data self.xkb := by
  have hxkb : (self.uuid platform device.handle).2.xkb = self.xkb := by
    unfold uuid
    cases self.deviceIds.lookup device.handle <;> rfl
  rw [records_eq platform self h, build_records, build_xkb, hxkb]
  exact ⟨_, _, rfl, rfl⟩

theorem records_xkb (platform : Platform κ) (self : EventTransformer κ) (event : InputEvent) :
    (self.records platform event).2.xkb = heldAfter platform.xkb self.xkb [event] := by
  cases h : event.device with
  | none =>
    rw [records_none platform self h]
    obtain ⟨timestamp, _ | ⟨_ | device, data⟩⟩ := event
    · rfl
    · rfl
    · cases h
  | some device =>
    obtain ⟨uuid, machine, -, hxkb⟩ := records_device platform self h
    rw [hxkb]
    obtain ⟨timestamp, _ | ⟨_ | device, data⟩⟩ := event
    · cases h
    · cases h
    · cases data <;> rfl

theorem final_xkb (platform : Platform κ) (self : EventTransformer κ) (events : List InputEvent) :
    (Mealy.final (transformEvent platform) self events).xkb
      = heldAfter platform.xkb self.xkb events := by
  induction events generalizing self with
  | nil => rfl
  | cons event events ih =>
    rw [Mealy.final_cons, ih, ← List.singleton_append, heldAfter_append, ← records_xkb]
    rfl

/-- **Read before update**: the entries of an event, of whatever type and device, have the modifiers
that are active in the state to which the keys before it have led; the entry of a key has the name
and the character of the key in that state; and nothing but keys changes the state. -/
theorem run_keyboard (platform : Platform κ) (xkb : κ) (before : List InputEvent)
    (event : InputEvent) (after : List InputEvent) :
    ∃ data, (run platform { xkb := xkb } (before ++ event :: after))[before.length]?
        = some (event, data) ∧
      (∀ entry ∈ data.entries, entry.modifiers
        = activeModifiers platform.xkb (heldAfter platform.xkb xkb before)) ∧
      (∀ device time key state, event.event = some ⟨some device, .keyboardKey time key state⟩ →
        ∃ entry, data.entries = [entry] ∧ entry.type = .key ∧
          entry.getEntryWithFields.field (bytes "button_name") = some (fromString
            (platform.xkb.keyName (heldAfter platform.xkb xkb before) (key + 8))) ∧
          entry.getEntryWithFields.field (bytes "character") = some (fromString
            (platform.xkb.keyCharacter (heldAfter platform.xkb xkb before) (key + 8)))) ∧
      (Mealy.final (transformEvent platform) { xkb := xkb } (before ++ [event])).xkb
        = heldAfter platform.xkb xkb (before ++ [event]) := by
  set self := Mealy.final (transformEvent platform) ({ xkb := xkb } : EventTransformer κ) before
    with hself
  have hxkb : self.xkb = heldAfter platform.xkb xkb before := final_xkb platform _ before
  refine ⟨(self.transformEvent platform event).1,
    Mealy.outputs_at (transformEvent platform) _ before event after, ?_, ?_, final_xkb ..⟩
  · intro entry he
    obtain ⟨record, hrecord, rfl⟩ := List.mem_map.mp he
    rw [← hxkb]
    cases h : event.device with
    | none =>
      have hnone : record ∈ (self.records platform event).1 := hrecord
      rw [records_none platform self h] at hnone
      cases hnone
    | some device =>
      obtain ⟨uuid, machine, hrecords, -⟩ := records_device platform self h
      have hmem : record ∈ (self.records platform event).1 := hrecord
      rw [hrecords] at hmem
      exact records_modifiers hmem
  · intro device time key state he
    have hd : event.device = some device := by
      unfold InputEvent.device
      rw [he]
      rfl
    have hdata : event.data = .keyboardKey time key state := by
      unfold InputEvent.data
      rw [he]
      rfl
    obtain ⟨uuid, machine, hrecords, -⟩ := records_device platform self hd
    rw [hdata] at hrecords
    refine ⟨_, congrArg (List.map Record.entry) hrecords, rfl, ?_, ?_⟩
    · rw [← hxkb]
      rfl
    · rw [← hxkb]
      rfl

end EventTransformer

end Evget.LibInput
