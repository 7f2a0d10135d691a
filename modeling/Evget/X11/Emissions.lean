import Evget.Event.Named
import Evget.X11.Refreshes
import Evget.X11.Requests

/-!
# Emissions

Whatever a handler does, it adds its entries through `emit`, after it has asked X for the pointer.

* `ShowsBase`               the texts that an entry has of its shared fields;
* `Emission`, `Handled`     one call of `emit`, and any number of them;
* `switchOnEvent_handled`   **every event** is handled by such calls.
-/

namespace Evget.X11
open SQLite
open LibInput (text)

variable {ω τ : Type}

/-! ## shared fields -/

def IsKey (event : XIRawEvent) : Prop :=
  event.evtype = xiRawKeyPress ∨ event.evtype = xiRawKeyRelease

instance (event : XIRawEvent) : Decidable (IsKey event) :=
  inferInstanceAs (Decidable (_ ∨ _))

def sharedTexts (base : Base) : List (List UInt8) := [
  fromInterval base.interval_,
  fromTimestamp base.timestamp_,
  fromDouble base.positionX_,
  fromDouble base.positionY_,
  fromString base.deviceName_,
  fromString base.focusWindowName_,
  fromDouble base.focusWindowPositionX_,
  fromDouble base.focusWindowPositionY_,
  fromDouble base.focusWindowWidth_,
  fromDouble base.focusWindowHeight_,
  fromInt base.screen_,
  fromString base.deviceId_,
  fromString base.systemEvent_,
  fromString base.eventSource_,
  toUnderlyingOptional base.device_]

/-- the entry has the texts of the shared fields before those of its own -/
structure ShowsBase (base : Base) (entry : Entry) : Prop where
  texts : entry.data.take kBaseFields.length = sharedTexts base
  modifiers : entry.modifiers = base.modifiers_

theorem ShowsBase.text {base : Base} {entry : Entry} (h : ShowsBase base entry) {name : String}
    {found : List UInt8}
    (hfound : (kBaseFields.zip (sharedTexts base)).lookup (bytes name) = some found) :
    text name entry = found := by
  obtain ⟨own, hown⟩ : ∃ own, entry.type.fields = kBaseFields ++ own := by
    cases entry.type <;> exact ⟨_, rfl⟩
  have hdata : entry.data = sharedTexts base ++ entry.data.drop kBaseFields.length := by
    rw [← h.texts, List.take_append_drop]
  have hlength : kBaseFields.length = (sharedTexts base).length := rfl
  unfold LibInput.text EntryWithFields.field Entry.getEntryWithFields
  dsimp only
  rw [hown, hdata, List.zip_append hlength, List.lookup_append, hfound]
  rfl

theorem ShowsBase.device {base : Base} {entry : Entry} (h : ShowsBase base entry) :
    entry.data[kDeviceTypeIndex]? = some (toUnderlyingOptional base.device_) := by
  have htake : (entry.data.take kBaseFields.length)[kDeviceTypeIndex]?
      = entry.data[kDeviceTypeIndex]? := List.getElem?_take_of_lt (by decide)
  rw [← htake, h.texts]
  rfl

/-- an entry of this type is made of the builder, whose shared fields have not been set yet -/
def Fresh {B : Type} [Builder B] (builder : B) (type : EntryType) : Prop :=
  ∀ (fields : Base → Base) (data : Data), ∃ entry,
    Builder.build (Builder.mapBase fields builder) data = data.addEntry entry ∧
      entry.Built ∧ entry.type = type ∧ ShowsBase (fields {}) entry

theorem key_fresh {builder : Key} (h : builder.toBase = {}) : Fresh builder .key := fun fields _ =>
  ⟨_, rfl, .key _, rfl, congrArg (sharedTexts ∘ fields) h, congrArg (Base.modifiers_ ∘ fields) h⟩

theorem mouseClick_fresh {builder : MouseClick} (h : builder.toBase = {}) :
    Fresh builder .mouseClick := fun fields _ =>
  ⟨_, rfl, .mouseClick _, rfl, congrArg (sharedTexts ∘ fields) h,
    congrArg (Base.modifiers_ ∘ fields) h⟩

theorem mouseMove_fresh {builder : MouseMove} (h : builder.toBase = {}) :
    Fresh builder .mouseMove := fun fields _ =>
  ⟨_, rfl, .mouseMove _, rfl, congrArg (sharedTexts ∘ fields) h,
    congrArg (Base.modifiers_ ∘ fields) h⟩

theorem mouseScroll_fresh {builder : MouseScroll} (h : builder.toBase = {}) :
    Fresh builder .mouseScroll := fun fields _ =>
  ⟨_, rfl, .mouseScroll _, rfl, congrArg (sharedTexts ∘ fields) h,
    congrArg (Base.modifiers_ ∘ fields) h⟩

theorem setScrollAmounts_toBase (valuators : List (Int × Int)) (infos : List XIScrollClassInfo)
    (builder : MouseScroll) :
    (infos.foldl (EventSwitchPointerKey.setScrollAmount valuators) builder).toBase
      = builder.toBase := by
  induction infos generalizing builder with
  | nil => rfl
  | cons info infos ih =>
    rw [List.foldl_cons, ih]
    unfold EventSwitchPointerKey.setScrollAmount
    cases info.scrollType <;> rfl

/-! ## emissions -/

/-- one call of `emit`, for the device of the event and with what X has said of a pointer: of the
one that the shared switch knows, or of the one of the switch for pointers and keys.  Between the
question and the call there are only other requests, and default names of buttons are added. -/
inductive Emission (api : X11Api ω) (getTime : Nat → τ → Option Int × τ) (event : XIRawEvent)
    (keyPointer : Int) : Handling ω τ → Handling ω τ → Prop
  | emit {B : Type} [Builder B] {type : EntryType} {s t s' : Handling ω τ} {event' : XIRawEvent}
      {timestamp : Int} {systemEvent : List UInt8} {pointerId : Int} {builder : B}
      (hB : Fresh builder type) (htype : type = .key ↔ IsKey event)
      (hevent : event'.sourceid = event.sourceid ∧ event'.evtype = event.evtype)
      (hpointer : pointerId = s.xEventSwitch.pointerId ∨ pointerId = keyPointer)
      (hlater : Later api (api.queryPointer pointerId s.world).2 t.world)
      (h : EventSwitch.emit api getTime event' timestamp systemEvent
        (api.queryPointer pointerId s.world).1 builder t = .ok s')
      (hsame : EventSwitch.SameDevices s.xEventSwitch t.xEventSwitch)
      (hid : t.xEventSwitch.pointerId = s.xEventSwitch.pointerId) (hdata : t.data = s.data) :
    Emission api getTime event keyPointer s s'

def Handled (api : X11Api ω) (getTime : Nat → τ → Option Int × τ) (event : XIRawEvent)
    (keyPointer : Int) : Handling ω τ → Handling ω τ → Prop :=
  Relation.ReflTransGen (Emission api getTime event keyPointer)

section
variable (api : X11Api ω) (getTime : Nat → τ → Option Int × τ) (event : XIRawEvent)
  (timestamp : Int) (systemEvent : List UInt8) {keyPointer : Int} {s s' : Handling ω τ}

theorem emit_handled {B : Type} [Builder B] {type : EntryType} {builder : B}
    (hB : Fresh builder type) (htype : type = .key ↔ IsKey event) {event' : XIRawEvent}
    (hevent : event'.sourceid = event.sourceid ∧ event'.evtype = event.evtype) {pointerId : Int}
    (hpointer : pointerId = s.xEventSwitch.pointerId ∨ pointerId = keyPointer) {world : ω}
    (hlater : Later api (api.queryPointer pointerId s.world).2 world)
    (h : EventSwitch.emit api getTime event' timestamp systemEvent
      (api.queryPointer pointerId s.world).1 builder { s with world := world } = .ok s') :
    Handled api getTime event keyPointer s s' :=
  .single (.emit hB htype hevent hpointer hlater h ⟨rfl, rfl⟩ rfl rfl)

theorem not_key {type : EntryType} (hkey : ¬ IsKey event) (htype : type ≠ .key) :
    type = .key ↔ IsKey event := iff_of_false htype hkey

theorem buttonEvent_handled (action : ButtonAction) (hkey : ¬ IsKey event)
    (h : EventSwitchPointerKey.buttonEvent api getTime event timestamp action systemEvent s
      = .ok s') : Handled api getTime event keyPointer s s' := by
  unfold EventSwitchPointerKey.buttonEvent at h
  obtain ⟨button, -, h⟩ := bind_eq_ok h
  split at h
  · cases h
    exact .refl
  · exact .single (.emit (mouseClick_fresh rfl) (not_key event hkey (by decide)) ⟨rfl, rfl⟩
      (.inl rfl) .refl h ⟨rfl, rfl⟩ rfl rfl)

theorem keyEvent_handled (self : EventSwitchPointerKey) (hkey : IsKey event)
    (h : self.keyEvent api getTime event timestamp systemEvent s = .ok s') :
    Handled api getTime event self.pointerId s s' := by
  unfold EventSwitchPointerKey.keyEvent at h
  split at h
  · cases h
    exact .refl
  · exact emit_handled api getTime event timestamp systemEvent (key_fresh rfl)
      ⟨fun _ => hkey, fun _ => rfl⟩ ⟨rfl, rfl⟩ (.inr rfl)
      (.single (.lookupCharacter event _ _)) h

theorem hasAxis_pointerId (deviceId : Int) (valuators : List Int) (self : EventSwitchPointerKey) :
    (EventSwitchPointerKey.hasAxis deviceId valuators self).2.pointerId = self.pointerId := by
  induction valuators generalizing self with
  | nil => rfl
  | cons valuator valuators ih =>
    unfold EventSwitchPointerKey.hasAxis
    dsimp only
    split
    · rfl
    · split
      · rfl
      · exact ih _

/-- the event that is given back is that of the device -/
theorem motionEvent_handled (hkey : ¬ IsKey event) {self self' : EventSwitchPointerKey}
    {event' : XIRawEvent}
    (h : self.motionEvent api getTime event timestamp systemEvent s = .ok (event', self', s')) :
    (event'.sourceid = event.sourceid ∧ event'.evtype = event.evtype) ∧
      self'.pointerId = self.pointerId ∧ Handled api getTime event keyPointer s s' := by
  unfold EventSwitchPointerKey.motionEvent at h
  split at h
  · cases h
    exact ⟨⟨rfl, rfl⟩, rfl, .refl⟩
  · have hid := hasAxis_pointerId event.sourceid ((getValuators event.valuators).1.map Prod.fst)
      self
    dsimp only at h
    split at h
    · rename_i found heq
      cases h
      rw [heq] at hid
      exact ⟨⟨rfl, rfl⟩, hid, .refl⟩
    · rename_i found heq
      obtain ⟨last, hlast, h⟩ := bind_eq_ok h
      cases h
      rw [heq] at hid
      exact ⟨⟨rfl, rfl⟩, hid, emit_handled api getTime event timestamp systemEvent
        (mouseMove_fresh rfl) (not_key event hkey (by decide)) ⟨rfl, rfl⟩ (.inl rfl) .refl hlast⟩

theorem scrollEvent_handled (hkey : ¬ IsKey event) {self : EventSwitchPointerKey}
    {event' event'' : XIRawEvent}
    (hevent : event'.sourceid = event.sourceid ∧ event'.evtype = event.evtype)
    (h : self.scrollEvent api getTime event' timestamp systemEvent s = .ok (event'', s')) :
    Handled api getTime event self.pointerId s s' := by
  unfold EventSwitchPointerKey.scrollEvent at h
  split at h
  · cases h
    exact .refl
  · split at h
    · cases h
      exact .refl
    · dsimp only at h
      split at h
      · cases h
        exact .refl
      · obtain ⟨last, hlast, h⟩ := bind_eq_ok h
        cases h
        exact emit_handled api getTime event timestamp systemEvent
          (mouseScroll_fresh (setScrollAmounts_toBase _ _ _)) (not_key event hkey (by decide))
          hevent (.inr rfl) .refl hlast

theorem touch_handled {B : Type} [Builder B] {type : EntryType} {builder : B}
    (hB : Fresh builder type) (htype : type = .key ↔ IsKey event)
    (h : EventSwitchTouch.touch api getTime event timestamp systemEvent builder s = .ok s') :
    Handled api getTime event keyPointer s s' := by
  unfold EventSwitchTouch.touch at h
  split at h
  · cases h
    exact .refl
  · exact emit_handled api getTime event timestamp systemEvent hB htype ⟨rfl, rfl⟩ (.inl rfl)
      .refl h

/-! ### the dispatch -/

theorem not_isKey {evtype : Int} (hevent : event.evtype = evtype)
    (hne : evtype ≠ xiRawKeyPress ∧ evtype ≠ xiRawKeyRelease) : ¬ IsKey event := by
  rintro (h | h)
  · exact hne.1 (hevent.symm.trans h)
  · exact hne.2 (hevent.symm.trans h)

theorem pointerKey_handled {self self' : EventSwitchPointerKey} {handled : Bool}
    (h : self.switchOnEvent api getTime event timestamp s = .ok (handled, self', s')) :
    self'.pointerId = self.pointerId ∧ Handled api getTime event self.pointerId s s' := by
  cases pointerKey_cases api getTime event timestamp h with
  | motion htype hmotion hscroll =>
    have hkey := not_isKey event htype (by decide)
    obtain ⟨hevent, hid, hmoved⟩ := motionEvent_handled api getTime event timestamp _ hkey hmotion
    have hscrolled := scrollEvent_handled api getTime event timestamp _ hkey hevent hscroll
    rw [hid] at hscrolled
    exact ⟨hid, hmoved.trans hscrolled⟩
  | button htype _ hbutton =>
    refine ⟨rfl, buttonEvent_handled api getTime event timestamp _ _ ?_ hbutton⟩
    rcases htype with htype | htype
    · exact not_isKey event htype (by decide)
    · exact not_isKey event htype (by decide)
  | key htype hkey => exact ⟨rfl, keyEvent_handled api getTime event timestamp _ self htype hkey⟩
  | ignored _ => exact ⟨rfl, .refl⟩

theorem touchSwitch_handled {handled : Bool}
    (h : EventSwitchTouch.switchOnEvent api getTime event timestamp s = .ok (handled, s')) :
    Handled api getTime event keyPointer s s' := by
  cases touchSwitch_cases api getTime event timestamp h with
  | click htype _ hmotion hbutton =>
    have hkey : ¬ IsKey event := by
      rcases htype with htype | htype
      · exact not_isKey event htype (by decide)
      · exact not_isKey event htype (by decide)
    exact (touch_handled api getTime event timestamp _ (mouseMove_fresh rfl)
      (not_key event hkey (by decide)) hmotion).trans
        (touch_handled api getTime event timestamp _ (mouseClick_fresh rfl)
          (not_key event hkey (by decide)) hbutton)
  | move htype hmotion =>
    exact touch_handled api getTime event timestamp _ (mouseMove_fresh rfl)
      (not_key event (not_isKey event htype (by decide)) (by decide)) hmotion
  | ignored _ _ => exact .refl

end

/-- **Every event** is handled by emissions for its device. -/
theorem EventTransformer.switchOnEvent_handled (api : X11Api ω) (event : XIRawEvent)
    (timestamp : Int) {self : EventTransformer} {s s' : Handling ω (Dict Int IntervalTracker)}
    {pointerKey : EventSwitchPointerKey}
    (h : self.switchOnEvent api event timestamp s = .ok (pointerKey, s')) :
    pointerKey.pointerId = self.pointerKey.pointerId ∧
      Handled api (getTime event.sourceid) event self.pointerKey.pointerId s s' := by
  unfold switchOnEvent at h
  obtain ⟨⟨handled, self', next⟩, hpointer, h⟩ := bind_eq_ok h
  obtain ⟨hid, hhandled⟩ := pointerKey_handled api _ event timestamp hpointer
  dsimp only at h
  split at h
  · cases h
    exact ⟨hid, hhandled⟩
  · obtain ⟨⟨handled', last⟩, htouch, h⟩ := bind_eq_ok h
    cases h
    exact ⟨hid, hhandled.trans (touchSwitch_handled api _ event timestamp htouch)⟩

end Evget.X11
