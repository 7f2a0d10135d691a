import Evget.LibInput.Runs
import Evget.X11.Actions
import Mathlib.Logic.Relation

/-!
# What the handlers do

A handler that returns has emitted entries, one after the other, and has changed nothing else but
defaults of maps.

* `Emitted`, `Emits`              one entry, and any number of them;
* `SameAxes`                      what a handler keeps of the switch for pointers and keys;
* `EventTransformer.switchOnEvent_emits`   **every event** emits entries and keeps the rest.
-/

namespace Evget.X11
open SQLite
open LibInput (text)

variable {ω τ : Type}

/-! ## one entry -/

theorem setModifierValue_interval (modifierState : UInt32) (base : Base) :
    (EventSwitch.setModifierValue modifierState base).interval_ = base.interval_ := by
  unfold EventSwitch.setModifierValue
  generalize EventSwitch.modifierMasks = masks
  induction masks generalizing base with
  | nil => rfl
  | cons mask masks ih =>
    rw [List.foldl_cons, ih]
    dsimp only
    split_ifs <;> rfl

theorem setWindowFields_interval (api : X11Api ω) (world : ω) (base : Base) :
    ((EventSwitch.setWindowFields api world).1 base).interval_ = base.interval_ := by
  unfold EventSwitch.setWindowFields
  dsimp only
  split
  · rfl
  · dsimp only
    cases (api.getWindowName _ _).1 <;> cases (api.getWindowPosition _ _).1 <;>
      cases (api.getWindowSize _ _).1 <;> rfl

def ShowsInterval (B : Type) [Builder B] : Prop :=
  ∀ (builder : B) (fields : Base → Base) (interval : Option Int) (data : Data),
    (∀ base, (fields base).interval_ = interval) →
      ∃ entry, Builder.build (Builder.mapBase fields builder) data = data.addEntry entry ∧
        text "interval" entry = fromInterval interval

theorem key_showsInterval : ShowsInterval Key :=
  fun _ _ _ _ h => ⟨_, rfl, congrArg fromInterval (h _)⟩
theorem mouseClick_showsInterval : ShowsInterval MouseClick :=
  fun _ _ _ _ h => ⟨_, rfl, congrArg fromInterval (h _)⟩
theorem mouseMove_showsInterval : ShowsInterval MouseMove :=
  fun _ _ _ _ h => ⟨_, rfl, congrArg fromInterval (h _)⟩
theorem mouseScroll_showsInterval : ShowsInterval MouseScroll :=
  fun _ _ _ _ h => ⟨_, rfl, congrArg fromInterval (h _)⟩

structure SameButtons (a b : EventSwitch) : Prop extends EventSwitch.SameDevices a b where
  buttonName : ∀ deviceId button, b.buttonName deviceId button = a.buttonName deviceId button

theorem SameButtons.refl (a : EventSwitch) : SameButtons a a := ⟨⟨rfl, rfl⟩, fun _ _ => rfl⟩

theorem SameButtons.trans {a b c : EventSwitch} (h : SameButtons a b) (h' : SameButtons b c) :
    SameButtons a c :=
  ⟨⟨h'.devices.trans h.devices, h'.idToName.trans h.idToName⟩,
    fun deviceId button => (h'.buttonName deviceId button).trans (h.buttonName deviceId button)⟩

structure Emitted (getTime : Nat → τ → Option Int × τ) (time : Nat) (s s' : Handling ω τ) :
    Prop where
  data : ∃ entry, s'.data = s.data.addEntry entry ∧
    text "interval" entry = fromInterval (getTime time s.times).1
  times : s'.times = (getTime time s.times).2
  same : SameButtons s.xEventSwitch s'.xEventSwitch

def Emits (getTime : Nat → τ → Option Int × τ) (time : Nat) : Handling ω τ → Handling ω τ → Prop :=
  Relation.ReflTransGen (Emitted getTime time)

theorem Emits.refl {getTime : Nat → τ → Option Int × τ} {time : Nat} {s : Handling ω τ} :
    Emits getTime time s s := Relation.ReflTransGen.refl

theorem Emits.trans {getTime : Nat → τ → Option Int × τ} {time : Nat} {s s' s'' : Handling ω τ}
    (h : Emits getTime time s s') (h' : Emits getTime time s' s'') : Emits getTime time s s'' :=
  Relation.ReflTransGen.trans h h'

theorem Emits.same {getTime : Nat → τ → Option Int × τ} {time : Nat} {s s' : Handling ω τ}
    (h : Emits getTime time s s') : SameButtons s.xEventSwitch s'.xEventSwitch := by
  induction h with
  | refl => exact .refl _
  | tail _ hstep ih => exact ih.trans hstep.same

theorem getDeviceUuid_buttons (api : X11Api ω) (deviceId : Int) (self : EventSwitch) (world : ω) :
    SameButtons self (self.getDeviceUuid api deviceId world).2.1 := by
  unfold EventSwitch.getDeviceUuid
  cases self.deviceIds.lookup deviceId <;> exact ⟨⟨rfl, rfl⟩, fun _ _ => rfl⟩

section
variable (api : X11Api ω) (getTime : Nat → τ → Option Int × τ) (event : XIRawEvent)
  (timestamp : Int) (systemEvent : List UInt8) {s s' : Handling ω τ}

theorem emit_emitted {B : Type} [Builder B] (hb : ShowsInterval B) (pointer : QueryPointerResult)
    (builder : B)
    (h : EventSwitch.emit api getTime event timestamp systemEvent pointer builder s = .ok s') :
    Emitted getTime event.time s s' := by
  unfold EventSwitch.emit at h
  obtain ⟨device, -, h⟩ := bind_eq_ok h
  obtain ⟨names, hnames, h⟩ := bind_eq_ok h
  obtain ⟨name, -, hname⟩ := bind_eq_ok hnames
  cases hname
  cases h
  refine ⟨?_, rfl, getDeviceUuid_buttons api event.sourceid s.xEventSwitch s.world⟩
  exact hb builder _ _ s.data fun base =>
    (setWindowFields_interval api _ _).trans (setModifierValue_interval _ _)

/-! ## the handlers -/

theorem emit_world {B : Type} [Builder B] (hb : ShowsInterval B) (pointer : QueryPointerResult)
    (builder : B) (world : ω) (h : EventSwitch.emit api getTime event timestamp systemEvent pointer
      builder { s with world := world } = .ok s') : Emits getTime event.time s s' := by
  have hemitted := emit_emitted api getTime event timestamp systemEvent hb pointer builder h
  exact .single ⟨hemitted.data, hemitted.times, hemitted.same⟩

theorem addMotionEvent_emits (h : EventSwitch.addMotionEvent api getTime event timestamp
    systemEvent s = .ok s') : Emits getTime event.time s s' :=
  emit_world api getTime event timestamp systemEvent mouseMove_showsInterval _ _ _ h

/-- a name that the button map has is not changed by asking for it with a default -/
theorem subscript_buttons {x : EventSwitch} {deviceId button : Int} {name : List UInt8}
    (h : x.getButtonName deviceId button = .ok name) :
    SameButtons x { x with
      buttonMap := (x.buttonMap.subscript deviceId ∅).2.insert deviceId
        ((x.buttonMap.subscript deviceId ∅).1.subscript button []).2 } := by
  rw [EventSwitch.getButtonName_eq] at h
  unfold EventSwitch.buttonName at h
  cases hlabels : x.buttonMap.lookup deviceId with
  | none =>
    rw [hlabels] at h
    cases h
  | some labels =>
    rw [hlabels] at h
    cases hname : labels.lookup button with
    | none =>
      rw [Option.bind_some, hname] at h
      cases h
    | some found =>
      have hsub : x.buttonMap.subscript deviceId ∅ = (labels, x.buttonMap) := by
        unfold Dict.subscript
        rw [hlabels]
      have hsub' : labels.subscript button [] = (found, labels) := by
        unfold Dict.subscript
        rw [hname]
      rw [hsub, hsub']
      refine ⟨⟨rfl, rfl⟩, fun d b => ?_⟩
      unfold EventSwitch.buttonName
      dsimp only
      by_cases hd : d = deviceId
      · rw [hd, AList.lookup_insert, hlabels]
      · rw [AList.lookup_insert_ne hd]

theorem buttonEvent_emits (action : ButtonAction) (h : EventSwitchPointerKey.buttonEvent api
    getTime event timestamp action systemEvent s = .ok s') : Emits getTime event.time s s' := by
  unfold EventSwitchPointerKey.buttonEvent at h
  obtain ⟨button, hbutton, h⟩ := bind_eq_ok h
  split at h
  · cases h
    exact .refl
  · have hemitted := emit_emitted api getTime event timestamp systemEvent
      mouseClick_showsInterval _ _ h
    exact .single ⟨hemitted.data, hemitted.times, (subscript_buttons hbutton).trans hemitted.same⟩

theorem keyEvent_emits (self : EventSwitchPointerKey) (h : self.keyEvent api getTime event
    timestamp systemEvent s = .ok s') : Emits getTime event.time s s' := by
  unfold EventSwitchPointerKey.keyEvent at h
  split at h
  · cases h
    exact .refl
  · exact emit_world api getTime event timestamp systemEvent key_showsInterval _ _ _ h

/-- the axis of a device, which can be missing in the map or be an empty one -/
def axis (deviceId : Int) (valuators : Dict Int (Option Int)) : Option Int :=
  (valuators.lookup deviceId).getD none

structure SameAxes (a b : EventSwitchPointerKey) : Prop where
  scrollMap : b.scrollMap = a.scrollMap
  x : ∀ deviceId, axis deviceId b.valuatorX = axis deviceId a.valuatorX
  y : ∀ deviceId, axis deviceId b.valuatorY = axis deviceId a.valuatorY

theorem SameAxes.refl (a : EventSwitchPointerKey) : SameAxes a a :=
  ⟨rfl, fun _ => rfl, fun _ => rfl⟩

theorem axis_subscript (deviceId : Int) (valuators : Dict Int (Option Int)) (d : Int) :
    axis d (valuators.subscript deviceId none).2 = axis d valuators := by
  unfold axis
  by_cases hd : d = deviceId
  · rw [hd]
    unfold Dict.subscript
    cases h : valuators.lookup deviceId with
    | none =>
      dsimp only
      rw [AList.lookup_insert]
      rfl
    | some found =>
      dsimp only
      rw [h]
  · rw [Dict.subscript_other hd]

/-- looking for an axis adds empty ones -/
theorem hasAxis_same (deviceId : Int) (valuators : List Int) (self : EventSwitchPointerKey) :
    SameAxes self (EventSwitchPointerKey.hasAxis deviceId valuators self).2 := by
  induction valuators generalizing self with
  | nil => exact .refl self
  | cons valuator valuators ih =>
    unfold EventSwitchPointerKey.hasAxis
    dsimp only
    split
    · exact ⟨rfl, axis_subscript deviceId self.valuatorX, fun _ => rfl⟩
    · split
      · exact ⟨rfl, axis_subscript deviceId self.valuatorX, axis_subscript deviceId self.valuatorY⟩
      · have hrest := ih { self with
          valuatorX := (self.valuatorX.subscript deviceId none).2
          valuatorY := (self.valuatorY.subscript deviceId none).2 }
        exact ⟨hrest.scrollMap,
          fun d => (hrest.x d).trans (axis_subscript deviceId self.valuatorX d),
          fun d => (hrest.y d).trans (axis_subscript deviceId self.valuatorY d)⟩

theorem motionEvent_emits {self self' : EventSwitchPointerKey} {event' : XIRawEvent}
    (h : self.motionEvent api getTime event timestamp systemEvent s = .ok (event', self', s')) :
    event'.time = event.time ∧ SameAxes self self' ∧ Emits getTime event.time s s' := by
  unfold EventSwitchPointerKey.motionEvent at h
  split at h
  · cases h
    exact ⟨rfl, .refl self, .refl⟩
  · dsimp only at h
    have haxes := hasAxis_same event.sourceid ((getValuators event.valuators).1.map Prod.fst) self
    split at h
    · rename_i found heq
      cases h
      rw [heq] at haxes
      exact ⟨rfl, haxes, .refl⟩
    · rename_i found heq
      obtain ⟨last, hlast, h⟩ := bind_eq_ok h
      cases h
      rw [heq] at haxes
      exact ⟨rfl, haxes, addMotionEvent_emits api getTime _ timestamp systemEvent hlast⟩

theorem scrollEvent_emits {self : EventSwitchPointerKey} {event' : XIRawEvent}
    (h : self.scrollEvent api getTime event timestamp systemEvent s = .ok (event', s')) :
    Emits getTime event.time s s' := by
  unfold EventSwitchPointerKey.scrollEvent at h
  split at h
  · cases h
    exact .refl
  · split at h
    · cases h
      exact .refl
    · dsimp only at h
      split at h
      · cases h
        exact .refl
      · obtain ⟨last, hlast, h⟩ := bind_eq_ok h
        cases h
        exact emit_world api getTime { event with
          valuators := (getValuators event.valuators).2 } timestamp systemEvent
            mouseScroll_showsInterval _ _ _ hlast

theorem touch_emits {B : Type} [Builder B] (hb : ShowsInterval B) (builder : B)
    (h : EventSwitchTouch.touch api getTime event timestamp systemEvent builder s = .ok s') :
    Emits getTime event.time s s' := by
  unfold EventSwitchTouch.touch at h
  split at h
  · cases h
    exact .refl
  · exact emit_world api getTime event timestamp systemEvent hb _ _ _ h

/-! ## the dispatch -/

theorem switchOnEvent_pointerKey_emits {self self' : EventSwitchPointerKey} {handled : Bool}
    (h : self.switchOnEvent api getTime event timestamp s = .ok (handled, self', s')) :
    SameAxes self self' ∧ Emits getTime event.time s s' := by
  cases pointerKey_cases api getTime event timestamp h with
  | @motion event' _ _ _ _ _ hmotion hscroll =>
    -- a motion is handled twice
    obtain ⟨htime, haxes, hemits⟩ := motionEvent_emits api getTime event timestamp _ hmotion
    exact ⟨haxes, hemits.trans (htime ▸ scrollEvent_emits api getTime event' timestamp _ hscroll)⟩
  | button _ _ hbutton =>
    exact ⟨.refl _, buttonEvent_emits api getTime event timestamp _ _ hbutton⟩
  | key _ hkey => exact ⟨.refl _, keyEvent_emits api getTime event timestamp _ self hkey⟩
  | ignored _ => exact ⟨.refl _, .refl⟩

theorem switchOnEvent_touch_emits {handled : Bool}
    (h : EventSwitchTouch.switchOnEvent api getTime event timestamp s = .ok (handled, s')) :
    Emits getTime event.time s s' := by
  cases touchSwitch_cases api getTime event timestamp h with
  | click _ _ hmotion hbutton =>
    exact (touch_emits api getTime event timestamp _ mouseMove_showsInterval _ hmotion).trans
      (touch_emits api getTime event timestamp _ mouseClick_showsInterval _ hbutton)
  | move _ hmotion =>
    exact touch_emits api getTime event timestamp _ mouseMove_showsInterval _ hmotion
  | ignored _ _ => exact .refl

end

namespace EventTransformer

/-- **What an event does**: it emits entries at its time, and keeps what is known of the devices. -/
theorem switchOnEvent_emits (api : X11Api ω) (event : XIRawEvent) (timestamp : Int)
    {self : EventTransformer} {s s' : Handling ω (Dict Int IntervalTracker)}
    {pointerKey : EventSwitchPointerKey}
    (h : self.switchOnEvent api event timestamp s = .ok (pointerKey, s')) :
    SameAxes self.pointerKey pointerKey ∧ Emits (getTime event.sourceid) event.time s s' := by
  unfold switchOnEvent at h
  obtain ⟨⟨handled, self', next⟩, hpointer, h⟩ := bind_eq_ok h
  obtain ⟨haxes, hemits⟩ := switchOnEvent_pointerKey_emits api _ event timestamp hpointer
  dsimp only at h
  split at h
  · cases h
    exact ⟨haxes, hemits⟩
  · obtain ⟨⟨handled', last⟩, htouch, h⟩ := bind_eq_ok h
    cases h
    exact ⟨haxes, hemits.trans (switchOnEvent_touch_emits api _ event timestamp htouch)⟩

end EventTransformer
end Evget.X11
