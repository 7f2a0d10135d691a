import Evget.Lib.Alternation
import Evget.X11.ButtonEvents
import Evget.X11.EventTransformer

/-!
# The actions of buttons, keys and touches

Three handlers derive the action of an entry in three ways: from an argument, from the event type
and from a flag.

* `expectedAction`         the action that belongs to an event;
* `recordedAction`         the action that the handlers record, which differs for released keys;
* `Dropped`                the events of which nothing is recorded;
* `run_records`            in every run, every event records its action unless it is dropped;
* `capture_actions_iff`    when all recorded actions are right, and when they alternate;
* `keyRelease_recorded`    a key that is pressed and released is recorded as pressed twice.
-/

namespace Evget
open SQLite

/-! ## actions of entries -/

def Entry.buttonAction (entry : Entry) : Option (List UInt8) :=
  entry.getEntryWithFields.field (bytes "button_action")

def Data.actions (data : Data) : List (List UInt8) := data.entries.filterMap Entry.buttonAction

theorem MouseClick.entry_buttonAction (self : MouseClick) :
    self.entry.buttonAction = some (toUnderlyingOptional self.action_) := rfl
theorem Key.entry_buttonAction (self : Key) :
    self.entry.buttonAction = some (toUnderlyingOptional self.action_) := rfl
theorem MouseMove.entry_buttonAction (self : MouseMove) : self.entry.buttonAction = none := rfl
theorem MouseScroll.entry_buttonAction (self : MouseScroll) : self.entry.buttonAction = none := rfl

theorem Data.actions_addEntry (data : Data) (entry : Entry) :
    (data.addEntry entry).actions = data.actions ++ entry.buttonAction.toList := by
  show (data.entries ++ [entry]).filterMap Entry.buttonAction = _
  rw [List.filterMap_append]
  cases h : entry.buttonAction <;> simp [h, Data.actions]

theorem Key.build_actions (self : Key) (fields : Base → Base) (data : Data) :
    (Builder.build (Builder.mapBase fields self) data).actions
      = data.actions ++ [toUnderlyingOptional self.action_] := by
  show (data.addEntry (Builder.mapBase fields self).entry).actions = _
  rw [Data.actions_addEntry, Key.entry_buttonAction]
  rfl

theorem MouseClick.build_actions (self : MouseClick) (fields : Base → Base) (data : Data) :
    (Builder.build (Builder.mapBase fields self) data).actions
      = data.actions ++ [toUnderlyingOptional self.action_] := by
  show (data.addEntry (Builder.mapBase fields self).entry).actions = _
  rw [Data.actions_addEntry, MouseClick.entry_buttonAction]
  rfl

theorem MouseMove.build_actions (self : MouseMove) (fields : Base → Base) (data : Data) :
    (Builder.build (Builder.mapBase fields self) data).actions = data.actions ++ [] := by
  show (data.addEntry (Builder.mapBase fields self).entry).actions = _
  rw [Data.actions_addEntry, MouseMove.entry_buttonAction]
  rfl

theorem MouseScroll.build_actions (self : MouseScroll) (fields : Base → Base) (data : Data) :
    (Builder.build (Builder.mapBase fields self) data).actions = data.actions ++ [] := by
  show (data.addEntry (Builder.mapBase fields self).entry).actions = _
  rw [Data.actions_addEntry, MouseScroll.entry_buttonAction]
  rfl

namespace X11

theorem toUnderlying_injective {a b : ButtonAction} (h : toUnderlying a = toUnderlying b) :
    a = b := by
  cases a <;> cases b <;> first | rfl | exact absurd h (by decide)

variable {ω τ : Type}

/-! ## what a handler records -/

structure Records (s s' : Handling ω τ) (actions : List (List UInt8)) : Prop where
  actions : s'.data.actions = s.data.actions ++ actions
  same : EventSwitch.SameDevices s.xEventSwitch s'.xEventSwitch

theorem Records.refl (s : Handling ω τ) : Records s s [] := ⟨(List.append_nil _).symm, rfl, rfl⟩

theorem Records.trans {s s' s'' : Handling ω τ} {a b : List (List UInt8)} (h : Records s s' a)
    (h' : Records s' s'' b) : Records s s'' (a ++ b) := by
  refine ⟨?_, h'.same.devices.trans h.same.devices, h'.same.idToName.trans h.same.idToName⟩
  rw [h'.actions, h.actions, List.append_assoc]

theorem Records.consistent {s s' : Handling ω τ} {a : List (List UInt8)} (h : Records s s' a)
    (hs : s.xEventSwitch.Consistent) : s'.xEventSwitch.Consistent := h.same.consistent hs

variable (api : X11Api ω) (getTime : Nat → τ → Option Int × τ) (event : XIRawEvent)
  (timestamp : Int) (systemEvent : List UInt8)

theorem emit_records {B : Type} [Builder B] (pointer : QueryPointerResult) (builder : B)
    {actions : List (List UInt8)}
    (hb : ∀ fields data, (Builder.build (Builder.mapBase fields builder) data).actions
      = data.actions ++ actions)
    (s : Handling ω τ) (h : s.xEventSwitch.Registered event.sourceid) :
    ∃ s', EventSwitch.emit api getTime event timestamp systemEvent pointer builder s = .ok s' ∧
      Records s s' actions := by
  obtain ⟨fields, s', hs', hdata, hsame⟩ := EventSwitch.emit_spec api getTime event timestamp
    systemEvent pointer builder s h
  exact ⟨s', hs', by rw [hdata, hb], hsame⟩

theorem addMotionEvent_records (s : Handling ω τ) (h : s.xEventSwitch.Registered event.sourceid) :
    ∃ s', EventSwitch.addMotionEvent api getTime event timestamp systemEvent s = .ok s' ∧
      Records s s' [] := by
  obtain ⟨s', hs', hrec⟩ := emit_records api getTime event timestamp systemEvent
    (s.xEventSwitch.queryPointerForDevice api s.world).1 ({} : MouseMove)
    (MouseMove.build_actions _)
    { s with world := (s.xEventSwitch.queryPointerForDevice api s.world).2 } h
  exact ⟨s', hs', hrec.actions, hrec.same⟩

theorem keyEvent_records (self : EventSwitchPointerKey) (s : Handling ω τ)
    (hs : s.xEventSwitch.Consistent) :
    ∃ s', self.keyEvent api getTime event timestamp systemEvent s = .ok s' ∧
      Records s s' (if s.xEventSwitch.hasDevice event.sourceid then
        [toUnderlying (EventSwitchPointerKey.keyAction event)] else []) := by
  unfold EventSwitchPointerKey.keyEvent
  cases hd : s.xEventSwitch.hasDevice event.sourceid with
  | false => exact ⟨s, rfl, .refl s⟩
  | true =>
    obtain ⟨s', hs', hrec⟩ := emit_records api getTime event timestamp systemEvent
      (api.queryPointer self.pointerId s.world).1
      ((((({} : Key).action (EventSwitchPointerKey.keyAction event)).button event.detail).character
        (api.lookupCharacter event (api.queryPointer self.pointerId s.world).1
          (api.queryPointer self.pointerId s.world).2).1.1).buttonName
            (api.keySymToString (api.lookupCharacter event
              (api.queryPointer self.pointerId s.world).1
                (api.queryPointer self.pointerId s.world).2).1.2))
      (Key.build_actions _)
      { s with world := (api.lookupCharacter event (api.queryPointer self.pointerId s.world).1
        (api.queryPointer self.pointerId s.world).2).2 } (hs.registered hd)
    exact ⟨s', hs', hrec.actions, hrec.same⟩

theorem motionEvent_records (self : EventSwitchPointerKey) (s : Handling ω τ)
    (hs : s.xEventSwitch.Consistent) :
    ∃ event' self' s', self.motionEvent api getTime event timestamp systemEvent s
        = .ok (event', self', s') ∧ Records s s' [] := by
  unfold EventSwitchPointerKey.motionEvent
  by_cases hi : (!s.xEventSwitch.hasDevice event.sourceid) = true ∨
      event.flags &&& xiPointerEmulated ≠ 0
  · exact ⟨event, self, s, if_pos hi, .refl s⟩
  · rw [if_neg hi]
    have hd := EventSwitch.known_of_not hi
    rcases hx : EventSwitchPointerKey.hasAxis event.sourceid
      ((getValuators event.valuators).1.map Prod.fst) self with ⟨found, self'⟩
    cases found with
    | false =>
      simp only [hx]
      exact ⟨_, _, _, rfl, .refl s⟩
    | true =>
      obtain ⟨s', hs', hrec⟩ := addMotionEvent_records api getTime
        { event with valuators := (getValuators event.valuators).2 } timestamp systemEvent s
        (hs.registered hd)
      simp only [hx, hs']
      exact ⟨_, _, s', rfl, hrec⟩

theorem scrollEvent_records (self : EventSwitchPointerKey) (s : Handling ω τ)
    (hs : s.xEventSwitch.Consistent) :
    ∃ event' s', self.scrollEvent api getTime event timestamp systemEvent s
        = .ok (event', s') ∧ Records s s' [] := by
  unfold EventSwitchPointerKey.scrollEvent
  split
  · exact ⟨event, s, rfl, .refl s⟩
  · rename_i scrolls _
    by_cases hi : (!s.xEventSwitch.hasDevice event.sourceid) = true ∨
        event.flags &&& xiPointerEmulated ≠ 0
    · exact ⟨event, s, if_pos hi, .refl s⟩
    · rw [if_neg hi]
      have hd := EventSwitch.known_of_not hi
      dsimp only
      split
      · exact ⟨_, s, rfl, .refl s⟩
      · generalize ((scrolls.entries.filter fun scroll =>
          ((getValuators event.valuators).1.lookup scroll.1).isSome).map Sigma.snd).foldl
            (EventSwitchPointerKey.setScrollAmount (getValuators event.valuators).1)
              ({} : MouseScroll) = builder
        obtain ⟨s', hs', hrec⟩ := emit_records api getTime
          { event with valuators := (getValuators event.valuators).2 } timestamp systemEvent
          (api.queryPointer self.pointerId s.world).1 builder (MouseScroll.build_actions _)
          { s with world := (api.queryPointer self.pointerId s.world).2 } (hs.registered hd)
        simp only [hs']
        exact ⟨_, s', rfl, hrec.actions, hrec.same⟩

theorem touch_records {B : Type} [Builder B] (builder : B) {actions : List (List UInt8)}
    (hb : ∀ fields data, (Builder.build (Builder.mapBase fields builder) data).actions
      = data.actions ++ actions)
    (s : Handling ω τ) (hs : s.xEventSwitch.Consistent) :
    ∃ s', EventSwitchTouch.touch api getTime event timestamp systemEvent builder s = .ok s' ∧
      Records s s' (if s.xEventSwitch.hasDevice event.sourceid then actions else []) := by
  unfold EventSwitchTouch.touch
  cases hd : s.xEventSwitch.hasDevice event.sourceid with
  | false => exact ⟨s, rfl, .refl s⟩
  | true =>
    obtain ⟨s', hs', hrec⟩ := emit_records api getTime event timestamp systemEvent
      (s.xEventSwitch.queryPointerForDevice api s.world).1 builder hb
      { s with world := (s.xEventSwitch.queryPointerForDevice api s.world).2 } (hs.registered hd)
    exact ⟨s', hs', hrec.actions, hrec.same⟩

theorem touchMotion_records (s s' : Handling ω τ) (hs : s.xEventSwitch.Consistent)
    (h : EventSwitchTouch.touchMotion api getTime event timestamp systemEvent s = .ok s') :
    Records s s' [] := by
  obtain ⟨s'', hs'', hrec⟩ := touch_records api getTime event timestamp systemEvent
    (({} : MouseMove).touchId event.detail) (MouseMove.build_actions _) s hs
  obtain rfl : s'' = s' := Except.ok.inj (hs''.symm.trans h)
  rw [ite_self] at hrec
  exact hrec

/-- a button event that does not throw records its action, unless it is ignored -/
theorem buttonEvent_records (action : ButtonAction) (s s' : Handling ω τ)
    (hs : s.xEventSwitch.Consistent)
    (h : EventSwitchPointerKey.buttonEvent api getTime event timestamp action systemEvent s
      = .ok s') :
    Records s s' (if Ignored event s.xEventSwitch then [] else [toUnderlying action]) := by
  cases hname : s.xEventSwitch.buttonName event.sourceid event.detail with
  | none =>
    rw [buttonEvent_unnamed api getTime event timestamp action systemEvent s hname] at h
    exact nomatch h
  | some name =>
    obtain ⟨s'', hs'', hign, hnot, hsame⟩ := buttonEvent_named api getTime event timestamp action
      systemEvent s hs hname
    obtain rfl : s'' = s' := Except.ok.inj (hs''.symm.trans h)
    by_cases hi : Ignored event s.xEventSwitch
    · rw [if_pos hi, hign hi]
      exact .refl s
    · rw [if_neg hi]
      obtain ⟨click, hdata, haction, -⟩ := hnot hi
      refine ⟨?_, hsame⟩
      rw [hdata, Data.actions_addEntry, MouseClick.entry_buttonAction, haction]
      rfl

/-! ## what an event records -/

/-- the action that belongs to an event -/
def expectedAction (event : XIRawEvent) : Option ButtonAction :=
  if event.evtype = xiRawButtonPress ∨ event.evtype = xiRawTouchBegin then some .press
  else if event.evtype = xiRawButtonRelease ∨ event.evtype = xiRawTouchEnd ∨
      event.evtype = xiRawKeyRelease then some .release
  else if event.evtype = xiRawKeyPress then
    if event.flags &&& xiKeyRepeat ≠ 0 then some .repeat else some .press
  else none

/-- the action that the handlers record: a released key is taken for a pressed one, because its
event type is not the one that `keyEvent` compares with -/
def recordedAction (event : XIRawEvent) : Option ButtonAction :=
  if event.evtype = xiRawKeyRelease then
    if event.flags &&& xiKeyRepeat ≠ 0 then some .repeat else some .press
  else expectedAction event

/-- no action is recorded of the event: its device is not known, or it is a button event that is
ignored, or a touch for which there is no switch -/
def Dropped (touch : Bool) (event : XIRawEvent) (x : EventSwitch) : Prop :=
  x.hasDevice event.sourceid = false ∨
    ((event.evtype = xiRawButtonPress ∨ event.evtype = xiRawButtonRelease) ∧ Ignored event x) ∨
    ((event.evtype = xiRawTouchBegin ∨ event.evtype = xiRawTouchEnd) ∧ touch = false)

instance (touch : Bool) (event : XIRawEvent) (x : EventSwitch) :
    Decidable (Dropped touch event x) :=
  inferInstanceAs (Decidable (_ ∨ _ ∨ _))

def recordedOf (touch : Bool) (event : XIRawEvent) (x : EventSwitch) : List (List UInt8) :=
  if Dropped touch event x then [] else ((recordedAction event).map toUnderlying).toList

theorem recordedOf_none (touch : Bool) {event : XIRawEvent} (x : EventSwitch)
    (h : recordedAction event = none) : recordedOf touch event x = [] := by
  unfold recordedOf
  rw [h]
  exact ite_self _

theorem recordedOf_some {touch : Bool} {event : XIRawEvent} {x : EventSwitch}
    {action : ButtonAction} {p : Prop} [Decidable p] (haction : recordedAction event = some action)
    (hp : Dropped touch event x ↔ p) :
    recordedOf touch event x = if p then [] else [toUnderlying action] := by
  unfold recordedOf
  rw [haction]
  exact if_congr hp rfl rfl

theorem dropped_button {touch : Bool} {event : XIRawEvent} {x : EventSwitch}
    (h : event.evtype = xiRawButtonPress ∨ event.evtype = xiRawButtonRelease) :
    Dropped touch event x ↔ Ignored event x := by
  have htouch : ¬ (event.evtype = xiRawTouchBegin ∨ event.evtype = xiRawTouchEnd) := by
    rcases h with h | h <;> rw [h] <;> decide
  constructor
  · rintro (hd | ⟨-, hi⟩ | ⟨ht, -⟩)
    · exact .inl hd
    · exact hi
    · exact absurd ht htouch
  · exact fun hi => .inr (.inl ⟨h, hi⟩)

theorem dropped_key {touch : Bool} {event : XIRawEvent} {x : EventSwitch}
    (h : event.evtype = xiRawKeyPress ∨ event.evtype = xiRawKeyRelease) :
    Dropped touch event x ↔ ¬ x.hasDevice event.sourceid = true := by
  have hbutton : ¬ (event.evtype = xiRawButtonPress ∨ event.evtype = xiRawButtonRelease) := by
    rcases h with h | h <;> rw [h] <;> decide
  have htouch : ¬ (event.evtype = xiRawTouchBegin ∨ event.evtype = xiRawTouchEnd) := by
    rcases h with h | h <;> rw [h] <;> decide
  rw [Bool.not_eq_true]
  constructor
  · rintro (hd | ⟨hb, -⟩ | ⟨ht, -⟩)
    · exact hd
    · exact absurd hb hbutton
    · exact absurd ht htouch
  · exact .inl

theorem dropped_touch {event : XIRawEvent} {x : EventSwitch}
    (h : event.evtype = xiRawTouchBegin ∨ event.evtype = xiRawTouchEnd) :
    Dropped true event x ↔ ¬ x.hasDevice event.sourceid = true := by
  have hbutton : ¬ (event.evtype = xiRawButtonPress ∨ event.evtype = xiRawButtonRelease) := by
    rcases h with h | h <;> rw [h] <;> decide
  rw [Bool.not_eq_true]
  constructor
  · rintro (hd | ⟨hb, -⟩ | ⟨-, ht⟩)
    · exact hd
    · exact absurd hb hbutton
    · exact nomatch ht
  · exact .inl

theorem recordedAction_key {event : XIRawEvent}
    (h : event.evtype = xiRawKeyPress ∨ event.evtype = xiRawKeyRelease) :
    recordedAction event = some (EventSwitchPointerKey.keyAction event) := by
  unfold recordedAction expectedAction EventSwitchPointerKey.keyAction
  rcases h with h | h
  · rw [h]
    by_cases hr : event.flags &&& xiKeyRepeat ≠ 0 <;> simp [hr] <;> decide
  · rw [h]
    by_cases hr : event.flags &&& xiKeyRepeat ≠ 0 <;> simp [hr] <;> decide

theorem expectedAction_keyRelease {event : XIRawEvent} (h : event.evtype = xiRawKeyRelease) :
    expectedAction event = some .release := by
  rw [expectedAction, h]
  rfl

/-- `xiKeyRelease` is the type of no raw event -/
theorem keyAction_ne_release {event : XIRawEvent}
    (h : event.evtype = xiRawKeyPress ∨ event.evtype = xiRawKeyRelease) :
    EventSwitchPointerKey.keyAction event ≠ .release := by
  have hne : event.evtype ≠ xiKeyRelease := by
    rcases h with h | h <;> rw [h] <;> decide
  rw [EventSwitchPointerKey.keyAction, if_pos hne]
  by_cases hr : event.flags &&& xiKeyRepeat ≠ 0
  · rw [if_pos hr]
    exact nofun
  · rw [if_neg hr]
    exact nofun

def OfPointerKey (event : XIRawEvent) : Prop :=
  event.evtype = xiRawMotion ∨ event.evtype = xiRawButtonPress ∨ event.evtype = xiRawButtonRelease ∨
    event.evtype = xiRawKeyPress ∨ event.evtype = xiRawKeyRelease

theorem recordedAction_other {event : XIRawEvent} (h : ¬ OfPointerKey event)
    (hbegin : event.evtype ≠ xiRawTouchBegin) (hend : event.evtype ≠ xiRawTouchEnd) :
    recordedAction event = none := by
  unfold OfPointerKey at h
  simp only [not_or] at h
  obtain ⟨-, hpress, hrelease, hkeyPress, hkeyRelease⟩ := h
  rw [recordedAction, if_neg hkeyRelease, expectedAction, if_neg (by simp [hpress, hbegin]),
    if_neg (by simp [hrelease, hend, hkeyRelease]), if_neg hkeyPress]

/-- without a switch for touches the events of other types record nothing -/
theorem recordedOf_other {event : XIRawEvent} (h : ¬ OfPointerKey event) (x : EventSwitch) :
    recordedOf false event x = [] := by
  by_cases htouch : event.evtype = xiRawTouchBegin ∨ event.evtype = xiRawTouchEnd
  · exact if_pos (.inr (.inr ⟨htouch, rfl⟩))
  · rw [not_or] at htouch
    exact recordedOf_none false x (recordedAction_other h htouch.1 htouch.2)

inductive Dispatched (self : EventSwitchPointerKey) (s : Handling ω τ) :
    Bool → EventSwitchPointerKey → Handling ω τ → Prop
  | motion {event' event'' : XIRawEvent} {self' : EventSwitchPointerKey} {moved s' : Handling ω τ}
      (htype : event.evtype = xiRawMotion)
      (hmotion : self.motionEvent api getTime event timestamp (bytes "XI_RawMotion") s
        = .ok (event', self', moved))
      (hscroll : self'.scrollEvent api getTime event' timestamp (bytes "XI_RawMotion") moved
        = .ok (event'', s')) : Dispatched self s true self' s'
  | button {action : ButtonAction} {systemEvent : List UInt8} {s' : Handling ω τ}
      (htype : event.evtype = xiRawButtonPress ∨ event.evtype = xiRawButtonRelease)
      (haction : recordedAction event = some action)
      (hbutton : EventSwitchPointerKey.buttonEvent api getTime event timestamp action systemEvent s
        = .ok s') : Dispatched self s true self s'
  | key {systemEvent : List UInt8} {s' : Handling ω τ}
      (htype : event.evtype = xiRawKeyPress ∨ event.evtype = xiRawKeyRelease)
      (hkey : self.keyEvent api getTime event timestamp systemEvent s = .ok s') :
    Dispatched self s true self s'
  | ignored (htype : ¬ OfPointerKey event) : Dispatched self s false self s

theorem pointerKey_cases {self self' : EventSwitchPointerKey} {s s' : Handling ω τ} {handled : Bool}
    (h : self.switchOnEvent api getTime event timestamp s = .ok (handled, self', s')) :
    Dispatched api getTime event timestamp self s handled self' s' := by
  unfold EventSwitchPointerKey.switchOnEvent at h
  by_cases hmotion : event.evtype = xiRawMotion
  · rw [if_pos hmotion] at h
    obtain ⟨⟨event', self₁, moved⟩, h₁, h⟩ := bind_eq_ok h
    obtain ⟨⟨event'', s₂⟩, h₂, h⟩ := bind_eq_ok h
    cases h
    exact .motion hmotion h₁ h₂
  rw [if_neg hmotion] at h
  by_cases hpress : event.evtype = xiRawButtonPress
  · rw [if_pos hpress] at h
    obtain ⟨s₁, h₁, h⟩ := bind_eq_ok h
    cases h
    refine .button (.inl hpress) ?_ h₁
    rw [recordedAction, expectedAction, hpress]
    rfl
  rw [if_neg hpress] at h
  by_cases hrelease : event.evtype = xiRawButtonRelease
  · rw [if_pos hrelease] at h
    obtain ⟨s₁, h₁, h⟩ := bind_eq_ok h
    cases h
    refine .button (.inr hrelease) ?_ h₁
    rw [recordedAction, expectedAction, hrelease]
    rfl
  rw [if_neg hrelease] at h
  by_cases hkeyPress : event.evtype = xiRawKeyPress
  · rw [if_pos hkeyPress] at h
    obtain ⟨s₁, h₁, h⟩ := bind_eq_ok h
    cases h
    exact .key (.inl hkeyPress) h₁
  rw [if_neg hkeyPress] at h
  by_cases hkeyRelease : event.evtype = xiRawKeyRelease
  · rw [if_pos hkeyRelease] at h
    obtain ⟨s₁, h₁, h⟩ := bind_eq_ok h
    cases h
    exact .key (.inr hkeyRelease) h₁
  rw [if_neg hkeyRelease] at h
  cases h
  refine .ignored ?_
  rintro (h | h | h | h | h)
  · exact hmotion h
  · exact hpress h
  · exact hrelease h
  · exact hkeyPress h
  · exact hkeyRelease h

/-- the switch for pointers and keys records for the types that it handles, and does nothing for the
others -/
theorem pointerKey_records (touch : Bool) (self self' : EventSwitchPointerKey)
    (s s' : Handling ω τ) (handled : Bool) (hs : s.xEventSwitch.Consistent)
    (h : self.switchOnEvent api getTime event timestamp s = .ok (handled, self', s')) :
    (handled = true ∧ Records s s' (recordedOf touch event s.xEventSwitch)) ∨
      (handled = false ∧ s' = s ∧ ¬ OfPointerKey event) := by
  cases pointerKey_cases api getTime event timestamp h with
  | motion htype hmotion hscroll =>
    obtain ⟨event₁, self₁, s₁, hs₁, hrec₁⟩ := motionEvent_records api getTime event timestamp
      (bytes "XI_RawMotion") self s hs
    obtain ⟨event₂, s₂, hs₂, hrec₂⟩ := scrollEvent_records api getTime event₁ timestamp
      (bytes "XI_RawMotion") self₁ s₁ (hrec₁.consistent hs)
    rw [hs₁] at hmotion
    cases hmotion
    rw [hs₂] at hscroll
    cases hscroll
    have hnone : recordedAction event = none := by
      rw [recordedAction, expectedAction, htype]
      rfl
    rw [recordedOf_none touch s.xEventSwitch hnone]
    exact .inl ⟨rfl, hrec₁.trans hrec₂⟩
  | @button action systemEvent _ htype haction hbutton =>
    rw [recordedOf_some haction (dropped_button htype)]
    exact .inl ⟨rfl,
      buttonEvent_records api getTime event timestamp systemEvent action s s' hs hbutton⟩
  | @key systemEvent _ htype hkey =>
    obtain ⟨s₁, hs₁, hrec⟩ := keyEvent_records api getTime event timestamp systemEvent self s hs
    obtain rfl : s₁ = s' := Except.ok.inj (hs₁.symm.trans hkey)
    rw [recordedOf_some (recordedAction_key htype) (dropped_key htype), ite_not]
    exact .inl ⟨rfl, hrec⟩
  | ignored htype => exact .inr ⟨rfl, rfl, htype⟩

inductive Touched (s : Handling ω τ) : Bool → Handling ω τ → Prop
  | click {action : ButtonAction} {systemEvent : List UInt8} {moved s' : Handling ω τ}
      (htype : event.evtype = xiRawTouchBegin ∨ event.evtype = xiRawTouchEnd)
      (haction : recordedAction event = some action)
      (hmotion : EventSwitchTouch.touchMotion api getTime event timestamp systemEvent s = .ok moved)
      (hbutton : EventSwitchTouch.touchButton api getTime event timestamp action systemEvent moved
        = .ok s') : Touched s true s'
  | move {systemEvent : List UInt8} {s' : Handling ω τ} (htype : event.evtype = xiRawTouchUpdate)
      (hmotion : EventSwitchTouch.touchMotion api getTime event timestamp systemEvent s = .ok s') :
    Touched s true s'
  | ignored (hbegin : event.evtype ≠ xiRawTouchBegin) (hend : event.evtype ≠ xiRawTouchEnd) :
    Touched s false s

theorem touchSwitch_cases {s s' : Handling ω τ} {handled : Bool}
    (h : EventSwitchTouch.switchOnEvent api getTime event timestamp s = .ok (handled, s')) :
    Touched api getTime event timestamp s handled s' := by
  unfold EventSwitchTouch.switchOnEvent at h
  by_cases hbegin : event.evtype = xiRawTouchBegin
  · rw [if_pos hbegin] at h
    obtain ⟨s₁, h₁, h⟩ := bind_eq_ok h
    obtain ⟨s₂, h₂, h⟩ := bind_eq_ok h
    cases h
    refine .click (.inl hbegin) ?_ h₁ h₂
    rw [recordedAction, expectedAction, hbegin]
    rfl
  rw [if_neg hbegin] at h
  by_cases hupdate : event.evtype = xiRawTouchUpdate
  · rw [if_pos hupdate] at h
    obtain ⟨s₁, h₁, h⟩ := bind_eq_ok h
    cases h
    exact .move hupdate h₁
  rw [if_neg hupdate] at h
  by_cases hend : event.evtype = xiRawTouchEnd
  · rw [if_pos hend] at h
    obtain ⟨s₁, h₁, h⟩ := bind_eq_ok h
    obtain ⟨s₂, h₂, h⟩ := bind_eq_ok h
    cases h
    refine .click (.inr hend) ?_ h₁ h₂
    rw [recordedAction, expectedAction, hend]
    rfl
  rw [if_neg hend] at h
  cases h
  exact .ignored hbegin hend

/-- a touch that begins or ends is a move and then a click -/
theorem touchClick_records (systemEvent : List UInt8) (action : ButtonAction)
    (s s₁ s₂ : Handling ω τ) (hs : s.xEventSwitch.Consistent)
    (htype : event.evtype = xiRawTouchBegin ∨ event.evtype = xiRawTouchEnd)
    (haction : recordedAction event = some action)
    (h₁ : EventSwitchTouch.touchMotion api getTime event timestamp systemEvent s = .ok s₁)
    (h₂ : EventSwitchTouch.touchButton api getTime event timestamp action systemEvent s₁
      = .ok s₂) :
    Records s s₂ (recordedOf true event s.xEventSwitch) := by
  have hrec₁ := touchMotion_records api getTime event timestamp systemEvent s s₁ hs h₁
  obtain ⟨s', hs', hrec₂⟩ := touch_records api getTime event timestamp systemEvent
    ((({} : MouseClick).action action).touchId event.detail) (MouseClick.build_actions _) s₁
    (hrec₁.consistent hs)
  obtain rfl : s' = s₂ := Except.ok.inj (hs'.symm.trans h₂)
  have hsame : s₁.xEventSwitch.hasDevice event.sourceid
      = s.xEventSwitch.hasDevice event.sourceid := by
    rw [EventSwitch.hasDevice, hrec₁.same.devices]
    rfl
  rw [recordedOf_some haction (dropped_touch htype), ite_not, ← hsame]
  exact hrec₁.trans hrec₂

theorem touchSwitch_records (s s' : Handling ω τ) (handled : Bool)
    (hs : s.xEventSwitch.Consistent) (hother : ¬ OfPointerKey event)
    (h : EventSwitchTouch.switchOnEvent api getTime event timestamp s = .ok (handled, s')) :
    Records s s' (recordedOf true event s.xEventSwitch) := by
  cases touchSwitch_cases api getTime event timestamp h with
  | @click action systemEvent moved _ htype haction hmotion hbutton =>
    exact touchClick_records api getTime event timestamp systemEvent action s moved s' hs htype
      haction hmotion hbutton
  | @move systemEvent _ htype hmotion =>
    have hnone : recordedAction event = none := by
      rw [recordedAction, expectedAction, htype]
      rfl
    rw [recordedOf_none true s.xEventSwitch hnone]
    exact touchMotion_records api getTime event timestamp systemEvent s s' hs hmotion
  | ignored hbegin hend =>
    rw [recordedOf_none true s.xEventSwitch (recordedAction_other hother hbegin hend)]
    exact .refl s

/-! ## runs -/

namespace EventTransformer

theorem switchOnEvent_records (self : EventTransformer)
    (s s' : Handling ω (Dict Int IntervalTracker)) (pointerKey : EventSwitchPointerKey)
    (hs : s.xEventSwitch.Consistent)
    (h : self.switchOnEvent api event timestamp s = .ok (pointerKey, s')) :
    Records s s' (recordedOf self.touch event s.xEventSwitch) := by
  unfold EventTransformer.switchOnEvent at h
  obtain ⟨⟨handled, pointerKey₁, s₁⟩, h₁, hrest⟩ := bind_eq_ok h
  dsimp only at hrest
  rcases pointerKey_records api _ event timestamp self.touch _ _ s s₁ handled hs h₁
    with ⟨rfl, hrec⟩ | ⟨rfl, rfl, hother⟩
  · cases hrest
    exact hrec
  · cases htouch : self.touch with
    | false =>
      rw [htouch] at hrest
      cases hrest
      rw [recordedOf_other hother]
      exact .refl _
    | true =>
      rw [htouch] at hrest
      obtain ⟨⟨handled', s₂⟩, h₂, hreturn⟩ := bind_eq_ok hrest
      cases hreturn
      exact touchSwitch_records api _ event timestamp s₁ _ handled' hs hother h₂

theorem refreshDevice_keeps (xi2 : Dict Int XIDeviceInfo) (device : XDeviceInfo)
    (self self' : EventTransformer) (world world' : ω) (hs : self.xEventSwitch.Consistent)
    (h : refreshDevice api xi2 device self world = .ok (self', world')) :
    self'.xEventSwitch.Consistent ∧ self'.touch = self.touch := by
  unfold refreshDevice at h
  split at h
  · cases h
  · obtain ⟨xi2Device, -, hrest⟩ := bind_eq_ok h
    dsimp only at hrest
    split at hrest
    · split at hrest
      · cases hrest
      · cases hrest
        exact ⟨EventSwitch.refreshDevices_consistent hs api _ _ _ _ _ _, rfl⟩
    · cases hrest
      exact ⟨hs, rfl⟩

theorem refreshListed_keeps (xi2 : Dict Int XIDeviceInfo) (devices : List XDeviceInfo)
    (self self' : EventTransformer) (world world' : ω) (hs : self.xEventSwitch.Consistent)
    (h : refreshListed api xi2 devices self world = .ok (self', world')) :
    self'.xEventSwitch.Consistent ∧ self'.touch = self.touch := by
  induction devices generalizing self world with
  | nil =>
    cases h
    exact ⟨hs, rfl⟩
  | cons device devices ih =>
    obtain ⟨⟨self₁, world₁⟩, h₁, hrest⟩ := bind_eq_ok h
    obtain ⟨hs₁, htouch₁⟩ := refreshDevice_keeps api xi2 device self self₁ world world₁ hs h₁
    obtain ⟨hs', htouch⟩ := ih self₁ world₁ hs₁ hrest
    exact ⟨hs', htouch.trans htouch₁⟩

/-- **One event**: what it has recorded, and what the next one can rely on. -/
theorem transformEvent_records (event : InputEvent) (self self' : EventTransformer)
    (world world' : ω) (data : Data) (hs : self.xEventSwitch.Consistent)
    (h : transformEvent api event self world = .ok (data, self', world')) :
    (self'.xEventSwitch.Consistent ∧ self'.touch = self.touch) ∧
      ∀ s ∈ step event self data, s.data.actions = recordedOf self.touch s.event s.before := by
  unfold transformEvent at h
  unfold step
  cases hc : event.cookie with
  | none =>
    rw [hc] at h
    cases h
    exact ⟨⟨hs, rfl⟩, nofun⟩
  | some raw =>
    rw [hc] at h
    dsimp only at h
    by_cases hdevice : raw.evtype = xiDeviceChanged ∨ raw.evtype = xiHierarchyChanged
    · rw [if_pos hdevice] at h
      obtain ⟨⟨self₁, world₁⟩, h₁, hreturn⟩ := bind_eq_ok h
      cases hreturn
      refine ⟨refreshListed_keeps api _ _ self _ _ _ hs h₁, fun s hmem => ?_⟩
      rw [List.mem_singleton.mp hmem]
      refine (recordedOf_none _ _ ?_).symm
      rcases hdevice with e | e <;> rw [recordedAction, expectedAction, e] <;> rfl
    · rw [if_neg hdevice] at h
      obtain ⟨⟨pointerKey, s₁⟩, h₁, hreturn⟩ := bind_eq_ok h
      cases hreturn
      have hrec := switchOnEvent_records api raw event.timestamp self
        ⟨world, self.deviceIntervals, self.xEventSwitch, .new⟩ s₁ pointerKey hs h₁
      refine ⟨⟨hrec.consistent hs, rfl⟩, fun s hmem => ?_⟩
      rw [List.mem_singleton.mp hmem]
      exact hrec.actions

/-- **Every run** from a state whose maps have the same keys. -/
theorem run_records (events : List InputEvent) (self : EventTransformer) (world : ω)
    (hs : self.xEventSwitch.Consistent) :
    ∀ s ∈ run api events self world, s.data.actions = recordedOf self.touch s.event s.before := by
  induction events generalizing self world with
  | nil => exact nofun
  | cons event events ih =>
    unfold run
    split
    · exact nofun
    · rename_i data self' world' h
      obtain ⟨⟨hs', htouch⟩, hstep⟩ :=
        transformEvent_records api event self self' world world' data hs h
      intro s hmem
      rcases List.mem_append.mp hmem with hm | hm
      · exact hstep s hm
      · rw [← htouch]
        exact ih self' world' hs' s hm

theorem capture_records (touch : Bool) (world : ω) (events : List InputEvent) :
    ∀ s ∈ capture api touch world events,
      s.data.actions = recordedOf touch s.event s.before := by
  unfold capture
  split
  · exact nofun
  · rename_i self world' h
    obtain ⟨hs, htouch⟩ := refreshListed_keeps api _ _ _ self _ world' EventSwitch.consistent_new h
    have hrun := run_records api events self world' hs
    rw [htouch] at hrun
    exact hrun

end EventTransformer

/-! ## the actions of a run -/

open EventTransformer Alternation

/-- every recorded action is the one that belongs to its event -/
def ActionsRight (steps : List Step) : Prop :=
  ∀ s ∈ steps, ∀ text ∈ s.data.actions, (expectedAction s.event).map toUnderlying = some text

/-- no release of a key of a known device -/
def NoKeyRelease (steps : List Step) : Prop :=
  ∀ s ∈ steps, s.before.hasDevice s.event.sourceid = true → s.event.evtype ≠ xiRawKeyRelease

theorem known_of_not_dropped {touch : Bool} {event : XIRawEvent} {x : EventSwitch}
    (h : ¬ Dropped touch event x) : x.hasDevice event.sourceid = true :=
  Bool.eq_true_of_not_eq_false fun hd => h (.inl hd)

/-- **The slip**: the recorded actions are right when no key of a known device is released, and only
then. -/
theorem actionsRight_iff {touch : Bool} {steps : List Step}
    (h : ∀ s ∈ steps, s.data.actions = recordedOf touch s.event s.before) :
    ActionsRight steps ↔ NoKeyRelease steps := by
  constructor
  · intro hright s hs hknown hkey
    have hactions := h s hs
    rw [recordedOf_some (recordedAction_key (.inr hkey)) (dropped_key (.inr hkey)),
      if_neg (not_not_intro hknown)] at hactions
    have hmem : toUnderlying (EventSwitchPointerKey.keyAction s.event) ∈ s.data.actions := by
      rw [hactions]
      exact List.mem_singleton_self _
    have hexpected := hright s hs _ hmem
    rw [expectedAction_keyRelease hkey] at hexpected
    exact keyAction_ne_release (.inr hkey) (toUnderlying_injective (Option.some.inj hexpected)).symm
  · intro hno s hs text hmem
    rw [h s hs, recordedOf] at hmem
    by_cases hd : Dropped touch s.event s.before
    · rw [if_pos hd] at hmem
      exact nomatch hmem
    · rw [if_neg hd, recordedAction, if_neg (hno s hs (known_of_not_dropped hd))] at hmem
      exact Option.mem_toList.mp hmem

def pressOrRelease (event : XIRawEvent) : Option ButtonAction :=
  (expectedAction event).filter (· ≠ .repeat)

def ofSource (deviceId detail : Int) (steps : List Step) : List Step :=
  steps.filter fun s => s.event.sourceid = deviceId ∧ s.event.detail = detail

def marked (touch : Bool) (steps : List Step) : List (ButtonAction × Bool) :=
  steps.flatMap fun s => ((pressOrRelease s.event).map fun action =>
    (action, !decide (Dropped touch s.event s.before))).toList

/-- the recorded actions but for repetitions -/
def recordedActions (steps : List Step) : List (List UInt8) :=
  steps.flatMap fun s => s.data.actions.filter (· ≠ toUnderlying ButtonAction.repeat)

theorem pressOrRelease_eq {event : XIRawEvent} {action : ButtonAction}
    (h : pressOrRelease event = some action) : action = .press ∨ action = .release := by
  obtain ⟨-, hne⟩ := Option.filter_eq_some_iff.mp h
  cases action with
  | press => exact .inl rfl
  | release => exact .inr rfl
  | «repeat» => exact absurd hne (by decide)

theorem marked_pressOrRelease {touch : Bool} {steps : List Step} :
    ∀ x ∈ marked touch steps, x.1 = .press ∨ x.1 = .release := by
  intro x hx
  obtain ⟨s, -, hs⟩ := List.mem_flatMap.mp hx
  obtain ⟨action, haction, rfl⟩ := Option.map_eq_some_iff.mp (Option.mem_toList.mp hs)
  exact pressOrRelease_eq haction

/-- when all actions are right, the recorded ones are those of the marked events -/
theorem recordedActions_eq {touch : Bool} {steps : List Step}
    (h : ∀ s ∈ steps, s.data.actions = recordedOf touch s.event s.before)
    (hno : NoKeyRelease steps) :
    recordedActions steps = (kept (marked touch steps)).map toUnderlying := by
  induction steps with
  | nil => rfl
  | cons s steps ih =>
    have ih := ih (fun s hs => h s (List.mem_cons_of_mem _ hs))
      fun s hs => hno s (List.mem_cons_of_mem _ hs)
    have hs := h s (List.mem_cons_self ..)
    rw [recordedActions, marked, List.flatMap_cons, List.flatMap_cons]
    show _ ++ recordedActions steps = (kept (_ ++ marked touch steps)).map toUnderlying
    rw [ih, kept_append, List.map_append, hs, recordedOf]
    refine congrArg (· ++ _) ?_
    by_cases hd : Dropped touch s.event s.before
    · rw [if_pos hd, decide_eq_true hd]
      cases pressOrRelease s.event <;> rfl
    · have hkey := hno s (List.mem_cons_self ..) (known_of_not_dropped hd)
      rw [if_neg hd, decide_eq_false hd, recordedAction, if_neg hkey, pressOrRelease]
      rcases expectedAction s.event with _ | (_ | _ | _) <;> rfl

def pressesAndReleases (steps : List Step) : List ButtonAction :=
  steps.flatMap fun s => (pressOrRelease s.event).toList

theorem marked_fst (touch : Bool) (steps : List Step) :
    (marked touch steps).map Prod.fst = pressesAndReleases steps := by
  rw [marked, List.map_flatMap, pressesAndReleases]
  refine congrArg (List.flatMap · steps) (funext fun s => ?_)
  cases pressOrRelease s.event <;> rfl

theorem recordedActions_alternates_iff {touch : Bool} {steps : List Step}
    (h : ∀ s ∈ steps, s.data.actions = recordedOf touch s.event s.before)
    (hno : NoKeyRelease steps) (halternates : Alternates (pressesAndReleases steps)) :
    Alternates (recordedActions steps) ↔
      evenGaps ((marked touch steps).map Prod.snd) = true := by
  have hmap : Alternates ((kept (marked touch steps)).map (toUnderlying : ButtonAction → _))
      ↔ Alternates (kept (marked touch steps)) := by
    rw [Alternates, List.isChain_map]
    exact ⟨fun hc => hc.imp fun a b hne e => hne (congrArg _ e),
      fun hc => hc.imp fun a b hne e => hne (toUnderlying_injective e)⟩
  rw [recordedActions_eq h hno, hmap]
  refine alternates_kept_iff (P := fun action => action = .press ∨ action = .release) ?_
    marked_pressOrRelease (by rw [marked_fst]; exact halternates)
  rintro a b c (rfl | rfl) (rfl | rfl) (rfl | rfl) hab hbc <;>
    first | rfl | exact absurd rfl hab | exact absurd rfl hbc

/-- **When the actions of a run are right**: in every run from the construction on, all recorded
actions belong to their events and alternate where the presses and releases of a device and a detail
do, exactly when no key of a known device is released, and between two events of a device and a
detail that are not dropped an even number is dropped. -/
theorem capture_actions_iff (api : X11Api ω) (touch : Bool) (world : ω)
    (events : List InputEvent) :
    let steps := capture api touch world events
    (ActionsRight steps ∧ ∀ deviceId detail,
      Alternates (pressesAndReleases (ofSource deviceId detail steps)) →
        Alternates (recordedActions (ofSource deviceId detail steps))) ↔
    (NoKeyRelease steps ∧ ∀ deviceId detail,
      Alternates (pressesAndReleases (ofSource deviceId detail steps)) →
        evenGaps ((marked touch (ofSource deviceId detail steps)).map Prod.snd) = true) := by
  intro steps
  have hrecords := capture_records api touch world events
  rw [actionsRight_iff hrecords]
  refine and_congr_right fun hno => ?_
  refine forall_congr' fun deviceId => forall_congr' fun detail => ?_
  refine imp_congr_right fun halternates => recordedActions_alternates_iff ?_ ?_ halternates
  · exact fun s hs => hrecords s (List.mem_of_mem_filter hs)
  · exact fun s hs => hno s (List.mem_of_mem_filter hs)

/-! ### a key that is pressed and released -/

def keyboardApi : X11Api Unit :=
  { namingApi with
    listInputDevices := fun _ => ([⟨3, 1, bytes "keyboard", .isXExtensionKeyboard⟩], ())
    queryDevice := fun _ => ([⟨3, true, []⟩], ())
    atomName := fun _ _ => (some (bytes "KEYBOARD"), ()) }

def keyInput (evtype : Int) : InputEvent :=
  ⟨0, some ⟨evtype, 3, 38, 0, 1000, ⟨0, [], []⟩⟩⟩

def pressAndRelease : List Step :=
  capture keyboardApi true () [keyInput xiRawKeyPress, keyInput xiRawKeyRelease]

/-- **Two presses**: press and release alternate, and both are recorded as a press. -/
theorem keyRelease_recorded :
    pressesAndReleases (ofSource 3 38 pressAndRelease) = [.press, .release] ∧
      recordedActions (ofSource 3 38 pressAndRelease)
        = [toUnderlying ButtonAction.press, toUnderlying ButtonAction.press] ∧
      ¬ ActionsRight pressAndRelease ∧
      Alternates (pressesAndReleases (ofSource 3 38 pressAndRelease)) ∧
      ¬ Alternates (recordedActions (ofSource 3 38 pressAndRelease)) := by
  have hevents : pressesAndReleases (ofSource 3 38 pressAndRelease) = [.press, .release] := by
    decide +kernel
  have hrecorded : recordedActions (ofSource 3 38 pressAndRelease)
      = [toUnderlying ButtonAction.press, toUnderlying ButtonAction.press] := by decide +kernel
  refine ⟨hevents, hrecorded, ?_, ?_, ?_⟩
  · have hrecords := capture_records keyboardApi true ()
      [keyInput xiRawKeyPress, keyInput xiRawKeyRelease]
    intro hright
    have hnone : pressAndRelease.all fun s =>
        !(s.before.hasDevice s.event.sourceid && s.event.evtype == xiRawKeyRelease) := by
      rw [List.all_eq_true]
      intro s hs
      rw [Bool.not_eq_true', Bool.and_eq_false_imp]
      intro hknown
      exact beq_false_of_ne ((actionsRight_iff hrecords).mp hright s hs hknown)
    exact absurd hnone (by decide +kernel)
  · rw [hevents]
    decide
  · rw [hrecorded]
    decide

end X11
end Evget
