import Evget.X11.Refreshes

/-!
# The states of the switches

Refreshes and events come in any order.  What holds of the switches then is kept by each refresh and
by each handler that returns.

* `Reachable`             the states that refreshes and events lead to, whatever X answers;
* `Reachable.consistent`  a device is known with its name, or not at all;
* `pointerKey_returns`, `touch_returns`   so no handler but that of buttons throws;
* `reachable_safe`        **in every state**, for every event that is none of a button;
* `reached_reachable`     the states of a transformer are such states.
-/

namespace Evget.X11
open SQLite

variable {ω τ : Type}

/-- the states of the two switches; an event that ends with an exception ends the run -/
inductive Reachable (τ : Type) (api : X11Api ω) : EventSwitch → EventSwitchPointerKey → Prop
  | new : Reachable τ api {} {}
  | eventSwitch {x : EventSwitch} {self : EventSwitchPointerKey} (h : Reachable τ api x self)
      (deviceId : Int) (pointerId : Option Int) (device : DeviceType) (name : List UInt8)
      (info : XIDeviceInfo) (world : ω) :
    Reachable τ api (x.refreshDevices api deviceId pointerId device name info world).1 self
  | pointerKey {x : EventSwitch} {self : EventSwitchPointerKey} (h : Reachable τ api x self)
      (deviceId : Int) (pointerId : Option Int) (device : DeviceType) (name : List UInt8)
      (info : XIDeviceInfo) (world : ω) :
    Reachable τ api (self.refreshDevices api deviceId pointerId device name info x world).2.1
      (self.refreshDevices api deviceId pointerId device name info x world).1
  | event {self self' : EventSwitchPointerKey} {s s' : Handling ω τ} {handled : Bool}
      (h : Reachable τ api s.xEventSwitch self) (getTime : Nat → τ → Option Int × τ)
      (event : XIRawEvent) (timestamp : Int)
      (hrun : self.switchOnEvent api getTime event timestamp s = .ok (handled, self', s')) :
    Reachable τ api s'.xEventSwitch self'
  | touch {self : EventSwitchPointerKey} {s s' : Handling ω τ} {handled : Bool}
      (h : Reachable τ api s.xEventSwitch self) (getTime : Nat → τ → Option Int × τ)
      (event : XIRawEvent) (timestamp : Int)
      (hrun : EventSwitchTouch.switchOnEvent api getTime event timestamp s = .ok (handled, s')) :
    Reachable τ api s'.xEventSwitch self

/-! ## what they keep -/

/-- **The same devices in both maps** -/
theorem Reachable.consistent {api : X11Api ω} {x : EventSwitch} {self : EventSwitchPointerKey}
    (h : Reachable τ api x self) : x.Consistent := by
  induction h with
  | new => exact EventSwitch.consistent_new
  | eventSwitch _ deviceId pointerId device name info world ih =>
    exact EventSwitch.refreshDevices_consistent ih api deviceId pointerId device name info world
  | pointerKey _ deviceId pointerId device name info world ih =>
    rw [EventSwitchPointerKey.refreshDevices_eventSwitch]
    exact EventSwitch.refreshDevices_consistent ih api deviceId pointerId device name info world
  | event _ getTime event timestamp hrun ih =>
    obtain ⟨-, hemits⟩ := switchOnEvent_pointerKey_emits api getTime event timestamp hrun
    exact hemits.same.consistent ih
  | touch _ getTime event timestamp hrun ih =>
    exact (switchOnEvent_touch_emits api getTime event timestamp hrun).same.consistent ih

namespace EventSwitchPointerKey

/-- the classes of a device are kept under their numbers -/
def Numbered (self : EventSwitchPointerKey) : Prop :=
  ∀ deviceId scrolls, self.scrollMap.lookup deviceId = some scrolls →
    ∀ number (info : XIScrollClassInfo), scrolls.lookup number = some info → info.number = number

theorem Numbered.setScroll {self : EventSwitchPointerKey} (h : self.Numbered) (deviceId : Int)
    (info : XIScrollClassInfo) : (self.setScroll deviceId info).Numbered := by
  intro d scrolls hscrolls number found hfound
  have hnested := Dict.lookup_insert_nested self.scrollMap deviceId info.number info d number
  have hboth : (((self.setScroll deviceId info).scrollMap.lookup d).bind
      fun scrolls => scrolls.lookup number) = some found := by
    rw [hscrolls]
    exact hfound
  rcases Option.or_eq_some_iff.mp (hnested.symm.trans hboth) with hnew | ⟨-, hold⟩
  · split_ifs at hnew with hd hn
    rw [← Option.some.inj hnew, hn]
  · obtain ⟨scrolls', hscrolls', hfound'⟩ := Option.bind_eq_some_iff.mp hold
    exact h d scrolls' hscrolls' number found hfound'

theorem Numbered.foldl_setScroll {self : EventSwitchPointerKey} (h : self.Numbered)
    (deviceId : Int) (infos : List XIScrollClassInfo) :
    (infos.foldl (EventSwitchPointerKey.setScroll deviceId) self).Numbered := by
  induction infos generalizing self with
  | nil => exact h
  | cons info infos ih => exact ih (h.setScroll deviceId info)

theorem Numbered.refreshDevices {self : EventSwitchPointerKey} (h : self.Numbered) (api : X11Api ω)
    (deviceId : Int) (pointerId : Option Int) (device : DeviceType) (name : List UInt8)
    (info : XIDeviceInfo) (x : EventSwitch) (world : ω) :
    (self.refreshDevices api deviceId pointerId device name info x world).1.Numbered := by
  have hpointer : Numbered { self with pointerId := pointerId.getD self.pointerId } := h
  have hscrolls := hpointer.foldl_setScroll deviceId (info.classes.filterMap scrollClass)
  unfold EventSwitchPointerKey.refreshDevices Numbered
  dsimp only
  rw [(setValuators_read ..).2.1]
  exact hscrolls

end EventSwitchPointerKey

theorem Reachable.numbered {api : X11Api ω} {x : EventSwitch} {self : EventSwitchPointerKey}
    (h : Reachable τ api x self) : self.Numbered := by
  induction h with
  | new => exact fun _ _ h => nomatch h
  | eventSwitch _ _ _ _ _ _ _ ih => exact ih
  | @pointerKey x _ _ deviceId pointerId device name info world ih =>
    exact ih.refreshDevices api deviceId pointerId device name info x world
  | event _ getTime event timestamp hrun ih =>
    obtain ⟨haxes, -⟩ := switchOnEvent_pointerKey_emits api getTime event timestamp hrun
    unfold EventSwitchPointerKey.Numbered
    rw [haxes.scrollMap]
    exact ih
  | touch _ _ _ _ _ ih => exact ih

/-! ## handlers that return -/

section
variable (api : X11Api ω) (getTime : Nat → τ → Option Int × τ) (event : XIRawEvent)
  (timestamp : Int)

/-- the handlers of a motion do nothing for an unknown device or an emulated event -/
theorem motionEvent_ignored (systemEvent : List UInt8) (self : EventSwitchPointerKey)
    {s : Handling ω τ} (h : s.xEventSwitch.hasDevice event.sourceid = false ∨
      event.flags &&& xiPointerEmulated ≠ 0) :
    self.motionEvent api getTime event timestamp systemEvent s = .ok (event, self, s) := by
  rw [← Bool.not_eq_true'] at h
  unfold EventSwitchPointerKey.motionEvent
  exact if_pos h

theorem scrollEvent_ignored (systemEvent : List UInt8) (self : EventSwitchPointerKey)
    {s : Handling ω τ} (h : s.xEventSwitch.hasDevice event.sourceid = false ∨
      event.flags &&& xiPointerEmulated ≠ 0) :
    self.scrollEvent api getTime event timestamp systemEvent s = .ok (event, s) := by
  rw [← Bool.not_eq_true'] at h
  unfold EventSwitchPointerKey.scrollEvent
  split
  · rfl
  · exact if_pos h

theorem keyEvent_unknown (systemEvent : List UInt8) (self : EventSwitchPointerKey)
    {s : Handling ω τ} (h : s.xEventSwitch.hasDevice event.sourceid = false) :
    self.keyEvent api getTime event timestamp systemEvent s = .ok s := by
  unfold EventSwitchPointerKey.keyEvent
  rw [h]
  rfl

theorem touch_unknown {B : Type} [Builder B] (systemEvent : List UInt8) (builder : B)
    {s : Handling ω τ} (h : s.xEventSwitch.hasDevice event.sourceid = false) :
    EventSwitchTouch.touch api getTime event timestamp systemEvent builder s = .ok s := by
  unfold EventSwitchTouch.touch
  rw [h]
  rfl

/-- **Pointers and keys**: every event but those of buttons is handled without an exception, and one
of an unknown device changes nothing. -/
theorem pointerKey_returns (self : EventSwitchPointerKey) {s : Handling ω τ}
    (hs : s.xEventSwitch.Consistent) (hpress : event.evtype ≠ xiRawButtonPress)
    (hrelease : event.evtype ≠ xiRawButtonRelease) :
    ∃ handled self' s', self.switchOnEvent api getTime event timestamp s
        = .ok (handled, self', s') ∧
      (s.xEventSwitch.hasDevice event.sourceid = false → self' = self ∧ s' = s) := by
  have hkey : ∀ systemEvent, ∃ s',
      self.keyEvent api getTime event timestamp systemEvent s = .ok s' ∧
      (s.xEventSwitch.hasDevice event.sourceid = false → s' = s) := by
    intro systemEvent
    obtain ⟨s', hs', -⟩ := keyEvent_records api getTime event timestamp systemEvent self s hs
    refine ⟨s', hs', fun hunknown => ?_⟩
    rw [keyEvent_unknown api getTime event timestamp systemEvent self hunknown] at hs'
    exact (Except.ok.inj hs').symm
  unfold EventSwitchPointerKey.switchOnEvent
  rw [if_neg hpress, if_neg hrelease]
  split_ifs
  · obtain ⟨event₁, self₁, s₁, hmotion, hrec⟩ := motionEvent_records api getTime event timestamp
      (bytes "XI_RawMotion") self s hs
    obtain ⟨event₂, s₂, hscroll, -⟩ := scrollEvent_records api getTime event₁ timestamp
      (bytes "XI_RawMotion") self₁ s₁ (hrec.consistent hs)
    refine ⟨true, self₁, s₂, ?_, fun hunknown => ?_⟩
    · rw [hmotion]
      show (self₁.scrollEvent api getTime event₁ timestamp _ s₁ >>= _) = _
      rw [hscroll]
      rfl
    · rw [motionEvent_ignored api getTime event timestamp _ self (.inl hunknown)] at hmotion
      cases hmotion
      rw [scrollEvent_ignored api getTime event timestamp _ self (.inl hunknown)] at hscroll
      cases hscroll
      exact ⟨rfl, rfl⟩
  · obtain ⟨s', hs', hunknown⟩ := hkey (bytes "XI_RawKeyPress")
    exact ⟨true, self, s', by rw [hs']; rfl, fun h => ⟨rfl, hunknown h⟩⟩
  · obtain ⟨s', hs', hunknown⟩ := hkey (bytes "XI_RawKeyRelease")
    exact ⟨true, self, s', by rw [hs']; rfl, fun h => ⟨rfl, hunknown h⟩⟩
  · exact ⟨false, self, s, rfl, fun _ => ⟨rfl, rfl⟩⟩

theorem touch_keeps {B : Type} [Builder B] (systemEvent : List UInt8) (builder : B)
    {actions : List (List UInt8)}
    (hb : ∀ fields data, (Builder.build (Builder.mapBase fields builder) data).actions
      = data.actions ++ actions)
    (s : Handling ω τ) (hs : s.xEventSwitch.Consistent) :
    ∃ s', EventSwitchTouch.touch api getTime event timestamp systemEvent builder s = .ok s' ∧
      s'.xEventSwitch.Consistent ∧
      (s.xEventSwitch.hasDevice event.sourceid = false → s' = s) := by
  obtain ⟨s', hs', hrec⟩ := touch_records api getTime event timestamp systemEvent builder hb s hs
  refine ⟨s', hs', hrec.consistent hs, fun hunknown => ?_⟩
  rw [touch_unknown api getTime event timestamp systemEvent builder hunknown] at hs'
  exact (Except.ok.inj hs').symm

/-- **Touches** -/
theorem touch_returns {s : Handling ω τ} (hs : s.xEventSwitch.Consistent) :
    ∃ handled s', EventSwitchTouch.switchOnEvent api getTime event timestamp s
        = .ok (handled, s') ∧
      (s.xEventSwitch.hasDevice event.sourceid = false → s' = s) := by
  have hmove : ∀ systemEvent (s : Handling ω τ), s.xEventSwitch.Consistent →
      ∃ s', EventSwitchTouch.touchMotion api getTime event timestamp systemEvent s = .ok s' ∧
        s'.xEventSwitch.Consistent ∧
        (s.xEventSwitch.hasDevice event.sourceid = false → s' = s) :=
    fun systemEvent s hs => touch_keeps api getTime event timestamp systemEvent
      (({} : MouseMove).touchId event.detail) (MouseMove.build_actions _) s hs
  have hboth : ∀ action systemEvent, ∃ s₁ s₂,
      EventSwitchTouch.touchMotion api getTime event timestamp systemEvent s = .ok s₁ ∧
      EventSwitchTouch.touchButton api getTime event timestamp action systemEvent s₁ = .ok s₂ ∧
      (s.xEventSwitch.hasDevice event.sourceid = false → s₂ = s) := by
    intro action systemEvent
    obtain ⟨s₁, hs₁, hconsistent, hsame⟩ := hmove systemEvent s hs
    obtain ⟨s₂, hs₂, -, hsame'⟩ := touch_keeps api getTime event timestamp systemEvent
      ((({} : MouseClick).action action).touchId event.detail) (MouseClick.build_actions _) s₁
      hconsistent
    refine ⟨s₁, s₂, hs₁, hs₂, fun hunknown => ?_⟩
    have hfirst := hsame hunknown
    rw [hfirst] at hsame'
    exact hsame' hunknown
  unfold EventSwitchTouch.switchOnEvent
  split_ifs
  · obtain ⟨s₁, s₂, hs₁, hs₂, hunknown⟩ := hboth .press (bytes "XI_RawTouchBegin")
    refine ⟨true, s₂, ?_, hunknown⟩
    rw [hs₁]
    show (EventSwitchTouch.touchButton api getTime event timestamp _ _ s₁ >>= _) = _
    rw [hs₂]
    rfl
  · obtain ⟨s', hs', -, hunknown⟩ := hmove (bytes "XI_RawTouchUpdate") s hs
    exact ⟨true, s', by rw [hs']; rfl, hunknown⟩
  · obtain ⟨s₁, s₂, hs₁, hs₂, hunknown⟩ := hboth .release (bytes "XI_RawTouchEnd")
    refine ⟨true, s₂, ?_, hunknown⟩
    rw [hs₁]
    show (EventSwitchTouch.touchButton api getTime event timestamp _ _ s₁ >>= _) = _
    rw [hs₂]
    rfl
  · exact ⟨false, s, rfl, fun _ => rfl⟩

end

/-- **In every state** that refreshes and events lead to, the two maps have the same devices; every
event but those of buttons is handled without an exception, and one of a device that is not
registered changes nothing. -/
theorem reachable_safe {api : X11Api ω} {x : EventSwitch} {self : EventSwitchPointerKey}
    (h : Reachable τ api x self) :
    (∀ deviceId, deviceId ∈ x.devices ↔ deviceId ∈ x.idToName) ∧
      ∀ (getTime : Nat → τ → Option Int × τ) (event : XIRawEvent) (timestamp : Int)
        (s : Handling ω τ), s.xEventSwitch = x → event.evtype ≠ xiRawButtonPress →
        event.evtype ≠ xiRawButtonRelease →
        (∃ handled self' s', self.switchOnEvent api getTime event timestamp s
            = .ok (handled, self', s') ∧
          (x.hasDevice event.sourceid = false → s'.data = s.data ∧ s'.times = s.times)) ∧
        ∃ handled s', EventSwitchTouch.switchOnEvent api getTime event timestamp s
            = .ok (handled, s') ∧
          (x.hasDevice event.sourceid = false → s'.data = s.data ∧ s'.times = s.times) := by
  refine ⟨h.consistent, ?_⟩
  rintro getTime event timestamp s rfl hpress hrelease
  obtain ⟨handled, self', s', hs', hunknown⟩ := pointerKey_returns api getTime event timestamp self
    h.consistent hpress hrelease
  obtain ⟨handled', s'', hs'', hunknown'⟩ := touch_returns api getTime event timestamp h.consistent
  refine ⟨⟨handled, self', s', hs', fun hd => ?_⟩, handled', s'', hs'', fun hd => ?_⟩
  · rw [(hunknown hd).2]
    exact ⟨rfl, rfl⟩
  · rw [hunknown' hd]
    exact ⟨rfl, rfl⟩

/-! ### a mouse that is known, and a device that is not -/

def rawEvent (evtype deviceId : Int) : XIRawEvent := ⟨evtype, deviceId, 38, 0, 1000, ⟨1, [3], []⟩⟩

theorem mouse_safe :
    (∃ handled s', EventSwitchTouch.switchOnEvent namingApi noTime (rawEvent xiRawTouchBegin 6) 0
        ⟨(), (), mouse, .new⟩ = .ok (handled, s')) ∧
      ∃ handled self' s', EventSwitchPointerKey.switchOnEvent namingApi noTime
          (rawEvent xiRawMotion 9) 0 {} ⟨(), (), mouse, .new⟩ = .ok (handled, self', s') ∧
        s'.data = .new := by
  have hmouse : Reachable Unit namingApi mouse {} :=
    .eventSwitch .new 6 (some 2) .mouse (bytes "mouse") ⟨6, true, [some (.button ⟨[150, 0]⟩)]⟩ ()
  obtain ⟨-, hsafe⟩ := reachable_safe hmouse
  obtain ⟨-, handled, s', hs', -⟩ := hsafe noTime (rawEvent xiRawTouchBegin 6) 0
    ⟨(), (), mouse, .new⟩ rfl (by decide) (by decide)
  obtain ⟨⟨handled', self', s'', hs'', hunknown⟩, -⟩ := hsafe noTime (rawEvent xiRawMotion 9) 0
    ⟨(), (), mouse, .new⟩ rfl (by decide) (by decide)
  exact ⟨⟨handled, s', hs'⟩, handled', self', s'', hs'', (hunknown rfl).1⟩

/-! ## the switches of a transformer -/

namespace EventTransformer

theorem refreshDevice_reachable {api : X11Api ω} {xi2 : Dict Int XIDeviceInfo}
    {device : XDeviceInfo} {self self' : EventTransformer} {world world' : ω}
    (hself : Reachable τ api self.xEventSwitch self.pointerKey)
    (h : refreshDevice api xi2 device self world = .ok (self', world')) :
    Reachable τ api self'.xEventSwitch self'.pointerKey := by
  unfold refreshDevice at h
  split at h
  · cases h
  · obtain ⟨info, -, h⟩ := bind_eq_ok h
    dsimp only at h
    split at h
    · split at h
      · cases h
      · cases h
        exact .pointerKey hself ..
    · cases h
      exact hself

theorem refreshListed_reachable {api : X11Api ω} {xi2 : Dict Int XIDeviceInfo}
    {devices : List XDeviceInfo} {self self' : EventTransformer} {world world' : ω}
    (hself : Reachable τ api self.xEventSwitch self.pointerKey)
    (h : refreshListed api xi2 devices self world = .ok (self', world')) :
    Reachable τ api self'.xEventSwitch self'.pointerKey := by
  induction devices generalizing self world with
  | nil =>
    cases h
    exact hself
  | cons device devices ih =>
    obtain ⟨⟨next, world''⟩, hdevice, h⟩ := bind_eq_ok h
    exact ih (refreshDevice_reachable hself hdevice) h

theorem transformEvent_reachable {api : X11Api ω} {event : InputEvent}
    {self self' : EventTransformer} {world world' : ω} {data : Data}
    (hself : Reachable (Dict Int IntervalTracker) api self.xEventSwitch self.pointerKey)
    (h : transformEvent api event self world = .ok (data, self', world')) :
    Reachable (Dict Int IntervalTracker) api self'.xEventSwitch self'.pointerKey := by
  unfold transformEvent at h
  split at h
  · cases h
    exact hself
  · split at h
    · obtain ⟨⟨refreshed, last⟩, hrefresh, h⟩ := bind_eq_ok h
      cases h
      exact refreshListed_reachable hself hrefresh
    · obtain ⟨⟨pointerKey, last⟩, hswitch, h⟩ := bind_eq_ok h
      cases h
      unfold switchOnEvent at hswitch
      obtain ⟨⟨handled, next, s⟩, hpointer, hswitch⟩ := bind_eq_ok hswitch
      have hnext := hself.event _ _ _ hpointer
      dsimp only at hswitch
      split at hswitch
      · cases hswitch
        exact hnext
      · obtain ⟨⟨handled', s'⟩, htouch, hswitch⟩ := bind_eq_ok hswitch
        cases hswitch
        exact hnext.touch _ _ _ htouch

/-- **The states of a run** -/
theorem reached_reachable {api : X11Api ω} {history : List (List Listed)} {self : EventTransformer}
    (h : Reached api history self) :
    Reachable (Dict Int IntervalTracker) api self.xEventSwitch self.pointerKey := by
  induction h with
  | new _ h => exact refreshListed_reachable .new h
  | refresh _ _ _ _ h ih => exact transformEvent_reachable ih h
  | event _ _ h ih => exact transformEvent_reachable ih h

end EventTransformer
end Evget.X11
