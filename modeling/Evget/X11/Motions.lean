import Evget.X11.Reachable

/-!
# What a motion adds

A raw motion goes to two handlers: one that looks for the X and the Y axis of the device among the
valuators of the event, and one that looks for its scroll axes.

* `InMask`                 the valuators of an event, which both handlers see;
* `HitsAxis`, `HitsScroll` the axes of the device that the event moves;
* `hasAxis_iff`            the search for the X and the Y axis;
* `setScrollAmounts_iff`   the amounts that the scroll axes set;
* `motion_adds`            **every motion** in every state.
-/

namespace Evget.X11
open SQLite

variable {ω τ : Type}

/-! ## axes of an event -/

def InMask (state : XIValuatorState) (number : Int) : Prop :=
  ∃ bit ∈ onMasks state.mask state.maskLen, (bit : Int) = number

namespace EventSwitchPointerKey

def HitsAxis (self : EventSwitchPointerKey) (event : XIRawEvent) : Prop :=
  ∃ number, InMask event.valuators number ∧
    (axis event.sourceid self.valuatorX = some number ∨
      axis event.sourceid self.valuatorY = some number)

def Recorded (self : EventSwitchPointerKey) (deviceId : Int) (info : XIScrollClassInfo) : Prop :=
  ∃ scrolls, self.scrollMap.lookup deviceId = some scrolls ∧ scrolls.lookup info.number = some info

def HitsScroll (self : EventSwitchPointerKey) (event : XIRawEvent) (scrollType : XIScrollType) :
    Prop :=
  ∃ info, self.Recorded event.sourceid info ∧ info.scrollType = scrollType ∧
    InMask event.valuators info.number

end EventSwitchPointerKey

/-- the handlers see the valuators whose bits are set, whatever the values are -/
theorem emplaceValuators_fst (bits : List Nat) (values : List Double) :
    (emplaceValuators bits values).1.map Prod.fst = bits.map ((↑) : Nat → Int) := by
  induction bits generalizing values with
  | nil => rfl
  | cons bit bits ih => exact congrArg ((bit : Int) :: ·) (ih _)

theorem mem_valuators {state : XIValuatorState} {number : Int} :
    number ∈ (getValuators state).1.map Prod.fst ↔ InMask state number := by
  unfold getValuators InMask
  dsimp only
  rw [emplaceValuators_fst, List.mem_map]

theorem lookup_valuators {state : XIValuatorState} {number : Int} :
    ((getValuators state).1.lookup number).isSome = true ↔ InMask state number := by
  rw [← mem_valuators, List.lookup_isSome_iff, List.mem_map]
  constructor
  · rintro ⟨valuator, hmem, hkey⟩
    exact ⟨valuator, hmem, (beq_iff_eq.mp hkey).symm⟩
  · rintro ⟨valuator, hmem, rfl⟩
    exact ⟨valuator, hmem, beq_self_eq_true _⟩

/-! ## the X and the Y axis -/

theorem hasAxis_iff (deviceId : Int) (valuators : List Int) (self : EventSwitchPointerKey) :
    (EventSwitchPointerKey.hasAxis deviceId valuators self).1 = true ↔
      ∃ valuator ∈ valuators, axis deviceId self.valuatorX = some valuator ∨
        axis deviceId self.valuatorY = some valuator := by
  induction valuators generalizing self with
  | nil => exact iff_of_false Bool.false_ne_true (by rintro ⟨_, h, -⟩; cases h)
  | cons valuator valuators ih =>
    have hx : (self.valuatorX.subscript deviceId none).1 = axis deviceId self.valuatorX :=
      Dict.subscript_fst
    have hy : (self.valuatorY.subscript deviceId none).1 = axis deviceId self.valuatorY :=
      Dict.subscript_fst
    unfold EventSwitchPointerKey.hasAxis
    dsimp only
    rw [hx, hy, List.exists_mem_cons_iff]
    split_ifs with hx' hy'
    · exact iff_of_true rfl (.inl (.inl hx'))
    · exact iff_of_true rfl (.inl (.inr hy'))
    · rw [ih, axis_subscript, axis_subscript]
      exact (or_iff_right (not_or.mpr ⟨hx', hy'⟩)).symm

/-! ## the scroll axes -/

theorem setScrollAmounts_iff (valuators : List (Int × Int)) (infos : List XIScrollClassInfo)
    (builder : MouseScroll) :
    let scroll := infos.foldl (EventSwitchPointerKey.setScrollAmount valuators) builder
    (scroll.horizontal_.isSome = true ↔ builder.horizontal_.isSome = true ∨
        ∃ info ∈ infos, info.scrollType = .horizontal) ∧
      (scroll.vertical_.isSome = true ↔ builder.vertical_.isSome = true ∨
        ∃ info ∈ infos, info.scrollType = .vertical) := by
  induction infos generalizing builder with
  | nil => simp
  | cons info infos ih =>
    obtain ⟨hhorizontal, hvertical⟩ := ih
      (EventSwitchPointerKey.setScrollAmount valuators builder info)
    intro scroll
    rw [List.exists_mem_cons_iff, List.exists_mem_cons_iff]
    refine ⟨hhorizontal.trans ?_, hvertical.trans ?_⟩
    · unfold EventSwitchPointerKey.setScrollAmount
      cases info.scrollType <;> simp [MouseScroll.horizontal, MouseScroll.vertical]
    · unfold EventSwitchPointerKey.setScrollAmount
      cases info.scrollType <;> simp [MouseScroll.horizontal, MouseScroll.vertical]

theorem processed_iff {self : EventSwitchPointerKey} (hself : self.Numbered) {deviceId : Int}
    {scrolls : Dict Int XIScrollClassInfo}
    (hscrolls : self.scrollMap.lookup deviceId = some scrolls) (state : XIValuatorState)
    (info : XIScrollClassInfo) :
    info ∈ (scrolls.entries.filter fun scroll =>
        ((getValuators state).1.lookup scroll.1).isSome).map Sigma.snd ↔
      self.Recorded deviceId info ∧ InMask state info.number := by
  rw [List.mem_map]
  constructor
  · rintro ⟨⟨number, found⟩, hmem, rfl⟩
    obtain ⟨hentry, hlookup⟩ := List.mem_filter.mp hmem
    have hfound : scrolls.lookup number = some found := AList.mem_lookup_iff.mpr hentry
    have hnumber : found.number = number := hself deviceId scrolls hscrolls number found hfound
    subst hnumber
    exact ⟨⟨scrolls, hscrolls, hfound⟩, lookup_valuators.mp hlookup⟩
  · rintro ⟨⟨scrolls', hscrolls', hfound⟩, hmask⟩
    obtain rfl : scrolls = scrolls' := Option.some.inj (hscrolls.symm.trans hscrolls')
    exact ⟨⟨info.number, info⟩, List.mem_filter.mpr
      ⟨AList.mem_lookup_iff.mp hfound, lookup_valuators.mpr hmask⟩, rfl⟩

/-! ## the two handlers -/

section
variable (api : X11Api ω) (getTime : Nat → τ → Option Int × τ) (event : XIRawEvent)
  (timestamp : Int) (systemEvent : List UInt8)

def Adds {B : Type} (entry : B → Entry) (hits : Prop) (before after : Data) : Prop :=
  (hits → ∃ builder, after = before.addEntry (entry builder)) ∧ (¬ hits → after = before)

/-- the event with the values that reading its valuators leaves behind -/
def XIRawEvent.read (event : XIRawEvent) : XIRawEvent :=
  { event with valuators := (getValuators event.valuators).2 }

theorem not_ignored {self : EventSwitch} {event : XIRawEvent}
    (hknown : self.hasDevice event.sourceid = true)
    (hflags : event.flags &&& xiPointerEmulated = 0) :
    ¬ ((!self.hasDevice event.sourceid) = true ∨ event.flags &&& xiPointerEmulated ≠ 0) := by
  rw [hknown, hflags]
  decide

/-- **The motion** of a known device that is not emulated: one entry if it moves the X or the Y
axis. -/
theorem motionEvent_adds (self : EventSwitchPointerKey) (s : Handling ω τ)
    (hs : s.xEventSwitch.Consistent) (hknown : s.xEventSwitch.hasDevice event.sourceid = true)
    (hflags : event.flags &&& xiPointerEmulated = 0) :
    ∃ self' s', self.motionEvent api getTime event timestamp systemEvent s
        = .ok (event.read, self', s') ∧
      Adds MouseMove.entry (self.HitsAxis event) s.data s'.data ∧
      EventSwitch.SameDevices s.xEventSwitch s'.xEventSwitch := by
  have hfound : (EventSwitchPointerKey.hasAxis event.sourceid
      ((getValuators event.valuators).1.map Prod.fst) self).1 = true ↔ self.HitsAxis event := by
    rw [hasAxis_iff]
    exact exists_congr fun number => and_congr_left' mem_valuators
  unfold EventSwitchPointerKey.motionEvent
  rw [if_neg (not_ignored hknown hflags)]
  rcases hx : EventSwitchPointerKey.hasAxis event.sourceid
    ((getValuators event.valuators).1.map Prod.fst) self with ⟨found, self'⟩
  rw [hx] at hfound
  cases found with
  | false =>
    simp only [hx]
    have hmiss : ¬ self.HitsAxis event := fun hits => Bool.false_ne_true (hfound.mpr hits)
    exact ⟨self', s, rfl, ⟨fun hits => absurd hits hmiss, fun _ => rfl⟩, rfl, rfl⟩
  | true =>
    obtain ⟨fields, s', hs', hdata, hsame⟩ := EventSwitch.emit_spec api getTime event.read
      timestamp systemEvent (s.xEventSwitch.queryPointerForDevice api s.world).1 ({} : MouseMove)
      { s with world := (s.xEventSwitch.queryPointerForDevice api s.world).2 }
      (hs.registered hknown)
    have hadd : EventSwitch.addMotionEvent api getTime event.read timestamp systemEvent s
        = .ok s' := hs'
    simp only [hx]
    refine ⟨self', s', ?_, ⟨fun _ => ⟨_, hdata⟩, fun hmiss => absurd (hfound.mp rfl) hmiss⟩, hsame⟩
    show (EventSwitch.addMotionEvent api getTime event.read timestamp systemEvent s >>= _) = _
    rw [hadd]
    rfl

/-- a scroll has an amount for each kind of axis that the event moves -/
structure Scrolls (switch : EventSwitchPointerKey) (event : XIRawEvent) (scroll : MouseScroll) :
    Prop where
  horizontal : scroll.horizontal_.isSome = true ↔ switch.HitsScroll event .horizontal
  vertical : scroll.vertical_.isSome = true ↔ switch.HitsScroll event .vertical

/-- **The scroll**: one entry if the event moves a scroll axis of the device. -/
theorem scrollEvent_adds (self : EventSwitchPointerKey) (hself : self.Numbered) (s : Handling ω τ)
    (hs : s.xEventSwitch.Consistent) (hknown : s.xEventSwitch.hasDevice event.sourceid = true)
    (hflags : event.flags &&& xiPointerEmulated = 0) :
    ∃ event' s', self.scrollEvent api getTime event timestamp systemEvent s = .ok (event', s') ∧
      Adds (fun scroll : { scroll // Scrolls self event scroll } => scroll.1.entry)
        (∃ scrollType, self.HitsScroll event scrollType) s.data s'.data := by
  unfold EventSwitchPointerKey.scrollEvent
  cases hscrolls : self.scrollMap.lookup event.sourceid with
  | none =>
    refine ⟨event, s, rfl, ?_, fun _ => rfl⟩
    rintro ⟨_, _, ⟨scrolls, hsome, -⟩, -⟩
    rw [hscrolls] at hsome
    cases hsome
  | some scrolls =>
    dsimp only
    rw [if_neg (not_ignored hknown hflags)]
    have hprocessed := processed_iff hself hscrolls event.valuators
    generalize ((scrolls.entries.filter fun scroll =>
      ((getValuators event.valuators).1.lookup scroll.1).isSome).map Sigma.snd) = processed
      at hprocessed ⊢
    have hhits : ∀ scrollType, (∃ info ∈ processed, info.scrollType = scrollType) ↔
        self.HitsScroll event scrollType := by
      intro scrollType
      refine exists_congr fun info => ?_
      rw [hprocessed, and_assoc]
      exact and_congr_right' and_comm
    by_cases hempty : processed.isEmpty
    · rw [if_pos hempty]
      refine ⟨_, s, rfl, ?_, fun _ => rfl⟩
      rintro ⟨scrollType, hits⟩
      obtain ⟨info, hmem, -⟩ := (hhits scrollType).mpr hits
      rw [List.isEmpty_iff.mp hempty] at hmem
      cases hmem
    · rw [if_neg hempty]
      obtain ⟨hhorizontal, hvertical⟩ := setScrollAmounts_iff (getValuators event.valuators).1
        processed {}
      generalize processed.foldl (EventSwitchPointerKey.setScrollAmount
        (getValuators event.valuators).1) ({} : MouseScroll) = builder at hhorizontal hvertical ⊢
      obtain ⟨fields, s', hs', hdata, -⟩ := EventSwitch.emit_spec api getTime event.read timestamp
        systemEvent (api.queryPointer self.pointerId s.world).1 builder
        { s with world := (api.queryPointer self.pointerId s.world).2 } (hs.registered hknown)
      have hscroll : Scrolls self event (Builder.mapBase fields builder) := by
        refine ⟨hhorizontal.trans ?_, hvertical.trans ?_⟩
        · exact (or_iff_right Bool.false_ne_true).trans (hhits .horizontal)
        · exact (or_iff_right Bool.false_ne_true).trans (hhits .vertical)
      refine ⟨event.read, s', ?_, fun _ => ⟨⟨_, hscroll⟩, hdata⟩, fun hmiss => ?_⟩
      · show (EventSwitch.emit api getTime event.read timestamp systemEvent _ builder _ >>= _) = _
        rw [hs']
        rfl
      · obtain ⟨info, hmem⟩ := List.exists_mem_of_ne_nil processed
          fun e => hempty (List.isEmpty_iff.mpr e)
        exact absurd ⟨info.scrollType, (hhits info.scrollType).mp ⟨info, hmem, rfl⟩⟩ hmiss

end

/-! ## the dispatch -/

/-- reading the valuators and looking for the axes leaves the scroll axes that an event moves -/
theorem hitsScroll_read {self self' : EventSwitchPointerKey} (h : SameAxes self self')
    (event : XIRawEvent) (scrollType : XIScrollType) :
    self'.HitsScroll event.read scrollType ↔ self.HitsScroll event scrollType := by
  unfold EventSwitchPointerKey.HitsScroll EventSwitchPointerKey.Recorded
  rw [h.scrollMap]
  rfl

theorem scrolls_read {self self' : EventSwitchPointerKey} (h : SameAxes self self')
    {event : XIRawEvent} {scroll : MouseScroll} (hscroll : Scrolls self' event.read scroll) :
    Scrolls self event scroll :=
  ⟨hscroll.horizontal.trans (hitsScroll_read h event _),
    hscroll.vertical.trans (hitsScroll_read h event _)⟩

theorem adds_read {self self' : EventSwitchPointerKey} (h : SameAxes self self')
    {event : XIRawEvent} {before after : Data}
    (hadds : Adds (fun scroll : { scroll // Scrolls self' event.read scroll } => scroll.1.entry)
      (∃ scrollType, self'.HitsScroll event.read scrollType) before after) :
    Adds (fun scroll : { scroll // Scrolls self event scroll } => scroll.1.entry)
      (∃ scrollType, self.HitsScroll event scrollType) before after := by
  have hhits : (∃ scrollType, self'.HitsScroll event.read scrollType) ↔
      ∃ scrollType, self.HitsScroll event scrollType :=
    exists_congr fun scrollType => hitsScroll_read h event scrollType
  refine ⟨fun hits => ?_, fun hmiss => hadds.2 fun hits => hmiss (hhits.mp hits)⟩
  obtain ⟨⟨scroll, hscroll⟩, hdata⟩ := hadds.1 (hhits.mpr hits)
  exact ⟨⟨scroll, scrolls_read h hscroll⟩, hdata⟩

/-- a raw motion is a motion and then a scroll -/
theorem switchOnEvent_motion {api : X11Api ω} {getTime : Nat → τ → Option Int × τ}
    {event event' event'' : XIRawEvent} {timestamp : Int} {self self' : EventSwitchPointerKey}
    {s moved s' : Handling ω τ} (htype : event.evtype = xiRawMotion)
    (hmotion : self.motionEvent api getTime event timestamp (bytes "XI_RawMotion") s
      = .ok (event', self', moved))
    (hscroll : self'.scrollEvent api getTime event' timestamp (bytes "XI_RawMotion") moved
      = .ok (event'', s')) :
    self.switchOnEvent api getTime event timestamp s = .ok (true, self', s') := by
  unfold EventSwitchPointerKey.switchOnEvent
  rw [if_pos htype, hmotion]
  show (self'.scrollEvent api getTime event' timestamp _ moved >>= _) = _
  rw [hscroll]
  rfl

/-- **A motion** in every state that refreshes and events lead to: one move if the event moves the X
or the Y axis of the device, then one scroll if it moves one of its scroll axes, with an amount for
each kind of axis that it moves, and nothing else; nothing at all for a device that is not known and
for an emulated event. -/
theorem motion_adds {api : X11Api ω} {self : EventSwitchPointerKey} {s : Handling ω τ}
    (h : Reachable τ api s.xEventSwitch self) (getTime : Nat → τ → Option Int × τ)
    (event : XIRawEvent) (timestamp : Int) (htype : event.evtype = xiRawMotion) :
    ∃ self' s', self.switchOnEvent api getTime event timestamp s = .ok (true, self', s') ∧
      (s.xEventSwitch.hasDevice event.sourceid = false ∨ event.flags &&& xiPointerEmulated ≠ 0 →
        s'.data = s.data) ∧
      (s.xEventSwitch.hasDevice event.sourceid = true → event.flags &&& xiPointerEmulated = 0 →
        ∃ moved, Adds MouseMove.entry (self.HitsAxis event) s.data moved ∧
          Adds (fun scroll : { scroll // Scrolls self event scroll } => scroll.1.entry)
            (∃ scrollType, self.HitsScroll event scrollType) moved s'.data) := by
  by_cases hignored : s.xEventSwitch.hasDevice event.sourceid = false ∨
      event.flags &&& xiPointerEmulated ≠ 0
  · refine ⟨self, s, switchOnEvent_motion htype
      (motionEvent_ignored api getTime event timestamp _ self hignored)
      (scrollEvent_ignored api getTime event timestamp _ self hignored), fun _ => rfl, ?_⟩
    intro hknown hflags
    rcases hignored with hunknown | hemulated
    · rw [hunknown] at hknown
      cases hknown
    · exact absurd hflags hemulated
  · rw [not_or, Bool.not_eq_false, not_not] at hignored
    obtain ⟨hknown, hflags⟩ := hignored
    obtain ⟨self', moved, hmotion, hmove, hsame⟩ := motionEvent_adds api getTime event timestamp
      (bytes "XI_RawMotion") self s h.consistent hknown hflags
    obtain ⟨-, haxes, -⟩ := motionEvent_emits api getTime event timestamp _ hmotion
    have hself' : self'.Numbered := by
      unfold EventSwitchPointerKey.Numbered
      rw [haxes.scrollMap]
      exact h.numbered
    have hknown' : moved.xEventSwitch.hasDevice event.sourceid = true := by
      unfold EventSwitch.hasDevice at hknown ⊢
      rw [hsame.devices]
      exact hknown
    obtain ⟨event'', s', hscroll, hadds⟩ := scrollEvent_adds api getTime event.read timestamp
      (bytes "XI_RawMotion") self' hself' moved (hsame.consistent h.consistent) hknown' hflags
    refine ⟨self', s', switchOnEvent_motion htype hmotion hscroll, fun hi => ?_,
      fun _ _ => ⟨moved.data, hmove, adds_read haxes hadds⟩⟩
    rcases hi with hunknown | hemulated
    · rw [hunknown] at hknown
      cases hknown
    · exact absurd hflags hemulated

/-! ### a wheel that is moved and turned at once -/

def axesApi : X11Api Unit := { namingApi with atomName := fun _ _ => (some (bytes "Rel X"), ()) }

def wheelInfo : XIDeviceInfo :=
  ⟨6, true, [some (.valuator ⟨0, 1⟩), some (.scroll ⟨3, .vertical⟩), none]⟩

def wheel : EventSwitchPointerKey × EventSwitch × Unit :=
  ({} : EventSwitchPointerKey).refreshDevices axesApi 6 none .mouse (bytes "wheel") wheelInfo {} ()

def wheelMotion : XIRawEvent := ⟨xiRawMotion, 6, 0, 0, 1000, ⟨1, [9], [.finite false 1]⟩⟩

theorem wheelMotion_adds : ∃ self' s', ∃ move : MouseMove, ∃ scroll : MouseScroll,
    wheel.1.switchOnEvent axesApi noTime wheelMotion 0 ⟨(), (), wheel.2.1, .new⟩
        = .ok (true, self', s') ∧
      s'.data = (Data.new.addEntry move.entry).addEntry scroll.entry ∧
      scroll.vertical_.isSome = true ∧ ¬ scroll.horizontal_.isSome = true := by
  have hwheel : Reachable Unit axesApi wheel.2.1 wheel.1 :=
    .pointerKey .new 6 none .mouse (bytes "wheel") wheelInfo ()
  obtain ⟨self', s', hs', -, hadds⟩ := motion_adds (s := ⟨(), (), wheel.2.1, .new⟩) hwheel noTime
    wheelMotion 0 rfl
  obtain ⟨moved, hmove, hscroll⟩ := hadds rfl rfl
  have hvertical : wheel.1.HitsScroll wheelMotion .vertical :=
    ⟨⟨3, .vertical⟩, ⟨_, rfl, rfl⟩, rfl, 3, by decide, rfl⟩
  obtain ⟨move, hmove⟩ := hmove.1 ⟨0, ⟨0, by decide, rfl⟩, .inl rfl⟩
  obtain ⟨⟨scroll, hscrolls⟩, hscroll⟩ := hscroll.1 ⟨.vertical, hvertical⟩
  refine ⟨self', s', move, scroll, hs', ?_, hscrolls.vertical.mpr hvertical, fun h => ?_⟩
  · rw [hscroll, hmove]
  · -- the only scroll class of the wheel is a vertical one
    obtain ⟨info, ⟨scrolls, hlookup, hinfo⟩, htype, bit, hbit, hnumber⟩ :=
      hscrolls.horizontal.mp h
    cases hlookup
    rw [← hnumber] at hinfo
    have hbits : onMasks wheelMotion.valuators.mask wheelMotion.valuators.maskLen = [0, 3] := by
      decide
    rw [hbits] at hbit
    rcases List.mem_cons.mp hbit with rfl | hbit
    · cases hinfo
    · rw [List.mem_singleton.mp hbit] at hinfo
      cases hinfo
      cases htype

end Evget.X11
