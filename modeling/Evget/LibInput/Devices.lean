import Evget.LibInput.EventTransformer

/-!
# One machine for each device

What the transformer keeps of a device is a machine of its own, which only the events of that device
move.  The entries of an event are a function of its device's machine, of the device's uuid and of
the keyboard state.

* `Machine`                       the past of one device;
* `Machine.records`               the builders of an event;
* `Machine.step`                  what the event makes of the past;
* `build_records`, `build_moves`  the branches of the transformer do this, and leave other devices
                                  alone.
-/

namespace Evget.LibInput
open SQLite

variable {κ : Type}

/-! ## the machine of a device -/

/-- the last absolute position, and that of every touch, are kept by their coordinates -/
@[ext] structure Machine where
  tracker : IntervalTracker := {}
  absoluteX : Option Double := none
  absoluteY : Option Double := none
  touchX : Int32 → Option Double := fun _ => none
  touchY : Int32 → Option Double := fun _ => none

def EventData.time : EventData → Option UInt64
  | .keyboardKey time _ _ => some time
  | .pointerMotion time _ _ => some time
  | .pointerMotionAbsolute time _ _ => some time
  | .pointerButton time _ _ => some time
  | .pointerScrollWheel time _ _ => some time
  | .pointerScrollFinger time _ _ => some time
  | .pointerScrollContinuous time _ _ => some time
  | .touchDown time _ _ _ => some time
  | .touchUp time _ => some time
  | .touchMotion time _ _ _ => some time
  | .touchCancel time _ => some time
  | .tabletToolAxis time _ _ => some time
  | .tabletToolProximity time _ _ .stateIn => some time
  | .tabletToolTip time _ _ _ => some time
  | .tabletToolButton time _ _ => some time
  | .tabletPadButton time _ _ => some time
  | .tabletPadKey time _ _ => some time
  | _ => none

def activeModifiers (xkb : Xkb κ) (state : κ) : List (List UInt8) :=
  (modifierNames.filter fun modifier => xkb.isModifierActive state modifier.1).map
    fun modifier => toUnderlying modifier.2

theorem setModifierValues_eq (xkb : Xkb κ) (state : κ) (base : Base) :
    setModifierValues xkb state base
      = { base with modifiers_ := base.modifiers_ ++ activeModifiers xkb state } := by
  unfold setModifierValues activeModifiers
  induction modifierNames generalizing base with
  | nil =>
    show base = { base with modifiers_ := base.modifiers_ ++ [] }
    rw [List.append_nil]
  | cons modifier modifiers ih =>
    show List.foldl _ (if xkb.isModifierActive state modifier.1 then base.modifier modifier.2
      else base) modifiers = _
    by_cases h : xkb.isModifierActive state modifier.1 = true
    · rw [if_pos h, ih, List.filter_cons_of_pos (p := fun modifier : List UInt8 × ModifierValue =>
        xkb.isModifierActive state modifier.1) h, List.map_cons]
      show { base with modifiers_ := (base.modifiers_ ++ [toUnderlying modifier.2]) ++ _ } = _
      rw [List.append_assoc]
      rfl
    · rw [if_neg h, ih, List.filter_cons_of_neg (p := fun modifier : List UInt8 × ModifierValue =>
        xkb.isModifierActive state modifier.1) h]

/-- the fields that all builders of an event share, but for the interval -/
def fields (platform : Platform κ) (ctx : EventContext) (state : κ) (interval : Option Int)
    (base : Base) : Base :=
  setModifierValues platform.xkb state { base with
    timestamp_ := some ctx.timestamp
    interval_ := interval
    device_ := some ctx.deviceType
    deviceName_ := some ctx.deviceName
    deviceId_ := some ctx.deviceUuid
    systemEvent_ := some ctx.systemEvent
    eventSource_ := some kEventSourceName }

namespace Machine

/-- the builders of an event; the second one of an event has the interval 0 -/
def records (platform : Platform κ) (ctx : EventContext) (state : κ) (data : EventData)
    (self : Machine) : List Record :=
  match data.time with
  | none => []
  | some time =>
    let first := fields platform ctx state (self.tracker.interval time.toNat).1 {}
    let second := fields platform ctx state (some 0) {}
    match data with
    | .pointerMotion _ dx dy | .tabletToolProximity _ dx dy _ | .tabletToolAxis _ dx dy =>
      [.mouseMove { toBase := (first.positionX dx).positionY dy }]
    | .pointerMotionAbsolute _ x y =>
      [.mouseMove (setDifference platform self.absoluteX self.absoluteY
        (x platform.dimensions.width) (y platform.dimensions.height) { toBase := first })]
    | .pointerButton _ button state | .tabletToolButton _ button state =>
      [.mouseClick {
        toBase := first
        button_ := some (int button)
        action_ := some (getButtonAction state)
        name_ := platform.eventCodeName button }]
    | .tabletPadButton _ button state =>
      [.mouseClick {
        toBase := first
        button_ := some (int button)
        action_ := some (getButtonAction state) }]
    | .tabletToolTip _ dx dy state =>
      [.mouseMove { toBase := (first.positionX dx).positionY dy },
        .mouseClick { toBase := second, action_ := some (getTipAction state) }]
    | .touchDown _ seatSlot x y =>
      [.mouseMove (setDifference platform (self.touchX seatSlot) (self.touchY seatSlot)
        (x platform.dimensions.width) (y platform.dimensions.height)
        { toBase := first, touchId_ := some seatSlot.toInt }),
        .mouseClick { toBase := second, action_ := some .press, touchId_ := some seatSlot.toInt }]
    | .touchMotion _ seatSlot x y =>
      [.mouseMove (setDifference platform (self.touchX seatSlot) (self.touchY seatSlot)
        (x platform.dimensions.width) (y platform.dimensions.height)
        { toBase := first, touchId_ := some seatSlot.toInt })]
    | .touchCancel _ seatSlot | .touchUp _ seatSlot =>
      [.mouseMove { toBase := first, touchId_ := some seatSlot.toInt },
        .mouseClick { toBase := second, action_ := some .release, touchId_ := some seatSlot.toInt }]
    | .pointerScrollWheel _ vertical horizontal | .pointerScrollFinger _ vertical horizontal
    | .pointerScrollContinuous _ vertical horizontal =>
      [.mouseScroll { toBase := first, vertical_ := vertical, horizontal_ := horizontal }]
    | .keyboardKey _ key keyState =>
      [.key {
        toBase := first
        button_ := some (int key)
        action_ := some (getKeyAction keyState)
        name_ := platform.xkb.keyName state (key + 8)
        character_ := platform.xkb.keyCharacter state (key + 8) }]
    | .tabletPadKey _ key keyState =>
      [.key {
        toBase := first
        button_ := some (int key)
        action_ := some (getKeyAction keyState)
        name_ := platform.eventCodeName key }]
    | .deviceAdded | .deviceRemoved | .tabletPadRing | .tabletPadStrip | .other => []

def putAbsolute (x y : Double) (self : Machine) : Machine :=
  { self with absoluteX := some x, absoluteY := some y }

def putTouch (seatSlot : Int32) (x y : Option Double) (self : Machine) : Machine :=
  { self with
    touchX := Function.update self.touchX seatSlot x
    touchY := Function.update self.touchY seatSlot y }

def move (dimensions : ScreenDimensions) (data : EventData) (self : Machine) : Machine :=
  match data with
  | .pointerMotionAbsolute _ x y =>
    self.putAbsolute (x dimensions.width) (y dimensions.height)
  | .touchDown _ seatSlot x y | .touchMotion _ seatSlot x y =>
    self.putTouch seatSlot (some (x dimensions.width)) (some (y dimensions.height))
  | .touchUp _ seatSlot | .touchCancel _ seatSlot => self.putTouch seatSlot none none
  | _ => self

def advance (time : UInt64) (self : Machine) : Machine :=
  { self with tracker := ⟨some time.toNat⟩ }

def step (dimensions : ScreenDimensions) (data : EventData) (self : Machine) : Machine :=
  match data.time with
  | none => self
  | some time => (self.advance time).move dimensions data

theorem move_tracker (dimensions : ScreenDimensions) (data : EventData) (self : Machine) :
    (self.move dimensions data).tracker = self.tracker := by
  cases data <;> rfl

theorem step_silent (dimensions : ScreenDimensions) {data : EventData} (h : data.time = none)
    (m : Machine) : m.step dimensions data = m := by
  unfold Machine.step
  rw [h]

theorem step_tracker (dimensions : ScreenDimensions) {data : EventData} {time : UInt64}
    (h : data.time = some time) (m : Machine) :
    (m.step dimensions data).tracker = ⟨some time.toNat⟩ := by
  unfold Machine.step
  rw [h]
  exact move_tracker ..

end Machine

/-! ## what the builders of an event share -/

def EventData.again : EventData → Bool
  | .touchDown .. | .touchUp .. | .touchCancel .. | .tabletToolTip .. => true
  | _ => false

def EventData.intervals (data : EventData) (tracker : IntervalTracker) : List (Option Int) :=
  match data.time with
  | none => []
  | some time => (tracker.interval time.toNat).1 :: if data.again then [some 0] else []

def Record.shared (record : Record) : Base :=
  { record.base with positionX_ := none, positionY_ := none }

theorem setDifference_shared (platform : Platform κ) (previousX previousY : Option Double)
    (x y : Double) (builder : MouseMove) :
    (Record.mouseMove (setDifference platform previousX previousY x y builder)).shared
      = (Record.mouseMove builder).shared := by
  cases previousX with
  | none => rfl
  | some previousX => cases previousY <;> rfl

/-- the builders of an event have the shared fields, each with its interval -/
theorem records_shared (platform : Platform κ) (ctx : EventContext) (state : κ) (data : EventData)
    (machine : Machine) :
    (machine.records platform ctx state data).map Record.shared
      = (data.intervals machine.tracker).map fun interval =>
          fields platform ctx state interval {} := by
  unfold Machine.records EventData.intervals
  cases data with
  | tabletToolProximity time dx dy proximity =>
    cases proximity with
    | stateOut => rfl
    | stateIn =>
      simp only [EventData.time, fields, setModifierValues_eq]
      rfl
  | pointerMotionAbsolute | touchDown | touchMotion =>
    simp only [EventData.time, fields, setModifierValues_eq, List.map_cons, List.map_nil,
      setDifference_shared]
    rfl
  | deviceAdded | deviceRemoved | tabletPadRing | tabletPadStrip | other => rfl
  | _ =>
    simp only [EventData.time, fields, setModifierValues_eq]
    rfl

theorem shared_of_mem {platform : Platform κ} {ctx : EventContext} {state : κ} {data : EventData}
    {machine : Machine} {record : Record} (h : record ∈ machine.records platform ctx state data) :
    ∃ interval, record.shared = fields platform ctx state interval {} := by
  have hmem := List.mem_map_of_mem (f := Record.shared) h
  rw [records_shared] at hmem
  obtain ⟨interval, -, he⟩ := List.mem_map.mp hmem
  exact ⟨interval, he.symm⟩

namespace EventTransformer

def view (uuid : List UInt8) (self : EventTransformer κ) : Machine where
  tracker := (self.deviceIntervals.lookup uuid).getD {}
  absoluteX := self.previousAbsoluteX.lookup uuid
  absoluteY := self.previousAbsoluteY.lookup uuid
  touchX := fun seatSlot => self.previousTouchX.lookup (uuid, seatSlot)
  touchY := fun seatSlot => self.previousTouchY.lookup (uuid, seatSlot)

/-- of the devices, only what is kept for one uuid has changed, and that by `f` -/
structure Moves (uuid : List UInt8) (f : Machine → Machine) (a b : EventTransformer κ) : Prop where
  deviceIds : b.deviceIds = a.deviceIds
  generated : b.generated = a.generated
  same : b.view uuid = f (a.view uuid)
  other : ∀ other, other ≠ uuid → b.view other = a.view other

theorem Moves.refl (uuid : List UInt8) (a : EventTransformer κ) : Moves uuid id a a :=
  ⟨rfl, rfl, rfl, fun _ _ => rfl⟩

theorem Moves.trans {uuid : List UInt8} {f g : Machine → Machine} {a b c : EventTransformer κ}
    (h : Moves uuid f a b) (h' : Moves uuid g b c) : Moves uuid (g ∘ f) a c := by
  refine ⟨h'.deviceIds.trans h.deviceIds, h'.generated.trans h.generated, ?_,
    fun other ho => (h'.other other ho).trans (h.other other ho)⟩
  rw [h'.same, h.same]
  rfl

/-! ## the steps of the transformer -/

def advance (uuid : List UInt8) (time : UInt64) (self : EventTransformer κ) : EventTransformer κ :=
  { self with
    deviceIntervals :=
      (self.deviceIntervals.subscript uuid {}).2.insert uuid ⟨some time.toNat⟩ }

def putAbsolute (uuid : List UInt8) (x y : Double) (self : EventTransformer κ) :
    EventTransformer κ :=
  { self with
    previousAbsoluteX := self.previousAbsoluteX.insert uuid x
    previousAbsoluteY := self.previousAbsoluteY.insert uuid y }

def putTouch (uuid : List UInt8) (seatSlot : Int32) (x y : Double) (self : EventTransformer κ) :
    EventTransformer κ :=
  { self with
    previousTouchX := self.previousTouchX.insert (uuid, seatSlot) x
    previousTouchY := self.previousTouchY.insert (uuid, seatSlot) y }

theorem setBaseFields_eq {B : Type} [Builder B] (platform : Platform κ) (builder : B)
    (ctx : EventContext) (time : UInt64) (self : EventTransformer κ) :
    self.setBaseFields platform builder ctx time
      = (Builder.mapBase (fields platform ctx self.xkb
          ((self.view ctx.deviceUuid).tracker.interval time.toNat).1) builder,
        self.advance ctx.deviceUuid time) := by
  have h : (self.deviceIntervals.subscript ctx.deviceUuid {}).1
      = (self.view ctx.deviceUuid).tracker := Dict.subscript_fst
  unfold advance
  rw [← h, ← IntervalTracker.interval_snd time.toNat
    (self.deviceIntervals.subscript ctx.deviceUuid {}).1]
  rfl

theorem setRelativePosition_eq (platform : Platform κ) (builder : MouseMove) (uuid : List UInt8)
    (x y : UInt32 → Double) (self : EventTransformer κ) :
    self.setRelativePosition platform builder uuid x y
      = (setDifference platform (self.view uuid).absoluteX (self.view uuid).absoluteY
          (x platform.dimensions.width) (y platform.dimensions.height) builder,
        self.putAbsolute uuid (x platform.dimensions.width) (y platform.dimensions.height)) := rfl

theorem setTouchRelativePosition_eq (platform : Platform κ) (builder : MouseMove)
    (uuid : List UInt8) (seatSlot : Int32) (x y : UInt32 → Double) (self : EventTransformer κ) :
    self.setTouchRelativePosition platform builder uuid seatSlot x y
      = (setDifference platform ((self.view uuid).touchX seatSlot)
          ((self.view uuid).touchY seatSlot) (x platform.dimensions.width)
          (y platform.dimensions.height) builder,
        self.putTouch uuid seatSlot (x platform.dimensions.width)
          (y platform.dimensions.height)) := rfl

theorem advance_moves (uuid : List UInt8) (time : UInt64) (self : EventTransformer κ) :
    Moves uuid (Machine.advance time) self (self.advance uuid time) := by
  refine ⟨rfl, rfl, ?_, fun other ho => ?_⟩
  · have h : (self.advance uuid time).deviceIntervals.lookup uuid = some ⟨some time.toNat⟩ :=
      AList.lookup_insert _
    exact Machine.ext (congrArg (fun found => found.getD ({} : IntervalTracker)) h) rfl rfl rfl rfl
  · have h : (self.advance uuid time).deviceIntervals.lookup other
        = self.deviceIntervals.lookup other :=
      (AList.lookup_insert_ne ho).trans (Dict.subscript_other ho)
    exact Machine.ext (congrArg (fun found => found.getD ({} : IntervalTracker)) h) rfl rfl rfl rfl

theorem putAbsolute_moves (uuid : List UInt8) (x y : Double) (self : EventTransformer κ) :
    Moves uuid (Machine.putAbsolute x y) self (self.putAbsolute uuid x y) := by
  refine ⟨rfl, rfl, ?_, fun other ho => ?_⟩
  · exact Machine.ext rfl (AList.lookup_insert _) (AList.lookup_insert _) rfl rfl
  · exact Machine.ext rfl (AList.lookup_insert_ne ho) (AList.lookup_insert_ne ho) rfl rfl

/-- a change for one touch of one uuid, seen from that uuid and from another one -/
theorem touch_update {m m' : Dict (List UInt8 × Int32) Double} {uuid : List UInt8}
    {seatSlot : Int32} {value : Option Double}
    (h : ∀ key, m'.lookup key = Function.update m.lookup (uuid, seatSlot) value key) :
    (fun slot => m'.lookup (uuid, slot))
      = Function.update (fun slot => m.lookup (uuid, slot)) seatSlot value := by
  funext slot
  rw [h]
  by_cases hs : slot = seatSlot
  · rw [hs, Function.update_self, Function.update_self]
  · rw [Function.update_of_ne hs, Function.update_of_ne]
    exact fun e => hs (congrArg Prod.snd e)

theorem touch_update_other {m m' : Dict (List UInt8 × Int32) Double} {uuid other : List UInt8}
    (ho : other ≠ uuid) {seatSlot : Int32} {value : Option Double}
    (h : ∀ key, m'.lookup key = Function.update m.lookup (uuid, seatSlot) value key) :
    (fun slot => m'.lookup (other, slot)) = fun slot => m.lookup (other, slot) := by
  funext slot
  rw [h, Function.update_of_ne]
  exact fun e => ho (congrArg Prod.fst e)

theorem putTouch_moves (uuid : List UInt8) (seatSlot : Int32) (x y : Double)
    (self : EventTransformer κ) :
    Moves uuid (Machine.putTouch seatSlot (some x) (some y)) self
      (self.putTouch uuid seatSlot x y) := by
  refine ⟨rfl, rfl, ?_, fun other ho => ?_⟩
  · exact Machine.ext rfl rfl rfl (touch_update (Dict.lookup_insert_update _ _ _))
      (touch_update (Dict.lookup_insert_update _ _ _))
  · exact Machine.ext rfl rfl rfl (touch_update_other ho (Dict.lookup_insert_update _ _ _))
      (touch_update_other ho (Dict.lookup_insert_update _ _ _))

theorem clearTouchPosition_moves (uuid : List UInt8) (seatSlot : Int32)
    (self : EventTransformer κ) :
    Moves uuid (Machine.putTouch seatSlot none none) self
      (self.clearTouchPosition uuid seatSlot) := by
  refine ⟨rfl, rfl, ?_, fun other ho => ?_⟩
  · exact Machine.ext rfl rfl rfl (touch_update (Dict.lookup_erase_update _ _))
      (touch_update (Dict.lookup_erase_update _ _))
  · exact Machine.ext rfl rfl rfl (touch_update_other ho (Dict.lookup_erase_update _ _))
      (touch_update_other ho (Dict.lookup_erase_update _ _))

/-! ## the branches -/

/-- **The builders of an event** are those of its device's machine. -/
theorem build_records (platform : Platform κ) (ctx : EventContext) (data : EventData)
    (self : EventTransformer κ) :
    (self.build platform ctx ctx.deviceUuid data).1
      = (self.view ctx.deviceUuid).records platform ctx self.xkb data := by
  cases data with
  | pointerMotion time dx dy =>
    simp only [build, setBaseFields_eq]
    rfl
  | pointerMotionAbsolute time x y =>
    simp only [build, setBaseFields_eq, setRelativePosition_eq, (advance_moves _ time self).same]
    rfl
  | touchDown time seatSlot x y =>
    simp only [build, setBaseFields_eq, setTouchRelativePosition_eq,
      (advance_moves _ time self).same, (putTouch_moves ..).same]
    rw [show ((Machine.putTouch _ _ _ (Machine.advance time _)).tracker.interval _).1 = some 0
      from IntervalTracker.interval_again _]
    rfl
  | touchMotion time seatSlot x y =>
    simp only [build, setBaseFields_eq, setTouchRelativePosition_eq,
      (advance_moves _ time self).same]
    rfl
  | pointerButton time button state =>
    simp only [build, setBaseFields_eq, setButtonName, Machine.records, EventData.time]
    cases platform.eventCodeName button <;> rfl
  | tabletToolProximity time dx dy state =>
    cases state with
    | stateOut => rfl
    | stateIn =>
      simp only [build, buildTabletToolMove, setBaseFields_eq]
      rfl
  | tabletToolAxis time dx dy =>
    simp only [build, buildTabletToolMove, setBaseFields_eq]
    rfl
  | tabletToolTip time dx dy state =>
    simp only [build, buildTabletToolMove, setBaseFields_eq, (advance_moves _ time self).same]
    rw [show ((Machine.advance time _).tracker.interval _).1 = some 0 from
      IntervalTracker.interval_again _]
    rfl
  | tabletToolButton time button state =>
    simp only [build, setBaseFields_eq, setButtonName, Machine.records, EventData.time]
    cases platform.eventCodeName button <;> rfl
  | tabletPadButton time button state =>
    simp only [build, setBaseFields_eq]
    rfl
  | touchCancel time seatSlot | touchUp time seatSlot =>
    simp only [build, buildTouchRelease, setBaseFields_eq, (advance_moves _ time self).same]
    rw [show ((Machine.advance time _).tracker.interval _).1 = some 0 from
      IntervalTracker.interval_again _]
    rfl
  | pointerScrollWheel time vertical horizontal | pointerScrollFinger time vertical horizontal
  | pointerScrollContinuous time vertical horizontal =>
    simp only [build, buildScrollEvent, setBaseFields_eq]
    cases vertical <;> cases horizontal <;> rfl
  | keyboardKey time key state =>
    simp only [build, setBaseFields_eq, Machine.records, EventData.time]
    cases platform.xkb.keyName self.xkb (key + 8) <;>
      cases platform.xkb.keyCharacter self.xkb (key + 8) <;> rfl
  | tabletPadKey time key state =>
    simp only [build, setBaseFields_eq, setButtonName, Machine.records, EventData.time]
    cases platform.eventCodeName key <;> rfl
  | deviceAdded | deviceRemoved | tabletPadRing | tabletPadStrip | other => rfl

/-- **The past of the device** after an event is the next one of its machine. -/
theorem build_moves (platform : Platform κ) (ctx : EventContext) (data : EventData)
    (self : EventTransformer κ) :
    Moves ctx.deviceUuid (Machine.step platform.dimensions data) self
      (self.build platform ctx ctx.deviceUuid data).2 := by
  cases data with
  | pointerMotionAbsolute time x y =>
    simp only [build, setBaseFields_eq, setRelativePosition_eq]
    exact (advance_moves _ time self).trans (putAbsolute_moves ..)
  | touchDown time seatSlot x y =>
    simp only [build, setBaseFields_eq, setTouchRelativePosition_eq]
    exact ((advance_moves _ time self).trans (putTouch_moves ..)).trans (advance_moves _ time _)
  | touchMotion time seatSlot x y =>
    simp only [build, setBaseFields_eq, setTouchRelativePosition_eq]
    exact (advance_moves _ time self).trans (putTouch_moves ..)
  | touchCancel time seatSlot | touchUp time seatSlot =>
    simp only [build, buildTouchRelease, setBaseFields_eq]
    exact ((advance_moves _ time self).trans (advance_moves _ time _)).trans
      (clearTouchPosition_moves ..)
  | tabletToolProximity time dx dy state =>
    cases state with
    | stateOut => exact .refl _ _
    | stateIn =>
      simp only [build, buildTabletToolMove, setBaseFields_eq]
      exact advance_moves _ time self
  | tabletToolTip time dx dy state =>
    simp only [build, buildTabletToolMove, setBaseFields_eq]
    exact (advance_moves _ time self).trans (advance_moves _ time _)
  | pointerMotion time _ _ | pointerButton time _ _ | tabletToolAxis time _ _
  | tabletToolButton time _ _ | tabletPadButton time _ _ | pointerScrollWheel time _ _
  | pointerScrollFinger time _ _ | pointerScrollContinuous time _ _ | tabletPadKey time _ _ =>
    simp only [build, buildTabletToolMove, buildScrollEvent, setBaseFields_eq]
    exact advance_moves _ time self
  | keyboardKey time key state =>
    simp only [build, setBaseFields_eq]
    have h := advance_moves ctx.deviceUuid time self
    exact ⟨h.deviceIds, h.generated, h.same, h.other⟩
  | deviceAdded | deviceRemoved | tabletPadRing | tabletPadStrip | other => exact .refl _ _

def keyboard (xkb : Xkb κ) (data : EventData) (state : κ) : κ :=
  match data with
  | .keyboardKey _ key keyState =>
    xkb.updateKeyState state (key + 8) (getXkbDirection keyState)
  | _ => state

theorem build_xkb (platform : Platform κ) (ctx : EventContext) (data : EventData)
    (self : EventTransformer κ) :
    (self.build platform ctx ctx.deviceUuid data).2.xkb
      = keyboard platform.xkb data self.xkb := by
  cases data with
  | tabletToolProximity time dx dy state => cases state <;> rfl
  | _ => rfl

end EventTransformer
end Evget.LibInput
