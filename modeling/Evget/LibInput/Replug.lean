import Evget.LibInput.Positions

/-!
# Devices that come and go

A device is known by its address, and nothing is forgotten when it is removed.  When the address is
used again, the later device is taken for the earlier one.

* `DevicesApart`         what should hold of a run in which devices are removed;
* `Reused`               an address has entries before and after a removal;
* `devicesApart_iff`     the run is as it should be exactly when no address is reused;
* `sampleReplug_mixed`   a mouse that is taken for the screen whose address it has.
-/

namespace Evget.LibInput
open SQLite

variable {κ : Type}

/-! ## what should hold -/

def removal (handle : Nat) (event : InputEvent) : Bool :=
  mine handle event && match event.data with
    | .deviceRemoved => true
    | _ => false

def makes (handle : Nat) (event : InputEvent) : Bool :=
  mine handle event && event.data.time.isSome

def Unplaced (data : Data) : Prop :=
  ∀ entry ∈ data.entries, text "position_x" entry = [] ∧ text "position_y" entry = []

/-- Different devices have different ids.  After a removal the first entry from the address has no
interval, and the first absolute motion and the first move of every slot have no position. -/
structure DevicesApart (run : List (InputEvent × Data)) : Prop where
  deviceId : ∀ before x middle y after, run = before ++ x :: middle ++ y :: after →
    ∀ handle handle', mine handle x.1 = true → mine handle' y.1 = true →
      (handle ≠ handle' ∨ ∃ z ∈ middle, removal handle z.1 = true) →
        ∀ entry ∈ x.2.entries, ∀ entry' ∈ y.2.entries,
          text "device_id" entry ≠ text "device_id" entry'
  interval : ∀ before r middle y after handle, run = before ++ r :: middle ++ y :: after →
    removal handle r.1 = true → mine handle y.1 = true →
      (∀ z ∈ middle, mine handle z.1 = true → z.2.entries = []) →
        ∀ entry ∈ y.2.entries.head?, text "interval" entry = []
  motion : ∀ before r middle y after handle, run = before ++ r :: middle ++ y :: after →
    removal handle r.1 = true → absolute handle y.1 = true →
      (∀ z ∈ middle, absolute handle z.1 = false) → Unplaced y.2
  touch : ∀ before r middle y after handle seatSlot, run = before ++ r :: middle ++ y :: after →
    removal handle r.1 = true → onSlot handle seatSlot y.1 = true →
      (∀ z ∈ middle, onSlot handle seatSlot z.1 = false) → Unplaced y.2

/-- an address has entries before and after a removal -/
def Reused (handle : Nat) (events : List InputEvent) : Prop :=
  ∃ before earlier middle later after, events = before ++ earlier :: middle ++ later :: after ∧
    makes handle earlier = true ∧ makes handle later = true ∧
      ∃ event ∈ middle, removal handle event = true

/-! ## uuids in a run -/

namespace EventTransformer

theorem lookup_final {platform : Platform κ} (hu : Function.Injective platform.randomUuid)
    {self : EventTransformer κ} (hs : self.Sound platform) {handle : Nat} {uuid : List UInt8}
    (h : self.deviceIds.lookup handle = some uuid) (events : List InputEvent) :
    (Mealy.final (records platform) self events).deviceIds.lookup handle = some uuid := by
  induction events generalizing self with
  | nil => exact h
  | cons event events ih =>
    refine ih (records_sound hu hs event) ?_
    cases hd : event.device with
    | none =>
      rw [records_none platform self hd]
      exact h
    | some device =>
      obtain ⟨found, -, hb⟩ := records_spec hu hs hd
      by_cases hh : handle = device.handle
      · rw [hh] at h ⊢
        rw [hb.lookup, hb.known uuid h]
      · rw [(hb.others handle hh).1]
        exact h

theorem machine_final {platform : Platform κ} (hu : Function.Injective platform.randomUuid)
    {self : EventTransformer κ} (hs : self.Sound platform) {handle : Nat}
    (keeps : Machine → Prop) (events : List InputEvent)
    (hstep : ∀ event ∈ events, mine handle event = true →
      ∀ m, keeps m → keeps (m.step platform.dimensions event.data))
    (h : keeps (self.machine handle)) :
    keeps ((Mealy.final (records platform) self events).machine handle) := by
  induction events generalizing self with
  | nil => exact h
  | cons event events ih =>
    refine ih (records_sound hu hs event) (fun e he => hstep e (List.mem_cons_of_mem _ he)) ?_
    cases hd : event.device with
    | none =>
      rw [records_none platform self hd]
      exact h
    | some device =>
      obtain ⟨found, -, hb⟩ := records_spec hu hs hd
      by_cases hh : device.handle = handle
      · rw [← hh, hb.machine, hh]
        exact hstep event List.mem_cons_self (mine_iff.mpr ⟨device, hd, hh⟩) _ h
      · rw [(hb.others handle (Ne.symm hh)).2]
        exact h

/-! ## the entries of an event -/

theorem records_silent (platform : Platform κ) (ctx : EventContext) (state : κ) {data : EventData}
    (h : data.time = none) (machine : Machine) :
    machine.records platform ctx state data = [] := by
  unfold Machine.records
  rw [h]

theorem records_speaks (platform : Platform κ) (ctx : EventContext) (state : κ) {data : EventData}
    (h : data.time.isSome = true) (machine : Machine) :
    machine.records platform ctx state data ≠ [] := by
  intro he
  have hshared := records_shared platform ctx state data machine
  rw [he] at hshared
  unfold EventData.intervals at hshared
  cases ht : data.time with
  | none => rw [ht] at h; cases h
  | some time => rw [ht] at hshared; cases hshared

theorem records_deviceId {platform : Platform κ} {event : InputEvent} {device : Device}
    {uuid : List UInt8} {state : κ} {machine : Machine} {record : Record}
    (h : record ∈ machine.records platform (event.context device uuid) state event.data) :
    text "device_id" record.entry = uuid := by
  obtain ⟨interval, hshared⟩ := shared_of_mem h
  rw [deviceId_text, hshared, fields, setModifierValues_eq]
  rfl

theorem records_first {platform : Platform κ} {ctx : EventContext} {state : κ} {data : EventData}
    {machine : Machine} (h : machine.tracker = {}) :
    ∀ record ∈ (machine.records platform ctx state data).head?,
      text "interval" record.entry = [] := by
  intro record hr
  have hshared := congrArg List.head? (records_shared platform ctx state data machine)
  rw [List.head?_map, hr] at hshared
  unfold EventData.intervals at hshared
  rw [interval_text]
  cases ht : data.time with
  | none => rw [ht] at hshared; cases hshared
  | some time =>
    rw [ht, h] at hshared
    rw [Option.some.inj hshared]
    show fromInterval (fields ..).interval_ = []
    rw [fields, setModifierValues_eq]
    rfl

theorem setDifference_none (platform : Platform κ) (y : Option Double) (a b : Double)
    (builder : MouseMove) : setDifference platform none y a b builder = builder := rfl

theorem records_motion {platform : Platform κ} {ctx : EventContext} {state : κ} {data : EventData}
    {machine : Machine} (hd : data.isAbsolute = true) (h : machine.absoluteX = none) :
    ∀ record ∈ machine.records platform ctx state data,
      text "position_x" record.entry = [] ∧ text "position_y" record.entry = [] := by
  intro record hr
  cases data with
  | pointerMotionAbsolute time x y =>
    unfold Machine.records at hr
    simp only [EventData.time, h, setDifference_none] at hr
    obtain ⟨hx, hy⟩ := fields_position platform ctx state (machine.tracker.interval time.toNat).1
    rw [(position_text record).1, (position_text record).2, List.mem_singleton.mp hr]
    show fromDouble (fields ..).positionX_ = [] ∧ fromDouble (fields ..).positionY_ = []
    rw [hx, hy]
    exact ⟨rfl, rfl⟩
  | _ => cases hd

theorem records_slot {platform : Platform κ} {ctx : EventContext} {state : κ} {data : EventData}
    {machine : Machine} {seatSlot : Int32} (hd : data.seatSlot = some seatSlot)
    (h : machine.touchX seatSlot = none) :
    ∀ record ∈ machine.records platform ctx state data,
      text "position_x" record.entry = [] ∧ text "position_y" record.entry = [] := by
  intro record hr
  have hfields (interval : Option Int) := fields_position platform ctx state interval
  have hplain : ∀ base, (∃ interval, base = fields platform ctx state interval {}) →
      fromDouble base.positionX_ = [] ∧ fromDouble base.positionY_ = [] := by
    rintro base ⟨interval, rfl⟩
    rw [(hfields interval).1, (hfields interval).2]
    exact ⟨rfl, rfl⟩
  rw [(position_text record).1, (position_text record).2]
  unfold Machine.records at hr
  cases data with
  | touchDown | touchUp | touchCancel =>
    cases hd
    simp only [EventData.time, h, setDifference_none] at hr
    rcases List.mem_pair.mp hr with rfl | rfl <;> exact hplain _ ⟨_, rfl⟩
  | touchMotion =>
    cases hd
    simp only [EventData.time, h, setDifference_none] at hr
    rw [List.mem_singleton.mp hr]
    exact hplain _ ⟨_, rfl⟩
  | _ => cases hd

/-! ## runs with removals -/

def after (platform : Platform κ) (xkb : κ) (run : List (InputEvent × Data)) :
    EventTransformer κ :=
  Mealy.final (records platform) { xkb := xkb } (run.map Prod.fst)

theorem after_append (platform : Platform κ) (xkb : κ) (run more : List (InputEvent × Data)) :
    after platform xkb (run ++ more)
      = Mealy.final (records platform) (after platform xkb run) (more.map Prod.fst) := by
  unfold after
  rw [List.map_append, Mealy.final_append]

theorem after_sound {platform : Platform κ} (hu : Function.Injective platform.randomUuid) (xkb : κ)
    (run : List (InputEvent × Data)) : (after platform xkb run).Sound platform :=
  Mealy.run_inv (I := Sound platform) (fun _ e hs => records_sound hu hs e)
    (sound_new platform xkb) _

/-- the entries of an event of a run: they have the uuid of the device -/
theorem run_entries {platform : Platform κ} (hu : Function.Injective platform.randomUuid) {xkb : κ}
    {events : List InputEvent} {before rest : List (InputEvent × Data)} {x : InputEvent × Data}
    (hrun : run platform { xkb := xkb } events = before ++ x :: rest) {handle : Nat}
    (h : mine handle x.1 = true) :
    ∃ device uuid, x.2.entries = (((after platform xkb before).machine handle).records platform
        (x.1.context device uuid) (after platform xkb before).xkb x.1.data).map Record.entry ∧
      (after platform xkb (before ++ [x])).deviceIds.lookup handle = some uuid := by
  obtain ⟨device, hd, rfl⟩ := mine_iff.mp h
  obtain ⟨uuid, hrecords, hb⟩ := records_spec hu (after_sound hu xkb before) hd
  refine ⟨device, uuid, ?_, ?_⟩
  · rw [run_split hrun, ← hrecords]
    rfl
  · rw [after_append]
    exact hb.lookup

theorem run_makes {platform : Platform κ} (hu : Function.Injective platform.randomUuid) {xkb : κ}
    {events : List InputEvent} {before rest : List (InputEvent × Data)} {x : InputEvent × Data}
    (hrun : run platform { xkb := xkb } events = before ++ x :: rest) {handle : Nat}
    (h : mine handle x.1 = true) : x.2.entries ≠ [] ↔ makes handle x.1 = true := by
  obtain ⟨device, uuid, hentries, -⟩ := run_entries hu hrun h
  unfold makes
  rw [hentries, h, Bool.true_and]
  constructor
  · intro hne
    cases ht : x.1.data.time with
    | some time => rfl
    | none =>
      rw [records_silent platform _ _ ht] at hne
      exact absurd rfl hne
  · intro ht he
    exact records_speaks platform _ _ ht _ (List.map_eq_nil_iff.mp he)

/-- the ids of the entries of two events are the uuids that their devices have after both -/
theorem run_deviceIds {platform : Platform κ} (hu : Function.Injective platform.randomUuid)
    {xkb : κ} {events : List InputEvent} {before middle rest : List (InputEvent × Data)}
    {x y : InputEvent × Data}
    (hrun : run platform { xkb := xkb } events = before ++ x :: middle ++ y :: rest)
    {handle handle' : Nat} (hx : mine handle x.1 = true) (hy : mine handle' y.1 = true) :
    ∃ uuid uuid', (∀ entry ∈ x.2.entries, text "device_id" entry = uuid) ∧
      (∀ entry ∈ y.2.entries, text "device_id" entry = uuid') ∧
      (after platform xkb (before ++ x :: middle ++ [y])).deviceIds.lookup handle = some uuid ∧
      (after platform xkb (before ++ x :: middle ++ [y])).deviceIds.lookup handle'
        = some uuid' := by
  have hrun' : run platform { xkb := xkb } events = before ++ x :: (middle ++ y :: rest) := by
    rw [hrun, List.append_assoc, List.cons_append]
  obtain ⟨device, uuid, hentries, hlookup⟩ := run_entries hu hrun' hx
  obtain ⟨device', uuid', hentries', hlookup'⟩ := run_entries hu hrun hy
  refine ⟨uuid, uuid', ?_, ?_, ?_, hlookup'⟩
  · intro entry he
    rw [hentries] at he
    obtain ⟨record, hr, rfl⟩ := List.mem_map.mp he
    exact records_deviceId hr
  · intro entry he
    rw [hentries'] at he
    obtain ⟨record, hr, rfl⟩ := List.mem_map.mp he
    exact records_deviceId hr
  · have h : before ++ x :: middle ++ [y] = (before ++ [x]) ++ (middle ++ [y]) := by simp
    rw [h, after_append]
    exact lookup_final hu (after_sound hu xkb _) hlookup _

theorem removal_time {handle : Nat} {event : InputEvent} (h : removal handle event = true) :
    event.data.time = none := by
  have hdata := (Bool.and_eq_true_iff.mp h).2
  cases hd : event.data with
  | deviceRemoved => rfl
  | _ => rw [hd] at hdata; cases hdata

theorem time_of_absolute {data : EventData} (h : data.isAbsolute = true) :
    data.time.isSome = true := by
  cases data <;> first | rfl | cases h

theorem time_of_slot {data : EventData} {seatSlot : Int32} (h : data.seatSlot = some seatSlot) :
    data.time.isSome = true := by
  cases data <;> first | rfl | cases h

theorem silent_of_makes {handle : Nat} {event : InputEvent} (h : makes handle event = false)
    (hm : mine handle event = true) : event.data.time = none := by
  unfold makes at h
  rw [hm] at h
  cases ht : event.data.time with
  | none => rfl
  | some time =>
    rw [ht] at h
    cases h

/-- an address that is used after a removal has no entries before it -/
theorem silent_before {platform : Platform κ} {xkb : κ} {events : List InputEvent} {handle : Nat}
    (h : ¬ Reused handle events) {before middle rest : List (InputEvent × Data)}
    {r y : InputEvent × Data}
    (hrun : run platform { xkb := xkb } events = before ++ r :: middle ++ y :: rest)
    (hr : removal handle r.1 = true) (hy : makes handle y.1 = true) :
    ∀ x ∈ before, makes handle x.1 = false := by
  intro x hx
  refine Bool.eq_false_iff.mpr fun hmakes => h ?_
  obtain ⟨front, back, rfl⟩ := List.append_of_mem hx
  have hfst : (run platform { xkb := xkb } events).map Prod.fst = events :=
    Mealy.outputs_events ..
  rw [hrun] at hfst
  refine ⟨front.map Prod.fst, x.1, (back ++ r :: middle).map Prod.fst, y.1,
    rest.map Prod.fst, ?_, hmakes, hy, r.1, ?_, hr⟩
  · rw [← hfst]
    simp
  · exact List.mem_map_of_mem (List.mem_append_right _ List.mem_cons_self)

/-- what is new in a machine stays so until the address is used after a removal, if the events after
the removal leave it so -/
theorem new_after {platform : Platform κ} (hu : Function.Injective platform.randomUuid) {xkb : κ}
    {events : List InputEvent} {handle : Nat} (h : ¬ Reused handle events)
    {before middle rest : List (InputEvent × Data)} {r y : InputEvent × Data}
    (hrun : run platform { xkb := xkb } events = before ++ r :: middle ++ y :: rest)
    (hr : removal handle r.1 = true) (hy : makes handle y.1 = true) (keeps : Machine → Prop)
    (hnew : keeps {}) (hmiddle : ∀ x ∈ middle, mine handle x.1 = true →
      ∀ m, keeps m → keeps (m.step platform.dimensions x.1.data)) :
    keeps ((after platform xkb (before ++ r :: middle)).machine handle) := by
  refine machine_final hu (sound_new platform xkb) keeps _ (fun event he => ?_) hnew
  obtain ⟨x, hx, rfl⟩ := List.mem_map.mp he
  intro hm m hkeeps
  rcases List.mem_append.mp hx with hx | hx
  · rw [Machine.step_silent _ (silent_of_makes (silent_before h hrun hr hy x hx) hm)]
    exact hkeeps
  · rcases List.mem_cons.mp hx with rfl | hx
    · rw [Machine.step_silent _ (removal_time hr)]
      exact hkeeps
    · exact hmiddle x hx hm m hkeeps

/-- a reused address gives the later device the id of the earlier one -/
theorem not_reused {platform : Platform κ} (hu : Function.Injective platform.randomUuid) {xkb : κ}
    {events : List InputEvent} (h : DevicesApart (run platform { xkb := xkb } events))
    (handle : Nat) : ¬ Reused handle events := by
  rintro ⟨before, earlier, middle, later, rest, hevents, hearlier, hlater, event, hm, hr⟩
  have hfst : (run platform { xkb := xkb } events).map Prod.fst = events :=
    Mealy.outputs_events ..
  obtain ⟨front, back, hrun, hfront, hback⟩ := List.map_eq_append_iff.mp (hfst.trans hevents)
  obtain ⟨b, tail, rfl, -, htail⟩ := List.map_eq_append_iff.mp hfront
  obtain ⟨x, m, rfl, rfl, rfl⟩ := List.map_eq_cons_iff.mp htail
  obtain ⟨y, r, rfl, rfl, -⟩ := List.map_eq_cons_iff.mp hback
  have hx := (Bool.and_eq_true_iff.mp hearlier).1
  have hy := (Bool.and_eq_true_iff.mp hlater).1
  have hrun' : run platform { xkb := xkb } events = b ++ x :: (m ++ y :: r) := by
    rw [hrun, List.append_assoc, List.cons_append]
  obtain ⟨entry, he⟩ := List.exists_mem_of_ne_nil _ ((run_makes hu hrun' hx).mpr hearlier)
  obtain ⟨entry', he'⟩ := List.exists_mem_of_ne_nil _ ((run_makes hu hrun hy).mpr hlater)
  obtain ⟨uuid, uuid', hid, hid', hl, hl'⟩ := run_deviceIds hu hrun hx hy
  obtain ⟨z, hz, rfl⟩ := List.mem_map.mp hm
  refine h.deviceId b x m y r hrun handle handle hx hy (.inr ⟨z, hz, hr⟩) entry he entry' he' ?_
  rw [hid entry he, hid' entry' he']
  exact Option.some.inj (hl.symm.trans hl')

section
variable {platform : Platform κ} (hu : Function.Injective platform.randomUuid) {xkb : κ}
  {events : List InputEvent} {handle : Nat} (h : ¬ Reused handle events)
  {before middle rest : List (InputEvent × Data)} {r y : InputEvent × Data}
  (hrun : run platform { xkb := xkb } events = before ++ r :: middle ++ y :: rest)
include hu h hrun

/-- no entries on both sides of a removal have one id -/
theorem deviceId_apart {handle' : Nat} (hr : mine handle r.1 = true) (hy : mine handle' y.1 = true)
    (hdiffer : handle ≠ handle' ∨ ∃ z ∈ middle, removal handle z.1 = true) :
    ∀ entry ∈ r.2.entries, ∀ entry' ∈ y.2.entries,
      text "device_id" entry ≠ text "device_id" entry' := by
  intro entry he entry' he' heq
  obtain ⟨uuid, uuid', hid, hid', hl, hl'⟩ := run_deviceIds hu hrun hr hy
  rw [hid entry he, hid' entry' he'] at heq
  rw [← heq] at hl'
  have hsame := (after_sound hu xkb _).distinct handle handle' uuid hl hl'
  rcases hdiffer with hne | ⟨z, hz, hremoval⟩
  · exact hne hsame
  · -- both events have entries, with a removal between them
    have hrun' : run platform { xkb := xkb } events = before ++ r :: (middle ++ y :: rest) := by
      rw [hrun, List.append_assoc, List.cons_append]
    obtain ⟨front, back, rfl⟩ := List.append_of_mem hz
    have hmakes := (run_makes hu hrun hy).mp (List.ne_nil_of_mem he')
    rw [← hsame] at hmakes
    have hsplit : run platform { xkb := xkb } events
        = (before ++ r :: front) ++ z :: back ++ y :: rest := by
      rw [hrun]
      simp
    have hno := silent_before h hsplit hremoval hmakes r (by simp)
    rw [(run_makes hu hrun' hr).mp (List.ne_nil_of_mem he)] at hno
    cases hno

variable (hr : removal handle r.1 = true)
include hr

theorem interval_new (hy : mine handle y.1 = true)
    (hmiddle : ∀ z ∈ middle, mine handle z.1 = true → z.2.entries = []) :
    ∀ entry ∈ y.2.entries.head?, text "interval" entry = [] := by
  intro entry he
  have hmakes := (run_makes hu hrun hy).mp (List.ne_nil_of_mem (List.mem_of_mem_head? he))
  have hmachine : ((after platform xkb (before ++ r :: middle)).machine handle).tracker = {} := by
    apply new_after hu h hrun hr hmakes (fun m => m.tracker = {}) rfl
    intro x hx hm m hkeeps
    obtain ⟨front, back, rfl⟩ := List.append_of_mem hx
    have hrun' : run platform { xkb := xkb } events
        = (before ++ r :: front) ++ x :: (back ++ y :: rest) := by
      rw [hrun]
      simp
    have hnone : makes handle x.1 = false := Bool.eq_false_iff.mpr fun hx =>
      (run_makes hu hrun' hm).mpr hx (hmiddle x (by simp) hm)
    rw [Machine.step_silent _ (silent_of_makes hnone hm)]
    exact hkeeps
  obtain ⟨device, uuid, hentries, -⟩ := run_entries hu hrun hy
  rw [hentries, List.head?_map] at he
  obtain ⟨record, hrecord, rfl⟩ := Option.mem_map.mp he
  exact records_first hmachine record hrecord

theorem motion_new (hy : absolute handle y.1 = true)
    (hmiddle : ∀ z ∈ middle, absolute handle z.1 = false) : Unplaced y.2 := by
  intro entry he
  obtain ⟨hmine, habsolute⟩ := Bool.and_eq_true_iff.mp hy
  have hmakes : makes handle y.1 = true :=
    Bool.and_eq_true_iff.mpr ⟨hmine, time_of_absolute habsolute⟩
  have hmachine : ((after platform xkb (before ++ r :: middle)).machine handle).absoluteX
      = none := by
    apply new_after hu h hrun hr hmakes (fun m => m.absoluteX = none) rfl
    intro x hx hm m hkeeps
    have hno := hmiddle x hx
    rw [absolute, hm, Bool.true_and] at hno
    exact (absolute_other platform.dimensions hno m).1.trans hkeeps
  obtain ⟨device, uuid, hentries, -⟩ := run_entries hu hrun hmine
  rw [hentries] at he
  obtain ⟨record, hrecord, rfl⟩ := List.mem_map.mp he
  exact records_motion habsolute hmachine record hrecord

theorem touch_new {seatSlot : Int32} (hy : onSlot handle seatSlot y.1 = true)
    (hmiddle : ∀ z ∈ middle, onSlot handle seatSlot z.1 = false) : Unplaced y.2 := by
  intro entry he
  obtain ⟨hmine, hslot⟩ := Bool.and_eq_true_iff.mp hy
  have hslot := beq_iff_eq.mp hslot
  have hmakes : makes handle y.1 = true :=
    Bool.and_eq_true_iff.mpr ⟨hmine, time_of_slot hslot⟩
  have hmachine : ((after platform xkb (before ++ r :: middle)).machine handle).touchX seatSlot
      = none := by
    apply new_after hu h hrun hr hmakes (fun m => m.touchX seatSlot = none) rfl
    intro x hx hm m hkeeps
    have hno := hmiddle x hx
    rw [onSlot, hm, Bool.true_and] at hno
    exact (step_touch platform.dimensions (beq_eq_false_iff_ne.mp hno) m).1.trans hkeeps
  obtain ⟨device, uuid, hentries, -⟩ := run_entries hu hrun hmine
  rw [hentries] at he
  obtain ⟨record, hrecord, rfl⟩ := List.mem_map.mp he
  exact records_slot hslot hmachine record hrecord

end

/-- **When devices stay apart**: in every run, exactly when no address has entries both before and
after a removal. -/
theorem devicesApart_iff (platform : Platform κ) (hu : Function.Injective platform.randomUuid)
    (xkb : κ) (events : List InputEvent) :
    DevicesApart (run platform { xkb := xkb } events) ↔ ∀ handle, ¬ Reused handle events := by
  refine ⟨not_reused hu, fun h => ⟨?_, ?_, ?_, ?_⟩⟩
  · intro before x middle y rest hrun handle handle' hx hy hdiffer
    exact deviceId_apart hu (h handle) hrun hx hy hdiffer
  · intro before r middle y rest handle hrun hr hy hmiddle
    exact interval_new hu (h handle) hrun hr hy hmiddle
  · intro before r middle y rest handle hrun hr hy hmiddle
    exact motion_new hu (h handle) hrun hr hy hmiddle
  · intro before r middle y rest handle seatSlot hrun hr hy hmiddle
    exact touch_new hu (h handle) hrun hr hy hmiddle

/-! ### a screen that is removed -/

def sampleUnplug : List InputEvent := sampleTouch ++ [
  sampleEvent sampleScreen .deviceRemoved,
  sampleEvent sampleKeyboard (.keyboardKey 190 30 .pressed)]

theorem sampleUnplug_apart :
    DevicesApart (run samplePlatform { xkb := false } sampleUnplug) := by
  refine (devicesApart_iff samplePlatform sampleUuid_injective false sampleUnplug).mpr ?_
  rintro handle ⟨before, earlier, middle, later, rest, hevents, -, hlater, event, hm, hr⟩
  have hlast : sampleUnplug.Pairwise fun event later =>
      removal handle event = true → makes handle later = false := by
    simp [sampleUnplug, sampleTouch, sampleEvent, sampleScreen, sampleKeyboard, removal, makes,
      mine, InputEvent.handle, InputEvent.device, InputEvent.data, EventData.time]
    omega
  rw [hevents] at hlast
  have hno := (List.pairwise_append.mp hlast).2.2 event (by simp [hm]) later List.mem_cons_self hr
  rw [hlater] at hno
  cases hno

/-! ### an address that is used again -/

def sampleMouse : Device := ⟨1, bytes "mouse", 0, false, true⟩

def sampleReplug : List InputEvent := [
  sampleEvent sampleScreen (.pointerMotionAbsolute 100 (coordinate 10) (coordinate 20)),
  sampleEvent sampleScreen .deviceRemoved,
  sampleEvent sampleMouse .deviceAdded,
  sampleEvent sampleMouse (.pointerMotionAbsolute 150 (coordinate 13) (coordinate 21))]

/-- the mouse has the id of the screen -/
theorem sampleReplug_mixed :
    ¬ DevicesApart (run samplePlatform { xkb := false } sampleReplug) := by
  intro h
  refine h.deviceId [] _ [_, _] _ [] rfl 1 1 rfl rfl (.inr ⟨_, List.mem_cons_self, rfl⟩) _
    List.mem_cons_self _ List.mem_cons_self ?_
  rfl

end EventTransformer
end Evget.LibInput
