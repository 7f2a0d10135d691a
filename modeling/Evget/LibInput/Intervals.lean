import Evget.LibInput.Runs

/-!
# Intervals of a device

The intervals of a device's entries are the readings of one tracker at the times of its events: the
second entry of an event reads the same time again, and an event without entries does not read.

* `timed`            the entries of a device, by the time of the event and the text of the interval;
* `timed_texts`      the texts are the readings at the times;
* `Telescopes`       the first interval is empty, and the others add up;
* `run_intervals`    **the law**: where times do not decrease, the intervals telescope.
-/

namespace Evget.LibInput
open SQLite

variable {κ : Type}

def InputEvent.time (event : InputEvent) : Nat := event.data.time.elim 0 UInt64.toNat

def timed (handle : Nat) (run : List (InputEvent × Data)) : List (Nat × List UInt8) :=
  (run.filter fun x => mine handle x.1).flatMap fun x =>
    x.2.entries.map fun entry => (x.1.time, text "interval" entry)

/-! ## the readings of a machine -/

def deviceIntervals (dimensions : ScreenDimensions) (machine : Machine)
    (events : List InputEvent) : List (InputEvent × List (Option Int)) :=
  Mealy.outputs (fun m event => (event.data.intervals m.tracker, m.step dimensions event.data))
    machine events

def entryTimes (out : List (InputEvent × List (Option Int))) : List Nat :=
  out.flatMap fun x => x.2.map fun _ => x.1.time

def eventTimes (events : List InputEvent) : List Nat :=
  events.filterMap fun event => event.data.time.map UInt64.toNat

theorem deviceIntervals_cons (dimensions : ScreenDimensions) (machine : Machine)
    (event : InputEvent) (events : List InputEvent) :
    deviceIntervals dimensions machine (event :: events)
      = (event, event.data.intervals machine.tracker)
        :: deviceIntervals dimensions (machine.step dimensions event.data) events := rfl

theorem deviceIntervals_readings (dimensions : ScreenDimensions) (machine : Machine)
    (events : List InputEvent) :
    (deviceIntervals dimensions machine events).flatMap Prod.snd
      = machine.tracker.readings (entryTimes (deviceIntervals dimensions machine events)) := by
  induction events generalizing machine with
  | nil => rfl
  | cons event events ih =>
    unfold entryTimes at ih ⊢
    rw [deviceIntervals_cons, List.flatMap_cons, List.flatMap_cons, ih]
    unfold InputEvent.time EventData.intervals Machine.step
    cases event.data.time with
    | none => rfl
    | some time =>
      rw [Machine.move_tracker]
      cases event.data.again with
      | false => rfl
      | true =>
        show (machine.tracker.interval time.toNat).1 :: some 0 :: _
          = (machine.tracker.interval time.toNat).1 ::
            ((⟨some time.toNat⟩ : IntervalTracker).interval time.toNat).1 :: _
        rw [IntervalTracker.interval_again]
        rfl

theorem mem_entryTimes {dimensions : ScreenDimensions} {machine : Machine}
    {events : List InputEvent} {time : Nat}
    (h : time ∈ entryTimes (deviceIntervals dimensions machine events)) :
    time ∈ eventTimes events := by
  induction events generalizing machine with
  | nil => cases h
  | cons event events ih =>
    unfold entryTimes at h
    rw [deviceIntervals_cons, List.flatMap_cons, List.mem_append] at h
    unfold eventTimes
    rcases h with h | h
    · obtain ⟨interval, hi, rfl⟩ := List.mem_map.mp h
      unfold EventData.intervals at hi
      unfold InputEvent.time
      cases ht : event.data.time with
      | none =>
        rw [ht] at hi
        cases hi
      | some t => exact List.mem_filterMap.mpr ⟨event, List.mem_cons_self, by rw [ht]; rfl⟩
    · obtain ⟨e, he, ht⟩ := List.mem_filterMap.mp (ih h)
      exact List.mem_filterMap.mpr ⟨e, List.mem_cons_of_mem _ he, ht⟩

theorem stretch_entryTimes {dimensions : ScreenDimensions} {events : List InputEvent}
    (h : IntervalTracker.Stretch (eventTimes events)) (machine : Machine) :
    IntervalTracker.Stretch (entryTimes (deviceIntervals dimensions machine events)) := by
  induction events generalizing machine with
  | nil => exact .nil
  | cons event events ih =>
    unfold eventTimes at h
    unfold entryTimes
    rw [deviceIntervals_cons, List.flatMap_cons]
    unfold InputEvent.time EventData.intervals
    cases ht : event.data.time with
    | none =>
      rw [List.filterMap_cons_none (by rw [ht]; rfl)] at h
      exact ih h _
    | some time =>
      rw [List.filterMap_cons_some (b := time.toNat) (by rw [ht]; rfl)] at h
      obtain ⟨hfirst, hrest⟩ := List.pairwise_cons.mp h
      have htail := ih hrest (machine.step dimensions event.data)
      have hlater : ∀ t ∈ entryTimes (deviceIntervals dimensions
          (machine.step dimensions event.data) events),
          time.toNat ≤ t ∧ t < time.toNat + 0x8000000000000000 :=
        fun t h => hfirst t (mem_entryTimes h)
      have hone := List.pairwise_cons.mpr ⟨hlater, htail⟩
      cases event.data.again with
      | false => exact hone
      | true =>
        refine List.pairwise_cons.mpr ⟨fun t h => ?_, hone⟩
        rcases List.mem_cons.mp h with rfl | h
        · exact ⟨Nat.le_refl _, by show time.toNat < time.toNat + _; omega⟩
        · exact hlater t h

/-! ## the readings of a run -/

theorem records_intervals {platform : Platform κ} (event : InputEvent) (device : Device)
    (uuid : List UInt8) (state : κ) (m : Machine) :
    (m.records platform (event.context device uuid) state event.data).map
        (fun record => record.shared.interval_)
      = event.data.intervals m.tracker := by
  have h := congrArg (List.map Base.interval_) (records_shared platform
    (event.context device uuid) state event.data m)
  rw [List.map_map, List.map_map] at h
  refine h.trans ((List.map_congr_left fun interval _ => ?_).trans (List.map_id _))
  show (fields ..).interval_ = interval
  rw [fields, setModifierValues_eq]

/-- what is recorded of a device's intervals is what its machine shows -/
theorem timed_eq {platform : Platform κ} (hu : Function.Injective platform.randomUuid) (xkb : κ)
    (events : List InputEvent) (handle : Nat) :
    timed handle (EventTransformer.run platform { xkb := xkb } events)
      = (deviceIntervals platform.dimensions {} (events.filter (mine handle))).flatMap fun x =>
          x.2.map fun interval => (x.1.time, fromInterval interval) := by
  have hrecords := run_flatMap (fun record => record.shared.interval_)
    (fun event entry => (event.time, text "interval" entry))
    (fun event interval => (event.time, fromInterval interval))
    (fun event record => congrArg (Prod.mk event.time) (interval_text record))
    (mine handle) platform { xkb := xkb } events
  rw [EventTransformer.outputs_machine hu (fun record => record.shared.interval_)
    (fun event m => event.data.intervals m.tracker) records_intervals
    (EventTransformer.sound_new platform xkb) handle events] at hrecords
  exact hrecords

theorem timed_times {platform : Platform κ} (hu : Function.Injective platform.randomUuid) (xkb : κ)
    (events : List InputEvent) (handle : Nat) :
    (timed handle (EventTransformer.run platform { xkb := xkb } events)).map Prod.fst
      = entryTimes (deviceIntervals platform.dimensions {} (events.filter (mine handle))) := by
  rw [timed_eq hu, List.map_flatMap]
  simp only [List.map_map]
  rfl

/-- the texts of a device's intervals are those of the readings at the times of its entries -/
theorem timed_texts {platform : Platform κ} (hu : Function.Injective platform.randomUuid) (xkb : κ)
    (events : List InputEvent) (handle : Nat) :
    (timed handle (EventTransformer.run platform { xkb := xkb } events)).map Prod.snd
      = (({} : IntervalTracker).readings ((timed handle
          (EventTransformer.run platform { xkb := xkb } events)).map Prod.fst)).map
            fromInterval := by
  rw [timed_times hu, ← show _ = IntervalTracker.readings {} _ from
    deviceIntervals_readings platform.dimensions {} (events.filter (mine handle)), timed_eq hu]
  simp only [List.map_flatMap, List.map_map]
  rfl

/-! ## the first entries of events -/

/-- the first entry of every event of a device that has entries: the time and the interval -/
def firsts (handle : Nat) (run : List (InputEvent × Data)) : List (Nat × List UInt8) :=
  (run.filter fun x => mine handle x.1).filterMap fun x =>
    x.2.entries.head?.map fun entry => (x.1.time, text "interval" entry)

def firstIntervals (dimensions : ScreenDimensions) (machine : Machine)
    (events : List InputEvent) : List (Nat × Option Int) :=
  (deviceIntervals dimensions machine events).filterMap fun x =>
    x.2.head?.map fun interval => (x.1.time, interval)

theorem firstIntervals_readings (dimensions : ScreenDimensions) (machine : Machine)
    (events : List InputEvent) :
    (firstIntervals dimensions machine events).map Prod.snd
      = machine.tracker.readings ((firstIntervals dimensions machine events).map Prod.fst) := by
  induction events generalizing machine with
  | nil => rfl
  | cons event events ih =>
    have ih := ih (machine.step dimensions event.data)
    unfold firstIntervals at ih ⊢
    rw [deviceIntervals_cons, List.filterMap_cons]
    cases ht : event.data.time with
    | none =>
      have hnone : event.data.intervals machine.tracker = [] := by
        rw [EventData.intervals, ht]
      rw [hnone]
      rw [Machine.step_silent dimensions ht] at ih ⊢
      exact ih
    | some time =>
      have hfirst : (event.data.intervals machine.tracker).head?
          = some (machine.tracker.interval event.time).1 := by
        rw [EventData.intervals, InputEvent.time, ht]
        rfl
      have htracker := Machine.step_tracker dimensions ht machine
      have htime : event.time = time.toNat := by rw [InputEvent.time, ht]; rfl
      rw [htracker, ← htime] at ih
      rw [hfirst]
      exact congrArg ((machine.tracker.interval event.time).1 :: ·) ih

theorem firsts_eq {platform : Platform κ} (hu : Function.Injective platform.randomUuid) (xkb : κ)
    (events : List InputEvent) (handle : Nat) :
    firsts handle (EventTransformer.run platform { xkb := xkb } events)
      = (firstIntervals platform.dimensions {} (events.filter (mine handle))).map fun x =>
          (x.1, fromInterval x.2) := by
  have hmachine : _ = deviceIntervals platform.dimensions {} (events.filter (mine handle)) :=
    EventTransformer.outputs_machine hu (fun record => record.shared.interval_)
      (fun event m => event.data.intervals m.tracker) records_intervals
      (EventTransformer.sound_new platform xkb) handle events
  unfold firsts firstIntervals
  rw [← hmachine, EventTransformer.run_eq, List.filter_map,
    List.filterMap_map, List.filterMap_map, List.map_filterMap]
  refine List.filterMap_congr fun x _ => ?_
  show (x.2.map Record.entry).head?.map _ = ((x.2.map _).head?.map _).map _
  rw [List.head?_map, List.head?_map]
  cases x.2.head? with
  | none => rfl
  | some record => exact congrArg (fun t => some (x.1.time, t)) (interval_text record)

/-- **Microseconds**: of two consecutive events of a device with entries, the first entry of the
later one has the time between them. -/
theorem firsts_interval {platform : Platform κ} (hu : Function.Injective platform.randomUuid)
    (xkb : κ) (events : List InputEvent) (handle : Nat) {before after : List (Nat × List UInt8)}
    {first second : Nat × List UInt8}
    (h : firsts handle (EventTransformer.run platform { xkb := xkb } events)
      = before ++ first :: second :: after)
    (hle : first.1 ≤ second.1) (hspan : second.1 < first.1 + 0x8000000000000000) :
    second.2 = decimal ((second.1 : Int) - first.1) := by
  have htexts : (firsts handle (EventTransformer.run platform { xkb := xkb } events)).map Prod.snd
      = (({} : IntervalTracker).readings ((firsts handle
          (EventTransformer.run platform { xkb := xkb } events)).map Prod.fst)).map
            fromInterval := by
    rw [firsts_eq hu, List.map_map, List.map_map]
    show (List.map (fromInterval ∘ Prod.snd) _) = List.map _ (IntervalTracker.readings _
      (List.map Prod.fst _))
    rw [← List.map_map, firstIntervals_readings]
  rw [IntervalTracker.readings_neighbours fromInterval htexts h,
    IntervalTracker.interval_increase hle hspan]
  rfl

/-! ## the law -/

/-- the first interval is empty, the others are not negative, and up to any entry they add up to the
time since the first one -/
def Telescopes : List (Nat × List UInt8) → Prop
  | [] => True
  | first :: rest => first.2 = [] ∧ ∃ intervals : List Int,
      rest.map Prod.snd = intervals.map decimal ∧ (∀ interval ∈ intervals, 0 ≤ interval) ∧
        ∀ n entry, (first :: rest)[n]? = some entry →
          (intervals.take n).sum = (entry.1 : Int) - first.1

theorem differences_nonneg {first : Nat} {times : List Nat}
    (h : IntervalTracker.Stretch (first :: times)) :
    ∀ d ∈ Telescope.differences (first : Int) (times.map Nat.cast), 0 ≤ d := by
  induction times generalizing first with
  | nil => intro d hd; cases hd
  | cons time times ih =>
    obtain ⟨hfirst, hrest⟩ := List.pairwise_cons.mp h
    intro d hd
    rcases List.mem_cons.mp hd with rfl | hd
    · have := (hfirst time List.mem_cons_self).1
      omega
    · exact ih hrest d hd

/-- a stretch of entries, of which the first one reads nothing, telescopes -/
theorem telescopes_of_stretch {tracker : IntervalTracker} {stretch : List (Nat × List UInt8)}
    (htexts : stretch.map Prod.snd
      = (tracker.readings (stretch.map Prod.fst)).map fromInterval)
    (hstart : ∀ first ∈ stretch.head?, (tracker.interval first.1).1 = none)
    (hsorted : IntervalTracker.Stretch (stretch.map Prod.fst)) : Telescopes stretch := by
  cases stretch with
  | nil => trivial
  | cons first rest =>
    have hhead := hstart first rfl
    have htail : rest.map Prod.snd
        = ((⟨some first.1⟩ : IntervalTracker).readings (rest.map Prod.fst)).map fromInterval :=
      (List.cons.inj htexts).2
    have hfirst : first.2 = fromInterval (tracker.interval first.1).1 := (List.cons.inj htexts).1
    rw [IntervalTracker.readings_telescope hsorted, List.map_map] at htail
    refine ⟨?_, _, htail, differences_nonneg hsorted, ?_⟩
    · rw [hfirst, hhead]
      rfl
    · intro n entry hn
      refine Telescope.sum_take_differences ?_
      have hmap := congrArg (Option.map fun entry : Nat × List UInt8 => (entry.1 : Int)) hn
      rw [← List.getElem?_map] at hmap
      rw [List.map_map]
      exact hmap

/-- **The law of intervals**: when the times of a device's events do not decrease, its first entry
has no interval and the others add up to the time that has passed since; an event with two entries
counts once, and one without entries not at all.  In general this holds of every stretch of entries
whose times do not decrease, if it begins with the first entry or at a decrease. -/
theorem run_intervals (platform : Platform κ) (hu : Function.Injective platform.randomUuid)
    (xkb : κ) (events : List InputEvent) (handle : Nat) :
    (IntervalTracker.Stretch (eventTimes (events.filter (mine handle))) →
      Telescopes (timed handle (EventTransformer.run platform { xkb := xkb } events))) ∧
    ∀ before stretch after,
      timed handle (EventTransformer.run platform { xkb := xkb } events)
        = before ++ stretch ++ after →
      (∀ last ∈ before.getLast?, ∀ first ∈ stretch.head?, first.1 < last.1) →
      IntervalTracker.Stretch (stretch.map Prod.fst) → Telescopes stretch := by
  have htexts := timed_texts hu xkb events handle
  have hgeneral : ∀ before stretch after,
      timed handle (EventTransformer.run platform { xkb := xkb } events)
        = before ++ stretch ++ after →
      (∀ last ∈ before.getLast?, ∀ first ∈ stretch.head?, first.1 < last.1) →
      IntervalTracker.Stretch (stretch.map Prod.fst) → Telescopes stretch := by
    intro before stretch after hsplit hstart hsorted
    rw [hsplit] at htexts
    simp only [List.map_append, IntervalTracker.readings_append] at htexts
    -- the texts of the stretch are the readings that follow those before it
    have hleft := (List.append_inj htexts (by simp [IntervalTracker.length_readings])).1
    have hmiddle := (List.append_inj hleft (by simp [IntervalTracker.length_readings])).2
    refine telescopes_of_stretch hmiddle ?_ hsorted
    intro first hfirst
    cases hlast : before.getLast? with
    | none =>
      rw [List.getLast?_map, hlast]
      exact IntervalTracker.interval_new _
    | some last =>
      rw [List.getLast?_map, hlast]
      exact IntervalTracker.interval_decrease (hstart last hlast first hfirst)
  refine ⟨fun hsorted => hgeneral [] _ [] (by simp) (fun last h => (by cases h)) ?_, hgeneral⟩
  rw [timed_times hu]
  exact stretch_entryTimes hsorted _

theorem sampleTouch_telescopes :
    timed 1 (EventTransformer.run samplePlatform { xkb := false } sampleTouch)
        = [(100, []), (100, bytes "0"), (150, bytes "50"), (170, bytes "20"), (170, bytes "0")] ∧
      Telescopes (timed 1 (EventTransformer.run samplePlatform { xkb := false } sampleTouch)) :=
  ⟨by decide +kernel, (run_intervals samplePlatform sampleUuid_injective false sampleTouch 1).1
    (by decide)⟩

end Evget.LibInput
