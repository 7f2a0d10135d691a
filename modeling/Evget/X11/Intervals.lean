import Evget.LibInput.Intervals
import Evget.X11.Handlers

/-!
# Intervals of X11 events

The times of X11 events are milliseconds, and they are read by the tracker as if they were
microseconds, which the times of libinput events are.

* `Reads`                   what an event does to the trackers, and the interval of its first entry;
* `capture_firsts`          in every run the intervals of a device are the readings of one tracker;
* `firsts_milliseconds_iff` when an interval is right, while those of libinput always are;
* `sampleKeys_short`        half a second that is recorded as half a millisecond.
-/

namespace Evget.X11
open SQLite
open LibInput (text)

variable {ω : Type}

/-! ## one reading -/

def trackerOf (deviceId : Int) (times : Dict Int IntervalTracker) : IntervalTracker :=
  (times.lookup deviceId).getD {}

theorem getTime_fst (sourceId : Int) (time : Nat) (times : Dict Int IntervalTracker) :
    (EventTransformer.getTime sourceId time times).1
      = ((trackerOf sourceId times).interval time).1 := by
  unfold EventTransformer.getTime trackerOf
  dsimp only
  rw [Dict.subscript_fst]

theorem getTime_snd (sourceId : Int) (time : Nat) (times : Dict Int IntervalTracker)
    (deviceId : Int) :
    trackerOf deviceId (EventTransformer.getTime sourceId time times).2
      = if deviceId = sourceId then ⟨some time⟩ else trackerOf deviceId times := by
  unfold EventTransformer.getTime trackerOf
  dsimp only
  by_cases h : deviceId = sourceId
  · rw [if_pos h, h, AList.lookup_insert, IntervalTracker.interval_snd]
    rfl
  · rw [if_neg h, AList.lookup_insert_ne h, Dict.subscript_other h]

/-- the first of the entries has the interval of the device at the time, which is the last one of
the device from then on, unless there are no entries -/
structure Reads (deviceId : Int) (time : Nat) (times : Dict Int IntervalTracker)
    (entries : List Entry) (times' : Dict Int IntervalTracker) : Prop where
  first : ∀ entry ∈ entries.head?,
    text "interval" entry = fromInterval ((trackerOf deviceId times).interval time).1
  tracker : ∀ d, trackerOf d times'
    = if entries ≠ [] ∧ d = deviceId then ⟨some time⟩ else trackerOf d times

theorem Reads.none (deviceId : Int) (time : Nat) (times : Dict Int IntervalTracker) :
    Reads deviceId time times [] times := by
  refine ⟨fun entry h => (by cases h), fun d => ?_⟩
  rw [if_neg fun h => h.1 rfl]

theorem Reads.append {deviceId : Int} {time : Nat} {times times' times'' : Dict Int IntervalTracker}
    {entries more : List Entry} (h : Reads deviceId time times entries times')
    (h' : Reads deviceId time times' more times'') :
    Reads deviceId time times (entries ++ more) times'' := by
  cases entries with
  | nil =>
    refine ⟨fun entry he => ?_, fun d => ?_⟩
    · rw [h'.first entry he, h.tracker, if_neg fun hn : ([] : List Entry) ≠ [] ∧ _ => hn.1 rfl]
    · rw [h'.tracker, h.tracker d, if_neg fun hn : ([] : List Entry) ≠ [] ∧ _ => hn.1 rfl]
      rfl
  | cons entry entries =>
    refine ⟨fun e he => h.first e he, fun d => ?_⟩
    rw [h'.tracker, h.tracker]
    by_cases hd : d = deviceId
    · rw [if_pos (⟨List.cons_ne_nil _ _, hd⟩ : entry :: entries ≠ [] ∧ d = deviceId), ite_self,
        if_pos ⟨List.cons_ne_nil _ _, hd⟩]
    · rw [if_neg fun hn => hd hn.2, if_neg fun hn => hd hn.2, if_neg fun hn => hd hn.2]

theorem Emits.reads {deviceId : Int} {time : Nat} {s s' : Handling ω (Dict Int IntervalTracker)}
    (h : Emits (EventTransformer.getTime deviceId) time s s') :
    ∃ entries, s'.data.entries = s.data.entries ++ entries ∧
      Reads deviceId time s.times entries s'.times := by
  induction h with
  | refl => exact ⟨[], (List.append_nil _).symm, .none deviceId time s.times⟩
  | @tail middle last _ hstep ih =>
    obtain ⟨entries, hdata, hreads⟩ := ih
    obtain ⟨entry, hentry, htext⟩ := hstep.data
    refine ⟨entries ++ [entry], ?_, hreads.append ⟨?_, ?_⟩⟩
    · rw [hentry, ← List.append_assoc, ← hdata]
      rfl
    · intro e he
      obtain rfl : entry = e := Option.some.inj he
      rw [htext, getTime_fst]
    · intro d
      rw [hstep.times, getTime_snd]
      simp

namespace EventTransformer

/-! ## runs -/

theorem refreshListed_intervals (api : X11Api ω) (xi2 : Dict Int XIDeviceInfo)
    (infos : List XDeviceInfo) {self self' : EventTransformer} {world world' : ω}
    (h : refreshListed api xi2 infos self world = .ok (self', world')) :
    self'.deviceIntervals = self.deviceIntervals := by
  induction infos generalizing self world with
  | nil =>
    cases h
    rfl
  | cons info infos ih =>
    obtain ⟨⟨next, world''⟩, hdevice, h⟩ := bind_eq_ok h
    refine (ih h).trans ?_
    unfold refreshDevice at hdevice
    split at hdevice
    · cases hdevice
    · obtain ⟨xi2Device, -, hdevice⟩ := bind_eq_ok hdevice
      split at hdevice
      · dsimp only at hdevice
        split at hdevice
        · cases hdevice
        · cases hdevice
          rfl
      · cases hdevice
        rfl

/-- an event reads once -/
theorem transformEvent_reads {api : X11Api ω} {event : InputEvent} {raw : XIRawEvent}
    {self self' : EventTransformer} {world world' : ω} {data : Data}
    (hraw : event.cookie = some raw)
    (h : transformEvent api event self world = .ok (data, self', world')) :
    Reads raw.sourceid raw.time self.deviceIntervals data.entries self'.deviceIntervals := by
  unfold transformEvent at h
  rw [hraw] at h
  dsimp only at h
  split at h
  · obtain ⟨⟨refreshed, world''⟩, hrefresh, h⟩ := bind_eq_ok h
    cases h
    have hsame : refreshed.deviceIntervals = self.deviceIntervals :=
      refreshListed_intervals api _ _ hrefresh
    rw [hsame]
    exact .none ..
  · obtain ⟨⟨pointerKey, last⟩, hswitch, h⟩ := bind_eq_ok h
    cases h
    obtain ⟨-, hemits⟩ := switchOnEvent_emits api raw event.timestamp hswitch
    obtain ⟨entries, hentries, hreads⟩ := hemits.reads
    rw [show last.data.entries = entries from hentries]
    exact hreads

theorem transformEvent_none {api : X11Api ω} {event : InputEvent} {self self' : EventTransformer}
    {world world' : ω} {data : Data} (hraw : event.cookie = none)
    (h : transformEvent api event self world = .ok (data, self', world')) :
    self'.deviceIntervals = self.deviceIntervals := by
  unfold transformEvent at h
  rw [hraw] at h
  cases h
  rfl

/-! ## the intervals of a run -/

/-- the first entry of every event of a device that has entries: the time and the interval -/
def firsts (deviceId : Int) (steps : List Step) : List (Nat × List UInt8) :=
  (steps.filter fun s => s.event.sourceid = deviceId).filterMap fun s =>
    s.data.entries.head?.map fun entry => (s.event.time, text "interval" entry)

theorem firsts_append (deviceId : Int) (steps more : List Step) :
    firsts deviceId (steps ++ more) = firsts deviceId steps ++ firsts deviceId more := by
  unfold firsts
  rw [List.filter_append, List.filterMap_append]

theorem firsts_step {deviceId : Int} {s : Step} {times times' : Dict Int IntervalTracker}
    (h : Reads s.event.sourceid s.event.time times s.data.entries times') :
    (firsts deviceId [s] = [] ∧ trackerOf deviceId times' = trackerOf deviceId times) ∨
      (firsts deviceId [s] = [(s.event.time,
          fromInterval ((trackerOf deviceId times).interval s.event.time).1)] ∧
        trackerOf deviceId times' = ⟨some s.event.time⟩) := by
  unfold firsts
  by_cases hd : s.event.sourceid = deviceId
  · have hself : [s].filter (fun s => s.event.sourceid = deviceId) = [s] := by simp [hd]
    rw [hself]
    cases hentries : s.data.entries with
    | nil =>
      refine .inl ⟨by simp [hentries], ?_⟩
      rw [h.tracker, if_neg fun hn => hn.1 hentries]
    | cons entry entries =>
      refine .inr ⟨?_, ?_⟩
      · have hfirst := h.first entry (by rw [hentries]; rfl)
        rw [hd] at hfirst
        simp [hentries, hfirst]
      · rw [h.tracker, if_pos ⟨by rw [hentries]; exact List.cons_ne_nil _ _, hd.symm⟩]
  · have hother : [s].filter (fun s => s.event.sourceid = deviceId) = [] := by simp [hd]
    rw [hother]
    refine .inl ⟨rfl, ?_⟩
    rw [h.tracker, if_neg fun hn => hd hn.2.symm]

/-- the intervals of a device in a run are the readings of its tracker -/
theorem run_firsts (api : X11Api ω) (events : List InputEvent) (self : EventTransformer)
    (world : ω) (deviceId : Int) :
    (firsts deviceId (run api events self world)).map Prod.snd
      = ((trackerOf deviceId self.deviceIntervals).readings
          ((firsts deviceId (run api events self world)).map Prod.fst)).map fromInterval := by
  induction events generalizing self world with
  | nil => rfl
  | cons event events ih =>
    unfold run
    split
    · rfl
    · rename_i data next world' hnext
      unfold step
      cases hraw : event.cookie with
      | none =>
        rw [← transformEvent_none hraw hnext]
        exact ih next world'
      | some raw =>
        have hreads := transformEvent_reads hraw hnext
        dsimp only
        rw [firsts_append]
        rcases firsts_step (s := ⟨raw, self.xEventSwitch, data⟩) hreads with ⟨he, ht⟩ | ⟨he, ht⟩
        · rw [he, ← ht]
          exact ih next world'
        · rw [he]
          have ih := ih next world'
          rw [ht] at ih
          exact congrArg (fromInterval ((trackerOf deviceId self.deviceIntervals).interval
            raw.time).1 :: ·) ih

theorem capture_firsts (api : X11Api ω) (touch : Bool) (world : ω) (events : List InputEvent)
    (deviceId : Int) :
    (firsts deviceId (capture api touch world events)).map Prod.snd
      = (({} : IntervalTracker).readings
          ((firsts deviceId (capture api touch world events)).map Prod.fst)).map fromInterval := by
  unfold capture
  split
  · rfl
  · rename_i self world' hnew
    have hsame : self.deviceIntervals = ∅ := refreshListed_intervals api _ _ hnew
    have hrun := run_firsts api events self world' deviceId
    rw [hsame] at hrun
    exact hrun

theorem bmod_le_self {d : Int} (hd : 0 ≤ d) (m : Nat) : Int.bmod d m ≤ d := by
  have hquotient : 0 ≤ (m : Int) * (d / m) :=
    Int.mul_nonneg (Int.natCast_nonneg m) (Int.ediv_nonneg hd (Int.natCast_nonneg m))
  have hsplit := Int.mul_ediv_add_emod d m
  rw [Int.bmod_def]
  split <;> omega

/-- what is read is the time between two events, and not a thousand times as much -/
theorem interval_milliseconds {first second : Nat} (h : first ≤ second) :
    fromInterval ((⟨some first⟩ : IntervalTracker).interval second).1
        = decimal (1000 * ((second : Int) - first)) ↔ first = second := by
  unfold IntervalTracker.interval
  dsimp only
  rw [if_neg (Nat.not_lt.mpr h), fromInterval_some]
  constructor
  · intro heq
    have hbmod : Int.bmod ((second : Int) - first) 0x10000000000000000
        = 1000 * ((second : Int) - first) := decimal_injective heq
    have hle := bmod_le_self (show 0 ≤ (second : Int) - first by omega) 0x10000000000000000
    rw [hbmod] at hle
    omega
  · rintro rfl
    simp

/-- **Milliseconds for microseconds**: of two consecutive events of a device with entries, the first
entry of the later one has the microseconds between them exactly when there are none; those of the
libinput backend always have them. -/
theorem firsts_milliseconds_iff {κ : Type} (platform : LibInput.Platform κ)
    (hu : Function.Injective platform.randomUuid) :
    (∀ {ω : Type} (api : X11Api ω) (touch : Bool) (world : ω) (events : List InputEvent)
      (deviceId : Int) (before after : List (Nat × List UInt8)) (first second : Nat × List UInt8),
      firsts deviceId (capture api touch world events) = before ++ first :: second :: after →
      first.1 ≤ second.1 →
        (second.2 = decimal (1000 * ((second.1 : Int) - first.1)) ↔ first.1 = second.1)) ∧
    ∀ (xkb : κ) (events : List LibInput.InputEvent) (handle : Nat)
      (before after : List (Nat × List UInt8)) (first second : Nat × List UInt8),
      LibInput.firsts handle (LibInput.EventTransformer.run platform { xkb := xkb } events)
        = before ++ first :: second :: after →
      first.1 ≤ second.1 → second.1 < first.1 + 0x8000000000000000 →
        second.2 = decimal ((second.1 : Int) - first.1) := by
  constructor
  · intro ω api touch world events deviceId before after first second hsplit hle
    rw [IntervalTracker.readings_neighbours fromInterval
      (capture_firsts api touch world events deviceId) hsplit]
    exact interval_milliseconds hle
  · intro xkb events handle before after first second hsplit hle hspan
    exact LibInput.firsts_interval hu xkb events handle hsplit hle hspan

/-! ### a key that is held for half a second -/

def keyAt (evtype : Int) (time : Nat) : InputEvent :=
  ⟨0, some ⟨evtype, 3, 38, 0, time, ⟨0, [], []⟩⟩⟩

def sampleKeys : List Step :=
  capture keyboardApi true () [keyAt xiRawKeyPress 1000, keyAt xiRawKeyRelease 1500]

theorem sampleKeys_firsts : firsts 3 sampleKeys = [(1000, []), (1500, bytes "500")] := by
  decide +kernel

theorem sampleTouch_firsts : LibInput.firsts 1 (LibInput.EventTransformer.run
    LibInput.samplePlatform { xkb := false } LibInput.sampleTouch)
      = [(100, []), (150, bytes "50"), (170, bytes "20")] := by
  decide +kernel

/-- the interval of the key is not right, and those of a touch are -/
theorem sampleKeys_interval :
    firsts 3 sampleKeys = [(1000, []), (1500, bytes "500")] ∧
      ¬ bytes "500" = decimal (1000 * ((1500 : Int) - 1000)) ∧
      bytes "50" = decimal ((150 : Int) - 100) := by
  have h := firsts_milliseconds_iff LibInput.samplePlatform LibInput.sampleUuid_injective
  refine ⟨sampleKeys_firsts, ?_, ?_⟩
  · exact (h.1 keyboardApi true () _ 3 [] [] _ _ sampleKeys_firsts (by decide)).not.mpr (by decide)
  · exact h.2 false LibInput.sampleTouch 1 [] _ _ _ sampleTouch_firsts (by decide) (by decide)

theorem sampleKeys_short : ∃ before after first second,
    firsts 3 sampleKeys = before ++ first :: second :: after ∧
      first.1 = 1000 ∧ second.1 = 1500 ∧ second.2 = bytes "500" ∧
      second.2 ≠ decimal (1000 * ((second.1 : Int) - first.1)) :=
  ⟨[], [], _, _, sampleKeys_firsts, rfl, rfl, rfl, by decide⟩

end EventTransformer
end Evget.X11
