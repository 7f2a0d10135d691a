import Evget.Lib.Observed
import Evget.X11.Backend

/-!
# The answers that are recorded

The switches ask X for the pointer and for the window whenever they emit an entry.  The entries of a
run show what X has answered, one entry after the other.

* `PointerKnown`           both switches ask for the same pointer, one that X has listed;
* `transformEvent_observed`   the entries of an event show answers at the time of the event;
* `Display.Request`        what the input handler and the transformer ask for;
* `capture_answered`       **whatever a store receives** shows answers of X in the run.
-/

set_option linter.unusedSectionVars false

namespace Evget.X11
open SQLite Calls Steps
open Relation (ReflTransGen)

variable {ω τ : Type}

/-! ## the pointer -/

/-- the id that is asked for is the same in both switches, and 0 until a pointer is known of which
`Pointer` tells -/
structure PointerKnown (Pointer : Int → Prop) (s : EventTransformer) : Prop where
  same : s.pointerKey.pointerId = s.xEventSwitch.pointerId
  asked : s.xEventSwitch.pointerId = 0 ∨ Pointer s.xEventSwitch.pointerId
  known : ∀ id ∈ s.pointerId, Pointer id

namespace PointerKnown
variable {Pointer Pointer' : Int → Prop} {api : X11Api ω} {infos : List XIDeviceInfo}
  {self self' : EventTransformer} {world world' : ω}

theorem new (touch : Bool) : PointerKnown Pointer { touch := touch } := ⟨rfl, .inl rfl, nofun⟩

theorem mono (h : PointerKnown Pointer self) (hp : ∀ id, Pointer id → Pointer' id) :
    PointerKnown Pointer' self :=
  ⟨h.same, h.asked.imp_right (hp _), fun id hid => hp id (h.known id hid)⟩

/-- the first switch is told of the pointer exactly when the second one is -/
theorem refreshDevice {device : XDeviceInfo} (h : PointerKnown Pointer self)
    (hdevice : device.use = .isXPointer → Pointer (device.id : Int))
    (hrefresh : EventTransformer.refreshDevice api (EventTransformer.xi2Devices infos) device self
      world = .ok (self', world')) : PointerKnown Pointer self' := by
  obtain ⟨-, hpointer, hx, hkey, -⟩ := EventTransformer.refreshDevice_refreshes hrefresh
  have hknown : ∀ id ∈ self'.pointerId, Pointer id := by
    rw [hpointer]
    split_ifs with huse
    · rintro id hid
      exact Option.some.inj hid ▸ hdevice huse
    · exact h.known
  refine ⟨?_, ?_, hknown⟩
  · rw [hkey, hx, h.same]
  · rw [hx]
    split_ifs with htold
    · cases hid : self'.pointerId with
      | none => exact h.asked
      | some id => exact .inr (hknown id hid)
    · exact h.asked

theorem refreshListed {devices : List XDeviceInfo} (h : PointerKnown Pointer self)
    (hdevices : ∀ device ∈ devices, device.use = .isXPointer → Pointer (device.id : Int))
    (hrefresh : EventTransformer.refreshListed api (EventTransformer.xi2Devices infos) devices self
      world = .ok (self', world')) : PointerKnown Pointer self' := by
  induction devices generalizing self world with
  | nil =>
    cases hrefresh
    exact h
  | cons device devices ih =>
    obtain ⟨⟨next, between⟩, hdevice, hrest⟩ := bind_eq_ok hrefresh
    have hnext := h.refreshDevice (hdevices device (List.mem_cons_self ..)) hdevice
    exact ih hnext (fun d hd => hdevices d (List.mem_cons_of_mem _ hd)) hrest

theorem refreshDevices (h : PointerKnown Pointer self)
    (hdevices : ∀ device ∈ (api.listInputDevices world).1, device.use = .isXPointer →
      Pointer (device.id : Int))
    (hrefresh : EventTransformer.refreshDevices api self world = .ok (self', world')) :
    PointerKnown Pointer self' := h.refreshListed hdevices hrefresh

end PointerKnown

/-! ## the entries of an event -/

/-- what has been handled are entries that show answers about this pointer -/
theorem Handled.observed {api : X11Api ω} {getTime : Nat → τ → Option Int × τ} {event : XIRawEvent}
    {pointerId : Int} {s s' : Handling ω τ} (h : Handled api getTime event pointerId s s')
    (hid : s.xEventSwitch.pointerId = pointerId) :
    s'.xEventSwitch.pointerId = pointerId ∧ ∃ entries,
      s'.data.entries = s.data.entries ++ entries ∧
        Observed (Request api) (Answered api pointerId) s.world entries s'.world := by
  induction h with
  | refl => exact ⟨hid, [], (List.append_nil _).symm, .nil .refl⟩
  | tail _ hstep ih =>
    obtain ⟨hsame, entries, hentries, hobserved⟩ := ih
    obtain ⟨entry, hadds⟩ := hstep.adds
    obtain ⟨asked, hasked, hanswered⟩ := hadds.answered
    have hpointer : asked = pointerId := hasked.elim (fun e => e.trans hsame) id
    refine ⟨hadds.pointerId.trans hsame, entries ++ [entry], ?_,
      hobserved.append (.single (hpointer ▸ hanswered))⟩
    rw [hadds.data, ← List.append_assoc, ← hentries]
    rfl

namespace EventTransformer
variable {api : X11Api ω} {event : InputEvent} {self self' : EventTransformer} {world world' : ω}
  {data : Data}

/-- **The entries of an event** show answers while it is handled, all about the same pointer. -/
theorem transformEvent_observed (hsame : self.pointerKey.pointerId = self.xEventSwitch.pointerId)
    (h : transformEvent api event self world = .ok (data, self', world')) :
    Observed (Request api) (Answered api self.xEventSwitch.pointerId) world data.entries
      world' := by
  unfold transformEvent at h
  cases hraw : event.cookie with
  | none =>
    rw [hraw] at h
    cases h
    exact .nil .refl
  | some raw =>
    rw [hraw] at h
    dsimp only at h
    split at h
    · obtain ⟨⟨refreshed, last⟩, hrefresh, h⟩ := bind_eq_ok h
      cases h
      exact .nil (.head (.listInputDevices world) (refreshDevices_later hrefresh))
    · obtain ⟨⟨pointerKey, last⟩, hswitch, h⟩ := bind_eq_ok h
      cases h
      have hhandled := (switchOnEvent_handled api raw event.timestamp hswitch).2
      obtain ⟨-, entries, hentries, hobserved⟩ := hhandled.observed hsame.symm
      rw [hsame] at hobserved
      exact hentries ▸ hobserved

/-- an event can teach the pointers of one listing -/
theorem transformEvent_pointer {Pointer : Int → Prop} (hself : PointerKnown Pointer self)
    (hdevices : Later api (api.listInputDevices world).2 world' →
      ∀ device ∈ (api.listInputDevices world).1, device.use = .isXPointer →
        Pointer (device.id : Int))
    (h : transformEvent api event self world = .ok (data, self', world')) :
    PointerKnown Pointer self' := by
  unfold transformEvent at h
  cases hraw : event.cookie with
  | none =>
    rw [hraw] at h
    cases h
    exact hself
  | some raw =>
    rw [hraw] at h
    dsimp only at h
    split at h
    · obtain ⟨⟨refreshed, last⟩, hrefresh, h⟩ := bind_eq_ok h
      cases h
      exact hself.refreshDevices (hdevices (refreshDevices_later hrefresh)) hrefresh
    · obtain ⟨⟨pointerKey, last⟩, hswitch, h⟩ := bind_eq_ok h
      cases h
      obtain ⟨hid, hhandled⟩ := switchOnEvent_handled api raw event.timestamp hswitch
      have hlast := (hhandled.observed hself.same.symm).1
      refine ⟨hid.trans hlast.symm, ?_, hself.known⟩
      show last.xEventSwitch.pointerId = 0 ∨ _
      rw [hlast, hself.same]
      exact hself.asked

end EventTransformer

/-! ## runs -/

inductive Display.Request (display : Display ω) : ω → ω → Prop
  | api {world world' : ω} (h : X11.Request display.api world world') :
    Display.Request display world world'
  | queryVersion (major minor : Int) (world : ω) :
    Display.Request display world (display.queryVersion major minor world).2
  | selectEvents (mask : XIEventMask) (world : ω) :
    Display.Request display world (display.selectEvents mask world)
  | nextEvent {event : XEvent} {world world' : ω}
      (h : display.nextEvent world = some (event, world')) :
    Display.Request display world world'

abbrev Display.Later (display : Display ω) : ω → ω → Prop := ReflTransGen display.Request

theorem Later.display {display : Display ω} {world world' : ω}
    (h : X11.Later display.api world world') : display.Later world world' :=
  ReflTransGen.mono (fun _ _ => .api) _ _ h

/-- the id of a pointer that X has listed between the two moments -/
def PointerListed (display : Display ω) (start world : ω) (id : Int) : Prop :=
  ∃ asked, display.Later start asked ∧
    display.Later (display.api.listInputDevices asked).2 world ∧
    ∃ device ∈ (display.api.listInputDevices asked).1, device.use = .isXPointer ∧ id = device.id

theorem PointerListed.later {display : Display ω} {start world world' : ω} {id : Int}
    (h : PointerListed display start world id) (hlater : display.Later world world') :
    PointerListed display start world' id := by
  obtain ⟨asked, hasked, hlisted, hdevice⟩ := h
  exact ⟨asked, hasked, hlisted.trans hlater, hdevice⟩

/-- the entry shows answers about the pointer, which is the device 0 as long as X has listed none,
and about the window -/
def Recorded (display : Display ω) (start world : ω) (entry : Entry) (world' : ω) : Prop :=
  ∃ pointerId, (pointerId = 0 ∨ PointerListed display start world pointerId) ∧
    Answered display.api pointerId world entry world'

theorem Recorded.later {display : Display ω} {start world world' : ω} {entry : Entry}
    (h : Recorded display start world entry world') : display.Later world world' := by
  obtain ⟨pointerId, -, hanswered⟩ := h
  exact hanswered.later.display

theorem InputHandlerBuilder.build_later (display : Display ω) (world : ω) :
    display.Later world (build display world).2 := by
  have hversion : display.Request world
      (display.queryVersion kVersionMajor kVersionMinor world).2 :=
    .queryVersion kVersionMajor kVersionMinor world
  unfold build announceVersion
  rcases h : display.queryVersion kVersionMajor kVersionMinor world
    with ⟨⟨status, major, minor⟩, next⟩
  rw [h] at hversion
  by_cases hstatus : status = success
  · simp only [if_pos hstatus]
    exact .head hversion (.single (.selectEvents _ next))
  · simp only [if_neg hstatus]
    exact .single hversion

/-- a backend that was created knows the pointer of its listing -/
theorem Backend.create_pointer {display : Display ω} {displayName : Option String} {world : ω}
    {source : Source ω} (h : Backend.create display displayName world = .ok (.ok source)) :
    display.Later world source.world ∧
      PointerKnown (PointerListed display world source.world) source.transformer := by
  unfold Backend.create at h
  by_cases hopens : display.opens displayName
  · rw [if_neg (by simp [hopens])] at h
    dsimp only [EventTransformer.build] at h
    cases hnew : EventTransformer.new display.api true world with
    | error e =>
      simp [hnew] at h
    | ok built =>
      obtain ⟨transformer, world'⟩ := built
      have hlater := (EventTransformer.refreshDevices_later hnew).display
      have hbuild := InputHandlerBuilder.build_later display world'
      simp only [if_true, hnew] at h
      cases hresult : (InputHandlerBuilder.build display world').1 with
      | error e =>
        rw [hresult] at h
        cases h
      | ok done =>
        rw [hresult] at h
        cases h
        refine ⟨.head (.api (.listInputDevices world)) (hlater.trans hbuild), ?_⟩
        refine (PointerKnown.new true).refreshDevices (fun device hdevice huse => ?_) hnew
        exact ⟨world, .refl, hlater.trans hbuild, device, hdevice, huse, rfl⟩
  · rw [if_pos (by simp [hopens])] at h
    cases displayName with
    | none => cases h
    | some name => cases h

section
variable {display : Display ω} {clock : Nat → Int} {found : Nat → XIRawEvent}

/-- **What the transformer gives** shows answers of X, in the order of the source. -/
theorem transformed_observed {start : ω} (fuel : Nat) {self : Source ω}
    (hstart : display.Later start self.world)
    (hself : PointerKnown (PointerListed display start self.world) self.transformer) :
    ∃ last, Observed display.Request (Recorded display start) self.world
      ((Capture.transformed (capture display clock found) fuel false self).flatMap Data.entries)
      last := by
  induction fuel generalizing self with
  | zero => exact ⟨self.world, .nil .refl⟩
  | succ fuel ih =>
    unfold Capture.transformed
    rw [if_neg Bool.false_ne_true]
    cases hnext : display.nextEvent self.world with
    | none =>
      rw [next_none hnext]
      exact ⟨self.world, .nil .refl⟩
    | some fetched =>
      obtain ⟨xEvent, world⟩ := fetched
      obtain ⟨event, hfetched⟩ := next_some clock found hnext
      rw [hfetched]
      dsimp only
      have hfetch : display.Later self.world world := .single (.nextEvent hnext)
      cases hevent : (capture display clock found).transformEvent event
          { self with world := world, fetched := self.fetched + 1 } with
      | error e => exact ⟨self.world, .nil .refl⟩
      | ok result =>
        obtain ⟨data, after⟩ := result
        obtain ⟨htransform, -⟩ := transformEvent_ok hevent
        dsimp only at htransform ⊢
        have hobserved : Observed display.Request (Recorded display start) world data.entries
            after.world := by
          refine (EventTransformer.transformEvent_observed hself.same htransform).mono
            (fun _ _ _ h => h.later) (fun _ _ => .api) fun a entry b hlater hanswered => ?_
          exact ⟨_, hself.asked.imp_right fun hlisted =>
            hlisted.later (hfetch.trans (Later.display hlater)), hanswered⟩
        have hworld : display.Later world after.world := hobserved.later fun _ _ _ h => h.later
        have hafter : PointerKnown (PointerListed display start after.world)
            after.transformer := by
          refine EventTransformer.transformEvent_pointer
            (hself.mono fun id hlisted => hlisted.later (hfetch.trans hworld)) ?_ htransform
          intro hlisting device hdevice huse
          exact ⟨world, hstart.trans hfetch, hlisting.display, device, hdevice, huse, rfl⟩
        obtain ⟨last, hrest⟩ := ih ((hstart.trans hfetch).trans hworld) hafter
        exact ⟨last, (hobserved.append hrest).before hfetch⟩

end

section
variable {S ι : Type} [DecidableEq S] [DecidableEq ι]
open Capture DatabaseManager

/-- what should be stored has been recorded since the creation -/
theorem expected_observed {display : Display ω} {displayName : Option String} {world : ω}
    {source : Source ω}
    (hcreate : Backend.create display displayName world = .ok (.ok source)) (clock : Nat → Int)
    (found : Nat → XIRawEvent) (allowed : Option (Finset DeviceType)) (fuel : Nat) :
    ∃ last, Observed display.Request (Recorded display world) world
      (expected (capture display clock found) allowed fuel source) last := by
  obtain ⟨hstart, hpointer⟩ := Backend.create_pointer hcreate
  obtain ⟨last, hobserved⟩ : ∃ last, Observed display.Request (Recorded display world) source.world
      ((transformed (capture display clock found) fuel false source).flatMap Data.entries) last :=
    transformed_observed fuel hstart hpointer
  have hexpected := hobserved.sublist (fun _ _ _ h => h.later)
    (expected_sublist (capture display clock found) allowed fuel source)
  exact ⟨last, hexpected.before hstart⟩

def keyPressed : XIRawEvent := ⟨xiRawKeyPress, 6, 38, 0, 0, ⟨0, [], []⟩⟩

def keyDisplay : Display Unit :=
  { mouseDisplay with
    api := EventTransformer.listingApi
      [EventTransformer.pointerDevice, EventTransformer.mouseDevice] EventTransformer.bothEnabled
    nextEvent := fun world => some (⟨genericEvent, some keyPressed⟩, world) }

end

end Evget.X11
