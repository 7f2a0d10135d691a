import Evget.LibInput.Isolation
import Mathlib.Algebra.Group.Prod
import Mathlib.Algebra.Ring.Rat

/-!
# Positions of a pointer and of touches

The positions of absolute motions are the differences to the position before.  Read as rational
numbers they add up: those of the absolute motions of a device, and those of every contact of a
touch, from its first event to its last.

* `Contacts`         a touch comes down, moves, and ends;
* `Follows`          positions that add up to where some points have gone;
* `follow`           what is recorded of one pointer, as a machine of its own;
* `run_positions`    **positions** of absolute motions and of contacts.
-/

namespace Evget.LibInput
open SQLite

variable {κ : Type}

/-! ## points -/

def EventData.point (dimensions : ScreenDimensions) : EventData → Option (Rat × Rat)
  | .pointerMotionAbsolute _ x y => some ((x dimensions.width).value, (y dimensions.height).value)
  | .touchDown _ _ x y => some ((x dimensions.width).value, (y dimensions.height).value)
  | .touchMotion _ _ x y => some ((x dimensions.width).value, (y dimensions.height).value)
  | _ => none

def InputEvent.point (dimensions : ScreenDimensions) (event : InputEvent) : Option (Rat × Rat) :=
  event.data.point dimensions

def EventData.isAbsolute : EventData → Bool
  | .pointerMotionAbsolute .. => true
  | _ => false

def EventData.isDown : EventData → Bool
  | .touchDown .. => true
  | _ => false

def EventData.isMotion : EventData → Bool
  | .touchMotion .. => true
  | _ => false

def EventData.isEnd : EventData → Bool
  | .touchUp .. | .touchCancel .. => true
  | _ => false

/-- the events of one touch are contacts, of which the last one may not have ended: with a finger on
the device it moves or ends, and without one it comes down -/
def Contacts : Bool → List EventData → Prop
  | _, [] => True
  | false, data :: rest => data.isDown = true ∧ Contacts true rest
  | true, data :: rest =>
    data.isMotion = true ∧ Contacts true rest ∨ data.isEnd = true ∧ Contacts false rest

def Record.movePosition : Record → Option (Option Rat × Option Rat)
  | .mouseMove builder => some (builder.positionX_.map Double.value,
      builder.positionY_.map Double.value)
  | _ => none

def positions (built : List (InputEvent × List Record)) : List (Option Rat × Option Rat) :=
  built.flatMap fun x => x.2.filterMap Record.movePosition

def points (dimensions : ScreenDimensions) (built : List (InputEvent × List Record)) :
    List (Rat × Rat) :=
  built.filterMap fun x => x.1.point dimensions

/-- the first position is none, and up to any point the others add up to the way from the first
point -/
def Follows (points : List (Rat × Rat)) (positions : List (Option Rat × Option Rat)) : Prop :=
  match points with
  | [] => positions = []
  | first :: rest => ∃ moves : List (Rat × Rat),
      positions = (none, none) :: moves.map (fun move => (some move.1, some move.2)) ∧
        moves.length = rest.length ∧
          ∀ i point, (first :: rest)[i]? = some point → (moves.take i).sum = point - first

/-! ## one pointer -/

def way : Option (Rat × Rat) → Option (Rat × Rat) → Option Rat × Option Rat
  | some p, some q => (some (q.1 - p.1), some (q.2 - p.2))
  | _, _ => (none, none)

def follow (dimensions : ScreenDimensions) (last : Option (Rat × Rat)) (event : InputEvent) :
    List (Option Rat × Option Rat) × Option (Rat × Rat) :=
  ([way last (event.point dimensions)], event.point dimensions)

def Last (x y : Option Double) : Option (Rat × Rat) → Prop
  | none => x = none ∧ y = none
  | some p => ∃ a b, x = some a ∧ y = some b ∧ (a.value, b.value) = p

theorem follow_differences (dimensions : ScreenDimensions) (last : Rat × Rat)
    (events : List InputEvent) (h : ∀ event ∈ events, event.point dimensions ≠ none) :
    (Mealy.outputs (follow dimensions) (some last) events).flatMap Prod.snd
      = (Telescope.differences last (events.filterMap
          (InputEvent.point dimensions))).map fun move => (some move.1, some move.2) := by
  induction events generalizing last with
  | nil => rfl
  | cons event events ih =>
    obtain ⟨point, hpoint⟩ := Option.ne_none_iff_exists'.mp (h event List.mem_cons_self)
    rw [Mealy.outputs_cons, List.flatMap_cons, List.filterMap_cons_some hpoint]
    unfold follow
    rw [hpoint]
    show (some (point.1 - last.1), some (point.2 - last.2)) :: List.flatMap Prod.snd
      (Mealy.outputs (follow dimensions) (some point) events) = _
    rw [ih point fun e he => h e (List.mem_cons_of_mem _ he)]
    rfl

theorem follow_follows (dimensions : ScreenDimensions) (events : List InputEvent)
    (h : ∀ event ∈ events, event.point dimensions ≠ none) :
    Follows (events.filterMap (InputEvent.point dimensions))
      ((Mealy.outputs (follow dimensions) none events).flatMap Prod.snd) := by
  cases events with
  | nil => rfl
  | cons event events =>
    obtain ⟨point, hpoint⟩ := Option.ne_none_iff_exists'.mp (h event List.mem_cons_self)
    rw [List.filterMap_cons_some hpoint]
    refine ⟨Telescope.differences point (events.filterMap
      (InputEvent.point dimensions)), ?_, Telescope.length_differences .., ?_⟩
    · rw [← follow_differences dimensions point events fun e he =>
        h e (List.mem_cons_of_mem _ he), Mealy.outputs_cons, List.flatMap_cons]
      unfold follow
      rw [hpoint]
      rfl
    · intro i p hp
      exact Telescope.sum_take_differences hp

/-! ## contacts -/

/-- after some events of a touch, what comes next is a contact or goes on with one -/
theorem Contacts.append {touching : Bool} {before rest : List EventData}
    (h : Contacts touching (before ++ rest)) :
    ∃ now, Contacts now rest ∧ (before = [] → now = touching) ∧
      ∀ data ∈ before.getLast?, now = false → data.isEnd = true := by
  induction before generalizing touching with
  | nil => exact ⟨touching, h, fun _ => rfl, fun data hd => by cases hd⟩
  | cons data before ih =>
    have key : ∃ next, (next = false → data.isEnd = true) ∧ Contacts next (before ++ rest) := by
      cases touching with
      | false => exact ⟨true, fun e => (by cases e), h.2⟩
      | true =>
        rcases h with ⟨-, h⟩ | ⟨hend, h⟩
        · exact ⟨true, fun e => (by cases e), h⟩
        · exact ⟨false, fun _ => hend, h⟩
    obtain ⟨next, hnext, h⟩ := key
    obtain ⟨now, hnow, hnil, hlast⟩ := ih h
    refine ⟨now, hnow, fun e => (by cases e), ?_⟩
    intro last hl e
    rw [List.getLast?_cons] at hl
    cases hb : before.getLast? with
    | none =>
      rw [hb] at hl
      cases hl
      exact hnext ((hnil (List.getLast?_eq_none_iff.mp hb)).symm.trans e)
    | some final =>
      rw [hb] at hl
      cases hl
      exact hlast final hb e

theorem point_of_end (dimensions : ScreenDimensions) {data : EventData} (h : data.isEnd = true) :
    data.point dimensions = none := by
  cases data <;> first | rfl | cases h

theorem point_of_down (dimensions : ScreenDimensions) {data : EventData}
    (h : data.isDown = true ∨ data.isMotion = true) : data.point dimensions ≠ none := by
  cases data <;> first | exact Option.some_ne_none _ | rcases h with h | h <;> cases h

theorem down_only {data : EventData} (h : data.isDown = true) :
    data.isMotion = false ∧ data.isEnd = false := by
  cases data <;> first | exact ⟨rfl, rfl⟩ | cases h

theorem follow_final (dimensions : ScreenDimensions) (events : List InputEvent) :
    Mealy.final (follow dimensions) none events
      = events.getLast?.bind (InputEvent.point dimensions) := by
  rcases List.eq_nil_or_concat events with rfl | ⟨events, event, rfl⟩
  · rfl
  · rw [List.concat_eq_append, Mealy.final_append, List.getLast?_append]
    rfl

theorem follow_contact (dimensions : ScreenDimensions) {before rest : List InputEvent}
    {down : InputEvent} (hdown : down.data.isDown = true)
    (h : Contacts false ((before ++ down :: rest).map InputEvent.data)) :
    Mealy.final (follow dimensions) none before = none := by
  rw [List.map_append, List.map_cons] at h
  obtain ⟨now, hnow, -, hlast⟩ := h.append
  have hfalse : now = false := by
    cases now with
    | false => rfl
    | true =>
      obtain ⟨hm, he⟩ := down_only hdown
      rcases hnow with ⟨h, -⟩ | ⟨h, -⟩
      · exact absurd h (by rw [hm]; decide)
      · exact absurd h (by rw [he]; decide)
  rw [follow_final]
  cases hb : before.getLast? with
  | none => rfl
  | some last =>
    refine point_of_end dimensions (hlast last.data ?_ hfalse)
    rw [List.getLast?_map, hb]
    rfl

/-! ## what the transformer records -/

def Platform.exact (platform : Platform κ) : Platform κ := { platform with minus := exactMinus }

theorem fields_position (platform : Platform κ) (ctx : EventContext) (state : κ)
    (interval : Option Int) :
    (fields platform ctx state interval {}).positionX_ = none ∧
      (fields platform ctx state interval {}).positionY_ = none := by
  unfold fields
  rw [setModifierValues_eq]
  exact ⟨rfl, rfl⟩

/-- the difference to a last point is the way from it -/
theorem setDifference_way (platform : Platform κ) {x y : Option Double} {last : Option (Rat × Rat)}
    (h : Last x y last) (a b : Double) (builder : MouseMove) (hx : builder.positionX_ = none)
    (hy : builder.positionY_ = none) :
    (Record.mouseMove (setDifference platform.exact x y a b builder)).movePosition
      = some (way last (some (a.value, b.value))) := by
  cases last with
  | none =>
    obtain ⟨rfl, rfl⟩ := h
    show some (builder.positionX_.map _, builder.positionY_.map _) = _
    rw [hx, hy]
    rfl
  | some p =>
    obtain ⟨u, v, rfl, rfl, rfl⟩ := h
    show some (some (exactMinus a u).value, some (exactMinus b v).value) = _
    unfold exactMinus
    rw [Double.value_ofRat, Double.value_ofRat]
    rfl

/-- the moves of some events follow one pointer, whose last point the device's machine keeps -/
theorem outputs_follow {platform : Platform κ} (hu : Function.Injective platform.randomUuid)
    {handle : Nat} (select : InputEvent → Bool) (x y : Machine → Option Double)
    (hselect : ∀ event, select event = true → mine handle event = true)
    (hsame : ∀ (ctx : EventContext) (state : κ) (event : InputEvent) (m : Machine)
      (last : Option (Rat × Rat)), select event = true → Last (x m) (y m) last →
      (m.records platform.exact ctx state event.data).filterMap Record.movePosition
          = [way last (event.point platform.dimensions)] ∧
        Last (x (m.step platform.dimensions event.data))
          (y (m.step platform.dimensions event.data)) (event.point platform.dimensions))
    (hother : ∀ (event : InputEvent) (m : Machine), mine handle event = true →
      select event = false → x (m.step platform.dimensions event.data) = x m ∧
        y (m.step platform.dimensions event.data) = y m)
    (hnew : x {} = none ∧ y {} = none) (xkb : κ) (events : List InputEvent) :
    ((Mealy.outputs (EventTransformer.records platform.exact) { xkb := xkb } events).filter
        fun out => select out.1).map (fun out => (out.1, out.2.filterMap Record.movePosition))
      = Mealy.outputs (follow platform.dimensions) none (events.filter select) := by
  refine (Mealy.outputs_project (fun (a : EventTransformer κ) last =>
    a.Sound platform.exact ∧ Last (x (a.machine handle)) (y (a.machine handle)) last)
    (List.filterMap Record.movePosition) id ?_ ?_
    (t := none) ⟨EventTransformer.sound_new platform.exact xkb, hnew⟩ events).trans (List.map_id _)
  · rintro a last event ⟨ha, hlast⟩ he
    obtain ⟨device, hd, rfl⟩ := mine_iff.mp (hselect event he)
    obtain ⟨uuid, hrecords, hb⟩ := EventTransformer.records_spec
      (show Function.Injective platform.exact.randomUuid from hu) ha hd
    obtain ⟨hposition, hnext⟩ := hsame (event.context device uuid) a.xkb event _ last he hlast
    refine ⟨?_, hb.sound, ?_⟩
    · rw [hrecords, hposition]
      rfl
    · rw [hb.machine]
      exact hnext
  · rintro a last event ⟨ha, hlast⟩ he
    have hsound : ((EventTransformer.records platform.exact a event).2).Sound platform.exact :=
      EventTransformer.records_sound (show Function.Injective platform.exact.randomUuid from hu) ha
        event
    refine ⟨hsound, ?_⟩
    cases hd : event.device with
    | none =>
      rw [EventTransformer.records_none platform.exact a hd]
      exact hlast
    | some device =>
      obtain ⟨uuid, -, hb⟩ := EventTransformer.records_spec
        (show Function.Injective platform.exact.randomUuid from hu) ha hd
      by_cases hh : device.handle = handle
      · obtain ⟨hx, hy⟩ := hother event (a.machine handle)
          (mine_iff.mpr ⟨device, hd, hh⟩) he
        rw [← hh, hb.machine, hh]
        show Last (x (Machine.step platform.dimensions _ _))
          (y (Machine.step platform.dimensions _ _)) last
        rw [hx, hy]
        exact hlast
      · rw [(hb.others handle (Ne.symm hh)).2]
        exact hlast

def absolute (handle : Nat) (event : InputEvent) : Bool :=
  mine handle event && event.data.isAbsolute

theorem absolute_same (platform : Platform κ) (ctx : EventContext) (state : κ) (event : InputEvent)
    (m : Machine) (last : Option (Rat × Rat)) (h : event.data.isAbsolute = true)
    (hlast : Last m.absoluteX m.absoluteY last) :
    (m.records platform.exact ctx state event.data).filterMap Record.movePosition
        = [way last (event.point platform.dimensions)] ∧
      Last (m.step platform.dimensions event.data).absoluteX
        (m.step platform.dimensions event.data).absoluteY (event.point platform.dimensions) := by
  unfold InputEvent.point
  cases hd : event.data with
  | pointerMotionAbsolute time a b =>
    obtain ⟨hx, hy⟩ := fields_position platform.exact ctx state
      (m.tracker.interval time.toNat).1
    exact ⟨congrArg (fun position => position.toList) (setDifference_way platform hlast
      (a platform.dimensions.width) (b platform.dimensions.height) { toBase := _ }
      hx hy), _, _, rfl, rfl, rfl⟩
  | _ => rw [hd] at h; cases h

theorem absolute_other (dimensions : ScreenDimensions) {data : EventData}
    (h : data.isAbsolute = false) (m : Machine) :
    (m.step dimensions data).absoluteX = m.absoluteX ∧
      (m.step dimensions data).absoluteY = m.absoluteY := by
  cases data with
  | pointerMotionAbsolute => cases h
  | tabletToolProximity time dx dy state => cases state <;> exact ⟨rfl, rfl⟩
  | _ => exact ⟨rfl, rfl⟩

theorem slot_same (platform : Platform κ) (ctx : EventContext) (state : κ) (event : InputEvent)
    (m : Machine) {last : Option (Rat × Rat)} {seatSlot : Int32}
    (h : event.data.seatSlot = some seatSlot)
    (hlast : Last (m.touchX seatSlot) (m.touchY seatSlot) last) :
    (m.records platform.exact ctx state event.data).filterMap Record.movePosition
        = [way last (event.point platform.dimensions)] ∧
      Last ((m.step platform.dimensions event.data).touchX seatSlot)
        ((m.step platform.dimensions event.data).touchY seatSlot)
        (event.point platform.dimensions) := by
  have hfields (time : UInt64) := fields_position platform.exact ctx state
    (m.tracker.interval time.toNat).1
  unfold InputEvent.point
  cases hd : event.data with
  | touchDown time slot a b | touchMotion time slot a b =>
    rw [hd] at h
    cases h
    refine ⟨congrArg (fun position => position.toList) (setDifference_way platform hlast
      (a platform.dimensions.width) (b platform.dimensions.height)
      { toBase := _, touchId_ := _ } (hfields time).1 (hfields time).2), ?_⟩
    exact ⟨_, _, Function.update_self .., Function.update_self .., rfl⟩
  | touchUp time slot | touchCancel time slot =>
    rw [hd] at h
    cases h
    constructor
    · show [((fields ..).positionX_.map Double.value, (fields ..).positionY_.map Double.value)] = _
      rw [(hfields time).1, (hfields time).2]
      cases last <;> rfl
    · exact ⟨Function.update_self .., Function.update_self ..⟩
  | _ => rw [hd] at h; cases h

/-! ## runs -/

/-- the builders of some events of a run, whose entries are those of the run -/
def builtOf (platform : Platform κ) (xkb : κ) (select : InputEvent → Bool)
    (events : List InputEvent) : List (InputEvent × List Record) :=
  (Mealy.outputs (EventTransformer.records platform) { xkb := xkb } events).filter fun out =>
    select out.1

def moves (built : List (InputEvent × List Record)) :
    List (InputEvent × List (Option Rat × Option Rat)) :=
  built.map fun out => (out.1, out.2.filterMap Record.movePosition)

theorem positions_eq (built : List (InputEvent × List Record)) :
    positions built = (moves built).flatMap Prod.snd := by
  unfold positions moves
  rw [List.flatMap_map]

theorem moves_events (built : List (InputEvent × List Record)) :
    (moves built).map Prod.fst = built.map Prod.fst := by
  unfold moves
  rw [List.map_map]
  rfl

theorem points_eq (dimensions : ScreenDimensions) (built : List (InputEvent × List Record)) :
    points dimensions built = (built.map Prod.fst).filterMap (InputEvent.point dimensions) := by
  unfold points
  rw [List.filterMap_map]
  rfl

theorem follows_of_moves {dimensions : ScreenDimensions} {built : List (InputEvent × List Record)}
    (h : moves built = Mealy.outputs (follow dimensions) none (built.map Prod.fst))
    (hpoints : ∀ event ∈ built.map Prod.fst, event.point dimensions ≠ none) :
    Follows (points dimensions built) (positions built) := by
  rw [positions_eq, points_eq, h]
  exact follow_follows dimensions _ hpoints

section
variable {platform : Platform κ} (hu : Function.Injective platform.randomUuid) (xkb : κ)
  (events : List InputEvent) {handle : Nat}
include hu

theorem absolute_moves (handle : Nat) :
    moves (builtOf platform.exact xkb (absolute handle) events)
      = Mealy.outputs (follow platform.dimensions) none (events.filter (absolute handle)) := by
  apply outputs_follow hu (absolute handle) Machine.absoluteX Machine.absoluteY
  · exact fun _ h => (Bool.and_eq_true_iff.mp h).1
  · intro ctx state event m last h hlast
    exact absolute_same platform ctx state event m last (Bool.and_eq_true_iff.mp h).2 hlast
  · intro event m hmine hnot
    apply absolute_other
    rw [absolute, hmine] at hnot
    exact hnot
  · exact ⟨rfl, rfl⟩

theorem slot_moves (handle : Nat) (seatSlot : Int32) :
    moves (builtOf platform.exact xkb (onSlot handle seatSlot) events)
      = Mealy.outputs (follow platform.dimensions) none
          (events.filter (onSlot handle seatSlot)) := by
  apply outputs_follow hu (onSlot handle seatSlot) (fun m => m.touchX seatSlot)
    fun m => m.touchY seatSlot
  · exact fun _ h => (Bool.and_eq_true_iff.mp h).1
  · intro ctx state event m last h hlast
    exact slot_same platform ctx state event m
      (beq_iff_eq.mp (Bool.and_eq_true_iff.mp h).2) hlast
  · intro event m hmine hnot
    apply step_touch
    rw [onSlot, hmine] at hnot
    exact beq_eq_false_iff_ne.mp hnot
  · exact ⟨rfl, rfl⟩

theorem absolute_follows (handle : Nat) :
    Follows (points platform.dimensions (builtOf platform.exact xkb (absolute handle) events))
      (positions (builtOf platform.exact xkb (absolute handle) events)) := by
  have hmoves := absolute_moves hu xkb events handle
  have hevents : (builtOf platform.exact xkb (absolute handle) events).map Prod.fst
      = events.filter (absolute handle) := by
    rw [← moves_events, hmoves, Mealy.outputs_events]
  apply follows_of_moves
  · rw [hevents]
    exact hmoves
  · intro event he
    rw [hevents] at he
    have h := (Bool.and_eq_true_iff.mp (List.mem_filter.mp he).2).2
    unfold InputEvent.point
    cases hd : event.data with
    | pointerMotionAbsolute => exact Option.some_ne_none _
    | _ => rw [hd] at h; cases h

theorem contact_follows {seatSlot : Int32}
    (hcontacts : Contacts false ((events.filter (onSlot handle seatSlot)).map InputEvent.data))
    {before motions after : List (InputEvent × List Record)} {down : InputEvent × List Record}
    (hsplit : builtOf platform.exact xkb (onSlot handle seatSlot) events
      = before ++ down :: motions ++ after)
    (hdown : down.1.data.isDown = true)
    (hmotions : ∀ motion ∈ motions, motion.1.data.isMotion = true) :
    Follows (points platform.dimensions (down :: motions)) (positions (down :: motions)) := by
  have hslot := slot_moves hu xkb events handle seatSlot
  have hevents : events.filter (onSlot handle seatSlot)
      = before.map Prod.fst ++ down.1 :: (motions ++ after).map Prod.fst := by
    rw [← Mealy.outputs_events (follow platform.dimensions) none (events.filter _), ← hslot,
      moves_events, hsplit]
    simp
  rw [hevents] at hcontacts
  have hstart := follow_contact platform.dimensions hdown hcontacts
  -- the moves of the contact are those of a run that begins without a point
  rw [hsplit] at hslot
  unfold moves at hslot
  rw [List.map_append, List.map_append, List.append_assoc] at hslot
  have hcontact := (Mealy.outputs_split (Mealy.outputs_split hslot.symm).2.symm).1
  rw [show (before.map fun out => (out.1, out.2.filterMap Record.movePosition)).map Prod.fst
    = before.map Prod.fst from moves_events before, hstart] at hcontact
  apply follows_of_moves
  · rw [← moves_events]
    exact hcontact
  · intro event he
    obtain ⟨x, hx, rfl⟩ := List.mem_map.mp he
    apply point_of_down
    rcases List.mem_cons.mp hx with rfl | hx
    · exact .inl hdown
    · exact .inr (hmotions x hx)

/-- the end of a contact has no position -/
theorem release_position {seatSlot : Int32} {release : InputEvent × List Record}
    (hrelease : release ∈ builtOf platform.exact xkb (onSlot handle seatSlot) events)
    (hend : release.1.data.isEnd = true) : positions [release] = [(none, none)] := by
  have hmem := List.mem_map_of_mem
    (f := fun out : InputEvent × List Record =>
      (out.1, out.2.filterMap Record.movePosition)) hrelease
  rw [show List.map _ _ = _ from slot_moves hu xkb events handle seatSlot] at hmem
  obtain ⟨last, hlast⟩ := Mealy.mem_outputs hmem
  rw [positions_eq]
  show (release.2.filterMap Record.movePosition) ++ [] = _
  rw [List.append_nil, show release.2.filterMap Record.movePosition = _ from hlast]
  unfold follow InputEvent.point
  rw [point_of_end platform.dimensions hend]
  cases last <;> rfl

end

/-- **Positions**: with rational numbers for coordinates, the entry of a device's first absolute
motion has no position, and up to any other one the positions add up to the way from the first.
When the touches of a slot are contacts, so it is with every contact from where it comes down, and
the entries of its end have no position; other devices, other slots and earlier contacts do not
matter. -/
theorem run_positions (platform : Platform κ) (hu : Function.Injective platform.randomUuid)
    (xkb : κ) (events : List InputEvent) (handle : Nat) :
    Follows (points platform.dimensions (builtOf platform.exact xkb (absolute handle) events))
        (positions (builtOf platform.exact xkb (absolute handle) events)) ∧
      ∀ seatSlot, Contacts false ((events.filter (onSlot handle seatSlot)).map InputEvent.data) →
        (∀ before down motions after,
          builtOf platform.exact xkb (onSlot handle seatSlot) events
            = before ++ down :: motions ++ after →
          down.1.data.isDown = true → (∀ motion ∈ motions, motion.1.data.isMotion = true) →
            Follows (points platform.dimensions (down :: motions))
              (positions (down :: motions))) ∧
        ∀ release ∈ builtOf platform.exact xkb (onSlot handle seatSlot) events,
          release.1.data.isEnd = true → positions [release] = [(none, none)] := by
  refine ⟨absolute_follows hu xkb events handle, fun seatSlot hcontacts => ⟨?_, ?_⟩⟩
  · intro before down motions after hsplit hdown hmotions
    exact contact_follows hu xkb events hcontacts hsplit hdown hmotions
  · intro release hrelease hend
    exact release_position hu xkb events hrelease hend

/-- the touch of the sample comes down at (10, 20), moves to (13, 21) and ends -/
theorem sampleTouch_positions :
    (positions (builtOf samplePlatform.exact false (onSlot 1 0) sampleTouch)
        = [(none, none), (some 3, some 1), (none, none)]) ∧
      Contacts false ((sampleTouch.filter (onSlot 1 0)).map InputEvent.data) ∧
      ∀ before down motions after,
        builtOf samplePlatform.exact false (onSlot 1 0) sampleTouch
          = before ++ down :: motions ++ after →
        down.1.data.isDown = true → (∀ motion ∈ motions, motion.1.data.isMotion = true) →
          Follows (points samplePlatform.dimensions (down :: motions))
            (positions (down :: motions)) := by
  have hcontacts : Contacts false ((sampleTouch.filter (onSlot 1 0)).map InputEvent.data) :=
    ⟨rfl, .inl ⟨rfl, .inr ⟨rfl, trivial⟩⟩⟩
  exact ⟨by decide +kernel, hcontacts, ((run_positions samplePlatform sampleUuid_injective false
    sampleTouch 1).2 0 hcontacts).1⟩

end Evget.LibInput
