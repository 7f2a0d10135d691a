import Evget.X11.ButtonEvents

/-!
# The valuators of an event

An event has one value for every bit of its mask.  The function that reads them increments the first
value for every bit, and gives each bit what the first value is at the time, as an integer.

* `roundDouble_int`, `roundDouble_atLeast`   doubles near integers;
* `emplaceValuators_counts`                  what the bits get when the first value is an integer;
* `Decodes`                                  what they should get;
* `decodes_iff`                              they do exactly when the mask has no bit;
* `sampleScroll_doubled`                     a scroll by 1 that is read as a scroll by 2.
-/

namespace Evget
open SQLite

def Double.number : Double → Option Rat
  | .finite negative magnitude => some (if negative then -magnitude else magnitude)
  | _ => none

def Double.AtLeast (n : Int) : Double → Prop
  | .finite negative magnitude => (n : Rat) ≤ if negative then -magnitude else magnitude
  | .infinite negative => negative = false
  | .nan _ => False

/-! ## rounding -/

theorem le_roundEven {n : Int} {x : Rat} (h : (n : Rat) ≤ x) : n ≤ roundEven x := by
  have hfloor : n ≤ x.floor := Rat.le_floor_iff.mpr h
  unfold roundEven
  dsimp only
  split_ifs <;> omega

theorem roundEven_le {n : Int} {x : Rat} (h : x ≤ n) : roundEven x ≤ n := by
  have hfloor : x.floor ≤ n := Rat.intCast_le_intCast.mp ((Rat.floor_le x).trans h)
  rcases hfloor.lt_or_eq with hlt | heq
  · unfold roundEven
    dsimp only
    split_ifs <;> omega
  · -- then `x` is the integer itself
    have hx : x = n := le_antisymm h (heq ▸ Rat.floor_le x)
    unfold roundEven
    dsimp only
    rw [if_pos]
    · exact hfloor
    · rw [heq, hx, sub_self]
      norm_num

namespace X11

theorem quantum_pos (magnitude : Rat) : 0 < quantum magnitude := by
  unfold quantum
  exact zpow_pos (by norm_num) _

theorem quantum_small {magnitude : Rat} (hpos : 0 < magnitude) (h : magnitude < 9007199254740992) :
    ∃ k : Nat, quantum magnitude * 2 ^ k = 1 := by
  have hlog : Int.log 2 magnitude < 53 :=
    (Int.lt_zpow_iff_log_lt (by decide) hpos).mp (by norm_num; exact h)
  obtain ⟨k, hk⟩ : ∃ k : Nat, max (Int.log 2 magnitude - 52) (-1074) = -(k : Int) :=
    ⟨(-max (Int.log 2 magnitude - 52) (-1074)).toNat, by omega⟩
  refine ⟨k, ?_⟩
  unfold quantum
  rw [hk, zpow_neg, zpow_natCast]
  exact inv_mul_cancel₀ (by positivity)

theorem le_round {n : Int} {magnitude : Rat} (hn : n ≤ 9007199254740992) (hpos : 0 < magnitude)
    (h : (n : Rat) ≤ magnitude) :
    (n : Rat) ≤ roundEven (magnitude / quantum magnitude) * quantum magnitude := by
  have hq := quantum_pos magnitude
  by_cases hsmall : magnitude < 9007199254740992
  · obtain ⟨k, hk⟩ := quantum_small hpos hsmall
    have hle : ((n * 2 ^ k : Int) : Rat) ≤ magnitude / quantum magnitude := by
      rw [le_div_iff₀ hq]
      push_cast
      rw [mul_assoc, mul_comm (2 ^ k : Rat), hk, mul_one]
      exact h
    have hround : ((n * 2 ^ k : Int) : Rat) ≤ roundEven (magnitude / quantum magnitude) :=
      Rat.intCast_le_intCast.mpr (le_roundEven hle)
    calc (n : Rat) = ((n * 2 ^ k : Int) : Rat) * quantum magnitude := by
          push_cast
          rw [mul_assoc, mul_comm (2 ^ k : Rat), hk, mul_one]
      _ ≤ _ := mul_le_mul_of_nonneg_right hround hq.le
  · -- the first double of this magnitude is a power of two
    have hlog : 53 ≤ Int.log 2 magnitude :=
      (Int.zpow_le_iff_le_log (by decide) hpos).mp (by norm_num; exact not_lt.mp hsmall)
    have hquantum : (4503599627370496 : Rat) * quantum magnitude = 2 ^ Int.log 2 magnitude := by
      unfold quantum
      rw [max_eq_left (by omega), show (4503599627370496 : Rat) = 2 ^ (52 : Int) by norm_num,
        ← zpow_add₀ (by norm_num)]
      congr 1
      omega
    have hpower : (2 : Rat) ^ Int.log 2 magnitude ≤ magnitude :=
      Int.zpow_log_le_self (by decide) hpos
    have hle : ((4503599627370496 : Int) : Rat) ≤ magnitude / quantum magnitude := by
      rw [le_div_iff₀ hq]
      push_cast
      rw [hquantum]
      exact hpower
    have hround : ((4503599627370496 : Int) : Rat) ≤ roundEven (magnitude / quantum magnitude) :=
      Rat.intCast_le_intCast.mpr (le_roundEven hle)
    calc (n : Rat) ≤ 9007199254740992 := by exact_mod_cast hn
      _ = 2 ^ (53 : Int) := by norm_num
      _ ≤ 2 ^ Int.log 2 magnitude := zpow_le_zpow_right₀ (by norm_num) hlog
      _ = ((4503599627370496 : Int) : Rat) * quantum magnitude := by
          rw [← hquantum]
          norm_num
      _ ≤ _ := mul_le_mul_of_nonneg_right hround hq.le

theorem round_le {n : Int} {magnitude : Rat} (hn : n < 9007199254740992) (hpos : 0 < magnitude)
    (h : magnitude ≤ n) :
    roundEven (magnitude / quantum magnitude) * quantum magnitude ≤ (n : Rat) := by
  have hq := quantum_pos magnitude
  have hsmall : magnitude < 9007199254740992 := h.trans_lt (by exact_mod_cast hn)
  obtain ⟨k, hk⟩ := quantum_small hpos hsmall
  have hle : magnitude / quantum magnitude ≤ ((n * 2 ^ k : Int) : Rat) := by
    rw [div_le_iff₀ hq]
    push_cast
    rw [mul_assoc, mul_comm (2 ^ k : Rat), hk, mul_one]
    exact h
  have hround : (roundEven (magnitude / quantum magnitude) : Rat) ≤ ((n * 2 ^ k : Int) : Rat) :=
    Rat.intCast_le_intCast.mpr (roundEven_le hle)
  calc _ ≤ ((n * 2 ^ k : Int) : Rat) * quantum magnitude :=
        mul_le_mul_of_nonneg_right hround hq.le
    _ = n := by
        push_cast
        rw [mul_assoc, mul_comm (2 ^ k : Rat), hk, mul_one]

def integer (n : Int) : Double := .finite (n < 0) (if n < 0 then -n else n)

theorem finite_bound : (9007199254740992 : Rat) < 2 ^ 1024 :=
  calc (9007199254740992 : Rat) = 2 ^ 53 := by norm_num
    _ < 2 ^ 1024 := pow_lt_pow_right₀ (by norm_num) (by norm_num)

theorem roundDouble_int {n : Int} (hlow : -9007199254740992 < n) (hhigh : n < 9007199254740992) :
    roundDouble n = integer n := by
  have hround (m : Int) (hm : m < 9007199254740992) (hpos : 0 < m) :
      (roundEven (m / quantum m) : Rat) * quantum m = m :=
    le_antisymm (round_le hm (by exact_mod_cast hpos) le_rfl)
      (le_round hm.le (by exact_mod_cast hpos) le_rfl)
  have hfinite (m : Int) (hm : m < 9007199254740992) : (m : Rat) < 2 ^ 1024 :=
    (show (m : Rat) < 9007199254740992 by exact_mod_cast hm).trans finite_bound
  unfold roundDouble integer
  dsimp only
  rcases lt_trichotomy n 0 with hneg | rfl | hpos
  · have hneg' : (n : Rat) < 0 := by exact_mod_cast hneg
    have hr := hround (-n) (by omega) (by omega)
    have hf := hfinite (-n) (by omega)
    push_cast at hr hf
    simp only [hneg, hneg', if_true, neg_eq_zero, hneg'.ne, if_false, hr, hf, decide_true]
  · simp
  · have hpos' : (0 : Rat) < n := by exact_mod_cast hpos
    simp only [not_lt.mpr hpos.le, not_lt.mpr hpos'.le, if_false, hpos'.ne', hround n hhigh hpos,
      hfinite n hhigh, if_true, decide_false]

theorem roundDouble_atLeast {n : Int} (hlow : -9007199254740992 < n) (hhigh : n < 9007199254740992)
    {x : Rat} (h : (n : Rat) ≤ x) : (roundDouble x).AtLeast n := by
  unfold roundDouble
  dsimp only
  rcases lt_trichotomy x 0 with hneg | rfl | hpos
  · have hround := round_le (n := -n) (by omega) (neg_pos.mpr hneg) (by push_cast; linarith)
    push_cast at hround
    simp only [hneg, if_true, neg_eq_zero, hneg.ne, if_false, decide_true]
    have hn : ((-n : Int) : Rat) < 2 ^ 1024 :=
      (show ((-n : Int) : Rat) < 9007199254740992 by exact_mod_cast (by omega)).trans finite_bound
    push_cast at hn
    rw [if_pos (hround.trans_lt hn)]
    show (n : Rat) ≤ -_
    linarith
  · simpa [Double.AtLeast] using h
  · have hround := le_round hhigh.le hpos h
    simp only [not_lt.mpr hpos.le, if_false, hpos.ne', decide_false]
    split_ifs
    · exact hround
    · rfl

/-! ## counting -/

theorem increment_atLeast {n : Int} (hlow : -9007199254740992 < n) (hhigh : n < 9007199254740992)
    {value : Double} (h : value.AtLeast n) : (increment value).AtLeast n := by
  cases value with
  | finite negative magnitude => exact roundDouble_atLeast hlow hhigh (h.trans (by simp))
  | infinite negative => exact h
  | nan negative => exact h

theorem increment_integer {n : Int} (hlow : -9007199254740992 ≤ n) (hhigh : n < 9007199254740991) :
    increment (integer n) = integer (n + 1) := by
  have hvalue : (if decide (n < 0) = true then -(if n < 0 then -n else n : Rat)
      else (if n < 0 then -n else n : Rat)) = n := by
    by_cases h : n < 0 <;> simp [h]
  show roundDouble (_ + 1) = _
  rw [hvalue, ← roundDouble_int (by omega) (by omega)]
  push_cast
  rfl

theorem iterate_increment {n : Int} (hlow : -9007199254740992 ≤ n) {k : Nat}
    (hhigh : n + k ≤ 9007199254740991) : increment^[k] (integer n) = integer (n + k) := by
  induction k with
  | zero => rw [Function.iterate_zero, id, Nat.cast_zero, add_zero]
  | succ k ih =>
    rw [Function.iterate_succ_apply', ih (by omega), increment_integer (by omega) (by omega)]
    congr 1
    push_cast
    omega

theorem truncate_integer {n : Int} (hlow : -2147483648 ≤ n) (hhigh : n ≤ 2147483647) :
    truncate (integer n) = n := by
  unfold truncate integer
  by_cases h : n < 0
  · have hfloor : (-(n : Rat)).floor = -n := by
      rw [show (-(n : Rat)) = ((-n : Int) : Rat) by push_cast; rfl, Rat.floor_intCast]
    simp only [h, if_true, decide_true, hfloor, neg_neg]
    rw [if_pos ⟨hlow, hhigh⟩]
  · simp only [h, if_false, decide_false, Rat.floor_intCast, Bool.false_eq_true]
    rw [if_pos ⟨hlow, hhigh⟩]

theorem truncate_bounds (value : Double) :
    -2147483648 ≤ truncate value ∧ truncate value ≤ 2147483647 := by
  unfold truncate
  cases value with
  | finite negative magnitude =>
    dsimp only
    generalize (if negative then -magnitude.floor else magnitude.floor) = n
    by_cases h : -2147483648 ≤ n ∧ n ≤ 2147483647
    · rw [if_pos h]
      exact h
    · rw [if_neg h]
      decide
  | infinite negative | nan negative => exact ⟨le_rfl, show (-2147483648 : Int) ≤ _ by decide⟩

/-- every bit gets the first value, which is incremented each time -/
theorem emplaceValuators_eq (bits : List Nat) (value : Double) (values : List Double) :
    emplaceValuators bits (value :: values)
      = (bits.mapIdx fun i (bit : Nat) => ((bit : Int), truncate (increment^[i] value)),
          increment^[bits.length] value :: values) := by
  induction bits generalizing value with
  | nil => rfl
  | cons bit bits ih =>
    show (((bit : Int), truncate value) :: (emplaceValuators bits (increment value :: values)).1,
      (emplaceValuators bits (increment value :: values)).2) = _
    rw [ih, List.mapIdx_cons]
    rfl

/-- **Counting**: the bits get consecutive numbers from the first value on, whatever the others
are. -/
theorem emplaceValuators_counts {n : Int} (hlow : -2147483648 ≤ n) (bits : List Nat)
    (hhigh : n + bits.length ≤ 2147483648) (values : List Double) :
    emplaceValuators bits (integer n :: values)
      = (bits.mapIdx fun i (bit : Nat) => ((bit : Int), n + i),
          integer (n + bits.length) :: values) := by
  rw [emplaceValuators_eq, iterate_increment (by omega) (by omega)]
  congr 1
  refine List.ext_getElem (by simp) fun i hi _ => ?_
  have hlength : i < bits.length := by simpa using hi
  rw [List.getElem_mapIdx, List.getElem_mapIdx, iterate_increment (by omega) (by omega),
    truncate_integer (by omega) (by omega)]

theorem getValuators_cons {maskLen : Nat} {mask : List UInt8} {bits : List Nat}
    (h : onMasks mask maskLen = bits) (value : Double) (values : List Double) :
    getValuators ⟨maskLen, mask, value :: values⟩
      = (bits.mapIdx fun i (bit : Nat) => ((bit : Int), truncate (increment^[i] value)),
          ⟨maskLen, mask, increment^[bits.length] value :: values⟩) := by
  unfold getValuators
  rw [h, emplaceValuators_eq]

/-! ## what an event reports -/

def reported (state : XIValuatorState) : List (Nat × Double) :=
  (onMasks state.mask state.maskLen).zip state.values

def scrollField : XIScrollType → List UInt8
  | .vertical => bytes "scroll_vertical"
  | .horizontal => bytes "scroll_horizontal"

/-- the amounts of an entry are values of scroll axes of the device -/
def ScrollAmounts (self : EventSwitchPointerKey) (event : XIRawEvent) (entry : Entry) : Prop :=
  ∀ scrollType amount, entry.getEntryWithFields.field (scrollField scrollType) = some amount →
    amount ≠ [] → ∃ scrolls : Dict Int XIScrollClassInfo, ∃ info : XIScrollClassInfo,
      ∃ axis ∈ reported event.valuators,
      self.scrollMap.lookup event.sourceid = some scrolls ∧
        scrolls.lookup (axis.1 : Int) = some info ∧ info.scrollType = scrollType ∧
          amount = axis.2.text

/-- The valuators are the axes with their values, the event stays as it is, so that it can be read
again, and the amounts of a scroll are those of the event. -/
structure Decodes (state : XIValuatorState) : Prop where
  values : List.Forall₂ (fun valuator axis => valuator.1 = (axis.1 : Int) ∧
    axis.2.number = some (valuator.2 : Rat)) (getValuators state).1 (reported state)
  unchanged : (getValuators state).2 = state
  again : (getValuators (getValuators state).2).1 = (getValuators state).1
  scroll : ∀ {ω τ : Type} (api : X11Api ω) (getTime : Nat → τ → Option Int × τ) (event : XIRawEvent)
    (timestamp : Int) (self self' : EventSwitchPointerKey) (s s' : Handling ω τ) (handled : Bool),
    event.valuators = state → event.evtype = xiRawMotion →
    self.switchOnEvent api getTime event timestamp s = .ok (handled, self', s') →
      ∃ entries, s'.data.entries = s.data.entries ++ entries ∧
        ∀ entry ∈ entries, ScrollAmounts self event entry

/-- an event without valuators makes no entries -/
theorem switchOnEvent_empty {ω τ : Type} (api : X11Api ω) (getTime : Nat → τ → Option Int × τ)
    {event : XIRawEvent} (timestamp : Int) (self : EventSwitchPointerKey) (s : Handling ω τ)
    (hempty : getValuators event.valuators = ([], event.valuators))
    (hmotion : event.evtype = xiRawMotion) :
    self.switchOnEvent api getTime event timestamp s = .ok (true, self, s) := by
  have hm : self.motionEvent api getTime event timestamp (bytes "XI_RawMotion") s
      = .ok (event, self, s) := by
    unfold EventSwitchPointerKey.motionEvent
    rw [hempty]
    split <;> rfl
  have hs : self.scrollEvent api getTime event timestamp (bytes "XI_RawMotion") s
      = .ok (event, s) := by
    unfold EventSwitchPointerKey.scrollEvent
    rw [hempty]
    split
    · rfl
    · split
      · rfl
      · simp
  unfold EventSwitchPointerKey.switchOnEvent
  rw [if_pos hmotion, hm]
  show ((self.scrollEvent api getTime event timestamp (bytes "XI_RawMotion") s) >>= _) = _
  rw [hs]
  rfl

/-- a value that is incremented is not what it was, if it is an integer -/
theorem increment_changes {value : Double} {n : Int} (hlow : -2147483648 ≤ n)
    (hhigh : n ≤ 2147483647) (hvalue : value.number = some (n : Rat)) (k : Nat) :
    increment^[k + 1] value ≠ value := by
  have hkeeps : (increment^[k + 1] value).AtLeast (n + 1) := by
    induction k with
    | zero =>
      cases value with
      | finite negative magnitude =>
        have hn := Option.some.inj hvalue
        refine roundDouble_atLeast (by omega) (by omega) ?_
        rw [hn]
        push_cast
        exact le_rfl
      | infinite negative | nan negative => cases hvalue
    | succ k ih =>
      rw [Function.iterate_succ_apply']
      exact increment_atLeast (by omega) (by omega) ih
  intro h
  rw [h] at hkeeps
  cases value with
  | finite negative magnitude =>
    have hn := Option.some.inj hvalue
    have hle : ((n + 1 : Int) : Rat) ≤ n := hkeeps.trans_eq hn
    exact absurd (Rat.intCast_le_intCast.mp hle) (by omega)
  | infinite negative | nan negative => cases hvalue

/-- **When valuators are read as they are**: for a mask with as many bits as there are values,
exactly when it has none. -/
theorem decodes_iff (state : XIValuatorState)
    (hlength : state.values.length = (onMasks state.mask state.maskLen).length) :
    Decodes state ↔ ∀ bit < state.maskLen * 8, xiMaskIsSet state.mask bit = false := by
  have hbits : onMasks state.mask state.maskLen = [] ↔
      ∀ bit < state.maskLen * 8, xiMaskIsSet state.mask bit = false := by
    unfold onMasks
    simp [List.filter_eq_nil_iff]
  rw [← hbits]
  constructor
  · intro h
    cases hb : onMasks state.mask state.maskLen with
    | nil => rfl
    | cons bit bits =>
      exfalso
      obtain ⟨maskLen, mask, values⟩ := state
      cases values with
      | nil =>
        rw [hb] at hlength
        cases hlength
      | cons value values =>
        have hvalues := h.values
        have hchanged := congrArg XIValuatorState.values h.unchanged
        rw [getValuators_cons hb] at hvalues hchanged
        rw [reported, hb, List.mapIdx_cons] at hvalues
        cases hvalues with
        | cons hfirst =>
          obtain ⟨hlow, hhigh⟩ := truncate_bounds value
          exact increment_changes hlow hhigh hfirst.2 bits.length (List.cons.inj hchanged).1
  · intro hb
    have hempty : getValuators state = ([], state) := by
      unfold getValuators
      rw [hb]
      rfl
    refine ⟨?_, ?_, ?_, ?_⟩
    · rw [hempty, reported, hb]
      exact .nil
    · rw [hempty]
    · rw [hempty]
      exact congrArg Prod.fst hempty
    · rintro ω τ api getTime event timestamp self self' s s' handled rfl hmotion hrun
      rw [switchOnEvent_empty api getTime timestamp self s hempty hmotion] at hrun
      cases hrun
      exact ⟨[], (List.append_nil _).symm, fun _ h => nomatch h⟩

/-! ### masks with one bit and with none -/

theorem emptyMask_decodes : Decodes ⟨2, [0, 0], []⟩ :=
  (decodes_iff ⟨2, [0, 0], []⟩ rfl).mpr (by decide)

def sampleScroll : XIValuatorState := ⟨1, [1], [integer 1]⟩

/-- the second time it is a scroll by 2 -/
theorem sampleScroll_doubled :
    (getValuators (getValuators sampleScroll).2).1 = [(0, 2)] ∧ ¬ Decodes sampleScroll := by
  have hfirst : getValuators sampleScroll = ([(0, 1)], ⟨1, [1], [integer 2]⟩) := by
    unfold getValuators sampleScroll
    rw [show onMasks [1] 1 = [0] by decide, emplaceValuators_counts (by decide) [0] (by decide)]
    rfl
  have hsecond : getValuators ⟨1, [1], [integer 2]⟩ = ([(0, 2)], ⟨1, [1], [integer 3]⟩) := by
    unfold getValuators
    rw [show onMasks [1] 1 = [0] by decide, emplaceValuators_counts (by decide) [0] (by decide)]
    rfl
  rw [hfirst, hsecond]
  refine ⟨rfl, fun h => ?_⟩
  have hagain := h.again
  rw [hfirst, hsecond] at hagain
  exact absurd hagain (by decide)

end X11
end Evget
