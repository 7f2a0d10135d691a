import Evget.Lib.Telescope
import Mathlib.Algebra.Ring.Int.Defs

/-!
# The interval tracker

The time since the last event, by the times that the events themselves carry.

* `IntervalTracker.interval`    the interval at a time, which is the last one from then on;
* `IntervalTracker.readings`    the intervals at some times;
* `readings_telescope`          **they telescope** as long as the times do not decrease.
-/

namespace Evget

structure IntervalTracker where
  previous : Option Nat := none
deriving DecidableEq, Repr

namespace IntervalTracker

/-- times are unsigned and intervals signed numbers of 64 bits -/
def interval (time : Nat) (self : IntervalTracker) : Option Int × IntervalTracker :=
  match self.previous with
  | none => (none, { self with previous := some time })
  | some previous =>
    if time < previous then (none, { self with previous := some time })
    else
      (some (Int.bmod (time - previous) 0x10000000000000000), { self with previous := some time })

@[simp] theorem interval_snd (time : Nat) (self : IntervalTracker) :
    (self.interval time).2 = ⟨some time⟩ := by
  unfold interval
  cases self.previous with
  | none => rfl
  | some previous =>
    by_cases h : time < previous
    · simp only [if_pos h]
    · simp only [if_neg h]

theorem interval_again (time : Nat) :
    ((⟨some time⟩ : IntervalTracker).interval time).1 = some 0 := by
  unfold interval
  simp

theorem interval_new (time : Nat) : ((⟨none⟩ : IntervalTracker).interval time).1 = none := rfl

theorem interval_decrease {previous time : Nat} (h : time < previous) :
    ((⟨some previous⟩ : IntervalTracker).interval time).1 = none := by
  unfold interval
  simp only [if_pos h]

theorem interval_increase {previous time : Nat} (h : previous ≤ time)
    (hspan : time < previous + 0x8000000000000000) :
    ((⟨some previous⟩ : IntervalTracker).interval time).1 = some ((time : Int) - previous) := by
  unfold interval
  simp only [if_neg (Nat.not_lt.mpr h)]
  rw [Int.bmod_eq_of_le (by omega) (by omega)]

/-! ## many times -/

def readings : IntervalTracker → List Nat → List (Option Int)
  | _, [] => []
  | self, time :: times => (self.interval time).1 :: readings ⟨some time⟩ times

theorem length_readings (self : IntervalTracker) (times : List Nat) :
    (self.readings times).length = times.length := by
  induction times generalizing self with
  | nil => rfl
  | cons time times ih => exact congrArg (· + 1) (ih ⟨some time⟩)

theorem readings_append (self : IntervalTracker) (times more : List Nat) :
    self.readings (times ++ more) = self.readings times
      ++ readings ⟨times.getLast?.or self.previous⟩ more := by
  induction times generalizing self with
  | nil => rfl
  | cons time times ih =>
    show (self.interval time).1 :: readings ⟨some time⟩ (times ++ more) = _
    rw [ih, List.getLast?_cons]
    show _ = (self.interval time).1 :: (readings ⟨some time⟩ times ++ _)
    cases times.getLast? <;> rfl

/-- of two neighbours the later one reads the time since the earlier one -/
theorem readings_neighbours {β : Type} (f : Option Int → β) {self : IntervalTracker}
    {entries before after : List (Nat × β)} {first second : Nat × β}
    (h : entries.map Prod.snd = (self.readings (entries.map Prod.fst)).map f)
    (hsplit : entries = before ++ first :: second :: after) :
    second.2 = f ((⟨some first.1⟩ : IntervalTracker).interval second.1).1 := by
  rw [hsplit, List.map_append, List.map_append, readings_append, List.map_append] at h
  have hlater := (List.append_inj h (by simp [length_readings])).2
  exact (List.cons.inj (List.cons.inj hlater).2).1

/-- times that do not decrease, and stay within 63 bits of each other -/
def Stretch (times : List Nat) : Prop :=
  times.Pairwise fun a b => a ≤ b ∧ b < a + 0x8000000000000000

instance (times : List Nat) : Decidable (Stretch times) :=
  inferInstanceAs (Decidable (times.Pairwise _))

/-- **Telescoping**: the intervals of such times are the differences of neighbours. -/
theorem readings_telescope {first : Nat} {times : List Nat} (h : Stretch (first :: times)) :
    readings ⟨some first⟩ times
      = (Telescope.differences (first : Int) (times.map Nat.cast)).map some := by
  induction times generalizing first with
  | nil => rfl
  | cons time times ih =>
    obtain ⟨hfirst, hrest⟩ := List.pairwise_cons.mp h
    obtain ⟨hle, hspan⟩ := hfirst time List.mem_cons_self
    show ((⟨some first⟩ : IntervalTracker).interval time).1 :: readings ⟨some time⟩ times = _
    rw [interval_increase hle hspan, ih hrest]
    rfl

end IntervalTracker
end Evget
