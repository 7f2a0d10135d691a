import Evget.Error
import Mathlib.Data.List.Basic

/-!
# The interval timer

`Tick` creates its timer when it is first awaited, waits for it, and arms it again for one period
after the completion.  A tick that completes late therefore moves all ticks after it.

* `Interval.tick`, `Interval.ticks`   a tick, and the ticks of a run with delays between them;
* `OnSchedule`                        completions at multiples of the period, or at once when late;
* `ticks_onSchedule_iff`              which delays keep the schedule.
-/

namespace Evget

inductive WaitError where
  | operationAborted
  | other (message : String)

structure Wait where
  completion : Nat
  err : Option WaitError

/-- a wait that nobody disturbs completes at the expiry, or at once after it -/
def asyncWait (now expiry : Nat) : Wait := ⟨max now expiry, none⟩

/-- times are points of the steady clock, the period is in its unit -/
structure Interval where
  period_ : Nat
  timer_ : Option Nat

namespace Interval

def new (period : Nat) : Interval := ⟨period, none⟩

def period (self : Interval) : Nat := self.period_

/-- `expires_after`: one period from now -/
def reset (now : Nat) (self : Interval) : Interval :=
  match self.timer_ with
  | none => self
  | some _ => { self with timer_ := some (now + self.period) }

def waited : Option WaitError → Result Unit
  | none => .ok ()
  | some .operationAborted => .ok ()
  | some (.other message) => .error ⟨.asyncError, message⟩

/-- `Tick`, awaited at `now`: its result, when it completes, and the timer after it -/
def tick (wait : Nat → Nat → Wait) (now : Nat) (self : Interval) : Result Unit × Nat × Interval :=
  let expiry := self.timer_.getD (now + self.period)
  let answer := wait now expiry
  let self := reset answer.completion { self with timer_ := some expiry }
  (waited answer.err, answer.completion, self)

/-- the ticks of a run: each one is awaited some time after the completion of the one before it.
Every tick is kept with when it was awaited, its result and when it has completed. -/
def ticks (wait : Nat → Nat → Wait) (self : Interval) (now : Nat) :
    List Nat → List (Nat × Result Unit × Nat)
  | [] =>
    let (result, completion, _) := self.tick wait now
    [(now, result, completion)]
  | delay :: delays =>
    let (result, completion, self) := self.tick wait now
    (now, result, completion) :: self.ticks wait (completion + delay) delays

end Interval

/-! ## the schedule -/

/-- ticks complete without error at the later of when they were awaited and their time, the first
at `start`, and then one after every period -/
def OnSchedule (period : Nat) : Nat → List (Nat × Result Unit × Nat) → Prop
  | _, [] => True
  | start, (now, result, completion) :: ticks =>
    (result = .ok () ∧ completion = max now start) ∧ OnSchedule period (start + period) ticks

theorem onSchedule_iff (period start : Nat) (ticks : List (Nat × Result Unit × Nat)) :
    OnSchedule period start ticks ↔ ∀ k tick, ticks[k]? = some tick →
      tick.2.1 = .ok () ∧ tick.2.2 = max tick.1 (start + k * period) := by
  induction ticks generalizing start with
  | nil => simp [OnSchedule]
  | cons first ticks ih =>
    obtain ⟨now, result, completion⟩ := first
    rw [OnSchedule, ih]
    constructor
    · rintro ⟨hfirst, hrest⟩ k tick hk
      cases k with
      | zero =>
        cases hk
        simpa using hfirst
      | succ k =>
        obtain ⟨hresult, htime⟩ := hrest k tick hk
        refine ⟨hresult, ?_⟩
        rw [htime, Nat.add_mul]
        omega
    · intro h
      refine ⟨by simpa using h 0 _ rfl, fun k tick hk => ?_⟩
      obtain ⟨hresult, htime⟩ := h (k + 1) tick hk
      refine ⟨hresult, ?_⟩
      rw [htime, Nat.add_mul]
      omega

namespace Interval

/-! ## which delays keep it -/

def armed (period expiry : Nat) : Interval := ⟨period, some expiry⟩

theorem onSchedule_armed_nil (period start expiry now : Nat) :
    OnSchedule period start ((armed period expiry).ticks asyncWait now []) ↔
      max now expiry = max now start := by
  show ((Except.ok () : Result Unit) = .ok () ∧ max now expiry = max now start) ∧ True ↔ _
  simp

theorem onSchedule_armed_cons (period start expiry now delay : Nat) (delays : List Nat) :
    OnSchedule period start ((armed period expiry).ticks asyncWait now (delay :: delays)) ↔
      max now expiry = max now start ∧ OnSchedule period (start + period)
        ((armed period (max now expiry + period)).ticks asyncWait (max now expiry + delay)
          delays) := by
  show ((Except.ok () : Result Unit) = .ok () ∧ max now expiry = max now start) ∧ _ ↔ _
  rw [eq_self_iff_true, true_and]
  rfl

theorem ticks_new (period now : Nat) (delays : List Nat) :
    (new period).ticks asyncWait now delays =
      (armed period (now + period)).ticks asyncWait now delays := by
  cases delays with
  | nil => rfl
  | cons delay delays => rfl

/-- after a late completion the timer expires after its time, and a tick is on schedule only when it
is awaited after the expiry as well -/
theorem late_onSchedule_iff (period : Nat) {start expiry : Nat} (hlate : start < expiry)
    (now : Nat) (delays : List Nat) :
    OnSchedule period start ((armed period expiry).ticks asyncWait now delays) ↔
      expiry ≤ now ∧ ∀ delay ∈ delays, period ≤ delay := by
  induction delays generalizing start expiry now with
  | nil =>
    have htime : max now expiry = max now start ↔ expiry ≤ now := by omega
    rw [onSchedule_armed_nil, htime]
    simp
  | cons delay delays ih =>
    have htime : max now expiry = max now start ↔ expiry ≤ now := by omega
    have hdelay : max now expiry + period ≤ max now expiry + delay ↔ period ≤ delay := by omega
    rw [onSchedule_armed_cons, ih (by omega), htime, hdelay, List.forall_mem_cons]

/-- after a completion in time the timer expires at its time, until a tick is awaited late -/
theorem inTime_onSchedule_iff (period start now : Nat) (delays : List Nat) :
    OnSchedule period start ((armed period start).ticks asyncWait now delays) ↔
      (start < now → ∀ delay ∈ delays, period ≤ delay) ∧
        delays.Pairwise fun delay later => period < delay → period ≤ later := by
  induction delays generalizing start now with
  | nil =>
    rw [onSchedule_armed_nil]
    simp
  | cons delay delays ih =>
    rw [onSchedule_armed_cons, List.pairwise_cons]
    by_cases hlate : start < now
    · have hmax : max now start = now := by omega
      rw [hmax, late_onSchedule_iff period (by omega)]
      have hdelay : now + period ≤ now + delay ↔ period ≤ delay := by omega
      rw [hdelay, List.forall_mem_cons]
      constructor
      · rintro ⟨-, hfirst, hrest⟩
        refine ⟨fun _ => ⟨hfirst, hrest⟩, fun later hlater _ => hrest later hlater, ?_⟩
        exact List.pairwise_of_forall_mem_list fun _ _ later hlater _ => hrest later hlater
      · rintro ⟨hall, -⟩
        exact ⟨rfl, hall hlate⟩
    · have hmax : max now start = start := by omega
      have hstart : start + period < start + delay ↔ period < delay := by omega
      rw [hmax, ih, hstart]
      constructor
      · rintro ⟨-, hlong, hrest⟩
        exact ⟨fun h => absurd h hlate, fun later hlater hdelay => hlong hdelay later hlater, hrest⟩
      · rintro ⟨-, hlong, hrest⟩
        exact ⟨rfl, fun hdelay later hlater => hlong later hlater hdelay, hrest⟩

/-- **The schedule of an interval.**  Let the first tick be awaited at `now`, and the others after
the delays.  Each tick completes without error, and the `k`-th at the later of when it was awaited
and `now + k * period`, exactly when after the first delay of more than a period no delay is of less
than a period. -/
theorem ticks_onSchedule_iff (period now : Nat) (delays : List Nat) :
    (∀ k tick, ((new period).ticks asyncWait now delays)[k]? = some tick →
      tick.2.1 = .ok () ∧ tick.2.2 = max tick.1 (now + (k + 1) * period)) ↔
    delays.Pairwise fun delay later => period < delay → period ≤ later := by
  have hschedule : OnSchedule period (now + period) ((new period).ticks asyncWait now delays) ↔
      ∀ k tick, ((new period).ticks asyncWait now delays)[k]? = some tick →
        tick.2.1 = .ok () ∧ tick.2.2 = max tick.1 (now + (k + 1) * period) := by
    rw [onSchedule_iff]
    have htime : ∀ k, now + period + k * period = now + (k + 1) * period := by
      intro k
      rw [Nat.add_mul]
      omega
    simp only [htime]
  rw [← hschedule, ticks_new, inTime_onSchedule_iff]
  constructor
  · rintro ⟨-, hdelays⟩
    exact hdelays
  · intro hdelays
    exact ⟨fun hlt => absurd hlt (by omega), hdelays⟩

/-- with a period of 10, a delay of 25 and then none, the third tick completes at 45, which should
complete at once at 35 -/
theorem missed_ticks_not_made_up :
    ((new 10).ticks asyncWait 0 [25, 0])[2]? = some (35, .ok (), 45) ∧
      ¬ ∀ k tick, ((new 10).ticks asyncWait 0 [25, 0])[k]? = some tick →
        tick.2.1 = .ok () ∧ tick.2.2 = max tick.1 (0 + (k + 1) * 10) := by
  refine ⟨rfl, fun h => ?_⟩
  have hthird := (h 2 (35, .ok (), 45) rfl).2
  simp at hthird

end Interval
end Evget
