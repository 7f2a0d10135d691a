import Evget.Error
import Mathlib.Data.List.Basic
import Mathlib.Data.List.Perm.Basic

/-!
# The scheduler

The completion handler of a spawned task receives an exception pointer and a value.  It runs
`LogException` on the pointer and then the handler of `SpawnResult` on the value.  After an
exception the value is a default-constructed one, which is a success.

* `Completion`               how a task ends;
* `logException`, `spawnImpl`, `spawnResult`   the completion handler;
* `completions_eq`           what the handlers of a run have done, whatever their order;
* `completions_report_iff`   when the exit code tells a failed run from a successful one.
-/

namespace Evget

inductive Completion (T : Type) where
  | returned (result : Result T)
  | thrown (what : String)

namespace Completion
variable {T : Type}

def exception : Completion T → Option String
  | returned _ => none
  | thrown what => some what

/-- the value for the completion handler, a default-constructed one after an exception -/
def value [Inhabited T] : Completion T → Result T
  | returned result => result
  | thrown _ => .ok default

def threw : Completion T → Bool
  | returned _ => false
  | thrown _ => true

def isError : Completion T → Bool
  | returned (.error _) => true
  | _ => false

end Completion

inductive Logged where
  | exception (what : String)
  | error (e : Error)
deriving DecidableEq

/-- what the completion handlers share: the pool, the return code, the calls of stop handlers `S`
and the log -/
structure ThreadPool (S : Type) where
  stopped_ : Bool
  retCode : Int
  stops : List S
  log : List Logged

structure Spawned (S : Type) where
  Value : Type
  inhabited : Inhabited Value
  completion : Completion Value
  stop : S

namespace Scheduler
variable {S T : Type}

def stop (pool : ThreadPool S) : ThreadPool S := { pool with stopped_ := true }

def logException (error : Option String) (pool : ThreadPool S) : ThreadPool S :=
  match error with
  | none => pool
  | some what => stop { pool with log := pool.log ++ [.exception what] }

/-- the completion handler of a task that was spawned with `handler` -/
def spawnImpl [Inhabited T] (handler : Result T → ThreadPool S → ThreadPool S)
    (completion : Completion T) (pool : ThreadPool S) : ThreadPool S :=
  handler completion.value (logException completion.exception pool)

/-- the completion handler of a task that was spawned with a stop handler -/
def spawnResult [Inhabited T] (stop : S) : Completion T → ThreadPool S → ThreadPool S :=
  spawnImpl fun err pool =>
    let pool := { pool with stops := pool.stops ++ [stop] }
    match err with
    | .ok _ => pool
    | .error e => { pool with retCode := 1, log := pool.log ++ [.error e] }

def complete (pool : ThreadPool S) (task : Spawned S) : ThreadPool S :=
  have := task.inhabited
  spawnResult task.stop task.completion pool

def completions (order : List (Spawned S)) (pool : ThreadPool S) : ThreadPool S :=
  order.foldl complete pool

end Scheduler

namespace Spawned
variable {S : Type}

def threw (task : Spawned S) : Bool := task.completion.threw

def isError (task : Spawned S) : Bool := task.completion.isError

def logged (task : Spawned S) : List Logged :=
  match task.completion with
  | .returned (.ok _) => []
  | .returned (.error e) => [.error e]
  | .thrown what => [.exception what]

end Spawned

/-! ## Runs of the completion handlers -/

section
variable {S : Type}

theorem complete_eq (pool : ThreadPool S) (task : Spawned S) :
    Scheduler.complete pool task =
      { stopped_ := pool.stopped_ || task.threw
        retCode := if task.isError then 1 else pool.retCode
        stops := pool.stops ++ [task.stop]
        log := pool.log ++ task.logged } := by
  obtain ⟨Value, inhabited, completion, stop⟩ := task
  cases completion with
  | thrown what =>
    simp [Scheduler.complete, Scheduler.spawnResult, Scheduler.spawnImpl, Scheduler.logException,
      Scheduler.stop, Completion.exception, Completion.value, Spawned.threw, Completion.threw,
      Spawned.isError, Completion.isError, Spawned.logged]
  | returned result =>
    cases result with
    | ok value =>
      simp [Scheduler.complete, Scheduler.spawnResult, Scheduler.spawnImpl, Scheduler.logException,
        Completion.exception, Completion.value, Spawned.threw, Completion.threw, Spawned.isError,
        Completion.isError, Spawned.logged]
    | error e =>
      simp [Scheduler.complete, Scheduler.spawnResult, Scheduler.spawnImpl, Scheduler.logException,
        Completion.exception, Completion.value, Spawned.threw, Completion.threw, Spawned.isError,
        Completion.isError, Spawned.logged]

/-- **The handlers of a run.**  Every stop handler is called once, every failure is logged, an
exception stops the pool, and only an error result sets the return code. -/
theorem completions_eq (order : List (Spawned S)) (pool : ThreadPool S) :
    Scheduler.completions order pool =
      { stopped_ := pool.stopped_ || order.any Spawned.threw
        retCode := if order.any Spawned.isError then 1 else pool.retCode
        stops := pool.stops ++ order.map Spawned.stop
        log := pool.log ++ order.flatMap Spawned.logged } := by
  induction order generalizing pool with
  | nil => simp [Scheduler.completions]
  | cons task order ih =>
    show Scheduler.completions order (Scheduler.complete pool task) = _
    rw [ih, complete_eq]
    by_cases h : task.isError <;> simp [h, Bool.or_assoc]

/-! ## The exit code -/

namespace Spawned

def Failed (task : Spawned S) : Prop := task.isError = true ∨ task.threw = true

end Spawned

namespace ThreadPool

def start : ThreadPool S := ⟨false, 0, [], []⟩

/-- the return code tells whether a task has failed, and every stop handler was called -/
def Reports (tasks : List (Spawned S)) (pool : ThreadPool S) : Prop :=
  (pool.retCode = 1 ↔ ∃ task ∈ tasks, task.Failed) ∧ pool.stops.Perm (tasks.map Spawned.stop)

end ThreadPool

theorem completions_retCode (order : List (Spawned S)) :
    (Scheduler.completions order .start).retCode = 1 ↔ ∃ task ∈ order, task.isError = true := by
  rw [completions_eq, ← List.any_eq_true]
  by_cases h : order.any Spawned.isError <;> simp [h, ThreadPool.start]

theorem completions_stops {order tasks : List (Spawned S)} (h : order.Perm tasks) :
    (Scheduler.completions order .start).stops.Perm (tasks.map Spawned.stop) := by
  rw [completions_eq]
  show ([] ++ order.map Spawned.stop).Perm _
  rw [List.nil_append]
  exact h.map _

/-- **The exit code.**  In every completion order the handlers report a failed run, unless a task
has thrown and none has ended with an error result. -/
theorem completions_report_iff (tasks order : List (Spawned S)) (h : order.Perm tasks) :
    (Scheduler.completions order .start).Reports tasks ↔
      (∀ task ∈ tasks, task.threw = false) ∨ ∃ task ∈ tasks, task.isError = true := by
  have hcode : (Scheduler.completions order .start).retCode = 1 ↔
      ∃ task ∈ tasks, task.isError = true := by
    rw [completions_retCode]
    simp only [h.mem_iff]
  constructor
  · rintro ⟨hret, -⟩
    by_cases herr : ∃ task ∈ tasks, task.isError = true
    · exact .inr herr
    · refine .inl fun task htask => ?_
      rw [← Bool.not_eq_true]
      intro hthrew
      exact herr (hcode.mp (hret.mpr ⟨task, htask, .inr hthrew⟩))
  · intro hcond
    refine ⟨hcode.trans ⟨?_, ?_⟩, completions_stops h⟩
    · rintro ⟨task, htask, herr⟩
      exact ⟨task, htask, .inl herr⟩
    · rintro ⟨task, htask, herr | hthrew⟩
      · exact ⟨task, htask, herr⟩
      · rcases hcond with hnone | hsome
        · rw [hnone task htask] at hthrew
          cases hthrew
        · exact hsome

def sampleTask (completion : Completion Unit) (stop : Nat) : Spawned Nat :=
  ⟨Unit, inferInstance, completion, stop⟩

theorem sampleTasks_report :
    let failed := sampleTask (.returned (.error ⟨.eventHandlerError, "polling failed"⟩)) 1
    let thrown := sampleTask (.thrown "bad alloc") 2
    (Scheduler.completions [thrown, failed] .start).Reports [failed, thrown] :=
  (completions_report_iff _ _ (List.Perm.swap _ _ [])).mpr (.inr ⟨_, List.mem_cons_self, rfl⟩)

/-- an exception alone leaves the exit code at zero -/
theorem thrown_not_reported :
    (Scheduler.completions [sampleTask (.thrown "stoi") 1] .start).retCode = 0 ∧
      ¬ (Scheduler.completions [sampleTask (.thrown "stoi") 1] .start).Reports
        [sampleTask (.thrown "stoi") 1] := by
  refine ⟨rfl, fun h => ?_⟩
  have hret : (0 : Int) = 1 := h.1.mpr ⟨_, List.mem_cons_self, .inr rfl⟩
  omega

end
end Evget
