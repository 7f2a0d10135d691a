import Evget.Async.LockingVector
import Evget.Error
import Evget.Event.Entry
import Evget.Lib.Prog

/-!
# The database manager

Callers of `storeEvent` and the timer push to and take from one buffer.  What is taken is merged and
handed to a coroutine, which the threads of the scheduler run later, in any order they like.

* `storeEvent`, `storeAfterCoroutine`   the programs of a caller and of the timer;
* `storeCoroutine`                      the program of a coroutine, whose calls are those on stores;
* `State`                               the buffer, the stores, the scheduler and its coroutines;
* `answer`                              the steps, each of which is atomic in the source.

A call on a store is two steps, its start and its return, because other threads run between them.
The result with which a store returns is an argument of the second step.

`State` also keeps a history that no program reads: what has been pushed, what has been taken, and
which data has been passed to which store.  A batch that is taken has a number, its place in the
order of extraction.
-/

namespace Evget
open Calls

namespace DatabaseManager

/-! ## coroutines -/

/-- `store->StoreEvent(data)` -/
structure StoreCall (S : Type) where
  store : S
  data : Data
deriving DecidableEq, Repr

abbrev Coroutine (S : Type) := Prog (StoreCall S) (fun _ => Result Unit) (Result Unit)

section
variable {S : Type}

/-- each store in turn, up to the first that returns an error -/
def storeCoroutine (data : Data) : List S → Coroutine S
  | [] => .ret (.ok ())
  | store :: storeIn => .call ⟨store, data⟩ fun
    | .error e => .ret (.error e)
    | .ok () => storeCoroutine data storeIn

structure Task (S : Type) where
  batch : Nat
  data : Data
  storeIn : List S
  coroutine : Coroutine S
  /-- whether a call on a store has started and not returned -/
  calling : Bool
  /-- the results of the calls that have returned -/
  answers : List (Result Unit)

def Task.spawn (batch : Nat) (data : Data) (storeIn : List S) : Task S :=
  ⟨batch, data, storeIn, storeCoroutine data storeIn, false, []⟩

/-! ## the state -/

structure Pass (S : Type) where
  batch : Nat
  call : StoreCall S
deriving DecidableEq, Repr

structure State (S : Type) where
  data : LockingVector Data
  storeIn : List S
  stopped : Bool
  tasks : List (Task S)
  pushed : List Data
  taken : List (List Data)
  passed : List (Pass S)

namespace State

def new (storeIn : List S) : State S := ⟨.new, storeIn, false, [], [], [], []⟩

def push (events : Data) (m : State S) : State S :=
  { m with data := m.data.pushBack events, pushed := m.pushed ++ [events] }

/-- a batch that is taken gets the next number -/
def take (out : Option (List Data) × LockingVector Data) (m : State S) :
    Option (Nat × List Data) × State S :=
  match out with
  | (none, data) => (none, { m with data := data })
  | (some inner, data) =>
    (some (m.taken.length, inner), { m with data := data, taken := m.taken ++ [inner] })

def resultHandler (result : Result Unit) (m : State S) : State S :=
  match result with
  | .ok () => m
  | .error _ => { m with stopped := true }

/-- a thread resumes a coroutine that is not inside a call: the next call starts, or the result of
the ended coroutine is handled -/
def resume (k : Nat) (m : State S) : State S :=
  match m.tasks[k]? with
  | none => m
  | some task =>
    match task.calling, task.coroutine with
    | true, _ => m
    | false, .ret result => m.resultHandler result
    | false, .call c _ =>
      { m with
        tasks := m.tasks.set k { task with calling := true }
        passed := m.passed ++ [⟨task.batch, c⟩] }

/-- the store returns from the call -/
def finish (k : Nat) (result : Result Unit) (m : State S) : State S :=
  match m.tasks[k]? with
  | none => m
  | some task =>
    match task.calling, task.coroutine with
    | true, .call _ next =>
      { m with
        tasks := m.tasks.set k { task with
          coroutine := next result
          calling := false
          answers := task.answers ++ [result] } }
    | _, _ => m

end State

/-! ## the steps -/

inductive Call (S : Type) where
  | pushBack (events : Data)
  | intoInnerAt (size : Nat)
  | intoInner
  | snapshot
  | spawn (batch : Nat) (data : Data) (storeIn : List S)
  | addStore (store : S)
  | isStopped
  | stop
  | resume (task : Nat)
  | finish (task : Nat) (result : Result Unit)

abbrev Reply : Call S → Type
  | .pushBack _ => Unit
  | .intoInnerAt _ => Option (Nat × List Data)
  | .intoInner => Option (Nat × List Data)
  | .snapshot => List S
  | .spawn .. => Unit
  | .addStore _ => Unit
  | .isStopped => Bool
  | .stop => Unit
  | .resume _ => Unit
  | .finish .. => Unit

def answer : Exec (Call S) Reply (State S)
  | .pushBack events, m => ((), m.push events)
  | .intoInnerAt size, m => m.take (m.data.intoInnerAt size)
  | .intoInner, m => m.take m.data.intoInner
  | .snapshot, m => (m.storeIn, m)
  | .spawn batch data storeIn, m =>
    ((), { m with tasks := m.tasks ++ [Task.spawn batch data storeIn] })
  | .addStore store, m => ((), { m with storeIn := m.storeIn ++ [store] })
  | .isStopped, m => (m.stopped, m)
  | .stop, m => ((), { m with stopped := true })
  | .resume k, m => ((), m.resume k)
  | .finish k result, m => ((), m.finish k result)

/-! ## the programs -/

def mergeAll (inner : List Data) : Data := inner.foldl Data.mergeWith .new

def spawnStoreData (inner : Option (Nat × List Data)) (storeIn : List S) :
    Prog (Call S) Reply Unit :=
  match inner with
  | none => .ret ()
  | some (batch, inner) => .call (.spawn batch (mergeAll inner) storeIn) .ret

def storeEvent (nEvents : Nat) (events : Data) : Prog (Call S) Reply (Result Unit) :=
  .call (.pushBack events) fun _ =>
  .call (.intoInnerAt nEvents) fun inner =>
  .call .snapshot fun storeIn =>
  (spawnStoreData inner storeIn).bind fun _ => .ret (.ok ())

/-- a round of the timer: whether the scheduler can be locked before the tick and after it, and the
result of the tick -/
structure Tick where
  before : Bool
  result : Result Unit
  after : Bool

/-- the timer over the rounds of a run; `none` when it still waits for a tick -/
def storeAfterCoroutine : List Tick → Prog (Call S) Reply (Option (Result Unit))
  | [] => .ret none
  | tick :: ticks =>
    if tick.before then
      .call .isStopped fun
        | true => .ret (some (.ok ()))
        | false =>
          match tick.result with
          | .error e => .ret (some (.error (e.as .databaseManagerError)))
          | .ok () =>
            if tick.after then
              .call .intoInner fun inner =>
              .call .snapshot fun storeIn =>
              (spawnStoreData inner storeIn).bind fun _ => storeAfterCoroutine ticks
            else .ret (some (.ok ()))
    else .ret (some (.ok ()))

/-! ## who takes steps -/

inductive ThreadStep where
  | resume (task : Nat)
  | finish (task : Nat) (result : Result Unit)

inductive Client (S : Type) where
  | caller (events : List Data)
  | timer (ticks : List Tick)
  | adder (stores : List S)
  | thread (steps : List ThreadStep)

def storeEvents (nEvents : Nat) : List Data → Prog (Call S) Reply Unit
  | [] => .ret ()
  | events :: rest => (storeEvent nEvents events).bind fun _ => storeEvents nEvents rest

def spawnStoreAfter (ticks : List Tick) : Prog (Call S) Reply Unit :=
  (storeAfterCoroutine ticks).bind fun
    | some (.error _) => .call .stop .ret
    | _ => .ret ()

def addStores : List S → Prog (Call S) Reply Unit
  | [] => .ret ()
  | store :: stores => .call (.addStore store) fun _ => addStores stores

def ThreadStep.call : ThreadStep → Call S
  | .resume k => .resume k
  | .finish k result => .finish k result

def threadSteps : List ThreadStep → Prog (Call S) Reply Unit
  | [] => .ret ()
  | step :: steps => .call step.call fun _ => threadSteps steps

def Client.prog (nEvents : Nat) : Client S → Prog (Call S) Reply Unit
  | .caller events => storeEvents nEvents events
  | .timer ticks => spawnStoreAfter ticks
  | .adder stores => addStores stores
  | .thread steps => threadSteps steps

end
end DatabaseManager
end Evget
