import Evget.Lib.Interleaving
import Evget.Storage.DatabaseManager

/-!
# What is pushed

The data that the callers of `storeEvent` have is all that anybody pushes into the buffer.

* `Client.given`   the data of a client;
* `giving`         a protocol: what is pushed is the next data of the client;
* `prog_gives`     every client pushes its data in turn;
* `giving_step`    one step of a client.
-/

namespace Evget
open Calls

namespace DatabaseManager
variable {S : Type}

def Client.given : Client S → List Data
  | .caller events => events
  | _ => []

/-- a client pushes what is next of its data; `adds` says whether stores may be added -/
def giving (adds : Prop) : Protocol (Call S) Reply (List Data) where
  allowed
    | rest, .pushBack events => rest.head? = some events
    | _, .addStore _ => adds
    | _, _ => True
  possible _ _ _ := True
  next
    | rest, .pushBack _, _ => rest.tail
    | rest, _, _ => rest

abbrev Gives {α : Type} (adds : Prop) (rest rest' : List Data) (m : Prog (Call S) Reply α) : Prop :=
  m.Follows (giving adds) (fun p _ => p = rest') rest

variable {adds : Prop}

theorem spawnStoreData_gives (inner : Option (Nat × List Data)) (storeIn : List S)
    (rest : List Data) : Gives adds rest rest (spawnStoreData inner storeIn) := by
  cases inner with
  | none => rfl
  | some taken => exact ⟨trivial, fun _ _ => rfl⟩

theorem storeEvent_gives (nEvents : Nat) (event : Data) (rest : List Data) :
    Prog.Follows (giving adds) (fun p result => p = rest ∧ result = .ok ()) (event :: rest)
      (storeEvent (S := S) nEvents event) := by
  refine ⟨rfl, fun _ _ => ⟨trivial, fun inner _ => ⟨trivial, fun storeIn _ => ?_⟩⟩⟩
  refine (spawnStoreData_gives inner storeIn rest).bind ?_
  rintro p a rfl
  exact ⟨rfl, rfl⟩

theorem storeEvents_gives (nEvents : Nat) (events : List Data) :
    Gives adds events [] (storeEvents (S := S) nEvents events) := by
  induction events with
  | nil => rfl
  | cons event events ih =>
    refine (storeEvent_gives nEvents event events).bind ?_
    rintro p result ⟨rfl, -⟩
    exact ih

theorem storeAfterCoroutine_gives (ticks : List Tick) :
    Gives adds [] [] (storeAfterCoroutine (S := S) ticks) := by
  induction ticks with
  | nil => rfl
  | cons tick ticks ih =>
    unfold storeAfterCoroutine
    by_cases hbefore : tick.before
    · rw [if_pos hbefore]
      refine ⟨trivial, fun stopped _ => ?_⟩
      cases stopped with
      | true => exact rfl
      | false =>
        cases tick.result with
        | error e => exact rfl
        | ok u =>
          by_cases hafter : tick.after
          · rw [if_pos hafter]
            refine ⟨trivial, fun inner _ => ⟨trivial, fun storeIn _ => ?_⟩⟩
            refine (spawnStoreData_gives inner storeIn []).bind ?_
            rintro p a rfl
            exact ih
          · rw [if_neg hafter]
            exact rfl
    · rw [if_neg hbefore]
      exact rfl

theorem spawnStoreAfter_gives (ticks : List Tick) :
    Gives adds [] [] (spawnStoreAfter (S := S) ticks) := by
  refine (storeAfterCoroutine_gives ticks).bind ?_
  rintro p (_ | _ | _) rfl
  · exact rfl
  · exact ⟨trivial, fun _ _ => rfl⟩
  · exact rfl

theorem threadSteps_gives (steps : List ThreadStep) :
    Gives adds [] [] (threadSteps (S := S) steps) := by
  induction steps with
  | nil => rfl
  | cons step steps ih =>
    cases step with
    | resume k => exact ⟨trivial, fun _ _ => ih⟩
    | finish k result => exact ⟨trivial, fun _ _ => ih⟩

theorem addStores_gives (hadds : adds) (stores : List S) :
    Gives adds [] [] (addStores stores) := by
  induction stores with
  | nil => rfl
  | cons store stores ih => exact ⟨hadds, fun _ _ => ih⟩

/-- **Whoever takes steps** pushes the data that he has, and nothing else. -/
theorem prog_gives (nEvents : Nat) (client : Client S) :
    Gives True client.given [] (client.prog nEvents) := by
  cases client with
  | caller events => exact storeEvents_gives nEvents events
  | timer ticks => exact spawnStoreAfter_gives ticks
  | adder stores => exact addStores_gives trivial stores
  | thread steps => exact threadSteps_gives steps

/-! ## one step -/

theorem take_keeps (out : Option (List Data) × LockingVector Data) (m : State S) :
    (m.take out).2.pushed = m.pushed ∧ (m.take out).2.storeIn = m.storeIn := by
  obtain ⟨_ | inner, data⟩ := out <;> exact ⟨rfl, rfl⟩

theorem resume_keeps (k : Nat) (m : State S) :
    (m.resume k).pushed = m.pushed ∧ (m.resume k).storeIn = m.storeIn := by
  unfold State.resume
  split
  · exact ⟨rfl, rfl⟩
  · split
    · exact ⟨rfl, rfl⟩
    · rename_i result _ _
      cases result <;> exact ⟨rfl, rfl⟩
    · exact ⟨rfl, rfl⟩

theorem finish_keeps (k : Nat) (result : Result Unit) (m : State S) :
    (m.finish k result).pushed = m.pushed ∧ (m.finish k result).storeIn = m.storeIn := by
  unfold State.finish
  split
  · exact ⟨rfl, rfl⟩
  · split <;> exact ⟨rfl, rfl⟩

section
variable {ι : Type} [DecidableEq ι] {given rest : ι → List Data} {m : State S}

theorem giving_same (h : Remains given rest m.pushed) {m' : State S}
    (hpushed : m'.pushed = m.pushed) (i : ι) :
    Remains given (Function.update rest i (rest i)) m'.pushed := by
  rw [Function.update_eq_self, hpushed]
  exact h

/-- **One step** of a client pushes what is next of its data, or nothing. -/
theorem giving_step (h : Remains given rest m.pushed) {i : ι} {call : Call S}
    (ha : (giving adds).allowed (rest i) call) :
    Remains given (Function.update rest i ((giving adds).next (rest i) call (answer call m).1))
      (answer call m).2.pushed := by
  cases call with
  | pushBack events => exact h.give (List.cons_head?_tail ha).symm
  | intoInnerAt size => exact giving_same h (take_keeps _ m).1 i
  | intoInner => exact giving_same h (take_keeps _ m).1 i
  | snapshot => exact giving_same h rfl i
  | spawn batch data storeIn =>
    have hpushed : (answer (.spawn batch data storeIn) m).2.pushed = m.pushed := rfl
    exact giving_same h hpushed i
  | addStore store =>
    have hpushed : (answer (.addStore store) m).2.pushed = m.pushed := rfl
    exact giving_same h hpushed i
  | isStopped => exact giving_same h rfl i
  | stop =>
    have hpushed : (answer .stop m).2.pushed = m.pushed := rfl
    exact giving_same h hpushed i
  | resume k => exact giving_same h (resume_keeps k m).1 i
  | finish k result => exact giving_same h (finish_keeps k result m).1 i

end
end DatabaseManager
end Evget
