import Evget.Event.Builders
import Evget.Storage.ManagerRuns
import Mathlib.Data.Finset.Card

/-!
# How much the database manager holds

`storeEvent` pushes and then takes at `nEvents`, and between these two steps of one caller other
callers push, or the timer takes.

* `flight`              whether a client has pushed and not taken yet, and what it has taken at the
                        size;
* `Bounded`             the buffer holds fewer than `nEvents`, and one more for each client in
                        flight;
* `run_bounded`         this bound in every run;
* `Filled`, `run_filled`   what is handed over carries entries when nothing empty is pushed and
                        nothing is taken from an empty buffer;
* `idle_tick_fails`     what is handed over otherwise.
-/

set_option linter.unusedSectionVars false

namespace Evget
open Calls

namespace DatabaseManager

section
variable {S : Type}

/-! ## clients in flight -/

/-- where a client stands between `pushBack` and `intoInnerAt`, and the batches that its
`intoInnerAt` has taken -/
structure Flight where
  pushed : Bool
  triggered : List (Nat × List Data)

/-- a push is followed by the take at the size, and no other call takes at the size -/
def flight (nEvents : Nat) : Protocol (Call S) Reply Flight where
  allowed
    | ⟨false, _⟩, .intoInnerAt _ => False
    | ⟨false, _⟩, _ => True
    | ⟨true, _⟩, .intoInnerAt size => size = nEvents
    | ⟨true, _⟩, _ => False
  possible _ _ _ := True
  next
    | f, .pushBack _, _ => { f with pushed := true }
    | f, .intoInnerAt _, r => ⟨false, f.triggered ++ r.toList⟩
    | f, _, _ => f

abbrev Lands {α : Type} (nEvents : Nat) (m : Prog (Call S) Reply α) : Prop :=
  ∀ triggered, m.Follows (flight nEvents) (fun f _ => f.pushed = false) ⟨false, triggered⟩

section
variable {α β : Type} {nEvents : Nat}

theorem Lands.ret (a : α) : Lands (S := S) nEvents (.ret a) := fun _ => rfl

theorem Lands.bind {m : Prog (Call S) Reply α} {f : α → Prog (Call S) Reply β}
    (hm : Lands nEvents m) (hf : ∀ a, Lands nEvents (f a)) : Lands nEvents (m.bind f) := by
  intro triggered
  refine (hm triggered).bind ?_
  rintro ⟨pushed, triggered'⟩ a rfl
  exact hf a triggered'

theorem spawnStoreData_lands (inner : Option (Nat × List Data)) (storeIn : List S) :
    Lands nEvents (spawnStoreData inner storeIn) := by
  intro triggered
  cases inner with
  | none => rfl
  | some taken => exact ⟨trivial, fun _ _ => rfl⟩

theorem storeEvent_lands (events : Data) :
    Lands (S := S) nEvents (storeEvent nEvents events) := by
  intro triggered
  refine ⟨trivial, fun _ _ => ⟨rfl, fun inner _ => ⟨trivial, fun storeIn _ => ?_⟩⟩⟩
  exact (spawnStoreData_lands inner storeIn).bind (fun _ => .ret _) _

theorem storeEvents_lands (events : List Data) :
    Lands (S := S) nEvents (storeEvents nEvents events) := by
  induction events with
  | nil => exact .ret ()
  | cons data events ih => exact (storeEvent_lands data).bind fun _ => ih

theorem storeAfterCoroutine_lands (ticks : List Tick) :
    Lands (S := S) nEvents (storeAfterCoroutine ticks) := by
  induction ticks with
  | nil => exact .ret none
  | cons tick ticks ih =>
    unfold storeAfterCoroutine
    split
    · refine fun triggered => ⟨trivial, fun stopped _ => ?_⟩
      cases stopped with
      | true => exact rfl
      | false =>
        cases tick.result with
        | error e => exact rfl
        | ok u =>
          by_cases hafter : tick.after
          · rw [if_pos hafter]
            refine ⟨trivial, fun inner _ => ⟨trivial, fun storeIn _ => ?_⟩⟩
            exact (spawnStoreData_lands inner storeIn).bind (fun _ => ih) triggered
          · rw [if_neg hafter]
            exact rfl
    · exact .ret _

theorem addStores_lands (stores : List S) : Lands nEvents (addStores stores) := by
  induction stores with
  | nil => exact .ret ()
  | cons store stores ih => exact fun triggered => ⟨trivial, fun _ _ => ih triggered⟩

theorem threadSteps_lands (steps : List ThreadStep) :
    Lands (S := S) nEvents (threadSteps steps) := by
  induction steps with
  | nil => exact .ret ()
  | cons step steps ih =>
    cases step with
    | resume k => exact fun triggered => ⟨trivial, fun _ _ => ih triggered⟩
    | finish k result => exact fun triggered => ⟨trivial, fun _ _ => ih triggered⟩

/-- **Whoever takes steps** follows every push by the take at the size. -/
theorem prog_lands (client : Client S) : Lands nEvents (client.prog nEvents) := by
  cases client with
  | caller events => exact storeEvents_lands events
  | timer ticks =>
    refine (storeAfterCoroutine_lands ticks).bind fun out => ?_
    match out with
    | some (.error _) => exact fun _ => ⟨trivial, fun _ _ => rfl⟩
    | some (.ok _) => exact .ret ()
    | none => exact .ret ()
  | adder stores => exact addStores_lands stores
  | thread steps => exact threadSteps_lands steps

end

/-! ## the buffer -/

namespace State
variable (m : State S)

@[simp] theorem resume_data (k : Nat) : (m.resume k).data = m.data := by
  unfold resume
  split
  · rfl
  · split
    · rfl
    · rename_i result _ _
      cases result <;> rfl
    · rfl

@[simp] theorem resume_taken (k : Nat) : (m.resume k).taken = m.taken := by
  unfold resume
  split
  · rfl
  · split
    · rfl
    · rename_i result _ _
      cases result <;> rfl
    · rfl

@[simp] theorem finish_data (k : Nat) (result : Result Unit) :
    (m.finish k result).data = m.data := by
  unfold finish
  split
  · rfl
  · split <;> rfl

@[simp] theorem finish_taken (k : Nat) (result : Result Unit) :
    (m.finish k result).taken = m.taken := by
  unfold finish
  split
  · rfl
  · split <;> rfl

end State

theorem answer_intoInnerAt (size : Nat) (m : State S) :
    (m.data.inner.length < size ∧ answer (.intoInnerAt size) m = (none, m)) ∨
      (size ≤ m.data.inner.length ∧ answer (.intoInnerAt size) m
        = (some (m.taken.length, m.data.inner),
          { m with data := ⟨[]⟩, taken := m.taken ++ [m.data.inner] })) := by
  by_cases h : size ≤ m.data.inner.length
  · refine .inr ⟨h, ?_⟩
    show m.take (m.data.intoInnerAt size) = _
    rw [LockingVector.intoInnerAt, if_pos h]
    rfl
  · refine .inl ⟨Nat.lt_of_not_le h, ?_⟩
    show m.take (m.data.intoInnerAt size) = _
    rw [LockingVector.intoInnerAt, if_neg h]
    rfl

/-! ## the bound -/

variable {ι : Type} [DecidableEq ι] {nEvents : Nat} {phase : ι → Flight} {m : State S}

/-- the buffer stays below the size, but for the clients in flight; and what was taken at the size
had the size -/
structure Bounded (nEvents : Nat) (phase : ι → Flight) (m : State S) : Prop where
  buffer : 1 ≤ nEvents → ∃ flying : Finset ι, (∀ i, i ∈ flying ↔ (phase i).pushed = true) ∧
    m.data.inner.length + 1 ≤ nEvents + flying.card
  triggered : ∀ i, ∀ batch ∈ (phase i).triggered,
    m.taken[batch.1]? = some batch.2 ∧ nEvents ≤ batch.2.length

namespace Bounded

theorem same (h : Bounded nEvents phase m) (m' : State S) (hd : m'.data = m.data)
    (ht : m'.taken = m.taken) : Bounded nEvents phase m' := by
  refine ⟨?_, fun i batch hbatch => ?_⟩
  · rw [hd]
    exact h.buffer
  · rw [ht]
    exact h.triggered i batch hbatch

theorem triggered_later (h : Bounded nEvents phase m) (inner : List Data) (i : ι)
    (batch : Nat × List Data) (hbatch : batch ∈ (phase i).triggered) :
    (m.taken ++ [inner])[batch.1]? = some batch.2 ∧ nEvents ≤ batch.2.length := by
  obtain ⟨hget, hlen⟩ := h.triggered i batch hbatch
  obtain ⟨hlt, -⟩ := List.getElem?_eq_some_iff.mp hget
  rw [List.getElem?_append_left hlt]
  exact ⟨hget, hlen⟩

theorem push (h : Bounded nEvents phase m) {i : ι} (hi : (phase i).pushed = false)
    (events : Data) :
    Bounded nEvents (Function.update phase i { phase i with pushed := true }) (m.push events) := by
  refine ⟨fun hn => ?_, fun j batch hbatch => ?_⟩
  · obtain ⟨flying, hflying, hlen⟩ := h.buffer hn
    refine ⟨insert i flying, fun j => ?_, ?_⟩
    · by_cases e : j = i
      · rw [e, Function.update_self]
        exact iff_of_true (Finset.mem_insert_self i flying) rfl
      · rw [Function.update_of_ne e, Finset.mem_insert, ← hflying j]
        exact or_iff_right e
    · have hnot : i ∉ flying := by
        intro hmem
        rw [(hflying i).mp hmem] at hi
        cases hi
      rw [Finset.card_insert_of_notMem hnot]
      show (m.data.inner ++ [events]).length + 1 ≤ _
      rw [List.length_append, List.length_singleton]
      omega
  · by_cases e : j = i
    · rw [e, Function.update_self] at hbatch
      exact h.triggered i batch hbatch
    · rw [Function.update_of_ne e] at hbatch
      exact h.triggered j batch hbatch

theorem take (h : Bounded nEvents phase m) :
    Bounded nEvents phase
      { m with data := ⟨[]⟩, taken := m.taken ++ [m.data.inner] } := by
  refine ⟨fun hn => ?_, h.triggered_later m.data.inner⟩
  obtain ⟨flying, hflying, -⟩ := h.buffer hn
  refine ⟨flying, hflying, ?_⟩
  show 0 + 1 ≤ nEvents + flying.card
  omega

theorem buffer_takeAt (h : Bounded nEvents phase m) (i : ι) (triggered : List (Nat × List Data))
    (m' : State S) (hlen : m'.data.inner = [] ∨ m'.data.inner.length < nEvents)
    (hn : 1 ≤ nEvents) :
    ∃ flying : Finset ι,
      (∀ j, j ∈ flying ↔ (Function.update phase i ⟨false, triggered⟩ j).pushed = true) ∧
      m'.data.inner.length + 1 ≤ nEvents + flying.card := by
  obtain ⟨flying, hflying, -⟩ := h.buffer hn
  refine ⟨flying.erase i, fun j => ?_, ?_⟩
  · by_cases e : j = i
    · rw [e, Function.update_self]
      exact iff_of_false (Finset.notMem_erase i flying) Bool.false_ne_true
    · rw [Function.update_of_ne e, Finset.mem_erase, ← hflying j]
      exact and_iff_right e
  · rcases hlen with hnil | hlt
    · rw [hnil, List.length_nil]
      omega
    · omega

theorem takeAt (h : Bounded nEvents phase m) (i : ι) :
    Bounded nEvents (Function.update phase i
        ⟨false, (phase i).triggered ++ (answer (.intoInnerAt nEvents) m).1.toList⟩)
      (answer (.intoInnerAt nEvents) m).2 := by
  rcases answer_intoInnerAt nEvents m with ⟨hlt, e⟩ | ⟨hle, e⟩
  · rw [e]
    refine ⟨h.buffer_takeAt i _ m (.inr hlt), fun j batch hbatch => ?_⟩
    by_cases e : j = i
    · rw [e, Function.update_self] at hbatch
      exact h.triggered i batch (List.append_nil (phase i).triggered ▸ hbatch)
    · rw [Function.update_of_ne e] at hbatch
      exact h.triggered j batch hbatch
  · rw [e]
    refine ⟨h.buffer_takeAt i _ _ (.inl rfl), fun j batch hbatch => ?_⟩
    by_cases e : j = i
    · rw [e, Function.update_self] at hbatch
      rcases List.mem_append.mp hbatch with hold | hnew
      · exact h.triggered_later m.data.inner i batch hold
      · rw [List.mem_singleton.mp hnew]
        exact ⟨List.getElem?_concat_length, hle⟩
    · rw [Function.update_of_ne e] at hbatch
      exact h.triggered_later m.data.inner j batch hbatch

/-- **One step**: every call that the protocol allows keeps the bound. -/
theorem step (h : Bounded nEvents phase m) {i : ι} {call : Call S}
    (ha : (flight nEvents).allowed (phase i) call) :
    Bounded nEvents
      (Function.update phase i ((flight nEvents).next (phase i) call (answer call m).1))
      (answer call m).2 := by
  have hsame : Function.update phase i (phase i) = phase := Function.update_eq_self i phase
  rcases hi : phase i with ⟨_ | _, triggered⟩
  · rw [hi] at ha hsame
    have hpushed : (phase i).pushed = false := by rw [hi]
    cases call with
    | pushBack events =>
      have hpush := h.push hpushed events
      rw [hi] at hpush
      exact hpush
    | intoInnerAt size => exact ha.elim
    | intoInner => exact hsame.symm ▸ h.take
    | snapshot => exact hsame.symm ▸ h
    | spawn batch data storeIn => exact hsame.symm ▸ h.same _ rfl rfl
    | addStore store => exact hsame.symm ▸ h.same _ rfl rfl
    | isStopped => exact hsame.symm ▸ h
    | stop => exact hsame.symm ▸ h.same _ rfl rfl
    | resume k => exact hsame.symm ▸ h.same _ (m.resume_data k) (m.resume_taken k)
    | finish k result =>
      exact hsame.symm ▸ h.same _ (m.finish_data k result) (m.finish_taken k result)
  · rw [hi] at ha
    cases call with
    | intoInnerAt size =>
      obtain rfl : size = nEvents := ha
      have htake := h.takeAt i
      rw [hi] at htake
      exact htake
    | _ => exact ha.elim

end Bounded

/-! ## runs -/

def startFlight (nEvents : Nat) (storeIn : List S) (clients : ι → Client S) :
    Pool ι (Call S) Reply Unit (Phase S × Flight) (State S) where
  client i := (clients i).prog nEvents
  phase _ := (.idle, ⟨false, []⟩)
  object := .new storeIn

abbrev runFlight (nEvents : Nat) (storeIn : List S) (clients : ι → Client S) (sched : List ι) :
    Pool ι (Call S) Reply Unit (Phase S × Flight) (State S) :=
  (startFlight nEvents storeIn clients).run answer (protocol.prod (flight nEvents)) sched

theorem startFlight_follows (nEvents : Nat) (storeIn : List S) (clients : ι → Client S) :
    (startFlight nEvents storeIn clients).Follows (protocol.prod (flight nEvents))
      fun _ phase _ => phase.1 = .idle ∧ phase.2.pushed = false := by
  intro i
  exact (prog_idles nEvents (clients i)).prod (prog_lands (clients i) [])

/-- every batch is handed over with an entry, and at the size with `nEvents` data that carry
entries -/
structure Carries (nEvents : Nat) (p : Pool ι (Call S) Reply Unit (Phase S × Flight) (State S)) :
    Prop where
  tasks : ∀ task ∈ p.object.tasks, task.data.entries ≠ []
  passed : ∀ pass ∈ p.object.passed, pass.call.data.entries ≠ []
  triggered : ∀ i, ∀ batch ∈ (p.phase i).2.triggered,
    nEvents ≤ (batch.2.filter fun events => !events.empty).length

/-! ### nothing empty -/

/-- nothing empty is pushed, and nothing is taken from an empty buffer -/
def Call.Fills (data : LockingVector Data) : Call S → Prop
  | .pushBack events => events.empty = false
  | .intoInnerAt size => size ≤ data.inner.length → data.inner ≠ []
  | .intoInner => data.inner ≠ []
  | _ => True

def Filling (p : Pool ι (Call S) Reply Unit (Phase S × Flight) (State S)) (i : ι) : Prop :=
  ∀ call k, p.client i = .call call k → call.Fills p.object.data

/-- all data that is buffered or was taken carries entries, and no batch is empty -/
structure Filled (m : State S) : Prop where
  buffer : ∀ events ∈ m.data.inner, events.empty = false
  taken : ∀ inner ∈ m.taken, inner ≠ [] ∧ ∀ events ∈ inner, events.empty = false

namespace Filled

theorem same (h : Filled m) (m' : State S) (hd : m'.data = m.data) (ht : m'.taken = m.taken) :
    Filled m' := by
  refine ⟨?_, ?_⟩
  · rw [hd]
    exact h.buffer
  · rw [ht]
    exact h.taken

theorem take (h : Filled m) (hne : m.data.inner ≠ []) :
    Filled { m with data := ⟨[]⟩, taken := m.taken ++ [m.data.inner] } := by
  refine ⟨nofun, fun inner hinner => ?_⟩
  rcases List.mem_append.mp hinner with hold | hnew
  · exact h.taken inner hold
  · rw [List.mem_singleton.mp hnew]
    exact ⟨hne, h.buffer⟩

/-- **One step** that pushes nothing empty and takes nothing from an empty buffer. -/
theorem step (h : Filled m) (call : Call S) (hok : call.Fills m.data) :
    Filled (answer call m).2 := by
  cases call with
  | pushBack events =>
    refine ⟨fun data hdata => ?_, h.taken⟩
    rcases List.mem_append.mp hdata with hold | hnew
    · exact h.buffer data hold
    · rw [List.mem_singleton.mp hnew]
      exact hok
  | intoInnerAt size =>
    rcases answer_intoInnerAt size m with ⟨-, e⟩ | ⟨hle, e⟩
    · rw [e]
      exact h
    · rw [e]
      exact h.take (hok hle)
  | intoInner => exact h.take hok
  | snapshot => exact h
  | spawn batch data storeIn => exact h.same _ rfl rfl
  | addStore store => exact h.same _ rfl rfl
  | isStopped => exact h
  | stop => exact h.same _ rfl rfl
  | resume k => exact h.same _ (m.resume_data k) (m.resume_taken k)
  | finish k result => exact h.same _ (m.finish_data k result) (m.finish_taken k result)

theorem entries_ne (h : Filled m) {inner : List Data} (hinner : inner ∈ m.taken) :
    inner.flatMap Data.entries ≠ [] := by
  obtain ⟨hne, hfull⟩ := h.taken inner hinner
  obtain ⟨events, hevents⟩ := List.exists_mem_of_ne_nil inner hne
  intro e
  have hnil := List.flatMap_eq_nil_iff.mp e events hevents
  have hfalse := hfull events hevents
  rw [Data.empty, hnil] at hfalse
  cases hfalse

end Filled

/-! ### every run -/

def Holds (nEvents : Nat) (base : List S) (phase : ι → Phase S × Flight) (m : State S) : Prop :=
  Kept base (Prod.fst ∘ phase) m ∧ Bounded nEvents (Prod.snd ∘ phase) m

theorem Holds.step {base : List S} {phase : ι → Phase S × Flight} (h : Holds nEvents base phase m)
    {i : ι} {call : Call S} (ha : (protocol.prod (flight nEvents)).allowed (phase i) call) :
    (protocol.prod (flight nEvents)).possible (phase i) call (answer call m).1 ∧
      Holds nEvents base (Function.update phase i
        ((protocol.prod (flight nEvents)).next (phase i) call (answer call m).1))
        (answer call m).2 := by
  unfold Holds
  rw [Function.comp_update, Function.comp_update]
  exact ⟨⟨trivial, trivial⟩, h.1.step ha.1, h.2.step ha.2⟩

theorem Holds.start (nEvents : Nat) (storeIn : List S) :
    Holds nEvents storeIn (fun _ : ι => ((.idle, ⟨false, []⟩) : Phase S × Flight))
      (State.new storeIn) := by
  refine ⟨Kept.new storeIn, fun hn => ⟨∅, fun i => ?_, hn⟩, nofun⟩
  exact iff_of_false (Finset.notMem_empty i) Bool.false_ne_true

/-- **The bound**: in every run the buffer holds fewer than `nEvents`, and one more for each caller
that has pushed and not taken yet; and every batch taken at the size has `nEvents` or more. -/
theorem run_bounded (nEvents : Nat) (hn : 1 ≤ nEvents) (storeIn : List S) (clients : ι → Client S)
    (sched : List ι) :
    let p := runFlight nEvents storeIn clients sched
    (∃ flying : Finset ι, (∀ i, i ∈ flying ↔ (p.phase i).2.pushed = true) ∧
        p.object.data.inner.length ≤ nEvents - 1 + flying.card) ∧
      ((∀ i, (p.phase i).2.pushed = false) → p.object.data.inner.length < nEvents) ∧
      ∀ i, ∀ batch ∈ (p.phase i).2.triggered,
        p.object.taken[batch.1]? = some batch.2 ∧ nEvents ≤ batch.2.length := by
  intro p
  obtain ⟨-, -, hB⟩ := Pool.run_inv (Holds nEvents storeIn)
    (fun p i call k _ _ h ha => h.step ha)
    (startFlight_follows nEvents storeIn clients) (Holds.start nEvents storeIn) sched
    (Pool.under_true ..)
  obtain ⟨flying, hmem, hcard⟩ := hB.buffer hn
  have hflying : ∀ i, i ∈ flying ↔ (p.phase i).2.pushed = true := hmem
  have hlen : p.object.data.inner.length + 1 ≤ nEvents + flying.card := hcard
  refine ⟨⟨flying, hflying, by omega⟩, fun hnone => ?_, hB.triggered⟩
  have hempty : flying = ∅ := by
    refine Finset.eq_empty_of_forall_notMem fun i hi => ?_
    have hfalse := hnone i
    rw [(hflying i).mp hi] at hfalse
    cases hfalse
  rw [hempty, Finset.card_empty] at hlen
  exact hlen

/-- **Nothing empty**: in every run that pushes nothing empty and takes nothing from an empty
buffer, every batch is handed over with an entry, and at the size with `nEvents` data that carry
entries. -/
theorem run_filled (nEvents : Nat) (storeIn : List S) (clients : ι → Client S) (sched : List ι)
    (hfills : (startFlight nEvents storeIn clients).Under answer
      (protocol.prod (flight nEvents)) Filling sched) :
    Carries nEvents (runFlight nEvents storeIn clients sched) := by
  have hinit : Holds nEvents storeIn (startFlight nEvents storeIn clients).phase
      (startFlight nEvents storeIn clients).object ∧
      Filled (startFlight nEvents storeIn clients).object :=
    ⟨Holds.start nEvents storeIn, nofun, nofun⟩
  obtain ⟨-, ⟨hK, hB⟩, hF⟩ := Pool.run_inv (fun phase m => Holds nEvents storeIn phase m ∧ Filled m)
    (fun p i call k hcall hok h ha => ⟨(h.1.step ha).1, (h.1.step ha).2,
      h.2.step call (hok call k hcall)⟩)
    (startFlight_follows nEvents storeIn clients) hinit sched hfills
  have htask : ∀ task ∈ (runFlight nEvents storeIn clients sched).object.tasks,
      task.data.entries ≠ [] := by
    intro task htask
    obtain ⟨inner, hinner, hentries⟩ := (hK.tasks task htask).batch
    rw [hentries]
    exact hF.entries_ne (List.mem_of_getElem? hinner)
  refine ⟨htask, fun pass hpass => ?_, fun i batch hbatch => ?_⟩
  · obtain ⟨task, hmem, hb⟩ := List.mem_map.mp (hK.passed pass hpass)
    have hpasses := (hK.tasks task hmem).passes
    have hpass' : pass ∈ (runFlight nEvents storeIn clients sched).object.passed.filter
        fun pass => pass.batch = task.batch := List.mem_filter.mpr ⟨hpass, decide_eq_true hb.symm⟩
    rw [hpasses] at hpass'
    obtain ⟨store, -, rfl⟩ := List.mem_map.mp hpass'
    exact htask task hmem
  · obtain ⟨htaken, hlen⟩ := hB.triggered i batch hbatch
    have hall : ∀ events ∈ batch.2, (!events.empty) = true := by
      intro events hevents
      rw [(hF.taken batch.2 (List.mem_of_getElem? htaken)).2 events hevents]
      rfl
    rw [List.filter_eq_self.mpr hall]
    exact hlen

end

/-! ### two callers that push before either takes, and the timer -/

def press : Data := Builder.build ({ action_ := some .press } : Key) .new

def twoCallers : Bool → Client Nat := fun _ => .caller [press]

theorem both_pushed_bounded :
    let p := runFlight 2 [0] twoCallers [false, true]
    p.object.data.inner.length = 2 ∧
      ∃ flying : Finset Bool, (∀ i, i ∈ flying ↔ (p.phase i).2.pushed = true) ∧
        p.object.data.inner.length ≤ 2 - 1 + flying.card :=
  ⟨rfl, (run_bounded 2 (by decide) [0] twoCallers [false, true]).1⟩

theorem both_taken_filled :
    let p := runFlight 2 [0] twoCallers [false, true, false, false, false]
    Carries 2 p ∧ p.object.tasks.map Task.data = [press.mergeWith press] := by
  refine ⟨?_, rfl⟩
  apply run_filled 2 [0] twoCallers
  refine ⟨?_, ?_, ?_, ?_, ?_, trivial⟩
  all_goals
    intro call k hcall
    cases hcall
  · rfl
  · rfl
  · exact fun _ => List.cons_ne_nil press [press]
  · trivial
  · trivial

def idleTick : Bool → Client Nat
  | false => .timer [⟨true, .ok (), true⟩]
  | true => .thread [.resume 0]

def emptyCaller : Bool → Client Nat
  | false => .caller [.new]
  | true => .thread [.resume 0]

/-- **An empty batch**: a tick over an empty buffer hands a batch without entries to the store, and
so does the push of data without entries, which is counted towards the size. -/
theorem idle_tick_fails :
    ¬ Carries 1 (runFlight 1 [0] idleTick [false, false, false, false, true]) ∧
      ¬ Carries 1 (runFlight 1 [0] emptyCaller [false, false, false, false, true]) ∧
      ((runFlight 1 [0] emptyCaller [false, false]).phase false).2.triggered = [(0, [.new])] := by
  refine ⟨fun h => ?_, fun h => ?_, rfl⟩
  · exact h.passed ⟨0, ⟨0, .new⟩⟩ (List.mem_singleton_self _) rfl
  · exact h.passed ⟨0, ⟨0, .new⟩⟩ (List.mem_singleton_self _) rfl

end DatabaseManager
end Evget
