import Evget.Storage.ManagerFeeding
import Mathlib.Data.List.Nodup

/-!
# Runs of the database manager

Any number of callers, timers and threads, one step of one of them at a time.

* `prog_idles`       who takes a batch takes a snapshot and spawns a coroutine for it, and nothing
                     else in between;
* `Task.Sound`       what a coroutine has been given and what it has passed on;
* `Kept`             the invariant of the manager;
* `run_delivers`     in every run nothing that is pushed is lost, duplicated or reordered, and every
                     batch is passed once to each store of its snapshot, up to the first error.
-/

set_option linter.unusedSectionVars false

namespace Evget
open Calls

namespace DatabaseManager

section
variable {S : Type}

@[simp] theorem mergeAll_entries (inner : List Data) :
    (mergeAll inner).entries = inner.flatMap Data.entries := by
  have h : ∀ (out : Data), (inner.foldl Data.mergeWith out).entries
      = out.entries ++ inner.flatMap Data.entries := by
    induction inner with
    | nil => intro out; exact (List.append_nil _).symm
    | cons data inner ih =>
      intro out
      rw [List.foldl_cons, ih, List.flatMap_cons, ← List.append_assoc]
      rfl
  exact h .new

/-! ## the protocol of a client -/

/-- what a client holds: nothing, a batch that it has taken, or a batch with its snapshot -/
inductive Phase (S : Type) where
  | idle
  | taken (batch : Nat) (inner : List Data)
  | ready (batch : Nat) (inner : List Data) (storeIn : List S)

namespace Phase

def batch : Phase S → Option Nat
  | .idle => none
  | .taken batch _ => some batch
  | .ready batch _ _ => some batch

def ofTake : Option (Nat × List Data) → Phase S
  | none => .idle
  | some (batch, inner) => .taken batch inner

end Phase

def protocol : Protocol (Call S) Reply (Phase S) where
  allowed
    | .idle, .spawn .. => False
    | .idle, _ => True
    | .taken .., .snapshot => True
    | .taken .., _ => False
    | .ready batch inner storeIn, .spawn batch' data storeIn' =>
      batch' = batch ∧ data = mergeAll inner ∧ storeIn' = storeIn
    | .ready .., _ => False
  possible _ _ _ := True
  next
    | .idle, .intoInnerAt _, r => .ofTake r
    | .idle, .intoInner, r => .ofTake r
    | .taken batch inner, .snapshot, r => .ready batch inner r
    | _, _, _ => .idle

abbrev Idles {α : Type} (m : Prog (Call S) Reply α) : Prop :=
  m.Follows protocol (fun p _ => p = .idle) .idle

/-- after the extraction the snapshot, and then the coroutine for what was taken -/
theorem spawn_follows {α : Type} (inner : Option (Nat × List Data))
    (k : Unit → Prog (Call S) Reply α) (hk : Idles (k ())) :
    Prog.Follows protocol (fun p _ => p = .idle) (.ofTake inner)
      (.call .snapshot fun storeIn => (spawnStoreData inner storeIn).bind k) := by
  cases inner with
  | none => exact ⟨trivial, fun _ _ => hk⟩
  | some taken =>
    obtain ⟨batch, inner⟩ := taken
    refine ⟨trivial, fun storeIn _ => ?_⟩
    exact ⟨⟨rfl, rfl, rfl⟩, fun _ _ => hk⟩

theorem storeEvent_idles (nEvents : Nat) (events : Data) :
    Idles (storeEvent (S := S) nEvents events) := by
  refine ⟨trivial, fun _ _ => ⟨trivial, fun inner _ => ?_⟩⟩
  exact spawn_follows inner _ rfl

theorem storeEvents_idles (nEvents : Nat) (events : List Data) :
    Idles (storeEvents (S := S) nEvents events) := by
  induction events with
  | nil => exact rfl
  | cons data events ih =>
    refine (storeEvent_idles nEvents data).bind ?_
    rintro p a rfl
    exact ih

theorem storeAfterCoroutine_idles (ticks : List Tick) :
    Idles (storeAfterCoroutine (S := S) ticks) := by
  induction ticks with
  | nil => exact rfl
  | cons tick ticks ih =>
    unfold storeAfterCoroutine
    by_cases hbefore : tick.before
    · rw [if_pos hbefore]
      refine ⟨trivial, fun stopped _ => ?_⟩
      cases stopped with
      | true => exact rfl
      | false =>
        cases hresult : tick.result with
        | error e => exact rfl
        | ok u =>
          by_cases hafter : tick.after
          · rw [if_pos hafter]
            exact ⟨trivial, fun inner _ => spawn_follows inner _ ih⟩
          · rw [if_neg hafter]
            exact rfl
    · rw [if_neg hbefore]
      exact rfl

/-- **Whoever takes steps** spawns a coroutine for each batch that it takes. -/
theorem prog_idles (nEvents : Nat) (client : Client S) : Idles (client.prog nEvents) := by
  cases client with
  | caller events => exact storeEvents_idles nEvents events
  | timer ticks =>
    refine (storeAfterCoroutine_idles ticks).bind ?_
    rintro p (_ | _ | _) rfl
    · exact rfl
    · exact ⟨trivial, fun _ _ => rfl⟩
    · exact rfl
  | adder stores =>
    show Idles (addStores stores)
    induction stores with
    | nil => exact rfl
    | cons store stores ih => exact ⟨trivial, fun _ _ => ih⟩
  | thread steps =>
    show Idles (threadSteps steps)
    induction steps with
    | nil => exact rfl
    | cons step steps ih =>
      cases step with
      | resume k => exact ⟨trivial, fun _ _ => ih⟩
      | finish k result => exact ⟨trivial, fun _ _ => ih⟩

/-! ## what a coroutine does -/

/-- the coroutine has asked stores in turn, with these answers, and may be inside the next call -/
inductive Stands (storeIn : List S) (data : Data) : List (Result Unit) → Bool → Coroutine S → Prop
  | asking (n : Nat) (calling : Bool) (h : n + calling.toNat ≤ storeIn.length) :
    Stands storeIn data (List.replicate n (.ok ())) calling (storeCoroutine data (storeIn.drop n))
  | failed (n : Nat) (e : Error) (h : n < storeIn.length) :
    Stands storeIn data (List.replicate n (.ok ()) ++ [.error e]) false (.ret (.error e))

/-- all stores have answered with a success, or the last one asked with an error -/
def UpToError (storeIn : List S) (answers : List (Result Unit)) (result : Result Unit) : Prop :=
  (answers = List.replicate storeIn.length (.ok ()) ∧ result = .ok ()) ∨
    ∃ n e, n < storeIn.length ∧ answers = List.replicate n (.ok ()) ++ [.error e] ∧
      result = .error e

namespace Stands
variable {storeIn : List S} {data : Data} {answers : List (Result Unit)} {calling : Bool}

theorem start : Stands storeIn data [] false (storeCoroutine data storeIn) :=
  .asking 0 false (Nat.zero_le _)

theorem next {c : StoreCall S} {k : Result Unit → Coroutine S}
    (h : Stands storeIn data answers calling (.call c k)) :
    ∃ store, storeIn[answers.length]? = some store ∧ c = ⟨store, data⟩ ∧
      Stands storeIn data answers true (.call c k) ∧
        ∀ result, Stands storeIn data (answers ++ [result]) false (k result) := by
  generalize hco : (.call c k : Coroutine S) = coroutine at h
  cases h with
  | failed n e h => cases hco
  | asking n calling h =>
    by_cases hn : n < storeIn.length
    · rw [List.drop_eq_getElem_cons hn] at hco ⊢
      cases hco
      refine ⟨storeIn[n], ?_, rfl, ?_, ?_⟩
      · rw [List.length_replicate]
        exact List.getElem?_eq_getElem hn
      · have hstep : Stands storeIn data _ true _ := .asking n true hn
        rw [List.drop_eq_getElem_cons hn] at hstep
        exact hstep
      · intro result
        cases result with
        | error e => exact .failed n e hn
        | ok u =>
          rw [← List.replicate_succ']
          exact .asking (n + 1) false hn
    · rw [List.drop_eq_nil_of_le (Nat.le_of_not_lt hn)] at hco
      cases hco

theorem ended {result : Result Unit} (h : Stands storeIn data answers calling (.ret result)) :
    calling = false ∧ UpToError storeIn answers result := by
  generalize hco : (.ret result : Coroutine S) = coroutine at h
  cases h with
  | failed n e h =>
    cases hco
    exact ⟨rfl, .inr ⟨n, e, h, rfl, rfl⟩⟩
  | asking n calling h =>
    by_cases hn : n < storeIn.length
    · rw [List.drop_eq_getElem_cons hn] at hco
      cases hco
    · have hlen : n = storeIn.length ∧ calling = false := by
        cases calling with
        | true =>
          have : n + 1 ≤ storeIn.length := h
          omega
        | false =>
          have : n ≤ storeIn.length := h
          exact ⟨by omega, rfl⟩
      obtain ⟨rfl, rfl⟩ := hlen
      rw [List.drop_length] at hco
      cases hco
      exact ⟨rfl, .inl ⟨rfl, rfl⟩⟩

end Stands

/-! ## the invariant -/

/-- what a coroutine has been given, and what it has passed on so far -/
structure Task.Sound (base : List S) (m : State S) (task : Task S) : Prop where
  batch : ∃ inner, m.taken[task.batch]? = some inner ∧
    task.data.entries = inner.flatMap Data.entries
  snapshot : base <+: task.storeIn ∧ task.storeIn <+: m.storeIn
  stands : Stands task.storeIn task.data task.answers task.calling task.coroutine
  passes : (m.passed.filter fun pass => pass.batch = task.batch)
    = (task.storeIn.take (task.answers.length + task.calling.toNat)).map
        fun store => ⟨task.batch, store, task.data⟩

/-- what a client holds has been taken and has no coroutine yet -/
def Phase.Holds (base : List S) (m : State S) : Phase S → Prop
  | .idle => True
  | .taken batch inner => m.taken[batch]? = some inner ∧ batch ∉ m.tasks.map Task.batch
  | .ready batch inner storeIn =>
    (m.taken[batch]? = some inner ∧ batch ∉ m.tasks.map Task.batch) ∧
      base <+: storeIn ∧ storeIn <+: m.storeIn

variable {ι : Type} [DecidableEq ι]

/-- **The invariant**: everything pushed has been taken or is in the buffer, and every batch is held
by one client or has been given to one coroutine. -/
structure Kept (base : List S) (phase : ι → Phase S) (m : State S) : Prop where
  buffer : m.taken.flatten ++ m.data.inner = m.pushed
  stores : base <+: m.storeIn
  tasks : ∀ task ∈ m.tasks, task.Sound base m
  nodup : (m.tasks.map Task.batch).Nodup
  passed : ∀ pass ∈ m.passed, pass.batch ∈ m.tasks.map Task.batch
  held : ∀ i, (phase i).Holds base m
  one : ∀ i j batch, (phase i).batch = some batch → (phase j).batch = some batch → i = j
  cover : ∀ batch < m.taken.length,
    batch ∈ m.tasks.map Task.batch ∨ ∃ i, (phase i).batch = some batch

/-! ### tasks in a list -/

theorem map_batch_set {tasks : List (Task S)} {k : Nat} {task task' : Task S}
    (hk : tasks[k]? = some task) (hb : task'.batch = task.batch) :
    (tasks.set k task').map Task.batch = tasks.map Task.batch := by
  obtain ⟨hlt, rfl⟩ := List.getElem?_eq_some_iff.mp hk
  have hlt' : k < (tasks.map Task.batch).length := by rwa [List.length_map]
  have hself : tasks[k].batch = (tasks.map Task.batch)[k] := (List.getElem_map _).symm
  rw [List.map_set, hb, hself, List.set_getElem_self]

theorem mem_set_batch {tasks : List (Task S)} {k : Nat} {task task' u : Task S}
    (hk : tasks[k]? = some task) (hn : (tasks.map Task.batch).Nodup) (hu : u ∈ tasks.set k task') :
    u = task' ∨ (u ∈ tasks ∧ u.batch ≠ task.batch) := by
  obtain ⟨j, hj⟩ := List.mem_iff_getElem?.mp hu
  rw [List.getElem?_set] at hj
  by_cases e : k = j
  · rw [if_pos e] at hj
    split at hj
    · exact .inl (Option.some.inj hj).symm
    · cases hj
  · rw [if_neg e] at hj
    refine .inr ⟨List.mem_iff_getElem?.mpr ⟨j, hj⟩, ?_⟩
    intro hb
    obtain ⟨hlt, -⟩ := List.getElem?_eq_some_iff.mp hk
    have hkj : (tasks.map Task.batch)[k]? = (tasks.map Task.batch)[j]? := by
      rw [List.getElem?_map, List.getElem?_map, hk, hj]
      exact congrArg some hb.symm
    exact e ((List.getElem?_inj (by simpa using hlt) hn).mp hkj)

theorem getElem?_later {α : Type} {l l' : List α} (h : l <+: l') {n : Nat} {a : α}
    (hn : l[n]? = some a) : l'[n]? = some a := by
  obtain ⟨rest, rfl⟩ := h
  obtain ⟨hlt, -⟩ := List.getElem?_eq_some_iff.mp hn
  rw [List.getElem?_append_left hlt, hn]

theorem Task.Sound.later {base : List S} {m m' : State S} {task : Task S} (h : task.Sound base m)
    (ht : m.taken <+: m'.taken) (hs : m.storeIn <+: m'.storeIn)
    (hp : (m'.passed.filter fun pass => pass.batch = task.batch)
      = m.passed.filter fun pass => pass.batch = task.batch) : task.Sound base m' := by
  obtain ⟨inner, hinner, hdata⟩ := h.batch
  exact ⟨⟨inner, getElem?_later ht hinner, hdata⟩,
    ⟨h.snapshot.1, h.snapshot.2.trans hs⟩, h.stands, hp.trans h.passes⟩

theorem Phase.Holds.later {base : List S} {m m' : State S} {p : Phase S} (h : p.Holds base m)
    (ht : m.taken <+: m'.taken) (hs : m.storeIn <+: m'.storeIn)
    (hb : ∀ batch, p.batch = some batch → batch ∉ m'.tasks.map Task.batch) : p.Holds base m' := by
  cases p with
  | idle => trivial
  | taken batch inner => exact ⟨getElem?_later ht h.1, hb batch rfl⟩
  | ready batch inner storeIn =>
    exact ⟨⟨getElem?_later ht h.1.1, hb batch rfl⟩, h.2.1, h.2.2.trans hs⟩

theorem Phase.Holds.batch_lt {base : List S} {m : State S} {p : Phase S} (h : p.Holds base m)
    {batch : Nat} (hb : p.batch = some batch) :
    batch < m.taken.length ∧ batch ∉ m.tasks.map Task.batch := by
  cases p with
  | idle => cases hb
  | taken b inner =>
    cases hb
    exact ⟨(List.getElem?_eq_some_iff.mp h.1).1, h.2⟩
  | ready b inner storeIn =>
    cases hb
    exact ⟨(List.getElem?_eq_some_iff.mp h.1.1).1, h.1.2⟩

theorem Task.Sound.batch_lt {base : List S} {m : State S} {task : Task S}
    (h : task.Sound base m) : task.batch < m.taken.length := by
  obtain ⟨inner, hinner, -⟩ := h.batch
  exact (List.getElem?_eq_some_iff.mp hinner).1

/-! ## what each step keeps -/

namespace Kept
variable {base : List S} {phase : ι → Phase S} {m : State S}

theorem grow (h : Kept base phase m) (m' : State S) (ht : m.taken <+: m'.taken)
    (hs : m.storeIn <+: m'.storeIn) (htasks : m'.tasks = m.tasks) (hpassed : m'.passed = m.passed) :
    (∀ task ∈ m'.tasks, task.Sound base m') ∧ ∀ i, (phase i).Holds base m' := by
  refine ⟨fun task htask => ?_, fun i => ?_⟩
  · rw [htasks] at htask
    exact (h.tasks task htask).later ht hs (by rw [hpassed])
  · refine (h.held i).later ht hs fun b hb => ?_
    rw [htasks]
    exact ((h.held i).batch_lt hb).2

theorem push (h : Kept base phase m) (events : Data) : Kept base phase (m.push events) := by
  obtain ⟨htasks, hheld⟩ := h.grow (m.push events) List.prefix_rfl List.prefix_rfl rfl rfl
  refine ⟨?_, h.stores, htasks, h.nodup, h.passed, hheld, h.one, h.cover⟩
  show m.taken.flatten ++ (m.data.inner ++ [events]) = m.pushed ++ [events]
  rw [← List.append_assoc, h.buffer]

theorem addStore (h : Kept base phase m) (store : S) :
    Kept base phase { m with storeIn := m.storeIn ++ [store] } := by
  have hs : m.storeIn <+: m.storeIn ++ [store] := List.prefix_append _ _
  obtain ⟨htasks, hheld⟩ := h.grow { m with storeIn := m.storeIn ++ [store] } List.prefix_rfl hs
    rfl rfl
  exact ⟨h.buffer, h.stores.trans hs, htasks, h.nodup, h.passed, hheld, h.one, h.cover⟩

theorem stop (h : Kept base phase m) (stopped : Bool) :
    Kept base phase { m with stopped := stopped } := by
  obtain ⟨htasks, hheld⟩ := h.grow { m with stopped := stopped } List.prefix_rfl List.prefix_rfl
    rfl rfl
  exact ⟨h.buffer, h.stores, htasks, h.nodup, h.passed, hheld, h.one, h.cover⟩

theorem take (h : Kept base phase m) {i : ι} (hi : phase i = .idle)
    {out : Option (List Data) × LockingVector Data} (hout : m.data.Takes out) :
    Kept base (Function.update phase i (.ofTake (m.take out).1)) (m.take out).2 := by
  rcases hout with rfl | rfl
  · show Kept base (Function.update phase i .idle) m
    rw [← hi, Function.update_eq_self]
    exact h
  · show Kept base (Function.update phase i (.taken m.taken.length m.data.inner))
      { m with data := ⟨[]⟩, taken := m.taken ++ [m.data.inner] }
    have ht : m.taken <+: m.taken ++ [m.data.inner] := List.prefix_append _ _
    have hnew : m.taken.length ∉ m.tasks.map Task.batch := by
      intro hmem
      obtain ⟨task, htask, hb⟩ := List.mem_map.mp hmem
      have hlt := (h.tasks task htask).batch_lt
      omega
    have hother : ∀ j, (phase j).batch ≠ some m.taken.length := by
      intro j hj
      exact Nat.lt_irrefl _ ((h.held j).batch_lt hj).1
    obtain ⟨htasks, hheld⟩ := h.grow
      { m with data := ⟨[]⟩, taken := m.taken ++ [m.data.inner] } ht List.prefix_rfl rfl rfl
    refine ⟨?_, h.stores, htasks, h.nodup, h.passed, fun j => ?_, fun j j' b hj hj' => ?_,
      fun b hb => ?_⟩
    · rw [List.flatten_append, List.flatten_singleton, List.append_nil]
      exact h.buffer
    · by_cases e : j = i
      · rw [e, Function.update_self]
        exact ⟨List.getElem?_concat_length, hnew⟩
      · rw [Function.update_of_ne e]
        exact hheld j
    · by_cases e : j = i <;> by_cases e' : j' = i
      · rw [e, e']
      · rw [e, Function.update_self] at hj
        rw [Function.update_of_ne e'] at hj'
        cases hj
        exact absurd hj' (hother j')
      · rw [e', Function.update_self] at hj'
        rw [Function.update_of_ne e] at hj
        cases hj'
        exact absurd hj (hother j)
      · rw [Function.update_of_ne e] at hj
        rw [Function.update_of_ne e'] at hj'
        exact h.one j j' b hj hj'
    · rw [List.length_append, List.length_singleton] at hb
      by_cases e : b = m.taken.length
      · refine .inr ⟨i, ?_⟩
        rw [Function.update_self, e]
        rfl
      · rcases h.cover b (by omega) with hmem | ⟨j, hj⟩
        · exact .inl hmem
        · refine .inr ⟨j, ?_⟩
          have hji : j ≠ i := by
            intro e
            rw [e, hi] at hj
            cases hj
          rw [Function.update_of_ne hji]
          exact hj

theorem rephase (h : Kept base phase m) {i : ι} {p : Phase S} (hb : p.batch = (phase i).batch)
    (hp : p.Holds base m) : Kept base (Function.update phase i p) m := by
  have hbatch : ∀ j, (Function.update phase i p j).batch = (phase j).batch := by
    intro j
    by_cases e : j = i
    · rw [e, Function.update_self, hb]
    · rw [Function.update_of_ne e]
  refine ⟨h.buffer, h.stores, h.tasks, h.nodup, h.passed, fun j => ?_, fun j j' b hj hj' => ?_,
    fun b hlt => ?_⟩
  · by_cases e : j = i
    · rw [e, Function.update_self]
      exact hp
    · rw [Function.update_of_ne e]
      exact h.held j
  · rw [hbatch] at hj hj'
    exact h.one j j' b hj hj'
  · simp only [hbatch]
    exact h.cover b hlt

theorem spawn (h : Kept base phase m) {i : ι} {batch : Nat} {inner : List Data}
    {storeIn : List S} (hi : phase i = .ready batch inner storeIn) :
    Kept base (Function.update phase i .idle)
      { m with tasks := m.tasks ++ [Task.spawn batch (mergeAll inner) storeIn] } := by
  have hready := h.held i
  rw [hi] at hready
  obtain ⟨⟨htaken, hnew⟩, hsnapshot⟩ := hready
  have hbatches : (m.tasks ++ [Task.spawn batch (mergeAll inner) storeIn]).map Task.batch
      = m.tasks.map Task.batch ++ [batch] := List.map_append
  have hone : ∀ j, j ≠ i → (phase j).batch ≠ some batch := by
    intro j hj e
    exact hj (h.one j i batch e (by rw [hi]; rfl))
  refine ⟨h.buffer, h.stores, fun task htask => ?_, ?_, fun pass hpass => ?_, fun j => ?_,
    fun j j' b hj hj' => ?_, fun b hlt => ?_⟩
  · rcases List.mem_append.mp htask with hold | hnew'
    · exact (h.tasks task hold).later List.prefix_rfl List.prefix_rfl rfl
    · rw [List.mem_singleton.mp hnew']
      refine ⟨⟨inner, htaken, mergeAll_entries inner⟩, hsnapshot, .start, ?_⟩
      show m.passed.filter _ = []
      rw [List.filter_eq_nil_iff]
      intro pass hpass e
      have hb : pass.batch = batch := of_decide_eq_true e
      exact hnew (hb ▸ h.passed pass hpass)
  · rw [hbatches]
    refine List.nodup_append.mpr ⟨h.nodup, List.pairwise_singleton _ _, fun a ha b hb e => ?_⟩
    rw [List.mem_singleton] at hb
    exact hnew (hb ▸ e ▸ ha)
  · rw [hbatches]
    exact List.mem_append_left _ (h.passed pass hpass)
  · by_cases e : j = i
    · rw [e, Function.update_self]
      trivial
    · rw [Function.update_of_ne e]
      refine (h.held j).later List.prefix_rfl List.prefix_rfl fun b hb hmem => ?_
      rw [hbatches] at hmem
      rcases List.mem_append.mp hmem with hold | hlast
      · exact ((h.held j).batch_lt hb).2 hold
      · rw [List.mem_singleton.mp hlast] at hb
        exact hone j e hb
  · by_cases e : j = i
    · rw [e, Function.update_self] at hj
      cases hj
    · by_cases e' : j' = i
      · rw [e', Function.update_self] at hj'
        cases hj'
      · rw [Function.update_of_ne e] at hj
        rw [Function.update_of_ne e'] at hj'
        exact h.one j j' b hj hj'
  · rw [hbatches]
    rcases h.cover b hlt with hmem | ⟨j, hj⟩
    · exact .inl (List.mem_append_left _ hmem)
    · by_cases e : j = i
      · rw [e, hi] at hj
        cases hj
        exact .inl (List.mem_append_right _ (List.mem_singleton_self _))
      · refine .inr ⟨j, ?_⟩
        rw [Function.update_of_ne e]
        exact hj

theorem progress (h : Kept base phase m) {k : Nat} {task : Task S}
    (hk : m.tasks[k]? = some task) (task' : Task S) (hb : task'.batch = task.batch)
    (passes : List (Pass S))
    (hpasses : ∀ pass ∈ passes, pass.batch = task.batch)
    (htask : task'.Sound base { m with passed := m.passed ++ passes }) :
    Kept base phase { m with tasks := m.tasks.set k task', passed := m.passed ++ passes } := by
  have hbatches := map_batch_set hk hb
  refine ⟨h.buffer, h.stores, fun u hu => ?_, ?_, fun pass hpass => ?_, fun i => ?_, h.one, ?_⟩
  · rcases mem_set_batch hk h.nodup hu with rfl | ⟨hu, hne⟩
    · exact ⟨htask.batch, htask.snapshot, htask.stands, htask.passes⟩
    · refine (h.tasks u hu).later List.prefix_rfl List.prefix_rfl ?_
      rw [List.filter_append]
      have hnone : (passes.filter fun pass => pass.batch = u.batch) = [] := by
        rw [List.filter_eq_nil_iff]
        intro pass hpass e
        exact hne ((of_decide_eq_true e).symm.trans (hpasses pass hpass))
      rw [hnone, List.append_nil]
  · rw [hbatches]
    exact h.nodup
  · rw [hbatches]
    rcases List.mem_append.mp hpass with hold | hnew
    · exact h.passed pass hold
    · rw [hpasses pass hnew]
      exact List.mem_map_of_mem (List.mem_of_getElem? hk)
  · refine (h.held i).later List.prefix_rfl List.prefix_rfl fun b hb => ?_
    rw [hbatches]
    exact ((h.held i).batch_lt hb).2
  · rw [hbatches]
    exact h.cover

theorem resume (h : Kept base phase m) (k : Nat) : Kept base phase (m.resume k) := by
  unfold State.resume
  split
  · exact h
  · rename_i task hk
    split
    · exact h
    · rename_i result _ _
      cases result with
      | ok u => exact h
      | error e => exact h.stop true
    · rename_i c next hcalling hcoroutine
      have hsound := h.tasks task (List.mem_of_getElem? hk)
      have hstands := hsound.stands
      rw [hcoroutine] at hstands
      obtain ⟨store, hstore, rfl, hcall, -⟩ := hstands.next
      refine h.progress hk { task with calling := true } rfl _ (fun pass hpass => ?_)
        ⟨hsound.batch, hsound.snapshot, ?_, ?_⟩
      · rw [List.mem_singleton.mp hpass]
      · rw [hcoroutine]
        exact hcall
      · have hpasses := hsound.passes
        rw [hcalling] at hpasses
        show ((m.passed ++ [_]).filter fun pass : Pass S => pass.batch = task.batch) = _
        rw [List.filter_append, hpasses, List.filter_singleton]
        show _ = (task.storeIn.take (task.answers.length + 1)).map _
        rw [List.take_add_one, hstore]
        simp

theorem finish (h : Kept base phase m) (k : Nat) (result : Result Unit) :
    Kept base phase (m.finish k result) := by
  unfold State.finish
  split
  · exact h
  · rename_i task hk
    split
    · rename_i c next hcalling hcoroutine
      have hsound := h.tasks task (List.mem_of_getElem? hk)
      have hstands := hsound.stands
      rw [hcoroutine] at hstands
      obtain ⟨store, -, -, -, hnext⟩ := hstands.next
      have hk' := h.progress hk { task with
          coroutine := next result
          calling := false
          answers := task.answers ++ [result] } rfl [] nofun
        ⟨hsound.batch, hsound.snapshot, hnext result, ?_⟩
      · rw [List.append_nil] at hk'
        exact hk'
      · have hpasses := hsound.passes
        rw [hcalling] at hpasses
        rw [List.append_nil]
        refine hpasses.trans ?_
        rw [List.length_append]
        rfl
    · exact h

/-- **One step**: every call that the protocol allows keeps the invariant. -/
theorem step (h : Kept base phase m) {i : ι} {call : Call S}
    (ha : protocol.allowed (phase i) call) :
    Kept base (Function.update phase i (protocol.next (phase i) call (answer call m).1))
      (answer call m).2 := by
  cases hi : phase i with
  | idle =>
    have hsame : Function.update phase i .idle = phase := by
      rw [← hi, Function.update_eq_self]
    rw [hi] at ha
    cases call with
    | pushBack events => exact hsame.symm ▸ h.push events
    | intoInnerAt size => exact h.take hi (m.data.intoInnerAt_takes size)
    | intoInner => exact h.take hi m.data.intoInner_takes
    | snapshot => exact hsame.symm ▸ h
    | spawn batch data storeIn => exact ha.elim
    | addStore store => exact hsame.symm ▸ h.addStore store
    | isStopped => exact hsame.symm ▸ h
    | stop => exact hsame.symm ▸ h.stop true
    | resume k => exact hsame.symm ▸ h.resume k
    | finish k result => exact hsame.symm ▸ h.finish k result
  | taken batch inner =>
    rw [hi] at ha
    cases call with
    | snapshot =>
      have hheld := h.held i
      rw [hi] at hheld
      exact h.rephase (by rw [hi]; rfl) ⟨hheld, h.stores, List.prefix_rfl⟩
    | _ => exact ha.elim
  | ready batch inner storeIn =>
    rw [hi] at ha
    cases call with
    | spawn batch' data storeIn' =>
      obtain ⟨rfl, rfl, rfl⟩ := ha
      exact h.spawn hi
    | _ => exact ha.elim

end Kept

/-! ## runs -/

/-- a manager with the given stores, and clients of which none has taken a step -/
def start (nEvents : Nat) (storeIn : List S) (clients : ι → Client S) :
    Pool ι (Call S) Reply Unit (Phase S) (State S) where
  client i := (clients i).prog nEvents
  phase _ := .idle
  object := .new storeIn

theorem Kept.new (storeIn : List S) :
    Kept storeIn (fun _ : ι => Phase.idle) (State.new storeIn) :=
  ⟨rfl, List.prefix_rfl, nofun, .nil, nofun, fun _ => trivial, nofun, nofun⟩

theorem run_kept (nEvents : Nat) (storeIn : List S) (clients : ι → Client S) (sched : List ι) :
    let p := (start nEvents storeIn clients).run answer protocol sched
    p.Follows protocol (fun _ phase _ => phase = .idle) ∧ Kept storeIn p.phase p.object := by
  exact Pool.run_inv (Kept storeIn)
    (fun p i call k _ _ hk ha => ⟨trivial, hk.step ha⟩)
    (fun i => prog_idles nEvents (clients i)) (Kept.new storeIn) sched (Pool.under_true ..)

/-- what a coroutine passes on: the entries of its batch in their order, to each store of its
snapshot in turn, and when it has ended to no store behind the first that returned an error -/
structure Task.Delivers (base : List S) (m : State S) (task : Task S) : Prop where
  entries : ∃ inner, m.taken[task.batch]? = some inner ∧
    task.data.entries = inner.flatMap Data.entries
  snapshot : base <+: task.storeIn ∧ task.storeIn <+: m.storeIn
  passes : (m.passed.filter fun pass => pass.batch = task.batch)
    = (task.storeIn.take (task.answers.length + task.calling.toNat)).map
        fun store => ⟨task.batch, store, task.data⟩
  ended : ∀ result, task.coroutine = .ret result →
    task.calling = false ∧ UpToError task.storeIn task.answers result

theorem run_given (nEvents : Nat) (storeIn : List S) (clients : ι → Client S) (sched : List ι) :
    let p := (start nEvents storeIn clients).run answer protocol sched
    Interleaves (fun i => (clients i).given) (fun i => ∃ a, p.client i = .ret a)
      p.object.pushed := by
  intro p
  let q : Pool ι (Call S) Reply Unit (List Data) (State S) :=
    ⟨fun i => (clients i).prog nEvents, fun i => (clients i).given, .new storeIn⟩
  have hclients : (start nEvents storeIn clients).client = q.client := rfl
  have hnew : (start nEvents storeIn clients).object = q.object := rfl
  obtain ⟨hclient, hobject⟩ : p.client = (q.run answer (giving True) sched).client ∧
      p.object = (q.run answer (giving True) sched).object :=
    Pool.run_same (giving True) hclients hnew sched
  obtain ⟨hfollows, hremains⟩ := Pool.run_inv
    (fun rest m => Remains (fun i => (clients i).given) rest m.pushed)
    (fun p i call k _ _ hI ha => ⟨trivial, giving_step hI ha⟩)
    (fun i => prog_gives nEvents (clients i)) (Remains.nil _) sched (Pool.under_true _ _ q sched)
  rw [hclient, hobject]
  refine hremains.interleaves fun i ⟨a, hended⟩ => ?_
  exact hfollows.ended hended

/-- **Nothing lost, nothing twice**: in every run, what the callers give is pushed, that of each
caller in his order and all of it when he has ended; what has been taken and what is in the buffer
is what has been pushed, in this order; every coroutine delivers a batch of its own; and every batch
that has been taken has its coroutine, except while a client still holds it. -/
theorem run_delivers (nEvents : Nat) (storeIn : List S) (clients : ι → Client S)
    (sched : List ι) :
    let p := (start nEvents storeIn clients).run answer protocol sched
    p.object.taken.flatten ++ p.object.data.inner = p.object.pushed ∧
      (∀ task ∈ p.object.tasks, task.Delivers storeIn p.object) ∧
      (p.object.tasks.map Task.batch).Nodup ∧
      (∀ pass ∈ p.object.passed, pass.batch ∈ p.object.tasks.map Task.batch) ∧
      (∀ batch < p.object.taken.length, batch ∈ p.object.tasks.map Task.batch ∨
        ∃ i, (p.phase i).batch = some batch) ∧
      (p.Finished →
        (p.object.tasks.map Task.batch).Perm (List.range p.object.taken.length)) ∧
      Interleaves (fun i => (clients i).given) (fun i => ∃ a, p.client i = .ret a)
        p.object.pushed := by
  intro p
  obtain ⟨hF, hK⟩ := run_kept nEvents storeIn clients sched
  refine ⟨hK.buffer, fun task htask => ?_, hK.nodup, hK.passed, hK.cover, fun hfinished => ?_,
    run_given nEvents storeIn clients sched⟩
  · have hsound := hK.tasks task htask
    refine ⟨hsound.batch, hsound.snapshot, hsound.passes, fun result hresult => ?_⟩
    exact (hresult ▸ hsound.stands).ended
  · refine (List.perm_ext_iff_of_nodup hK.nodup List.nodup_range).mpr fun batch => ?_
    rw [List.mem_range]
    constructor
    · intro hmem
      obtain ⟨task, htask, rfl⟩ := List.mem_map.mp hmem
      exact (hK.tasks task htask).batch_lt
    · intro hlt
      rcases hK.cover batch hlt with hmem | ⟨i, hi⟩
      · exact hmem
      · obtain ⟨a, ha⟩ := hfinished i
        rw [Pool.Follows.ended hF ha] at hi
        cases hi

end
end DatabaseManager
end Evget
