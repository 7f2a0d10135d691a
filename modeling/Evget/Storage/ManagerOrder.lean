import Evget.Event.Builders
import Evget.Storage.ManagerRuns
import Mathlib.Data.List.Flatten

/-!
# The order in which a store receives its entries

The coroutines of two batches are two tasks of a pool with several threads, and nothing orders
their calls on a store.

* `Orderly`             a coroutine starts a call on a store only when the earlier batches have no
                        call on that store left;
* `run_ordered`         under this condition, in every run, the calls on a store do not overlap and
                        it receives the entries in the order in which they were pushed;
* `reordered_fails`     two batches, of which the pool runs the second first.
-/

set_option linter.unusedSectionVars false

namespace Evget
open Calls

namespace DatabaseManager

section
variable {S : Type}

/-! ## what a store sees -/

def Task.inside (task : Task S) : Option S :=
  match task.calling, task.coroutine with
  | true, .call c _ => some c.store
  | _, _ => none

def Task.rest (task : Task S) : List S :=
  match task.coroutine with
  | .ret _ => []
  | .call .. => task.storeIn.drop task.answers.length

/-- the entries that the store has received, in the order of the calls -/
def State.received [DecidableEq S] (m : State S) (store : S) : List Entry :=
  (m.passed.filter fun pass => pass.call.store = store).flatMap fun pass => pass.call.data.entries

/-! ## the condition -/

/-- every batch before this one has its coroutine and has done with the store, and the store has not
been given this batch -/
def State.Turn (m : State S) (batch : Nat) (store : S) : Prop :=
  (∀ earlier < batch, ∃ task ∈ m.tasks, task.batch = earlier ∧ store ∉ task.rest) ∧
    ∀ pass ∈ m.passed, pass.batch = batch → pass.call.store ≠ store

variable {ι : Type} [DecidableEq ι]

/-- a step that starts a call on a store is taken when it is the turn of its batch -/
def Orderly (p : Pool ι (Call S) Reply Unit (Phase S) (State S)) (i : ι) : Prop :=
  ∀ k next task c after, p.client i = .call (.resume k) next → p.object.tasks[k]? = some task →
    task.calling = false → task.coroutine = .call c after → p.object.Turn task.batch c.store

/-! ## the invariant -/

/-- the calls on a store have started in the order of the batches, each in its turn -/
structure Ordered (m : State S) : Prop where
  increasing : m.passed.Pairwise fun a b => a.call.store = b.call.store → a.batch < b.batch
  earlier : ∀ pass ∈ m.passed, ∀ batch < pass.batch,
    ∃ task ∈ m.tasks, task.batch = batch ∧ pass.call.store ∉ task.rest

namespace Ordered
variable {base : List S} {phase : ι → Phase S} {m : State S}

theorem shrink (h : Ordered m) (m' : State S) (hp : m'.passed = m.passed)
    (ht : ∀ task ∈ m.tasks, ∃ task' ∈ m'.tasks, task'.batch = task.batch ∧ task'.rest ⊆ task.rest) :
    Ordered m' := by
  refine ⟨hp ▸ h.increasing, fun pass hpass batch hlt => ?_⟩
  rw [hp] at hpass
  obtain ⟨task, htask, hb, hrest⟩ := h.earlier pass hpass batch hlt
  obtain ⟨task', htask', hb', hsub⟩ := ht task htask
  exact ⟨task', htask', hb'.trans hb, fun hmem => hrest (hsub hmem)⟩

theorem same (h : Ordered m) (m' : State S) (hp : m'.passed = m.passed)
    (ht : m.tasks <+: m'.tasks) : Ordered m' :=
  h.shrink m' hp fun task htask => ⟨task, ht.subset htask, rfl, fun _ hs => hs⟩

end Ordered

theorem exists_set {tasks : List (Task S)} {k : Nat} {task : Task S}
    (hk : tasks[k]? = some task) (task' : Task S) (hb : task'.batch = task.batch)
    (hrest : task'.rest ⊆ task.rest) (u : Task S) (hu : u ∈ tasks) :
    ∃ u' ∈ tasks.set k task', u'.batch = u.batch ∧ u'.rest ⊆ u.rest := by
  obtain ⟨j, hj⟩ := List.mem_iff_getElem?.mp hu
  obtain ⟨hlt, -⟩ := List.getElem?_eq_some_iff.mp hk
  by_cases e : k = j
  · subst e
    rw [hk] at hj
    cases hj
    exact ⟨task', List.mem_set hlt task', hb, hrest⟩
  · refine ⟨u, List.mem_iff_getElem?.mpr ⟨j, ?_⟩, rfl, fun _ hs => hs⟩
    rw [List.getElem?_set_ne e]
    exact hj

theorem Stands.mem_rest {task : Task S} {c : StoreCall S} {after : Result Unit → Coroutine S}
    (h : Stands task.storeIn task.data task.answers task.calling task.coroutine)
    (hco : task.coroutine = .call c after) : c.store ∈ task.rest := by
  rw [hco] at h
  obtain ⟨store, hstore, rfl, -, -⟩ := h.next
  rw [Task.rest, hco]
  refine List.mem_of_getElem? (i := 0) ?_
  rw [List.getElem?_drop]
  exact hstore

/-- two tasks of one batch are the same -/
theorem Kept.task_eq {base : List S} {phase : ι → Phase S} {m : State S} (h : Kept base phase m)
    {task task' : Task S} (ht : task ∈ m.tasks) (ht' : task' ∈ m.tasks)
    (hb : task'.batch = task.batch) : task' = task :=
  List.inj_on_of_nodup_map h.nodup ht' ht hb

namespace Ordered
variable {base : List S} {phase : ι → Phase S} {m : State S}

theorem resume (h : Ordered m) (hK : Kept base phase m) {k : Nat}
    (hturn : ∀ task c after, m.tasks[k]? = some task → task.calling = false →
      task.coroutine = .call c after → m.Turn task.batch c.store) :
    Ordered (m.resume k) := by
  unfold State.resume
  split
  · exact h
  · rename_i task hk
    split
    · exact h
    · rename_i result _ _
      cases result with
      | ok u => exact h
      | error e => exact h.same _ rfl List.prefix_rfl
    · rename_i c after hcalling hcoroutine
      obtain ⟨hearlier, hnot⟩ := hturn task c after hk hcalling hcoroutine
      have htask := List.mem_of_getElem? hk
      have hmem : c.store ∈ task.rest := (hK.tasks task htask).stands.mem_rest hcoroutine
      have hset := exists_set hk { task with calling := true } rfl fun _ hs => hs
      refine ⟨?_, fun pass hpass batch hlt => ?_⟩
      · -- a later batch on this store would have waited for this one
        refine List.pairwise_append.mpr ⟨h.increasing, List.pairwise_singleton _ _, ?_⟩
        intro a ha b hb hstore
        rw [List.mem_singleton.mp hb] at hstore ⊢
        have hne : a.batch ≠ task.batch := fun e => hnot a ha e hstore
        have hle : ¬ task.batch < a.batch := by
          intro hlt
          obtain ⟨u, hu, hub, hrest⟩ := h.earlier a ha task.batch hlt
          rw [hK.task_eq htask hu hub, hstore] at hrest
          exact hrest hmem
        show a.batch < task.batch
        omega
      · have hold : ∃ u ∈ m.tasks, u.batch = batch ∧ pass.call.store ∉ u.rest := by
          rcases List.mem_append.mp hpass with hp | hp
          · exact h.earlier pass hp batch hlt
          · rw [List.mem_singleton.mp hp] at hlt ⊢
            exact hearlier batch hlt
        obtain ⟨u, hu, hb, hrest⟩ := hold
        obtain ⟨u', hu', hb', hsub⟩ := hset u hu
        exact ⟨u', hu', hb'.trans hb, fun hs => hrest (hsub hs)⟩

theorem finish (h : Ordered m) (k : Nat) (result : Result Unit) : Ordered (m.finish k result) := by
  unfold State.finish
  split
  · exact h
  · rename_i task hk
    split
    · rename_i c next hcalling hcoroutine
      refine h.shrink _ rfl (exists_set hk _ rfl ?_)
      have hrest : task.rest = task.storeIn.drop task.answers.length := by
        rw [Task.rest, hcoroutine]
      rw [hrest]
      unfold Task.rest
      split
      · exact List.nil_subset _
      · show task.storeIn.drop (task.answers ++ [result]).length ⊆ _
        rw [List.length_append, ← List.drop_drop]
        exact List.drop_subset ..
    · exact h

/-- **One step** of a client, in its turn when it starts a call. -/
theorem step (h : Ordered m) (hK : Kept base phase m) (call : Call S)
    (hturn : ∀ k task c after, call = .resume k → m.tasks[k]? = some task →
      task.calling = false → task.coroutine = .call c after → m.Turn task.batch c.store) :
    Ordered (answer call m).2 := by
  cases call with
  | pushBack events => exact h.same _ rfl List.prefix_rfl
  | intoInnerAt size =>
    rcases m.data.intoInnerAt_takes size with e | e
    · exact h.same _ (by rw [answer, e]; rfl) (by rw [answer, e]; exact List.prefix_rfl)
    · exact h.same _ (by rw [answer, e]; rfl) (by rw [answer, e]; exact List.prefix_rfl)
  | intoInner => exact h.same _ rfl List.prefix_rfl
  | snapshot => exact h
  | spawn batch data storeIn => exact h.same _ rfl (List.prefix_append ..)
  | addStore store => exact h.same _ rfl List.prefix_rfl
  | isStopped => exact h
  | stop => exact h.same _ rfl List.prefix_rfl
  | resume k => exact h.resume hK fun task c after => hturn k task c after rfl
  | finish k result => exact h.finish k result

end Ordered

/-! ## runs -/

theorem map_getD_sublist {α : Type} (d : α) {l : List α} {positions : List Nat}
    (hinc : positions.Pairwise (· < ·)) (hlt : ∀ n ∈ positions, n < l.length) :
    (positions.map fun n => l.getD n d).Sublist l := by
  have hfin : (positions.pmap Fin.mk hlt).Pairwise (· < ·) := by
    rw [List.pairwise_pmap]
    exact hinc.imp fun h _ _ => h
  have heq : (positions.map fun n => l.getD n d)
      = (positions.pmap Fin.mk hlt).map fun k => l[k] := by
    refine List.ext_getElem (by simp) fun k h₁ h₂ => ?_
    rw [List.length_map] at h₁
    have hk := hlt _ (List.getElem_mem h₁)
    simp [hk]
  rw [heq]
  exact List.map_getElem_sublist hfin

section
variable {base : List S} {phase : ι → Phase S} {m : State S}

/-- a task inside a call has passed its data to the store -/
theorem Task.Sound.inside_passed {task : Task S} (h : task.Sound base m) {store : S}
    (hin : task.inside = some store) :
    store ∈ task.rest ∧ ∃ pass ∈ m.passed, pass.batch = task.batch ∧ pass.call.store = store := by
  unfold Task.inside at hin
  split at hin
  · rename_i c after hcalling hcoroutine
    cases hin
    refine ⟨h.stands.mem_rest hcoroutine, ?_⟩
    have hstands := h.stands
    rw [hcoroutine] at hstands
    obtain ⟨store, hstore, rfl, -, -⟩ := hstands.next
    have hpass : (⟨task.batch, store, task.data⟩ : Pass S)
        ∈ m.passed.filter fun pass => pass.batch = task.batch := by
      rw [h.passes, hcalling]
      refine List.mem_map.mpr ⟨store, ?_, rfl⟩
      show store ∈ task.storeIn.take (task.answers.length + 1)
      rw [List.take_add_one, hstore]
      exact List.mem_append_right _ (List.mem_singleton_self _)
    exact ⟨_, (List.mem_filter.mp hpass).1, rfl, rfl⟩
  · cases hin

/-- **No two calls at a time**: a store is inside one call at most. -/
theorem Ordered.inside_unique (h : Ordered m) (hK : Kept base phase m) {store : S}
    {task task' : Task S} (ht : task ∈ m.tasks) (ht' : task' ∈ m.tasks)
    (hin : task.inside = some store) (hin' : task'.inside = some store) : task' = task := by
  -- the later one of two batches would have waited for the other
  have hlate : ∀ {u u' : Task S}, u ∈ m.tasks → u' ∈ m.tasks → u.inside = some store →
      u'.inside = some store → ¬ u.batch < u'.batch := by
    intro u u' hu hu' hi hi' hlt
    obtain ⟨-, pass, hpass, hb, hs⟩ := (hK.tasks u' hu').inside_passed hi'
    obtain ⟨v, hv, hvb, hrest⟩ := h.earlier pass hpass u.batch (hb ▸ hlt)
    rw [hK.task_eq hu hv hvb, hs] at hrest
    exact hrest ((hK.tasks u hu).inside_passed hi).1
  refine hK.task_eq ht ht' ?_
  have h₁ := hlate ht ht' hin hin'
  have h₂ := hlate ht' ht hin' hin
  omega

/-- **In the order of the pushes**: what a store has received is a part of what has been pushed, in
the same order and without repetition. -/
theorem Ordered.received_sublist [DecidableEq S] (h : Ordered m) (hK : Kept base phase m)
    (store : S) : (m.received store).Sublist (m.pushed.flatMap Data.entries) := by
  have hdata : ∀ pass ∈ m.passed, pass.batch < m.taken.length ∧
      pass.call.data.entries = (m.taken.getD pass.batch []).flatMap Data.entries := by
    intro pass hpass
    obtain ⟨task, htask, hb⟩ := List.mem_map.mp (hK.passed pass hpass)
    have hsound := hK.tasks task htask
    have hmem : pass ∈ m.passed.filter fun pass => pass.batch = task.batch :=
      List.mem_filter.mpr ⟨hpass, decide_eq_true hb.symm⟩
    rw [hsound.passes] at hmem
    obtain ⟨store', -, rfl⟩ := List.mem_map.mp hmem
    obtain ⟨inner, hinner, hentries⟩ := hsound.batch
    refine ⟨hsound.batch_lt, hentries.trans ?_⟩
    rw [List.getD_eq_getElem?_getD, hinner]
    rfl
  have hinc : ((m.passed.filter fun pass => pass.call.store = store).map Pass.batch).Pairwise
      (· < ·) := by
    rw [List.pairwise_map]
    refine List.Pairwise.imp_of_mem ?_ (h.increasing.sublist List.filter_sublist)
    intro a b ha hb hlt
    have hsa := of_decide_eq_true (List.mem_filter.mp ha).2
    have hsb := of_decide_eq_true (List.mem_filter.mp hb).2
    exact hlt (hsa.trans hsb.symm)
  have hsub := map_getD_sublist [] (l := m.taken) hinc (by
    intro n hn
    obtain ⟨pass, hpass, rfl⟩ := List.mem_map.mp hn
    exact (hdata pass (List.mem_filter.mp hpass).1).1)
  have hreceived : m.received store
      = (((m.passed.filter fun pass => pass.call.store = store).map Pass.batch).map
          fun n => m.taken.getD n []).flatten.flatMap Data.entries := by
    rw [List.map_map, ← List.flatMap_def, List.flatMap_assoc]
    refine List.flatMap_congr fun pass hpass => ?_
    exact (hdata pass (List.mem_filter.mp hpass).1).2
  rw [hreceived, ← hK.buffer, List.flatMap_append]
  exact (hsub.flatten.flatMap _).trans (List.sublist_append_left ..)

end

/-- **Orderly runs**: when a coroutine starts a call on a store only in the turn of its batch, the
calls on a store do not overlap, and it receives the entries in the order in which they were
pushed. -/
theorem run_ordered [DecidableEq S] (nEvents : Nat) (storeIn : List S) (clients : ι → Client S)
    (sched : List ι)
    (hturn : (start nEvents storeIn clients).Under answer protocol Orderly sched) :
    let m := ((start nEvents storeIn clients).run answer protocol sched).object
    ∀ store : S,
      (∀ task ∈ m.tasks, ∀ task' ∈ m.tasks, task.inside = some store →
        task'.inside = some store → task' = task) ∧
      (m.received store).Sublist (m.pushed.flatMap Data.entries) := by
  intro m store
  have hinit : Kept storeIn (start nEvents storeIn clients).phase
      (start nEvents storeIn clients).object ∧ Ordered (start nEvents storeIn clients).object :=
    ⟨Kept.new storeIn, .nil, nofun⟩
  obtain ⟨-, hK, hO⟩ := Pool.run_inv (fun phase m => Kept storeIn phase m ∧ Ordered m)
    (fun p i call next hcall hok hI ha => ⟨trivial, hI.1.step ha, hI.2.step hI.1 call
      fun k task c after e => by subst e; exact hok k next task c after hcall⟩)
    (fun i => prog_idles nEvents (clients i)) hinit sched hturn
  exact ⟨fun task ht task' ht' hin hin' => hO.inside_unique hK ht ht' hin hin',
    hO.received_sublist hK store⟩

end

/-! ### two batches of one key press each -/

def keyPress (button : Nat) : Data := Builder.build ((({} : Key).button button).action .press) .new

def twoPresses (steps : List ThreadStep) : Bool → Client Nat
  | false => .caller [keyPress 38, keyPress 39]
  | true => .thread steps

theorem in_turn_ordered :
    let m := ((start 1 [0] (twoPresses [.resume 0, .finish 0 (.ok ()), .resume 1])).run answer
      protocol (List.replicate 8 false ++ List.replicate 3 true)).object
    ∀ store : Nat,
      (∀ task ∈ m.tasks, ∀ task' ∈ m.tasks, task.inside = some store →
        task'.inside = some store → task' = task) ∧
      (m.received store).Sublist (m.pushed.flatMap Data.entries) := by
  apply run_ordered 1 [0] (twoPresses [.resume 0, .finish 0 (.ok ()), .resume 1])
  refine ⟨?_, ?_, ?_, ?_, ?_, ?_, ?_, ?_, ?_, ?_, ?_, trivial⟩
  all_goals
    intro k next task c after hcall hk hcalling hco
    cases hcall
    try cases hk
    try cases hco
  · exact ⟨nofun, nofun⟩
  · refine ⟨fun earlier hlt => ?_, fun pass hpass hb => ?_⟩
    · obtain rfl : earlier = 0 := Nat.lt_one_iff.mp hlt
      exact ⟨_, List.mem_cons_self .., rfl, nofun⟩
    · rw [List.mem_singleton.mp hpass] at hb
      cases hb

/-- **Out of order**: the thread starts the second coroutine and then the first.  The store is
inside both calls, and it has received the second press before the first. -/
theorem reordered_fails :
    let m := ((start 1 [0] (twoPresses [.resume 1, .resume 0])).run answer protocol
      (List.replicate 8 false ++ List.replicate 2 true)).object
    m.pushed = [keyPress 38, keyPress 39] ∧
      m.received 0 = (keyPress 39).entries ++ (keyPress 38).entries ∧
      ¬ (m.received 0).Sublist (m.pushed.flatMap Data.entries) ∧
      m.tasks.map Task.inside = [some 0, some 0] := by
  refine ⟨rfl, rfl, ?_, rfl⟩
  show ¬ ((keyPress 39).entries ++ (keyPress 38).entries).Sublist
    ([keyPress 38, keyPress 39].flatMap Data.entries)
  decide

end DatabaseManager
end Evget
