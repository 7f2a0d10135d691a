import Evget.Storage.ManagerOrder
import Mathlib.Data.List.Nodup
import Mathlib.Data.List.Perm.Subperm

/-!
# What a store has received

Whatever the order of the calls, a store receives every batch at most once, and every batch that is
done with exactly once.

* `State.batchesOf`         the batches that a store has been given, in the order of the calls;
* `Kept.received_subperm`   what a store has received has been taken from the buffer, each at most
                            as often;
* `Kept.received_perm`      when the coroutines of all batches have ended with a success, each store
                            has received all that has been taken.
-/

namespace Evget
open Calls

namespace DatabaseManager

section
variable {S : Type} {ι : Type} {base : List S} {phase : ι → Phase S} {m : State S}

def State.entriesOf (m : State S) (batch : Nat) : List Entry :=
  (m.taken.getD batch []).flatMap Data.entries

theorem flatMap_entriesOf (m : State S) :
    (List.range m.taken.length).flatMap m.entriesOf = m.taken.flatten.flatMap Data.entries := by
  have hrange : (List.range m.taken.length).map (fun batch => m.taken.getD batch []) = m.taken := by
    refine List.ext_getElem (by simp) fun k hk hk' => ?_
    simp [hk']
  show (List.range m.taken.length).flatMap
    (fun batch => (m.taken.getD batch []).flatMap Data.entries) = _
  rw [← List.flatMap_assoc, List.flatMap_def (l := List.range _), hrange]

theorem Kept.entries_eq (h : Kept base phase m) {pass : Pass S} (hpass : pass ∈ m.passed) :
    pass.batch < m.taken.length ∧ pass.call.data.entries = m.entriesOf pass.batch := by
  obtain ⟨task, htask, hb⟩ := List.mem_map.mp (h.passed pass hpass)
  have hsound := h.tasks task htask
  have hmem : pass ∈ m.passed.filter fun pass => pass.batch = task.batch :=
    List.mem_filter.mpr ⟨hpass, decide_eq_true hb.symm⟩
  rw [hsound.passes] at hmem
  obtain ⟨store, -, rfl⟩ := List.mem_map.mp hmem
  obtain ⟨inner, hinner, hentries⟩ := hsound.batch
  refine ⟨hsound.batch_lt, hentries.trans ?_⟩
  show _ = (m.taken.getD task.batch []).flatMap Data.entries
  rw [List.getD_eq_getElem?_getD, hinner]
  rfl

variable [DecidableEq S]

/-- the numbers of the batches that a store has been given, in the order of the calls -/
def State.batchesOf (m : State S) (store : S) : List Nat :=
  (m.passed.filter fun pass => pass.call.store = store).map Pass.batch

namespace Kept

theorem received_eq (h : Kept base phase m) (store : S) :
    m.received store = (m.batchesOf store).flatMap m.entriesOf := by
  unfold State.received State.batchesOf
  rw [List.flatMap_map]
  exact List.flatMap_congr fun pass hpass => (h.entries_eq (List.mem_filter.mp hpass).1).2

/-- a store is given a batch as often as it is among the stores that the coroutine has asked -/
theorem count_batchesOf (h : Kept base phase m) {task : Task S} (htask : task ∈ m.tasks)
    (store : S) : (m.batchesOf store).count task.batch
      = (task.storeIn.take (task.answers.length + task.calling.toNat)).count store := by
  have hpasses := (h.tasks task htask).passes
  have hfilter : (m.passed.filter fun pass => pass.call.store = store).filter
      (fun pass => pass.batch = task.batch)
        = ((task.storeIn.take (task.answers.length + task.calling.toNat)).map
            fun store => (⟨task.batch, store, task.data⟩ : Pass S)).filter
              fun pass => pass.call.store = store := by
    rw [← hpasses, List.filter_filter, List.filter_filter]
    exact List.filter_congr fun pass _ => Bool.and_comm ..
  unfold State.batchesOf
  rw [List.count_eq_length_filter, List.filter_map, List.length_map]
  have hsame : (fun batch => batch == task.batch) ∘ Pass.batch
      = fun pass : Pass S => decide (pass.batch = task.batch) := by
    funext pass
    exact beq_eq_decide ..
  rw [hsame, hfilter, List.filter_map, List.length_map, List.count_eq_length_filter]
  refine congrArg List.length (List.filter_congr fun other _ => ?_)
  exact (beq_eq_decide ..).symm

theorem nodup_batchesOf (h : Kept base phase m) (hstores : m.storeIn.Nodup) (store : S) :
    (m.batchesOf store).Nodup := by
  refine List.nodup_iff_count_le_one.mpr fun batch => ?_
  by_cases hb : batch ∈ m.tasks.map Task.batch
  · obtain ⟨task, htask, rfl⟩ := List.mem_map.mp hb
    rw [h.count_batchesOf htask]
    have hsub : (task.storeIn.take (task.answers.length + task.calling.toNat)).Sublist m.storeIn :=
      (List.take_sublist ..).trans (h.tasks task htask).snapshot.2.sublist
    exact List.nodup_iff_count_le_one.mp (hstores.sublist hsub) store
  · have hnot : batch ∉ m.batchesOf store := by
      intro hmem
      obtain ⟨pass, hpass, rfl⟩ := List.mem_map.mp hmem
      exact hb (h.passed pass (List.mem_filter.mp hpass).1)
    rw [List.count_eq_zero.mpr hnot]
    exact Nat.zero_le 1

theorem batchesOf_subset (h : Kept base phase m) (store : S) :
    m.batchesOf store ⊆ List.range m.taken.length := by
  intro batch hmem
  obtain ⟨pass, hpass, rfl⟩ := List.mem_map.mp hmem
  exact List.mem_range.mpr (h.entries_eq (List.mem_filter.mp hpass).1).1

/-- **Nothing twice and nothing else**: a store receives every entry at most as often as it has been
taken from the buffer, in whatever order the coroutines run. -/
theorem received_subperm (h : Kept base phase m) (hstores : m.storeIn.Nodup) (store : S) :
    (m.received store).Subperm (m.taken.flatten.flatMap Data.entries) := by
  obtain ⟨batches, hperm, hsub⟩ :=
    List.subperm_of_subset (h.nodup_batchesOf hstores store) (h.batchesOf_subset store)
  refine ⟨batches.flatMap m.entriesOf, ?_, ?_⟩
  · rw [h.received_eq]
    exact hperm.flatMap_right _
  · rw [← flatMap_entriesOf]
    exact hsub.flatMap _

/-- **Nothing is missing** when the coroutine of every batch has ended with a success. -/
theorem received_perm (h : Kept base phase m) (hstores : m.storeIn.Nodup)
    (hdone : ∀ batch < m.taken.length, ∃ task ∈ m.tasks, task.batch = batch ∧
      task.coroutine = .ret (.ok ())) {store : S} (hstore : store ∈ base) :
    (m.received store).Perm (m.taken.flatten.flatMap Data.entries) := by
  have hbatches : (m.batchesOf store).Perm (List.range m.taken.length) := by
    refine (List.perm_ext_iff_of_nodup (h.nodup_batchesOf hstores store) List.nodup_range).mpr
      fun batch => ⟨fun hmem => h.batchesOf_subset store hmem, fun hmem => ?_⟩
    obtain ⟨task, htask, rfl, hended⟩ := hdone batch (List.mem_range.mp hmem)
    have hsound := h.tasks task htask
    obtain ⟨hcalling, hanswers⟩ := (hended ▸ hsound.stands).ended
    have hlength : task.answers.length = task.storeIn.length := by
      rcases hanswers with ⟨hall, -⟩ | ⟨n, e, -, -, he⟩
      · rw [hall, List.length_replicate]
      · cases he
    have hcount : 0 < (m.batchesOf store).count task.batch := by
      rw [h.count_batchesOf htask, hlength, hcalling]
      show 0 < (task.storeIn.take task.storeIn.length).count store
      rw [List.take_length]
      exact List.count_pos_iff.mpr (hsound.snapshot.1.subset hstore)
    exact List.count_pos_iff.mp hcount
  rw [h.received_eq, ← flatMap_entriesOf]
  exact hbatches.flatMap_right _

end Kept
end
end DatabaseManager
end Evget
