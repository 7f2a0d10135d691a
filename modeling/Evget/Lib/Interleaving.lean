import Mathlib.Data.List.Basic
import Mathlib.Logic.Function.Basic

/-!
# Lists to which several have given

* `Remains`       who has given the elements of a list, and what each has still to give;
* `Interleaves`   the same when only those who are done have given everything.
-/

section
variable {ι α : Type} [DecidableEq ι]

def givenBy (tagged : List (ι × α)) (i : ι) : List α :=
  (tagged.filter fun t => t.1 = i).map Prod.snd

/-- every element has been given by one of them, and everyone gives in his order -/
def Remains (given rest : ι → List α) (l : List α) : Prop :=
  ∃ tagged : List (ι × α), tagged.map Prod.snd = l ∧ ∀ i, givenBy tagged i ++ rest i = given i

/-- every element has been given by one of them, in his order, and whoever is done has given
everything -/
def Interleaves (given : ι → List α) (done : ι → Prop) (l : List α) : Prop :=
  ∃ tagged : List (ι × α), tagged.map Prod.snd = l ∧ ∀ i,
    givenBy tagged i <+: given i ∧ (done i → givenBy tagged i = given i)

theorem givenBy_append_self (tagged : List (ι × α)) (i : ι) (a : α) :
    givenBy (tagged ++ [(i, a)]) i = givenBy tagged i ++ [a] := by
  unfold givenBy
  rw [List.filter_append, List.filter_cons_of_pos (by exact decide_eq_true rfl), List.map_append]
  rfl

theorem givenBy_append_other (tagged : List (ι × α)) {i j : ι} (hne : i ≠ j) (a : α) :
    givenBy (tagged ++ [(i, a)]) j = givenBy tagged j := by
  unfold givenBy
  rw [List.filter_append, List.filter_cons_of_neg (by simpa using hne), List.filter_nil,
    List.append_nil]

theorem Remains.nil (given : ι → List α) : Remains given given [] := ⟨[], rfl, fun _ => rfl⟩

theorem Remains.give {given rest : ι → List α} {l : List α} (h : Remains given rest l) {i : ι}
    {a : α} {later : List α} (hrest : rest i = a :: later) :
    Remains given (Function.update rest i later) (l ++ [a]) := by
  obtain ⟨tagged, rfl, hgiven⟩ := h
  refine ⟨tagged ++ [(i, a)], List.map_append, fun j => ?_⟩
  by_cases hj : j = i
  · subst hj
    rw [givenBy_append_self, Function.update_self, List.append_assoc, ← hgiven j, hrest]
    rfl
  · rw [givenBy_append_other tagged (Ne.symm hj), Function.update_of_ne hj]
    exact hgiven j

theorem Remains.interleaves {given rest : ι → List α} {l : List α} (h : Remains given rest l)
    {done : ι → Prop} (hdone : ∀ i, done i → rest i = []) : Interleaves given done l := by
  obtain ⟨tagged, hl, hgiven⟩ := h
  refine ⟨tagged, hl, fun i => ⟨⟨rest i, hgiven i⟩, fun hi => ?_⟩⟩
  have heq := hgiven i
  rw [hdone i hi, List.append_nil] at heq
  exact heq

end
