import Mathlib.Data.List.Basic

/-!
# The latest value

Steps that give a value or none: when each step replaces the value, the last one counts, and when
each step keeps it, the first one.

* `of`             the value that was given last;
* `foldl_of`       what steps lead to that replace the value;
* `foldl_first`    what steps lead to that keep it;
* `Agree`          steps of which all give the same value, in any order.
-/

namespace Latest

variable {α β σ : Type}

def of (f : α → Option β) (xs : List α) : Option β := xs.reverse.findSome? f

@[simp] theorem of_nil (f : α → Option β) : of f [] = none := rfl

theorem of_append (f : α → Option β) (xs ys : List α) :
    of f (xs ++ ys) = (of f ys).or (of f xs) := by
  unfold of
  rw [List.reverse_append, List.findSome?_append]

theorem of_cons (f : α → Option β) (x : α) (xs : List α) :
    of f (x :: xs) = (of f xs).or (f x) := by
  have hsingle : of f [x] = f x := by
    unfold of
    rw [List.reverse_singleton, List.findSome?_singleton]
  rw [← List.singleton_append, of_append, hsingle]

theorem of_map {γ : Type} (g : γ → α) (f : α → Option β) (xs : List γ) :
    of f (xs.map g) = of (fun x => f (g x)) xs := by
  unfold of
  rw [← List.map_reverse, List.findSome?_map]
  rfl

theorem exists_of_eq_some {f : α → Option β} {xs : List α} {y : β} (h : of f xs = some y) :
    ∃ x ∈ xs, f x = some y := by
  obtain ⟨x, hx, hy⟩ := List.exists_of_findSome?_eq_some h
  exact ⟨x, List.mem_reverse.mp hx, hy⟩

theorem of_if (p : Prop) [Decidable p] (f : α → Option β) (xs : List α) :
    of (fun x => if p then f x else none) xs = if p then of f xs else none := by
  by_cases h : p
  · simp only [if_pos h]
  · simp only [if_neg h]
    induction xs with
    | nil => rfl
    | cons x xs ih => rw [of_cons, ih, Option.none_or]

theorem foldl_of (view : σ → Option β) {step : σ → α → σ} {f : α → Option β}
    (h : ∀ s x, view (step s x) = (f x).or (view s)) (xs : List α) (s : σ) :
    view (xs.foldl step s) = (of f xs).or (view s) := by
  induction xs generalizing s with
  | nil => rfl
  | cons x xs ih => rw [List.foldl_cons, ih, h, of_cons, Option.or_assoc]

theorem foldl_first (view : σ → Option β) {step : σ → α → σ} {f : α → Option β}
    (h : ∀ s x, view (step s x) = (view s).or (f x)) (xs : List α) (s : σ) :
    view (xs.foldl step s) = (view s).or (xs.findSome? f) := by
  induction xs generalizing s with
  | nil => exact (Option.or_none).symm
  | cons x xs ih =>
    rw [List.foldl_cons, ih, h, List.findSome?_cons, Option.or_assoc]
    cases f x <;> rfl

theorem findSome?_if {p : α → Prop} [DecidablePred p] (f : α → β) (xs : List α) :
    (xs.findSome? fun x => if p x then some (f x) else none) = (xs.find? p).map f := by
  induction xs with
  | nil => rfl
  | cons x xs ih =>
    rw [List.findSome?_cons, List.find?_cons, ih]
    by_cases h : p x
    · rw [if_pos h, decide_eq_true h]
      rfl
    · rw [if_neg h, decide_eq_false h]

/-! ## the order of the steps -/

section
variable {f : α → Option β} {xs ys : List α}

def Agree (f : α → Option β) (xs : List α) : Prop :=
  ∀ x ∈ xs, ∀ y ∈ xs, ∀ v w, f x = some v → f y = some w → v = w

theorem findSome?_eq_some_iff_of_agree (h : Agree f xs) {v : β} :
    xs.findSome? f = some v ↔ ∃ x ∈ xs, f x = some v := by
  constructor
  · exact List.exists_of_findSome?_eq_some
  · rintro ⟨x, hx, hv⟩
    cases hfirst : xs.findSome? f with
    | none => exact absurd hv (by rw [List.findSome?_eq_none_iff.mp hfirst x hx]; exact nofun)
    | some w =>
      obtain ⟨y, hy, hw⟩ := List.exists_of_findSome?_eq_some hfirst
      rw [h y hy x hx w v hw hv]

/-- when all agree, the first value does not depend on the order -/
theorem findSome?_perm (hp : xs.Perm ys) (h : Agree f xs) :
    xs.findSome? f = ys.findSome? f := by
  have h' : Agree f ys := fun x hx y hy => h x (hp.mem_iff.mpr hx) y (hp.mem_iff.mpr hy)
  refine Option.ext fun v => ?_
  rw [findSome?_eq_some_iff_of_agree h, findSome?_eq_some_iff_of_agree h']
  exact exists_congr fun x => and_congr_left' hp.mem_iff

theorem of_perm (hp : xs.Perm ys) (h : Agree f xs) : of f xs = of f ys := by
  have h' : Agree f xs.reverse := fun x hx y hy =>
    h x (List.mem_reverse.mp hx) y (List.mem_reverse.mp hy)
  exact findSome?_perm ((List.reverse_perm xs).trans (hp.trans (List.reverse_perm ys).symm)) h'

end

end Latest
