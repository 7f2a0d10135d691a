import Mathlib.Algebra.BigOperators.Group.List.Basic

/-!
# Differences of neighbours

* `differences`             the differences between the neighbours of a list;
* `sum_take_differences`    they add up to the difference between the ends.
-/

namespace Telescope
variable {A : Type} [AddCommGroup A]

def differences : A → List A → List A
  | _, [] => []
  | first, x :: xs => (x - first) :: differences x xs

@[simp] theorem differences_nil (first : A) : differences first [] = [] := rfl

@[simp] theorem differences_cons (first x : A) (xs : List A) :
    differences first (x :: xs) = (x - first) :: differences x xs := rfl

theorem length_differences (first : A) (xs : List A) :
    (differences first xs).length = xs.length := by
  induction xs generalizing first with
  | nil => rfl
  | cons x xs ih => exact congrArg (· + 1) (ih x)

/-- **Telescoping**: up to any element the differences add up to this one less the first. -/
theorem sum_take_differences {first x : A} {xs : List A} {n : Nat}
    (h : (first :: xs)[n]? = some x) : ((differences first xs).take n).sum = x - first := by
  induction n generalizing first xs with
  | zero =>
    cases h
    rw [List.take_zero, List.sum_nil, sub_self]
  | succ n ih =>
    cases xs with
    | nil => cases h
    | cons y ys =>
      have hy : (y :: ys)[n]? = some x := h
      rw [differences_cons, List.take_succ_cons, List.sum_cons, ih hy]
      exact sub_add_sub_cancel' y first x

end Telescope
