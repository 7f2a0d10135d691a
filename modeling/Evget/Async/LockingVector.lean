import Mathlib.Data.List.Basic

/-!
# The locking vector

Every operation of `LockingVector` runs under the lock of the vector from its first to its last
statement, so it is one step for everybody else.

* `pushBack`, `intoInner`, `intoInnerAt`   the operations;
* `intoInnerAt_takes`                      taking at a size takes everything or nothing.
-/

namespace Evget

structure LockingVector (α : Type) where
  inner : List α

namespace LockingVector
variable {α : Type}

def new : LockingVector α := ⟨[]⟩

def pushBack (value : α) (self : LockingVector α) : LockingVector α := ⟨self.inner ++ [value]⟩

def intoInner (self : LockingVector α) : Option (List α) × LockingVector α :=
  (some self.inner, ⟨[]⟩)

/-- consume the inner vector when it has reached the size -/
def intoInnerAt (size : Nat) (self : LockingVector α) : Option (List α) × LockingVector α :=
  if self.inner.length ≥ size then self.intoInner else (none, self)

def Takes (self : LockingVector α) (out : Option (List α) × LockingVector α) : Prop :=
  out = (none, self) ∨ out = (some self.inner, ⟨[]⟩)

theorem intoInner_takes (self : LockingVector α) : self.Takes self.intoInner := .inr rfl

theorem intoInnerAt_takes (size : Nat) (self : LockingVector α) :
    self.Takes (self.intoInnerAt size) := by
  unfold intoInnerAt
  by_cases h : self.inner.length ≥ size
  · rw [if_pos h]
    exact .inr rfl
  · rw [if_neg h]
    exact .inl rfl

end LockingVector
end Evget
