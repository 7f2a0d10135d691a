import Mathlib.Data.List.Basic

/-!
# Computations that return

`Returns x` says that `x` returns a value, whichever it is, and raises nothing.

* `returns_map`, `returns_bind`      one computation after another;
* `returns_mapM`, `returns_foldlM`   a computation for every element of a list.
-/

def Returns {ε α : Type} (x : Except ε α) : Prop := ∃ a, x = .ok a

section
variable {ε α β : Type}

@[simp] theorem returns_ok (a : α) : Returns (.ok a : Except ε α) := ⟨a, rfl⟩

@[simp] theorem not_returns_error (e : ε) : ¬ Returns (.error e : Except ε α) := by
  rintro ⟨a, h⟩
  cases h

@[simp] theorem returns_map (f : α → β) (x : Except ε α) : Returns (x.map f) ↔ Returns x := by
  cases x with
  | error e => simp [Except.map]
  | ok a => simp [Except.map]

theorem returns_bind (x : Except ε α) (f : α → Except ε β) :
    Returns (x >>= f) ↔ ∃ a, x = .ok a ∧ Returns (f a) := by
  cases x with
  | error e =>
    show Returns (.error e) ↔ _
    simp
  | ok a =>
    show Returns (f a) ↔ _
    simp

theorem returns_mapM (f : α → Except ε β) (xs : List α) :
    Returns (xs.mapM f) ↔ ∀ x ∈ xs, Returns (f x) := by
  induction xs with
  | nil =>
    rw [List.mapM_nil]
    show Returns (.ok []) ↔ _
    simp
  | cons x xs ih =>
    rw [List.mapM_cons, returns_bind, List.forall_mem_cons, ← ih]
    constructor
    · rintro ⟨y, hy, h⟩
      obtain ⟨ys, hys, -⟩ := (returns_bind _ _).mp h
      exact ⟨⟨y, hy⟩, ⟨ys, hys⟩⟩
    · rintro ⟨⟨y, hy⟩, ys, hys⟩
      exact ⟨y, hy, (returns_bind _ _).mpr ⟨ys, hys, returns_ok _⟩⟩

/-- whether a step returns does not depend on what was accumulated before it -/
theorem returns_foldlM (f : β → α → Except ε β) {P : α → Prop}
    (h : ∀ b x, Returns (f b x) ↔ P x) (xs : List α) (b : β) :
    Returns (xs.foldlM f b) ↔ ∀ x ∈ xs, P x := by
  induction xs generalizing b with
  | nil =>
    rw [List.foldlM_nil]
    show Returns (.ok b) ↔ _
    simp
  | cons x xs ih =>
    rw [List.foldlM_cons, returns_bind, List.forall_mem_cons, ← h b x]
    constructor
    · rintro ⟨c, hc, hrest⟩
      exact ⟨⟨c, hc⟩, (ih c).mp hrest⟩
    · rintro ⟨⟨c, hc⟩, hrest⟩
      exact ⟨c, hc, (ih c).mpr hrest⟩

end
