import Mathlib.Logic.Basic

/-!
# Errors and results

`Result α` is `std::expected<α, Error<ErrorType>>`.  A call that also moves a state `σ` returns a
`Result α × σ`, and its chains are written as in the source: `andThen` and `orElse` are the members
`and_then` and `or_else`.
-/

namespace Evget

inductive ErrorType where
  | sqLiteError
  | databaseManagerError
  | databaseError
  | eventHandlerError
  | asyncError
deriving DecidableEq, Repr

structure Error where
  errorType : ErrorType
  message : String
deriving DecidableEq, Repr

abbrev Result (α : Type) := Except Error α

/-- `error` under another error type, with the same message -/
def Error.as (errorType : ErrorType) (error : Error) : Error :=
  { error with errorType := errorType }

section
variable {α β σ : Type}

def andThen (x : Result α × σ) (f : α → σ → Result β × σ) : Result β × σ :=
  match x with
  | (.ok a, s) => f a s
  | (.error e, s) => (.error e, s)

def orElse (x : Result α × σ) (f : Error → σ → Result α × σ) : Result α × σ :=
  match x with
  | (.ok a, s) => (.ok a, s)
  | (.error e, s) => f e s

@[simp] theorem andThen_ok (a : α) (s : σ) (f : α → σ → Result β × σ) :
    andThen (.ok a, s) f = f a s := rfl
@[simp] theorem andThen_error (e : Error) (s : σ) (f : α → σ → Result β × σ) :
    andThen (.error e, s) f = (.error e, s) := rfl

theorem andThen_of_ok {x : Result α × σ} {a : α} (h : x.1 = .ok a) (f : α → σ → Result β × σ) :
    andThen x f = f a x.2 := by
  obtain ⟨r, s⟩ := x
  cases h
  rfl

theorem andThen_assoc {γ : Type} (x : Result α × σ) (f : α → σ → Result β × σ)
    (g : β → σ → Result γ × σ) :
    andThen (andThen x f) g = andThen x fun a s => andThen (f a s) g := by
  obtain ⟨r, s⟩ := x
  cases r <;> rfl

theorem orElse_eq_ok {x : Result α × σ} {f : Error → σ → Result α × σ} {a : α}
    (hf : ∀ e s, (f e s).1 ≠ .ok a) (h : (orElse x f).1 = .ok a) :
    x.1 = .ok a ∧ orElse x f = x := by
  obtain ⟨r, s⟩ := x
  cases r with
  | error e => exact absurd h (hf e s)
  | ok a' => exact ⟨h, rfl⟩

end

theorem mapM_ok {ε α β : Type} {f : α → Except ε β} {g : α → β} {xs : List α}
    (h : ∀ x ∈ xs, f x = .ok (g x)) : xs.mapM f = .ok (xs.map g) := by
  induction xs with
  | nil => rfl
  | cons x xs ih =>
    rw [List.mapM_cons, h x (List.mem_cons_self ..), ih fun x hx => h x (List.mem_cons_of_mem _ hx)]
    rfl

end Evget
