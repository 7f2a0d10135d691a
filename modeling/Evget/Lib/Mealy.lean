import Mathlib.Init

/-!
# Machines with outputs

A machine takes an event in a state to an output and the next state.  A run gives the outputs, each
with the event that it belongs to.

* `outputs`, `final`     the outputs of a run, and the state in which it ends;
* `run_inv`              an invariant holds before every event and after the last;
* `outputs_project`      a run that is looked at through some of its events only is a run of those
                         events alone, when the others do not touch what those depend on.
-/

namespace Mealy
variable {σ τ ε o q p : Type}

def outputs (step : σ → ε → o × σ) : σ → List ε → List (ε × o)
  | _, [] => []
  | s, e :: es => (e, (step s e).1) :: outputs step (step s e).2 es

def final (step : σ → ε → o × σ) : σ → List ε → σ
  | s, [] => s
  | s, e :: es => final step (step s e).2 es

@[simp] theorem outputs_nil (step : σ → ε → o × σ) (s : σ) : outputs step s [] = [] := rfl

@[simp] theorem outputs_cons (step : σ → ε → o × σ) (s : σ) (e : ε) (es : List ε) :
    outputs step s (e :: es) = (e, (step s e).1) :: outputs step (step s e).2 es := rfl

@[simp] theorem final_cons (step : σ → ε → o × σ) (s : σ) (e : ε) (es : List ε) :
    final step s (e :: es) = final step (step s e).2 es := rfl

theorem outputs_append (step : σ → ε → o × σ) (s : σ) (es fs : List ε) :
    outputs step s (es ++ fs) = outputs step s es ++ outputs step (final step s es) fs := by
  induction es generalizing s with
  | nil => rfl
  | cons e es ih => rw [List.cons_append, outputs_cons, ih, outputs_cons, List.cons_append,
      final_cons]

theorem final_append (step : σ → ε → o × σ) (s : σ) (es fs : List ε) :
    final step s (es ++ fs) = final step (final step s es) fs := by
  induction es generalizing s with
  | nil => rfl
  | cons e es ih => exact ih _

theorem length_outputs (step : σ → ε → o × σ) (s : σ) (es : List ε) :
    (outputs step s es).length = es.length := by
  induction es generalizing s with
  | nil => rfl
  | cons e es ih => rw [outputs_cons, List.length_cons, ih, List.length_cons]

theorem outputs_at (step : σ → ε → o × σ) (s : σ) (before : List ε) (e : ε) (after : List ε) :
    (outputs step s (before ++ e :: after))[before.length]?
      = some (e, (step (final step s before) e).1) := by
  rw [outputs_append, ← length_outputs step s before, List.getElem?_append_right (Nat.le_refl _),
    Nat.sub_self]
  rfl

theorem outputs_events (step : σ → ε → o × σ) (s : σ) (es : List ε) :
    (outputs step s es).map Prod.fst = es := by
  induction es generalizing s with
  | nil => rfl
  | cons e es ih => rw [outputs_cons, List.map_cons, ih]

theorem mem_outputs {step : σ → ε → o × σ} {s : σ} {es : List ε} {x : ε × o}
    (h : x ∈ outputs step s es) : ∃ t, x.2 = (step t x.1).1 := by
  induction es generalizing s with
  | nil => cases h
  | cons e es ih =>
    rcases List.mem_cons.mp h with rfl | h
    · exact ⟨s, rfl⟩
    · exact ih h

theorem outputs_split {step : σ → ε → o × σ} {s : σ} {es : List ε} {a b : List (ε × o)}
    (h : outputs step s es = a ++ b) :
    a = outputs step s (a.map Prod.fst) ∧
      b = outputs step (final step s (a.map Prod.fst)) (b.map Prod.fst) := by
  have hes : es = a.map Prod.fst ++ b.map Prod.fst := by
    rw [← List.map_append, ← h, outputs_events]
  rw [hes, outputs_append] at h
  have hlength : (outputs step s (a.map Prod.fst)).length = a.length := by
    rw [length_outputs, List.length_map]
  obtain ⟨ha, hb⟩ := List.append_inj h hlength
  exact ⟨ha.symm, hb.symm⟩

/-- **Invariants**: what every step keeps holds after a run. -/
theorem run_inv {step : σ → ε → o × σ} {I : σ → Prop} (h : ∀ s e, I s → I (step s e).2) {s : σ}
    (hs : I s) (es : List ε) : I (final step s es) := by
  induction es generalizing s with
  | nil => exact hs
  | cons e es ih => exact ih (h s e hs)

/-- **Projection**: the events that are `mine` have the outputs, as far as they are looked at, that
another machine gives when it has these events alone. -/
theorem outputs_project {f : σ → ε → o × σ} {g : τ → ε → q × τ} {mine : ε → Bool}
    (R : σ → τ → Prop) (look : o → p) (look' : q → p)
    (hmine : ∀ s t e, R s t → mine e = true →
      look (f s e).1 = look' (g t e).1 ∧ R (f s e).2 (g t e).2)
    (hother : ∀ s t e, R s t → mine e = false → R (f s e).2 t)
    {s : σ} {t : τ} (h : R s t) (es : List ε) :
    ((outputs f s es).filter fun x => mine x.1).map (fun x => (x.1, look x.2))
      = (outputs g t (es.filter mine)).map fun x => (x.1, look' x.2) := by
  induction es generalizing s t with
  | nil => rfl
  | cons e es ih =>
    rw [outputs_cons]
    cases he : mine e with
    | false =>
      have hno : ¬ mine e = true := by rw [he]; decide
      rw [List.filter_cons_of_neg (p := fun x : ε × o => mine x.1) hno, List.filter_cons_of_neg hno]
      exact ih (hother s t e h he)
    | true =>
      obtain ⟨hlook, hrest⟩ := hmine s t e h he
      rw [List.filter_cons_of_pos (p := fun x : ε × o => mine x.1) he,
        List.filter_cons_of_pos he, outputs_cons, List.map_cons, List.map_cons, ih hrest]
      show (e, look (f s e).1) :: _ = (e, look' (g t e).1) :: _
      rw [hlook]

end Mealy
