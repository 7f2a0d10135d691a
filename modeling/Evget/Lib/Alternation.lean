import Mathlib.Data.List.Chain

/-!
# Alternating lists with elements left out

A list alternates when neighbours differ.  When some elements of an alternating list over two
values are left out, what remains alternates exactly when an even number has been left out between
any two that remain.

* `evenGaps`             this condition, on the marks of the elements that remain;
* `alternates_kept_iff`  the equivalence.
-/

namespace Alternation
variable {α : Type}

abbrev Alternates (l : List α) : Prop := l.IsChain fun a b => a ≠ b

/-- behind an element that remains: `even` is the parity of what has been left out since -/
def gapsAfter : Bool → List Bool → Bool
  | _, [] => true
  | even, false :: marks => gapsAfter (!even) marks
  | even, true :: marks => even && gapsAfter true marks

/-- between two elements that remain an even number has been left out -/
def evenGaps : List Bool → Bool
  | [] => true
  | false :: marks => evenGaps marks
  | true :: marks => gapsAfter true marks

def kept (l : List (α × Bool)) : List α := (l.filter Prod.snd).map Prod.fst

theorem kept_append (l l' : List (α × Bool)) : kept (l ++ l') = kept l ++ kept l' := by
  rw [kept, List.filter_append, List.map_append]
  rfl

section
variable {P : α → Prop} (htwo : ∀ a b c, P a → P b → P c → a ≠ b → b ≠ c → a = c)
include htwo

/-- behind `last`, the last element that remains, and `previous`, the last element at all -/
theorem kept_after (l : List (α × Bool)) (hl : ∀ x ∈ l, P x.1) :
    ∀ (previous last : α) (even : Bool), P previous → P last → (last = previous ↔ even = true) →
      Alternates (previous :: l.map Prod.fst) →
      (Alternates (last :: kept l) ↔ gapsAfter even (l.map Prod.snd) = true) := by
  induction l with
  | nil => exact fun _ last _ _ _ _ _ => ⟨fun _ => rfl, fun _ => .singleton last⟩
  | cons x l ih =>
    intro previous last even hp hq hlast hchain
    obtain ⟨a, mark⟩ := x
    have ha : P a := hl (a, mark) (List.mem_cons_self ..)
    have ih := ih fun x hx => hl x (List.mem_cons_of_mem _ hx)
    obtain ⟨hne, hrest⟩ := List.isChain_cons_cons.mp hchain
    have hparity : last = a ↔ even = false := by
      constructor
      · intro e
        cases even with
        | false => rfl
        | true => exact absurd ((hlast.mpr rfl).symm.trans e) hne
      · intro e
        have h : last ≠ previous := fun h => by rw [hlast.mp h] at e; cases e
        exact htwo last previous a hq hp ha h hne
    cases mark with
    | false =>
      have hiff : last = a ↔ (!even) = true := by
        rw [hparity, Bool.not_eq_true']
      exact ih a last (!even) ha hq hiff hrest
    | true =>
      have htail := ih a a true ha ha ⟨fun _ => rfl, fun _ => rfl⟩ hrest
      show Alternates (last :: a :: kept l) ↔ (even && gapsAfter true (l.map Prod.snd)) = true
      rw [Alternates, List.isChain_cons_cons, Bool.and_eq_true, ← htail]
      refine and_congr ?_ Iff.rfl
      rw [Ne, hparity, Bool.not_eq_false]

/-- **What remains of an alternating list** alternates when the gaps are even, and only then. -/
theorem alternates_kept_iff {l : List (α × Bool)} (hl : ∀ x ∈ l, P x.1)
    (h : Alternates (l.map Prod.fst)) :
    Alternates (kept l) ↔ evenGaps (l.map Prod.snd) = true := by
  induction l with
  | nil => exact ⟨fun _ => rfl, fun _ => .nil⟩
  | cons x l ih =>
    obtain ⟨a, mark⟩ := x
    have ha : P a := hl (a, mark) (List.mem_cons_self ..)
    have htail : ∀ x ∈ l, P x.1 := fun x hx => hl x (List.mem_cons_of_mem _ hx)
    cases mark with
    | false => exact ih htail h.tail
    | true => exact kept_after htwo l htail a a true ha ha ⟨fun _ => rfl, fun _ => rfl⟩ h

end

end Alternation
