import Mathlib.Data.List.Basic
import Mathlib.Logic.Relation

/-!
# What is seen of a world that goes on

A world takes one step after the other.  In between, items are made that show something of it, each
over some of these steps.

* `Observed`           items that are made one after the other, with other steps around them;
* `append`, `sublist`  more of them, and some of them;
* `mono`               the same items as other observations;
* `mem`                each of them on its own, with what comes before and after it.
-/

namespace Steps
open Relation (ReflTransGen)

variable {ω ε : Type*}

/-- `Shows w item w'` when the item shows something of the world from `w` to `w'` -/
inductive Observed (Step : ω → ω → Prop) (Shows : ω → ε → ω → Prop) : ω → List ε → ω → Prop
  | nil {w w' : ω} (hlater : ReflTransGen Step w w') : Observed Step Shows w [] w'
  | cons {w w₁ w₂ w' : ω} {item : ε} {items : List ε} (hbefore : ReflTransGen Step w w₁)
      (hshows : Shows w₁ item w₂) (hrest : Observed Step Shows w₂ items w') :
    Observed Step Shows w (item :: items) w'

namespace Observed
variable {Step Step' : ω → ω → Prop} {Shows Shows' : ω → ε → ω → Prop} {w w' w'' : ω}
  {item : ε} {xs ys : List ε}

theorem single (h : Shows w item w') : Observed Step Shows w [item] w' := .cons .refl h (.nil .refl)

theorem before (hbefore : ReflTransGen Step w w') (h : Observed Step Shows w' xs w'') :
    Observed Step Shows w xs w'' := by
  cases h with
  | nil hlater => exact .nil (hbefore.trans hlater)
  | cons hbetween hshows hrest => exact .cons (hbefore.trans hbetween) hshows hrest

theorem append (h : Observed Step Shows w xs w') (h' : Observed Step Shows w' ys w'') :
    Observed Step Shows w (xs ++ ys) w'' := by
  induction h with
  | nil hlater => exact h'.before hlater
  | cons hbefore hshows _ ih => exact .cons hbefore hshows (ih h')

/-! items that are made over steps -/

theorem later (hsteps : ∀ a item b, Shows a item b → ReflTransGen Step a b)
    (h : Observed Step Shows w xs w') : ReflTransGen Step w w' := by
  induction h with
  | nil hlater => exact hlater
  | cons hbefore hshows _ ih => exact (hbefore.trans (hsteps _ _ _ hshows)).trans ih

theorem mono (hsteps : ∀ a item b, Shows a item b → ReflTransGen Step a b)
    (hstep : ∀ a b, Step a b → Step' a b)
    (hshows : ∀ a item b, ReflTransGen Step w a → Shows a item b → Shows' a item b)
    (h : Observed Step Shows w xs w') : Observed Step' Shows' w xs w' := by
  induction h with
  | nil hlater => exact .nil (ReflTransGen.mono hstep _ _ hlater)
  | cons hbefore hitem _ ih =>
    refine .cons (ReflTransGen.mono hstep _ _ hbefore) (hshows _ _ _ hbefore hitem)
      (ih fun a item b hlater => ?_)
    exact hshows a item b ((hbefore.trans (hsteps _ _ _ hitem)).trans hlater)

theorem sublist (hsteps : ∀ a item b, Shows a item b → ReflTransGen Step a b)
    (h : Observed Step Shows w xs w') (hsub : ys.Sublist xs) : Observed Step Shows w ys w' := by
  induction h generalizing ys with
  | nil hlater =>
    rw [List.sublist_nil.mp hsub]
    exact .nil hlater
  | cons hbefore hshows _ ih =>
    cases hsub with
    | cons _ hsub => exact (ih hsub).before (hbefore.trans (hsteps _ _ _ hshows))
    | cons_cons _ hsub => exact .cons hbefore hshows (ih hsub)

theorem mem (hsteps : ∀ a item b, Shows a item b → ReflTransGen Step a b)
    (h : Observed Step Shows w xs w') (hitem : item ∈ xs) :
    ∃ a b, ReflTransGen Step w a ∧ Shows a item b ∧ ReflTransGen Step b w' := by
  cases h.sublist hsteps (List.singleton_sublist.mpr hitem) with
  | cons hbefore hshows hrest => exact ⟨_, _, hbefore, hshows, hrest.later hsteps⟩

end Observed
end Steps
