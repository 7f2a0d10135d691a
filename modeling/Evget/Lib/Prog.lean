import Mathlib.Logic.Function.Basic

/-!
# Programs of calls on a shared object

A client of a shared object is a program `Prog C R α`: it has ended with a result, or it makes a
call `c : C` and goes on with the response `r : R c`.  The object is a function `Exec C R σ` that
answers one call and moves its state.  Two ways to run clients:

* `Prog.run`         one client alone, from its first call to its result;
* `Pool.run`         a family of clients, one call of one client at a time, in the order of a
                     schedule.

What a client does is stated once, for both: a `Protocol` says in which phase a client may make
which call and which phase the response leads to, and `Prog.Follows` says that a program keeps to
it and ends in a phase that fits its result.

* `Prog.Follows.bind`   programs that follow a protocol compose;
* `Prog.Follows.prod`   programs that follow two protocols follow them side by side;
* `Prog.Follows.run`    an object invariant that every allowed call keeps holds when the program
                        has run alone;
* `Pool.run_inv`        the same for every schedule of a pool;
* `Pool.Agrees.run`     a pool among other clients that are not scheduled.
-/

set_option linter.unusedSectionVars false

namespace Calls

/-- a client of a shared object -/
inductive Prog (C : Type) (R : C → Type) (α : Type) where
  | ret (a : α)
  | call (c : C) (k : R c → Prog C R α)

abbrev Exec (C : Type) (R : C → Type) (σ : Type) := (c : C) → σ → R c × σ

section
variable {C : Type} {R : C → Type} {α β σ P : Type}

namespace Prog

def bind : Prog C R α → (α → Prog C R β) → Prog C R β
  | .ret a, f => f a
  | .call c k, f => .call c (fun r => (k r).bind f)

def run (ex : Exec C R σ) : Prog C R α → σ → α × σ
  | .ret a, s => (a, s)
  | .call c k, s => (k (ex c s).1).run ex (ex c s).2

theorem run_bind (ex : Exec C R σ) (m : Prog C R α) (f : α → Prog C R β) (s : σ) :
    (m.bind f).run ex s = (f (m.run ex s).1).run ex (m.run ex s).2 := by
  induction m generalizing s with
  | ret a => rfl
  | call c k ih => exact ih (ex c s).1 (ex c s).2

/-- on an object that answers as another one does -/
theorem run_map {τ : Type} {ex : Exec C R σ} {ex' : Exec C R τ} {f : σ → τ}
    (h : ∀ c s, ex' c (f s) = ((ex c s).1, f (ex c s).2)) (m : Prog C R α) (s : σ) :
    m.run ex' (f s) = ((m.run ex s).1, f (m.run ex s).2) := by
  induction m generalizing s with
  | ret a => rfl
  | call c k ih =>
    rw [run, h c s]
    exact ih (ex c s).1 (ex c s).2

end Prog

/-- what a client may ask in each phase, and where the response leads -/
structure Protocol (C : Type) (R : C → Type) (P : Type) where
  allowed : P → C → Prop
  /-- the responses that the object may give -/
  possible : P → (c : C) → R c → Prop
  next : P → (c : C) → R c → P

def Protocol.prod {Q : Type} (T : Protocol C R P) (U : Protocol C R Q) : Protocol C R (P × Q) where
  allowed pq c := T.allowed pq.1 c ∧ U.allowed pq.2 c
  possible pq c r := T.possible pq.1 c r ∧ U.possible pq.2 c r
  next pq c r := (T.next pq.1 c r, U.next pq.2 c r)

namespace Prog

/-- the program keeps to the protocol from phase `p` on and ends in a phase that fits its result -/
def Follows (T : Protocol C R P) (fin : P → α → Prop) : P → Prog C R α → Prop
  | p, .ret a => fin p a
  | p, .call c k => T.allowed p c ∧ ∀ r, T.possible p c r → Follows T fin (T.next p c r) (k r)

variable {T : Protocol C R P} {fin : P → α → Prop}

theorem Follows.mono {fin' : P → α → Prop} (h : ∀ p a, fin p a → fin' p a) {p : P}
    {m : Prog C R α} (hm : Follows T fin p m) : Follows T fin' p m := by
  induction m generalizing p with
  | ret a => exact h p a hm
  | call c k ih => exact ⟨hm.1, fun r hr => ih r (hm.2 r hr)⟩

theorem Follows.bind {fin' : P → β → Prop} {p : P} {m : Prog C R α} {f : α → Prog C R β}
    (hm : Follows T fin p m) (hf : ∀ p a, fin p a → Follows T fin' p (f a)) :
    Follows T fin' p (m.bind f) := by
  induction m generalizing p with
  | ret a => exact hf p a hm
  | call c k ih => exact ⟨hm.1, fun r hr => ih r (hm.2 r hr)⟩

/-- a program that keeps to two protocols keeps to both at once -/
theorem Follows.prod {Q : Type} {U : Protocol C R Q} {fin' : Q → α → Prop} {p : P} {q : Q}
    {m : Prog C R α} (hm : Follows T fin p m) (hm' : Follows U fin' q m) :
    Follows (T.prod U) (fun pq a => fin pq.1 a ∧ fin' pq.2 a) (p, q) m := by
  induction m generalizing p q with
  | ret a => exact ⟨hm, hm'⟩
  | call c k ih => exact ⟨⟨hm.1, hm'.1⟩, fun r hr => ih r (hm.2 r hr.1) (hm'.2 r hr.2)⟩

/-- **One client alone**: an invariant that every allowed call keeps holds at the end, in a phase
that fits the result. -/
theorem Follows.run {ex : Exec C R σ} {Inv : P → σ → Prop}
    (hstep : ∀ p s c, Inv p s → T.allowed p c →
      T.possible p c (ex c s).1 ∧ Inv (T.next p c (ex c s).1) (ex c s).2)
    {p : P} {m : Prog C R α} (hm : Follows T fin p m) {s : σ} (hs : Inv p s) :
    ∃ p', fin p' (m.run ex s).1 ∧ Inv p' (m.run ex s).2 := by
  induction m generalizing p s with
  | ret a => exact ⟨p, hm, hs⟩
  | call c k ih =>
    obtain ⟨hpos, hinv⟩ := hstep p s c hs hm.1
    exact ih _ (hm.2 _ hpos) hinv

end Prog

/-! ## many clients -/

/-- a family of clients on one object; `phase` is where the protocol has followed each to -/
structure Pool (ι : Type) (C : Type) (R : C → Type) (α P σ : Type) where
  client : ι → Prog C R α
  phase : ι → P
  object : σ

namespace Pool
variable {ι : Type} [DecidableEq ι]

/-- client `i` makes its next call; a client that has ended does nothing -/
def step (ex : Exec C R σ) (T : Protocol C R P) (p : Pool ι C R α P σ) (i : ι) :
    Pool ι C R α P σ :=
  match p.client i with
  | .ret _ => p
  | .call c k =>
    { client := Function.update p.client i (k (ex c p.object).1)
      phase := Function.update p.phase i (T.next (p.phase i) c (ex c p.object).1)
      object := (ex c p.object).2 }

def run (ex : Exec C R σ) (T : Protocol C R P) (p : Pool ι C R α P σ) (sched : List ι) :
    Pool ι C R α P σ := sched.foldl (step ex T) p

def Under (ex : Exec C R σ) (T : Protocol C R P) (ok : Pool ι C R α P σ → ι → Prop) :
    Pool ι C R α P σ → List ι → Prop
  | _, [] => True
  | p, i :: sched => ok p i ∧ Under ex T ok (p.step ex T i) sched

def Finished (p : Pool ι C R α P σ) : Prop := ∀ i, ∃ a, p.client i = .ret a

theorem under_true (ex : Exec C R σ) (T : Protocol C R P) (p : Pool ι C R α P σ)
    (sched : List ι) : p.Under ex T (fun _ _ => True) sched := by
  induction sched generalizing p with
  | nil => trivial
  | cons i sched ih => exact ⟨trivial, ih _⟩

def Follows (T : Protocol C R P) (fin : ι → P → α → Prop) (p : Pool ι C R α P σ) : Prop :=
  ∀ i, (p.client i).Follows T (fin i) (p.phase i)

variable {ex : Exec C R σ} {T : Protocol C R P} {fin : ι → P → α → Prop}

theorem Follows.ended {p : Pool ι C R α P σ} (h : p.Follows T fin) {i : ι} {a : α}
    (ha : p.client i = .ret a) : fin i (p.phase i) a := by
  have hi := h i
  rw [ha] at hi
  exact hi

/-- what a step keeps: the invariant, and that every client follows the protocol -/
theorem step_inv (Inv : (ι → P) → σ → Prop) {ok : Pool ι C R α P σ → ι → Prop}
    (hstep : ∀ (p : Pool ι C R α P σ) i c k, p.client i = .call c k → ok p i →
      Inv p.phase p.object → T.allowed (p.phase i) c →
      T.possible (p.phase i) c (ex c p.object).1 ∧
        Inv (Function.update p.phase i (T.next (p.phase i) c (ex c p.object).1)) (ex c p.object).2)
    {p : Pool ι C R α P σ} (hF : p.Follows T fin) (hI : Inv p.phase p.object) (i : ι)
    (hok : ok p i) :
    (p.step ex T i).Follows T fin ∧ Inv (p.step ex T i).phase (p.step ex T i).object := by
  have hi := hF i
  unfold step
  cases hc : p.client i with
  | ret a => exact ⟨hF, hI⟩
  | call c k =>
    rw [hc] at hi
    obtain ⟨hpos, hinv⟩ := hstep p i c k hc hok hI hi.1
    refine ⟨fun j => ?_, hinv⟩
    by_cases e : j = i
    · subst e
      simp only [Function.update_self]
      exact hi.2 _ hpos
    · simp only [Function.update_of_ne e]
      exact hF j

/-- **Many clients**: an invariant that every allowed call keeps holds after every schedule whose
steps meet `ok`. -/
theorem run_inv (Inv : (ι → P) → σ → Prop) {ok : Pool ι C R α P σ → ι → Prop}
    (hstep : ∀ (p : Pool ι C R α P σ) i c k, p.client i = .call c k → ok p i →
      Inv p.phase p.object → T.allowed (p.phase i) c →
      T.possible (p.phase i) c (ex c p.object).1 ∧
        Inv (Function.update p.phase i (T.next (p.phase i) c (ex c p.object).1)) (ex c p.object).2)
    {p : Pool ι C R α P σ} (hF : p.Follows T fin) (hI : Inv p.phase p.object) (sched : List ι)
    (hok : p.Under ex T ok sched) :
    (p.run ex T sched).Follows T fin ∧ Inv (p.run ex T sched).phase (p.run ex T sched).object := by
  induction sched generalizing p with
  | nil => exact ⟨hF, hI⟩
  | cons i sched ih =>
    obtain ⟨hF', hI'⟩ := step_inv Inv hstep hF hI i hok.1
    exact ih hF' hI' hok.2

theorem run_same {Q : Type} (U : Protocol C R Q) {p : Pool ι C R α P σ} {q : Pool ι C R α Q σ}
    (hclient : p.client = q.client) (hobject : p.object = q.object) (sched : List ι) :
    (p.run ex T sched).client = (q.run ex U sched).client ∧
      (p.run ex T sched).object = (q.run ex U sched).object := by
  induction sched generalizing p q with
  | nil => exact ⟨hclient, hobject⟩
  | cons i sched ih =>
    have hi := congrFun hclient i
    refine ih ?_ ?_
    all_goals
      unfold step
      rw [hi]
      cases q.client i with
      | ret a => assumption
      | call c k => simp only [hclient, hobject]

/-! ### clients that are not scheduled -/

theorem step_call {p : Pool ι C R α P σ} {i : ι} {c : C} {k : R c → Prog C R α}
    (h : p.client i = .call c k) : p.step ex T i =
      { client := Function.update p.client i (k (ex c p.object).1)
        phase := Function.update p.phase i (T.next (p.phase i) c (ex c p.object).1)
        object := (ex c p.object).2 } := by
  unfold step
  rw [h]

theorem step_ret {p : Pool ι C R α P σ} {i : ι} {a : α} (h : p.client i = .ret a) :
    p.step ex T i = p := by
  unfold step
  rw [h]

theorem run_append (p : Pool ι C R α P σ) (sched sched' : List ι) :
    p.run ex T (sched ++ sched') = (p.run ex T sched).run ex T sched' := List.foldl_append ..

theorem step_other (p : Pool ι C R α P σ) {i j : ι} (hne : i ≠ j) :
    (p.step ex T j).client i = p.client i ∧ (p.step ex T j).phase i = p.phase i := by
  cases hj : p.client j with
  | ret a =>
    rw [step_ret hj]
    exact ⟨rfl, rfl⟩
  | call c k =>
    rw [step_call hj]
    exact ⟨Function.update_of_ne hne _ _, Function.update_of_ne hne _ _⟩

theorem run_other (p : Pool ι C R α P σ) {i : ι} {sched : List ι} (h : i ∉ sched) :
    (p.run ex T sched).client i = p.client i ∧ (p.run ex T sched).phase i = p.phase i := by
  induction sched generalizing p with
  | nil => exact ⟨rfl, rfl⟩
  | cons j sched ih =>
    have hne : i ≠ j := fun heq => h (heq ▸ List.mem_cons_self ..)
    obtain ⟨hclient, hphase⟩ : (p.step ex T j).client i = p.client i ∧
        (p.step ex T j).phase i = p.phase i := p.step_other hne
    obtain ⟨hclient', hphase'⟩ := ih (p.step ex T j) fun hmem => h (List.mem_cons_of_mem _ hmem)
    exact ⟨hclient'.trans hclient, hphase'.trans hphase⟩

theorem run_ret {p : Pool ι C R α P σ} {i : ι} {a : α} (h : p.client i = .ret a)
    (sched : List ι) : (p.run ex T sched).client i = .ret a := by
  induction sched generalizing p with
  | nil => exact h
  | cons j sched ih =>
    refine ih ?_
    by_cases hj : i = j
    · rw [← hj, step_ret h]
      exact h
    · exact (p.step_other hj).1.trans h

theorem run_clients {Q : ι → Prog C R α → Prop}
    (hQ : ∀ i c k, Q i (.call c k) → ∀ r, Q i (k r)) {p : Pool ι C R α P σ}
    (h : ∀ i, Q i (p.client i)) (sched : List ι) : ∀ i, Q i ((p.run ex T sched).client i) := by
  induction sched generalizing p with
  | nil => exact h
  | cons j sched ih =>
    refine ih fun i => ?_
    by_cases hj : i = j
    · cases hcall : p.client j with
      | ret a =>
        rw [step_ret hcall]
        exact h i
      | call c k =>
        rw [step_call hcall, hj]
        show Q j (Function.update p.client j _ j)
        rw [Function.update_self]
        exact hQ j c k (hcall ▸ h j) _
    · rw [(p.step_other hj).1]
      exact h i

def setClient (p : Pool ι C R α P σ) (i : ι) (m : Prog C R α) : Pool ι C R α P σ :=
  { p with client := Function.update p.client i m }

@[simp] theorem setClient_self (p : Pool ι C R α P σ) (i : ι) (m : Prog C R α) :
    (p.setClient i m).client i = m := Function.update_self ..

theorem setClient_other (p : Pool ι C R α P σ) {i j : ι} (hne : j ≠ i) (m : Prog C R α) :
    (p.setClient i m).client j = p.client j := Function.update_of_ne hne _ _

/-- the program of a client that is not scheduled does not matter -/
theorem run_setClient (p : Pool ι C R α P σ) {i : ι} (m : Prog C R α) {sched : List ι}
    (h : i ∉ sched) : (p.setClient i m).run ex T sched = (p.run ex T sched).setClient i m := by
  induction sched generalizing p with
  | nil => rfl
  | cons j sched ih =>
    have hne : j ≠ i := fun heq => h (heq ▸ List.mem_cons_self ..)
    have hrest : i ∉ sched := fun hmem => h (List.mem_cons_of_mem _ hmem)
    refine Eq.trans ?_ (ih (p.step ex T j) hrest)
    show Pool.run ex T ((p.setClient i m).step ex T j) sched = _
    congr 1
    have hclient := p.setClient_other hne m
    cases hj : p.client j with
    | ret a => rw [step_ret hj, step_ret (hclient.trans hj)]
    | call c k =>
      rw [step_call hj, step_call (hclient.trans hj)]
      exact congrArg (Pool.mk · _ _) (Function.update_comm (Ne.symm hne) _ _ _)

section
variable {κ : Type} [DecidableEq κ]

structure Agrees (e : ι → κ) (p : Pool κ C R α P σ) (q : Pool ι C R α P σ) : Prop where
  client : ∀ i, p.client (e i) = q.client i
  phase : ∀ i, p.phase (e i) = q.phase i
  object : p.object = q.object

variable {e : ι → κ} {p : Pool κ C R α P σ} {q : Pool ι C R α P σ}

theorem update_agrees {β : Type} (he : Function.Injective e) {f : κ → β} {g : ι → β}
    (h : ∀ i, f (e i) = g i) (i : ι) (b : β) (j : ι) :
    Function.update f (e i) b (e j) = Function.update g i b j := by
  by_cases hj : j = i
  · rw [hj, Function.update_self, Function.update_self]
  · rw [Function.update_of_ne (he.ne hj), Function.update_of_ne hj, h]

theorem Agrees.step (he : Function.Injective e) (h : Agrees e p q) (i : ι) :
    Agrees e (p.step ex T (e i)) (q.step ex T i) := by
  have hclient := h.client i
  cases hi : q.client i with
  | ret a =>
    rw [hi] at hclient
    rw [step_ret hi, step_ret hclient]
    exact h
  | call c k =>
    rw [hi] at hclient
    rw [step_call hi, step_call hclient, h.object, h.phase i]
    exact ⟨update_agrees he h.client i _, update_agrees he h.phase i _, rfl⟩

/-- **A pool among others**: a schedule of its clients alone runs as in the pool. -/
theorem Agrees.run (he : Function.Injective e) (h : Agrees e p q) (sched : List ι) :
    Agrees e (p.run ex T (sched.map e)) (q.run ex T sched) := by
  induction sched generalizing p q with
  | nil => exact h
  | cons i sched ih => exact ih (h.step he i)

end

end Pool
end
end Calls
