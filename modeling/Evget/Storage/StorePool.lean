import Evget.Storage.StoreRuns

/-!
# Calls of `storeEvent` that run at the same time

All calls on one store share its connection.  `connect` replaces the handle and `begin` the
transaction object, whoever uses them, so a call must be left alone while its transaction is open.

* `Undisturbed`            no call takes a step inside the transaction of another;
* `storePool_committed`    under this condition every schedule keeps the promise of each call: its
                           rows are in the file when it returned a success, and only then;
* `interleaved_fails`      two calls that interleave otherwise: one reports an error, and its row is
                           in the file.
-/

namespace Evget
open SQLite
open Calls

namespace DatabaseStorage

set_option linter.unusedSectionVars false

section
variable {ι : Type} [DecidableEq ι]

def start (uuids : ι → Nat → List UInt8) (events : ι → Data) (c : SQLiteConnection Tables) :
    Pool ι Call Reply (Result Unit) Phase (SQLiteConnection Tables) where
  client i := storeEvent (uuids i) (events i)
  phase _ := .before
  object := c

/-- no other call is between its started transaction and its end -/
def Undisturbed (p : Pool ι Call Reply (Result Unit) Phase (SQLiteConnection Tables)) (i : ι) :
    Prop :=
  ∀ j rows, p.phase j = .inside rows → j = i

def storedRows : Phase → List (TableName × List Value)
  | .stored rows => rows
  | _ => []

/-- the calls in `order` have committed, in this order, and nothing else has -/
structure Committed (base : Tables) (order : List ι) (phase : ι → Phase)
    (c : SQLiteConnection Tables) : Prop where
  nodup : order.Nodup
  stored : ∀ i, i ∈ order ↔ ∃ rows, phase i = .stored rows
  content : c.file.content = addRows (order.flatMap fun i => storedRows (phase i)) base
  inside : ∀ i rows, phase i = .inside rows →
    c.InTransaction c.file.content (addRows rows c.file.content)

theorem Committed.holds {base : Tables} {order : List ι} {phase : ι → Phase}
    {c : SQLiteConnection Tables} (h : Committed base order phase c) {i : ι} {call : Call}
    (ha : protocol.allowed (phase i) call) : Holds c.file.content (phase i) c := by
  cases hp : phase i with
  | before => exact rfl
  | inside rows => exact h.inside i rows hp
  | stored rows => rw [hp] at ha; exact ha.elim
  | failed => exact rfl

theorem Committed.rows_update {base : Tables} {order : List ι} {phase : ι → Phase}
    {c : SQLiteConnection Tables} (h : Committed base order phase c) {i : ι}
    (hi : ∀ rows, phase i ≠ .stored rows) (p : Phase) :
    i ∉ order ∧ (order.flatMap fun j => storedRows (Function.update phase i p j))
      = order.flatMap fun j => storedRows (phase j) := by
  have hnot : i ∉ order := by
    intro hmem
    obtain ⟨rows, hrows⟩ := (h.stored i).mp hmem
    exact hi rows hrows
  refine ⟨hnot, List.flatMap_congr fun j hj => ?_⟩
  have hne : j ≠ i := fun e => hnot (e ▸ hj)
  rw [Function.update_of_ne hne]

theorem Committed.uncommitted {base : Tables} {order : List ι} {phase : ι → Phase}
    {c c' : SQLiteConnection Tables} (h : Committed base order phase c) {i : ι}
    (hi : ∀ rows, phase i ≠ .stored rows) {p : Phase} (hp : ∀ rows, p ≠ .stored rows)
    (hcon : c'.file.content = c.file.content)
    (hinside : ∀ j rows, Function.update phase i p j = .inside rows →
      c'.InTransaction c'.file.content (addRows rows c'.file.content)) :
    Committed base order (Function.update phase i p) c' := by
  have hsame : ∀ j, (∃ rows, Function.update phase i p j = .stored rows) ↔
      ∃ rows, phase j = .stored rows := by
    intro j
    by_cases e : j = i
    · subst e
      rw [Function.update_self]
      exact ⟨fun ⟨rows, e⟩ => absurd e (hp rows), fun ⟨rows, e⟩ => absurd e (hi rows)⟩
    · rw [Function.update_of_ne e]
  refine ⟨h.nodup, fun j => (h.stored j).trans (hsame j).symm, ?_, hinside⟩
  rw [(h.rows_update hi p).2, hcon]
  exact h.content

theorem Committed.commits {base : Tables} {order : List ι} {phase : ι → Phase}
    {c c' : SQLiteConnection Tables} (h : Committed base order phase c) {i : ι}
    (hi : ∀ rows, phase i ≠ .stored rows) {rows : List (TableName × List Value)}
    (hcon : c'.file.content = addRows rows c.file.content)
    (hinside : ∀ j rows', Function.update phase i (.stored rows) j = .inside rows' →
      c'.InTransaction c'.file.content (addRows rows' c'.file.content)) :
    Committed base (order ++ [i]) (Function.update phase i (.stored rows)) c' := by
  obtain ⟨hnot, hrows⟩ := h.rows_update hi (.stored rows)
  refine ⟨?_, fun j => ?_, ?_, hinside⟩
  · refine List.nodup_append.mpr ⟨h.nodup, List.pairwise_singleton _ i, fun a ha b hb e => ?_⟩
    rw [List.mem_singleton] at hb
    exact hnot (hb ▸ e ▸ ha)
  · by_cases hj : j = i
    · subst hj
      simp
    · simp [hj, h.stored j]
  · rw [List.flatMap_append, hrows, addRows_append, hcon, h.content]
    simp [storedRows]

/-- **One step**: an allowed call of an undisturbed client keeps the invariant. -/
theorem Committed.step {base : Tables} {order : List ι} {phase : ι → Phase}
    {c : SQLiteConnection Tables} (h : Committed base order phase c) {i : ι} {call : Call}
    (ha : protocol.allowed (phase i) call)
    (halone : ∀ j rows, phase j = .inside rows → j = i) :
    ∃ order', Committed base order'
      (Function.update phase i (protocol.next (phase i) call (answer call c).1))
      (answer call c).2 := by
  have hstep := (answer_holds (phase i) c call (h.holds ha) ha).2
  have hi : ∀ rows, phase i ≠ .stored rows := by
    intro rows e
    rw [e] at ha
    exact ha.elim
  generalize protocol.next (phase i) call (answer call c).1 = p at hstep ⊢
  generalize (answer call c).2 = c' at hstep ⊢
  -- no other call is inside a transaction
  have halone' : ∀ j rows, Function.update phase i p j = .inside rows → p = .inside rows := by
    intro j rows e
    by_cases hj : j = i
    · rw [hj, Function.update_self] at e
      exact e
    · rw [Function.update_of_ne hj] at e
      exact absurd (halone j rows e) hj
  cases p with
  | before => exact ⟨order, h.uncommitted hi nofun hstep fun j rows e => nomatch halone' j rows e⟩
  | failed => exact ⟨order, h.uncommitted hi nofun hstep fun j rows e => nomatch halone' j rows e⟩
  | inside rows =>
    have hin : c'.InTransaction c.file.content (addRows rows c.file.content) := hstep
    refine ⟨order, h.uncommitted hi nofun hin.content fun j rows' e => ?_⟩
    cases halone' j rows' e
    rw [hin.content]
    exact hin
  | stored rows =>
    exact ⟨order ++ [i], h.commits hi hstep fun j rows' e => nomatch halone' j rows' e⟩

/-- **Interleaved calls**: as long as no call takes a step inside the transaction of another, every
schedule leaves in the file the rows of exactly those calls that have returned a success, in the
order of their commits. -/
theorem storePool_committed (uuids : ι → Nat → List UInt8) (events : ι → Data)
    (c : SQLiteConnection Tables) (sched : List ι)
    (halone : (start uuids events c).Under answer protocol Undisturbed sched) :
    let p := (start uuids events c).run answer protocol sched
    ∃ order : List ι, order.Nodup ∧ (∀ i ∈ order, p.client i = .ret (.ok ())) ∧
      (∀ i, p.client i = .ret (.ok ()) →
        i ∈ order ∨ batchRows (uuids i) 0 (events i).entries = []) ∧
      p.object.file.content
        = addRows (order.flatMap fun i => batchRows (uuids i) 0 (events i).entries)
            c.file.content := by
  intro p
  have hfollows : (start uuids events c).Follows protocol
      (fun i => Ended (batchRows (uuids i) 0 (events i).entries)) :=
    fun i => storeEvent_follows (uuids i) (events i)
  have hinit : ∃ order, Committed c.file.content order (start uuids events c).phase
      (start uuids events c).object :=
    ⟨[], .nil, fun i => ⟨nofun, fun ⟨rows, e⟩ => nomatch e⟩, rfl, fun i rows e => nomatch e⟩
  obtain ⟨hF, order, hC⟩ := Pool.run_inv
    (fun phase c' => ∃ order, Committed c.file.content order phase c')
    (fun p i call k _ hok ⟨order, hC⟩ ha =>
      ⟨(answer_holds (p.phase i) p.object call (hC.holds ha) ha).1, hC.step ha hok⟩)
    hfollows hinit sched halone
  -- a call that has committed has ended, with a success
  have hended : ∀ i rows, p.phase i = .stored rows →
      p.client i = .ret (.ok ()) ∧ rows = batchRows (uuids i) 0 (events i).entries := by
    intro i rows e
    have hi := hF i
    rw [show _ = Phase.stored rows from e] at hi
    cases hc : p.client i with
    | call call k =>
      rw [show _ = Prog.call call k from hc] at hi
      exact hi.1.elim
    | ret r =>
      rw [show _ = Prog.ret r from hc] at hi
      cases r with
      | error e => exact hi.elim
      | ok u => exact ⟨rfl, hi⟩
  refine ⟨order, hC.nodup, fun i hi => ?_, fun i hi => ?_, ?_⟩
  · obtain ⟨rows, e⟩ := (hC.stored i).mp hi
    exact (hended i rows e).1
  · have hend := Pool.Follows.ended hF hi
    cases e : p.phase i with
    | before => rw [show _ = Phase.before from e] at hend; exact .inr hend
    | inside rows => rw [show _ = Phase.inside rows from e] at hend; exact hend.elim
    | stored rows => exact .inl ((hC.stored i).mpr ⟨rows, e⟩)
    | failed => rw [show _ = Phase.failed from e] at hend; exact hend.elim
  · rw [show p.object.file.content = _ from hC.content]
    refine congrArg (addRows · c.file.content) (List.flatMap_congr fun i hi => ?_)
    obtain ⟨rows, e⟩ := (hC.stored i).mp hi
    rw [show _ = Phase.stored rows from e]
    exact (hended i rows e).2

end

/-! ### two calls with one click each -/

def clicks (_ : Bool) : Data := Builder.build sampleClick .new

def clickUuids (i : Bool) (n : Nat) : List UInt8 :=
  bytes (if i then "second-" else "first-") ++ decimal n

theorem alternating_committed :
    let p := (start clickUuids clicks fresh).run answer protocol
      (false :: true :: List.replicate 4 false ++ List.replicate 4 true)
    ∃ order : List Bool, order.Nodup ∧ (∀ i ∈ order, p.client i = .ret (.ok ())) ∧
      (∀ i, p.client i = .ret (.ok ()) →
        i ∈ order ∨ batchRows (clickUuids i) 0 (clicks i).entries = []) ∧
      p.object.file.content
        = addRows (order.flatMap fun i => batchRows (clickUuids i) 0 (clicks i).entries)
            fresh.file.content := by
  apply storePool_committed clickUuids clicks fresh
  refine ⟨?_, ?_, ?_, ?_, ?_, ?_, ?_, ?_, ?_, ?_, trivial⟩
  all_goals
    intro j rows h
    cases j
    all_goals first | rfl | cases h

/-- **Interleaved**: the second call starts its transaction inside that of the first, and then the
first commits it.  The second call's row is in the file, and it reports an error. -/
theorem interleaved_fails :
    let p := (start clickUuids clicks fresh).run answer protocol
      [false, false, true, true, false, false, false, true, true, true]
    p.client false = .ret (.ok ()) ∧
      p.client true = .ret (.error ⟨.databaseError, "Transaction already committed."⟩) ∧
      p.object.file.content .mouseClick
        = [namedRow sampleClick.entry (bytes "first-0"),
          namedRow sampleClick.entry (bytes "second-0")] :=
  ⟨rfl, rfl, rfl⟩

end DatabaseStorage
end Evget
