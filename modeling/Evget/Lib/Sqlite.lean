import Mathlib.Data.List.TakeWhile

/-!
# SQLite handles, transactions and prepared statements

What a program that talks to one database file relies on.  `D` is the type of the contents of the
file and `S` the type of its SQL statements; an `Engine` gives the statements their meaning.

* `File D`           the committed content, and what the environment will make of each request to
                     come (`Outcome`): a request can be refused at any point;
* `Database D`       an open handle; `pending` is the content that its open transaction sees;
* `Transaction`      the guard object: its destructor rolls back what it has not committed;
* `Statement`        a prepared statement, tied to the handle it was prepared on.

A handle is used through `begin`, `commit`, `rollback`, `prepare`, `Statement.step`, `script`;
`firstFailure` says which of some requests in a row fails first, and what becomes of the
transaction.
-/

namespace SQLite

inductive Value where
  | null
  | int (n : Int)
  | text (s : List UInt8)
deriving DecidableEq, Repr

/-- the bytes of an ASCII literal -/
def bytes (s : String) : List UInt8 := s.toList.map fun c => UInt8.ofNat c.toNat

/-- the text that a `const char*` stands for: the bytes before the first NUL -/
def cstr (s : List UInt8) : List UInt8 := s.takeWhile (· != 0)

theorem cstr_eq_self {s : List UInt8} (h : ∀ b ∈ s, b ≠ 0) : cstr s = s := by
  rw [cstr, List.takeWhile_eq_self_iff]
  intro b hb
  simpa using h b hb

/-- what becomes of a request; some failures make SQLite roll the open transaction back -/
inductive Outcome where
  | done
  | refused (what : String) (aborts : Bool)
deriving DecidableEq, Repr

/-- the meaning of the statements: `run` executes one statement with its bindings and gives the
rows it yields, `script` executes a whole text and keeps what ran before a failing statement -/
structure Engine (S D : Type) where
  params : S → Nat
  run : S → List Value → D → Except String (List (List Value) × D)
  script : S → D → D × Option String

structure File (D : Type) where
  content : D
  outcomes : List Outcome
  /-- the outcomes of the ROLLBACK requests -/
  rollbacks : List Outcome
  /-- how many handles have been opened -/
  handles : Nat

structure Database (D : Type) where
  handle : Nat
  pending : Option D

/-- `committed`: committed or rolled back through this object -/
structure Transaction where
  committed : Bool
deriving DecidableEq, Repr

section
variable {S D : Type}

/-! ## requests -/

namespace File

/-- the outcome of the next request; without a failure to come it is carried out -/
def draw (f : File D) : Outcome × File D :=
  (f.outcomes.headD .done, { f with outcomes := f.outcomes.tail })

def drawRollback (f : File D) : Outcome × File D :=
  (f.rollbacks.headD .done, { f with rollbacks := f.rollbacks.tail })

def Quiet (f : File D) : Prop := f.outcomes = []

def RollsBack (f : File D) : Prop := ∀ o ∈ f.rollbacks, o = .done

theorem Quiet.draw {f : File D} (h : f.Quiet) : f.draw = (.done, f) := by
  obtain ⟨content, outcomes, rollbacks, handles⟩ := f
  cases h
  rfl

theorem RollsBack.drawRollback {f : File D} (h : f.RollsBack) :
    f.drawRollback.1 = .done ∧ f.drawRollback.2.RollsBack := by
  unfold RollsBack File.drawRollback at *
  cases hr : f.rollbacks with
  | nil => simp
  | cons o os =>
    rw [hr] at h
    exact ⟨h o (List.mem_cons_self ..), fun o' ho' => h o' (List.mem_cons_of_mem _ ho')⟩

end File

namespace Database

def view (db : Database D) (f : File D) : D := db.pending.getD f.content

/-- a statement's change: to the open transaction, or committed at once -/
def put (d : D) (db : Database D) (f : File D) : Database D × File D :=
  match db.pending with
  | some _ => ({ db with pending := some d }, f)
  | none => (db, { f with content := d })

def abort (aborts : Bool) (db : Database D) : Database D :=
  if aborts then { db with pending := none } else db

def begin (db : Database D) (f : File D) : Except String Unit × Database D × File D :=
  match db.pending, f.draw with
  | some _, (_, f) => (.error "cannot start a transaction within a transaction", db, f)
  | none, (.refused what _, f) => (.error what, db, f)
  | none, (.done, f) => (.ok (), { db with pending := some f.content }, f)

def commit (db : Database D) (f : File D) : Except String Unit × Database D × File D :=
  match db.pending, f.draw with
  | none, (_, f) => (.error "cannot commit - no transaction is active", db, f)
  | some _, (.refused what aborts, f) => (.error what, db.abort aborts, f)
  | some d, (.done, f) => (.ok (), { db with pending := none }, { f with content := d })

def rollback (db : Database D) (f : File D) : Except String Unit × Database D × File D :=
  match db.pending, f.drawRollback with
  | none, (_, f) => (.error "cannot rollback - no transaction is active", db, f)
  | some _, (.refused what _, f) => (.error what, db, f)
  | some _, (.done, f) => (.ok (), { db with pending := none }, f)

def script (eng : Engine S D) (s : S) (db : Database D) (f : File D) :
    Except String Unit × Database D × File D :=
  match f.draw with
  | (.refused what aborts, f) => (.error what, db.abort aborts, f)
  | (.done, f) =>
    let (d, err) := eng.script s (db.view f)
    let (db, f) := db.put d f
    match err with
    | some what => (.error what, db, f)
    | none => (.ok (), db, f)

end Database

/-! ## prepared statements -/

/-- where a statement stands: not started, on a row with the rows that follow, or at its end -/
inductive Cursor where
  | ready
  | row (current : List Value) (rest : List (List Value))
  | done
deriving DecidableEq, Repr

structure Statement where
  handle : Nat
  bindings : List Value
  cursor : Cursor
deriving DecidableEq, Repr

def misuse : String := "bad parameter or other API misuse"

def Cursor.into : List (List Value) → Bool × Cursor
  | [] => (false, .done)
  | r :: rest => (true, .row r rest)

def Database.prepare (eng : Engine S D) (s : S) (db : Database D) (f : File D) :
    Except String Statement × File D :=
  match f.draw with
  | (.refused what _, f) => (.error what, f)
  | (.done, f) => (.ok ⟨db.handle, List.replicate (eng.params s) .null, .ready⟩, f)

namespace Statement

def bind (index : Nat) (v : Value) (st : Statement) : Except String Statement :=
  if st.cursor ≠ .ready then .error misuse
  else if index = 0 ∨ st.bindings.length < index then .error "column index out of range"
  else .ok { st with bindings := st.bindings.set (index - 1) v }

/-- one step: execute the statement, or go on to its next row; `true` when there is a row -/
def step (eng : Engine S D) (s : S) (st : Statement) (db : Database D) (f : File D) :
    Except String Bool × Statement × Database D × File D :=
  if st.handle ≠ db.handle then (.error misuse, st, db, f)
  else match st.cursor with
    | .done => (.error misuse, st, db, f)
    | .row _ rest =>
      match f.draw with
      | (.refused what aborts, f) => (.error what, st, db.abort aborts, f)
      | (.done, f) => (.ok (Cursor.into rest).1, { st with cursor := (Cursor.into rest).2 }, db, f)
    | .ready =>
      match f.draw with
      | (.refused what aborts, f) => (.error what, st, db.abort aborts, f)
      | (.done, f) =>
        match eng.run s st.bindings (db.view f) with
        | .error what => (.error what, st, db, f)
        | .ok (rows, d) =>
          let (db, f) := db.put d f
          (.ok (Cursor.into rows).1, { st with cursor := (Cursor.into rows).2 }, db, f)

def reset (st : Statement) (f : File D) : Except String Unit × Statement × File D :=
  match f.draw with
  | (.refused what _, f) => (.error what, st, f)
  | (.done, f) => (.ok (), { st with cursor := .ready }, f)

def clearBindings (st : Statement) : Statement :=
  { st with bindings := List.replicate st.bindings.length .null }

def rowsLeft (st : Statement) : Nat :=
  match st.cursor with
  | .row _ rest => rest.length + 1
  | _ => 0

/-- what a successful step can be, on a handle whose open transaction sees `d` -/
inductive Stepped (eng : Engine S D) (s : S) (st : Statement) (d : D) :
    Bool → Statement → D → Prop where
  | execute {rows : List (List Value)} {d' : D} (hc : st.cursor = .ready)
      (hrun : eng.run s st.bindings d = .ok (rows, d')) :
      Stepped eng s st d (Cursor.into rows).1 { st with cursor := (Cursor.into rows).2 } d'
  | onRow {current : List Value} {rest : List (List Value)} (hc : st.cursor = .row current rest) :
      Stepped eng s st d (Cursor.into rest).1 { st with cursor := (Cursor.into rest).2 } d

end Statement

/-! ## what a request inside a transaction keeps -/

/-- a request that commits nothing and is no ROLLBACK -/
structure File.Keeps (f f' : File D) : Prop where
  content : f'.content = f.content
  rollbacks : f'.rollbacks = f.rollbacks
  quiet : f.Quiet → f'.Quiet

theorem File.Keeps.refl (f : File D) : f.Keeps f := ⟨rfl, rfl, id⟩

theorem File.Keeps.trans {f g h : File D} (h₁ : f.Keeps g) (h₂ : g.Keeps h) : f.Keeps h :=
  ⟨h₂.content.trans h₁.content, h₂.rollbacks.trans h₁.rollbacks, fun q => h₂.quiet (h₁.quiet q)⟩

theorem File.keeps_draw (f : File D) : f.Keeps f.draw.2 :=
  ⟨rfl, rfl, fun q => by rw [q.draw]; exact q⟩

theorem File.Keeps.of_draw {f f' : File D} {o : Outcome} (h : f.draw = (o, f')) : f.Keeps f' := by
  have hk := f.keeps_draw
  rwa [h] at hk

theorem File.Quiet.not_refused {f f' : File D} (h : f.Quiet) {what : String} {a : Bool} :
    f.draw ≠ (.refused what a, f') := by
  rw [h.draw]
  intro e
  cases e

@[simp] theorem Database.abort_handle (a : Bool) (db : Database D) :
    (db.abort a).handle = db.handle := by
  cases a <;> rfl

theorem Database.put_pending {db : Database D} {d : D} (hp : db.pending = some d) (d' : D)
    (f : File D) : db.put d' f = ({ db with pending := some d' }, f) := by
  unfold Database.put
  rw [hp]

theorem Database.view_pending {db : Database D} {d : D} (hp : db.pending = some d) (f : File D) :
    db.view f = d := by
  unfold Database.view
  rw [hp]
  rfl

theorem Database.begin_spec (db : Database D) (f : File D) :
    f.Keeps (db.begin f).2.2 ∧ (db.begin f).2.1.handle = db.handle ∧
      ((db.begin f).1 = .ok () → db.pending = none ∧
        (db.begin f).2.1 = { db with pending := some f.content }) ∧
      (∀ what, (db.begin f).1 = .error what → (db.begin f).2.1 = db) ∧
      (f.Quiet → db.pending = none → (db.begin f).1 = .ok ()) := by
  have hk := f.keeps_draw
  unfold Database.begin
  rcases hd : f.draw with ⟨o, f'⟩
  rw [hd] at hk
  cases hp : db.pending with
  | some d => exact ⟨hk, rfl, nofun, fun _ _ => rfl, nofun⟩
  | none =>
    cases o with
    | refused what a =>
      exact ⟨hk, rfl, nofun, fun _ _ => rfl, fun q => absurd hd q.not_refused⟩
    | done =>
      refine ⟨hk, rfl, fun _ => ⟨rfl, ?_⟩, nofun, fun _ _ => rfl⟩
      rw [← hk.content]

theorem Database.commit_spec {db : Database D} {d : D} (hp : db.pending = some d) (f : File D) :
    ((db.commit f).1 = .ok () → (db.commit f).2.1.pending = none ∧
        (db.commit f).2.2.content = d) ∧
      (∀ what, (db.commit f).1 = .error what → f.Keeps (db.commit f).2.2) ∧
      (f.Quiet → (db.commit f).1 = .ok ()) ∧
      (f.Quiet → (db.commit f).2.2.Quiet) ∧
      (db.commit f).2.2.rollbacks = f.rollbacks := by
  have hk := f.keeps_draw
  unfold Database.commit
  rcases hd : f.draw with ⟨o, f'⟩
  rw [hd] at hk
  rw [hp]
  cases o with
  | refused what a =>
    exact ⟨nofun, fun _ _ => hk, fun q => absurd hd q.not_refused, hk.quiet,
      hk.rollbacks⟩
  | done =>
    exact ⟨fun _ => ⟨rfl, rfl⟩, nofun, fun _ => rfl, hk.quiet, hk.rollbacks⟩

theorem Database.rollback_spec (db : Database D) (f : File D) :
    (db.rollback f).2.2.content = f.content ∧ (db.rollback f).2.2.outcomes = f.outcomes ∧
      (f.RollsBack → (db.rollback f).2.1.pending = none ∧ (db.rollback f).2.2.RollsBack) ∧
      (db.pending = none → (db.rollback f).2.1 = db) := by
  unfold Database.rollback
  rcases hd : f.drawRollback with ⟨o, f'⟩
  have hcon : f'.content = f.content := congrArg (fun x => x.2.content) hd.symm
  have hout : f'.outcomes = f.outcomes := congrArg (fun x => x.2.outcomes) hd.symm
  have hroll : f.RollsBack → o = .done ∧ f'.RollsBack := fun h => by
    have h' := h.drawRollback
    rwa [hd] at h'
  cases hp : db.pending with
  | none => exact ⟨hcon, hout, fun h => ⟨hp, (hroll h).2⟩, fun _ => rfl⟩
  | some d =>
    cases o with
    | refused what a =>
      exact ⟨hcon, hout, fun h => absurd (hroll h).1 (by simp), nofun⟩
    | done => exact ⟨hcon, hout, fun h => ⟨rfl, (hroll h).2⟩, nofun⟩

theorem Database.prepare_spec (eng : Engine S D) (s : S) (db : Database D) (f : File D) :
    f.Keeps (db.prepare eng s f).2 ∧
      (∀ st, (db.prepare eng s f).1 = .ok st →
        st = ⟨db.handle, List.replicate (eng.params s) .null, .ready⟩) ∧
      (f.Quiet → (db.prepare eng s f).1 =
        .ok ⟨db.handle, List.replicate (eng.params s) .null, .ready⟩) := by
  unfold Database.prepare
  split
  · rename_i h
    exact ⟨.of_draw h, nofun, fun q => absurd h q.not_refused⟩
  · rename_i h
    exact ⟨.of_draw h, fun _ e => (by cases e; rfl), fun _ => rfl⟩

/-- **What a step does** on a handle with an open transaction. -/
theorem Statement.step_spec (eng : Engine S D) (s : S) (st : Statement) {db : Database D} {d : D}
    (hp : db.pending = some d) (f : File D) :
    f.Keeps (st.step eng s db f).2.2.2 ∧ (st.step eng s db f).2.2.1.handle = db.handle ∧
      (∀ b, (st.step eng s db f).1 = .ok b → ∃ d',
        (st.step eng s db f).2.2.1 = { db with pending := some d' } ∧
        Stepped eng s st d b (st.step eng s db f).2.1 d') ∧
      (f.Quiet → st.handle = db.handle → ∀ b st' d', Stepped eng s st d b st' d' →
        (st.step eng s db f).1 = .ok b) := by
  unfold Statement.step
  by_cases hh : st.handle ≠ db.handle
  · rw [if_pos hh]
    exact ⟨.refl f, rfl, nofun, fun _ e => absurd e hh⟩
  rw [if_neg hh]
  have hdb : db = { db with pending := some d } := by rw [← hp]
  cases hc : st.cursor with
  | done =>
    refine ⟨.refl f, rfl, nofun, fun _ _ b st' d' hs => ?_⟩
    cases hs with
    | execute h => rw [hc] at h; cases h
    | onRow h => rw [hc] at h; cases h
  | row current rest =>
    cases hd : f.draw with
    | mk o f' =>
      have hk := File.Keeps.of_draw hd
      cases o with
      | refused what a =>
        exact ⟨hk, Database.abort_handle a db, nofun,
          fun q => absurd hd q.not_refused⟩
      | done =>
        refine ⟨hk, rfl, fun b e => ?_, fun _ _ b st' d' hs => ?_⟩
        · cases e
          exact ⟨d, hdb, .onRow hc⟩
        · cases hs with
          | execute h => rw [hc] at h; cases h
          | onRow h => rw [hc] at h; cases h; rfl
  | ready =>
    cases hd : f.draw with
    | mk o f' =>
      have hk := File.Keeps.of_draw hd
      cases o with
      | refused what a =>
        exact ⟨hk, Database.abort_handle a db, nofun,
          fun q => absurd hd q.not_refused⟩
      | done =>
        simp only [Database.view_pending hp]
        cases hr : eng.run s st.bindings d with
        | error what =>
          refine ⟨hk, rfl, nofun, fun _ _ b st' d' hs => ?_⟩
          cases hs with
          | execute _ h => rw [hr] at h; cases h
          | onRow h => rw [hc] at h; cases h
        | ok out =>
          obtain ⟨rows, d'⟩ := out
          simp only [Database.put_pending hp]
          refine ⟨hk, trivial, fun b e => ?_, fun _ _ b st' d'' hs => ?_⟩
          · cases e
            exact ⟨d', rfl, .execute hc hr⟩
          · cases hs with
            | execute _ h => rw [hr] at h; cases h; rfl
            | onRow h => rw [hc] at h; cases h

theorem Database.script_spec (eng : Engine S D) (s : S) {db : Database D} {d : D}
    (hp : db.pending = some d) (f : File D) :
    f.Keeps (db.script eng s f).2.2 ∧ (db.script eng s f).2.1.handle = db.handle ∧
      ((db.script eng s f).1 = .ok () → (eng.script s d).2 = none ∧
        (db.script eng s f).2.1 = { db with pending := some (eng.script s d).1 }) ∧
      (f.Quiet → (eng.script s d).2 = none → (db.script eng s f).1 = .ok ()) := by
  unfold Database.script
  cases hd : f.draw with
  | mk o f' =>
    have hk := File.Keeps.of_draw hd
    cases o with
    | refused what a =>
      exact ⟨hk, Database.abort_handle a db, nofun,
        fun q => absurd hd q.not_refused⟩
    | done =>
      simp only [Database.view_pending hp, Database.put_pending hp]
      cases hr : (eng.script s d).2 with
      | some what => exact ⟨hk, rfl, nofun, nofun⟩
      | none => exact ⟨hk, rfl, fun _ => ⟨rfl, rfl⟩, fun _ _ => rfl⟩

theorem Statement.reset_spec (st : Statement) (f : File D) :
    f.Keeps (st.reset f).2.2 ∧
      ((st.reset f).1 = .ok () → (st.reset f).2.1 = { st with cursor := .ready }) ∧
      (f.Quiet → (st.reset f).1 = .ok ()) := by
  unfold Statement.reset
  split
  · rename_i h
    exact ⟨.of_draw h, nofun, fun q => absurd h q.not_refused⟩
  · rename_i h
    exact ⟨.of_draw h, fun _ => rfl, fun _ => rfl⟩

/-! ## the first request that fails -/

/-- a request inside a transaction; `bound`: its parameters can be bound, without which it is not
made; `accepted`: SQLite carries it out when it does not refuse it -/
inductive Request where
  | prepare
  | step (bound accepted : Bool)
  | reset
  | commit
deriving DecidableEq, Repr

def Request.failure : Request → Outcome → Option Bool
  | .step false _, _ => some false
  | .step true true, .done => none
  | .step true false, .done => some false
  | .step true _, .refused _ aborts => some aborts
  | .commit, .refused _ aborts => some aborts
  | .prepare, .refused .. => some false
  | .reset, .refused .. => some false
  | _, .done => none

def firstFailure : List Request → List Outcome → Option Bool
  | [], _ => none
  | request :: requests, outcomes =>
    (request.failure (outcomes.headD .done)).or (firstFailure requests outcomes.tail)

theorem firstFailure_append (requests requests' : List Request) (outcomes : List Outcome) :
    firstFailure (requests ++ requests') outcomes
      = (firstFailure requests outcomes).or
          (firstFailure requests' (outcomes.drop requests.length)) := by
  induction requests generalizing outcomes with
  | nil => rfl
  | cons request requests ih =>
    rw [List.cons_append, firstFailure, firstFailure, ih, Option.or_assoc, List.length_cons,
      List.drop_tail]

/-- `P` when there is no failure; `Q` of whether SQLite has rolled back when there is one -/
structure Ends (failure : Option Bool) (P : Prop) (Q : Bool → Prop) : Prop where
  ok : failure = none → P
  error : ∀ aborted, failure = some aborted → Q aborted

theorem Ends.of_none {P : Prop} {Q : Bool → Prop} (h : P) : Ends none P Q := by
  refine ⟨fun _ => h, fun aborted e => ?_⟩
  cases e

theorem Ends.of_some {P : Prop} {Q : Bool → Prop} {aborted : Bool} (h : Q aborted) :
    Ends (some aborted) P Q := by
  refine ⟨fun e => ?_, fun aborted' e => ?_⟩
  · cases e
  · cases e
    exact h

theorem Ends.mono {failure : Option Bool} {P P' : Prop} {Q Q' : Bool → Prop}
    (h : Ends failure P Q) (hP : P → P') (hQ : ∀ aborted, Q aborted → Q' aborted) :
    Ends failure P' Q' :=
  ⟨fun e => hP (h.ok e), fun aborted e => hQ aborted (h.error aborted e)⟩

theorem Ends.append {requests requests' : List Request} {outcomes : List Outcome} {P P' : Prop}
    {Q Q' : Bool → Prop} (h : Ends (firstFailure requests outcomes) P Q)
    (hP : P → Ends (firstFailure requests' (outcomes.drop requests.length)) P' Q')
    (hQ : ∀ aborted, Q aborted → Q' aborted) :
    Ends (firstFailure (requests ++ requests') outcomes) P' Q' := by
  rw [firstFailure_append]
  cases hfirst : firstFailure requests outcomes with
  | none => exact hP (h.ok hfirst)
  | some aborted => exact .of_some (hQ aborted (h.error aborted hfirst))

end
end SQLite
