import Evget.Error
import Evget.Lib.Sqlite

/-!
# The connection to a SQLite database

`SQLiteConnection` holds the database object and the transaction object, each of which can be
missing.  `connect` replaces the database object, which closes the old handle and with it the
handle's open transaction; `begin` replaces the transaction object, whose destructor asks the
handle *of the moment* for a ROLLBACK when the object has not been committed.

* `InTransaction base d c`   a transaction is open, its object is not committed, the file holds
                             `base` and the transaction sees `d`;
* `begin_ok`, `commit_spec`, `rollback_closed`   what the requests do to it;
* `Touches`                  all that a step inside the transaction can do to the connection;
* `Computes step meaning`    what the step does to the content that the transaction sees.
-/

namespace Evget
open SQLite

structure SQLiteConnection (D : Type) where
  file : SQLite.File D
  database : Option (SQLite.Database D)
  transaction : Option SQLite.Transaction

namespace SQLiteConnection
variable {D : Type}

def connectError (message : String) : Error := ⟨.databaseError, message⟩

/-- `Connect` with `kReadWriteCreate`, the option of every caller -/
def connect (c : SQLiteConnection D) : Result Unit × SQLiteConnection D :=
  match c.file.draw with
  | (.refused what _, f) => (.error (connectError what), { c with file := f })
  | (.done, f) =>
    (.ok (), { c with
      file := { f with handles := f.handles + 1 }
      database := some ⟨f.handles, none⟩ })

/-- the destructor of the transaction object: a failing ROLLBACK is swallowed -/
def destroy (t : Option SQLite.Transaction) (db : SQLite.Database D) (f : SQLite.File D) :
    SQLite.Database D × SQLite.File D :=
  match t with
  | some ⟨false⟩ => (db.rollback f).2
  | _ => (db, f)

/-- `Transaction`: destroy the old transaction object and construct a new one -/
def begin (c : SQLiteConnection D) : Result Unit × SQLiteConnection D :=
  match c.database with
  | none => (.error (connectError "no database connected"), c)
  | some db =>
    let (db, f) := destroy c.transaction db c.file
    match db.begin f with
    | (.error what, db, f) => (.error (connectError what), ⟨f, some db, none⟩)
    | (.ok (), db, f) => (.ok (), ⟨f, some db, some ⟨false⟩⟩)

/-- a request through the transaction object, which refuses once it has been committed -/
def finish (request : SQLite.Database D → SQLite.File D →
    Except String Unit × SQLite.Database D × SQLite.File D) (c : SQLiteConnection D) :
    Result Unit × SQLiteConnection D :=
  match c.transaction, c.database with
  | none, _ => (.error (connectError "transaction not started"), c)
  | some ⟨true⟩, _ => (.error (connectError "Transaction already committed."), c)
  | some ⟨false⟩, none => (.error (connectError misuse), c)
  | some ⟨false⟩, some db =>
    match request db c.file with
    | (.error what, db, f) => (.error (connectError what), ⟨f, some db, some ⟨false⟩⟩)
    | (.ok (), db, f) => (.ok (), ⟨f, some db, some ⟨true⟩⟩)

def commit (c : SQLiteConnection D) : Result Unit × SQLiteConnection D :=
  finish SQLite.Database.commit c

def rollback (c : SQLiteConnection D) : Result Unit × SQLiteConnection D :=
  finish SQLite.Database.rollback c

/-! ## what the requests keep -/

def Closed (c : SQLiteConnection D) : Prop := ∀ db ∈ c.database, db.pending = none

def Sees (d : D) (c : SQLiteConnection D) : Prop :=
  ∃ db, c.database = some db ∧ db.pending = some d

def Uses (h : Nat) (c : SQLiteConnection D) : Prop :=
  c.database.map SQLite.Database.handle = some h

structure InTransaction (base d : D) (c : SQLiteConnection D) : Prop where
  content : c.file.content = base
  sees : c.Sees d
  transaction : c.transaction = some ⟨false⟩

/-- all that a statement does to a connection with an open transaction, apart from what the
transaction then sees -/
structure Touches (c c' : SQLiteConnection D) : Prop where
  file : c.file.Keeps c'.file
  transaction : c'.transaction = c.transaction
  handle : c'.database.map SQLite.Database.handle = c.database.map SQLite.Database.handle

theorem Touches.refl (c : SQLiteConnection D) : c.Touches c := ⟨.refl _, rfl, rfl⟩

theorem Touches.trans {c c' c'' : SQLiteConnection D} (h : c.Touches c') (h' : c'.Touches c'') :
    c.Touches c'' :=
  ⟨h.file.trans h'.file, h'.transaction.trans h.transaction, h'.handle.trans h.handle⟩

theorem Touches.inTransaction {base d d' : D} {c c' : SQLiteConnection D} (h : c.Touches c')
    (hc : c.InTransaction base d) (hs : c'.Sees d') : c'.InTransaction base d' :=
  ⟨h.file.content.trans hc.content, hs, h.transaction.trans hc.transaction⟩

/-! ### connect -/

theorem connect_content (c : SQLiteConnection D) : c.connect.2.file.content = c.file.content := by
  have hk := c.file.keeps_draw
  rcases hd : c.file.draw with ⟨o, f⟩
  rw [hd] at hk
  cases o <;> simp only [connect, hd] <;> exact hk.content

theorem connect_quiet {c : SQLiteConnection D} (hq : c.file.Quiet) :
    c.connect.1 = .ok () ∧ c.connect.2.Closed ∧ c.connect.2.database.isSome ∧
      c.connect.2.file.Quiet := by
  unfold connect
  rw [hq.draw]
  refine ⟨rfl, fun db hdb => ?_, rfl, hq⟩
  cases hdb
  rfl

/-! ### begin -/

theorem destroy_spec (t : Option SQLite.Transaction) (db : SQLite.Database D) (f : SQLite.File D) :
    (destroy t db f).2.content = f.content ∧ (destroy t db f).2.outcomes = f.outcomes ∧
      (f.RollsBack → (destroy t db f).2.RollsBack) ∧
      (db.pending = none → (destroy t db f).1 = db) := by
  obtain ⟨hcon, hout, hroll, hclosed⟩ := db.rollback_spec f
  unfold destroy
  split
  · exact ⟨hcon, hout, fun h => (hroll h).2, hclosed⟩
  · exact ⟨rfl, rfl, id, fun _ => rfl⟩

theorem begin_content (c : SQLiteConnection D) : c.begin.2.file.content = c.file.content := by
  cases hdb : c.database with
  | none => simp only [begin, hdb]
  | some db =>
    have hd := (destroy_spec c.transaction db c.file).1
    rcases hx : destroy c.transaction db c.file with ⟨db', f'⟩
    have hb := (db'.begin_spec f').1.content
    rcases hy : db'.begin f' with ⟨r, db'', f''⟩
    rw [hx] at hd
    rw [hy] at hb
    cases r <;> simp only [begin, hdb, hx, hy] <;> exact hb.trans hd

/-- **A started transaction is clean**: whatever the objects were, it sees the committed content. -/
theorem begin_ok {c : SQLiteConnection D} (h : c.begin.1 = .ok ()) :
    c.begin.2.InTransaction c.file.content c.file.content := by
  have hcon := c.begin_content
  cases hdb : c.database with
  | none => simp [begin, hdb] at h
  | some db =>
    have hd := (destroy_spec c.transaction db c.file).1
    rcases hx : destroy c.transaction db c.file with ⟨db', f'⟩
    have hb := (db'.begin_spec f').2.2.1
    rcases hy : db'.begin f' with ⟨r, db'', f''⟩
    rw [hx] at hd
    rw [hy] at hb
    cases r with
    | error what => simp [begin, hdb, hx, hy] at h
    | ok u =>
      simp only [begin, hdb, hx, hy] at hcon ⊢
      refine ⟨hcon, ⟨db'', rfl, ?_⟩, rfl⟩
      have e : db'' = { db' with pending := some f'.content } := (hb rfl).2
      have e' : f'.content = c.file.content := hd
      rw [e, ← e']

theorem begin_error {c : SQLiteConnection D} (hc : c.Closed) {e : Error}
    (h : c.begin.1 = .error e) :
    c.begin.2.Closed ∧ (c.begin.2.transaction = none ∨ c.begin.2.database = none) := by
  cases hdb : c.database with
  | none =>
    simp only [begin, hdb]
    exact ⟨hc, .inr trivial⟩
  | some db =>
    have hd := (destroy_spec c.transaction db c.file).2.2.2 (hc db hdb)
    rcases hx : destroy c.transaction db c.file with ⟨db', f'⟩
    have hb := (db'.begin_spec f').2.2.2.1
    rcases hy : db'.begin f' with ⟨r, db'', f''⟩
    rw [hx] at hd
    rw [hy] at hb
    cases r with
    | ok u => simp [begin, hdb, hx, hy] at h
    | error what =>
      simp only [begin, hdb, hx, hy]
      refine ⟨fun db₁ hdb₁ => ?_, .inl trivial⟩
      cases hdb₁
      have e : db'' = db := (hb what rfl).trans hd
      rw [e]
      exact hc db hdb

theorem begin_quiet {c : SQLiteConnection D} (hc : c.Closed) (hdb : c.database.isSome)
    (hq : c.file.Quiet) : c.begin.1 = .ok () ∧ c.begin.2.file.Quiet := by
  obtain ⟨db, hdb⟩ := Option.isSome_iff_exists.mp hdb
  obtain ⟨-, hout, -, hd⟩ := destroy_spec c.transaction db c.file
  rcases hx : destroy c.transaction db c.file with ⟨db', f'⟩
  obtain ⟨hk, -, -, -, hb⟩ := db'.begin_spec f'
  rcases hy : db'.begin f' with ⟨r, db'', f''⟩
  rw [hx] at hout hd
  rw [hy] at hk hb
  have hq' : f'.Quiet := hout.trans hq
  have hdb' : db' = db := hd (hc db hdb)
  have hr : r = .ok () := hb hq' (by rw [hdb']; exact hc db hdb)
  subst hr
  simp only [begin, hdb, hx, hy]
  exact ⟨trivial, hk.quiet hq'⟩

theorem begin_rollsBack {c : SQLiteConnection D} (h : c.file.RollsBack) :
    c.begin.2.file.RollsBack := by
  cases hdb : c.database with
  | none => simpa only [begin, hdb] using h
  | some db =>
    obtain ⟨-, -, hroll, -⟩ := destroy_spec c.transaction db c.file
    rcases hx : destroy c.transaction db c.file with ⟨db', f'⟩
    obtain ⟨hk, -⟩ := db'.begin_spec f'
    rcases hy : db'.begin f' with ⟨r, db'', f''⟩
    rw [hx] at hroll
    rw [hy] at hk
    have h' : f''.RollsBack := by
      intro o ho
      have e : f''.rollbacks = f'.rollbacks := hk.rollbacks
      rw [e] at ho
      exact hroll h o ho
    cases r <;> simpa only [begin, hdb, hx, hy] using h'

/-! ### commit and rollback -/

/-- the object of a transaction that is not finished, whether or not SQLite still has it open -/
structure Unfinished (base : D) (c : SQLiteConnection D) : Prop where
  content : c.file.content = base
  database : c.database.isSome
  transaction : c.transaction = some ⟨false⟩

theorem InTransaction.unfinished {base d : D} {c : SQLiteConnection D}
    (h : c.InTransaction base d) : c.Unfinished base := by
  obtain ⟨db, hdb, -⟩ := h.sees
  exact ⟨h.content, by rw [hdb]; rfl, h.transaction⟩

theorem Touches.unfinished {base : D} {c c' : SQLiteConnection D} (h : c.Touches c')
    (hc : c.Unfinished base) : c'.Unfinished base := by
  refine ⟨h.file.content.trans hc.content, ?_, h.transaction.trans hc.transaction⟩
  have hh := congrArg Option.isSome h.handle
  simpa [hc.database] using hh

theorem commit_spec {base d : D} {c : SQLiteConnection D} (hc : c.InTransaction base d) :
    (c.commit.1 = .ok () → c.commit.2.file.content = d ∧ c.commit.2.Closed ∧
        c.commit.2.database.isSome) ∧
      (∀ e, c.commit.1 = .error e → c.commit.2.Unfinished base) ∧
      (c.file.Quiet → c.commit.1 = .ok () ∧ c.commit.2.file.Quiet) ∧
      c.commit.2.file.rollbacks = c.file.rollbacks := by
  obtain ⟨db, hdb, hp⟩ := hc.sees
  obtain ⟨hok, herr, hquiet, hq, hroll⟩ := SQLite.Database.commit_spec hp c.file
  rcases hx : db.commit c.file with ⟨r, db', f'⟩
  rw [hx] at hok herr hquiet hq hroll
  cases r with
  | error what =>
    simp only [commit, finish, hc.transaction, hdb, hx]
    refine ⟨nofun, fun _ _ => ⟨?_, rfl, rfl⟩, fun h => ?_, hroll⟩
    · exact (herr what rfl).content.trans hc.content
    · exact absurd (hquiet h) (by simp)
  | ok u =>
    simp only [commit, finish, hc.transaction, hdb, hx]
    refine ⟨fun _ => ⟨(hok rfl).2, fun db₁ hdb₁ => ?_, rfl⟩, nofun,
      fun h => ⟨trivial, hq h⟩, hroll⟩
    cases hdb₁
    exact (hok rfl).1

theorem rollback_content (c : SQLiteConnection D) : c.rollback.2.file.content = c.file.content := by
  unfold rollback finish
  split
  · rfl
  · rfl
  · rfl
  · rename_i db _ _
    have hcon := (db.rollback_spec c.file).1
    rcases hx : db.rollback c.file with ⟨r, db', f'⟩
    rw [hx] at hcon
    cases r <;> exact hcon

/-- **A rollback leaves no transaction open**, if SQLite does not refuse it. -/
theorem rollback_closed {base : D} {c : SQLiteConnection D} (hc : c.Unfinished base)
    (h : c.file.RollsBack) : c.rollback.2.Closed := by
  obtain ⟨db, hdb⟩ := Option.isSome_iff_exists.mp hc.database
  have hr := (db.rollback_spec c.file).2.2.1 h
  rcases hx : db.rollback c.file with ⟨r, db', f'⟩
  rw [hx] at hr
  cases r <;> simp only [rollback, finish, hc.transaction, hdb, hx] <;> intro db₁ hdb₁ <;>
    cases hdb₁ <;> exact hr.1

theorem rollback_ok {base d : D} {c : SQLiteConnection D} (hc : c.InTransaction base d)
    (h : c.file.RollsBack) : c.rollback.1 = .ok () := by
  obtain ⟨db, hdb, hp⟩ := hc.sees
  have hr := h.drawRollback.1
  rcases hx : c.file.drawRollback with ⟨o, f⟩
  rw [hx] at hr
  subst hr
  simp only [rollback, finish, hc.transaction, hdb, SQLite.Database.rollback, hp, hx]

/-! ## steps inside a transaction -/

/-- what `step` does to an open transaction is `meaning`: a success is a success of `meaning`, with
its result and what the transaction then sees, and without failures to come it is reached -/
structure Computes {α : Type} (step : SQLiteConnection D → Result α × SQLiteConnection D)
    (meaning : D → Option (α × D)) : Prop where
  touches : ∀ {c : SQLiteConnection D} {d : D}, c.Sees d → c.Touches (step c).2
  ok : ∀ {c : SQLiteConnection D} {d : D} {a : α}, c.Sees d → (step c).1 = .ok a →
    ∃ d', meaning d = some (a, d') ∧ (step c).2.Sees d'
  quiet : ∀ {c : SQLiteConnection D} {d : D} {a : α} {d' : D}, c.Sees d → c.file.Quiet →
    meaning d = some (a, d') → (step c).1 = .ok a

theorem Computes.intro {α : Type} {step : SQLiteConnection D → Result α × SQLiteConnection D}
    {meaning : D → Option (α × D)}
    (h : ∀ {c : SQLiteConnection D} {d : D}, c.Sees d → c.Touches (step c).2 ∧
      (∀ a, (step c).1 = .ok a → ∃ d', meaning d = some (a, d') ∧ (step c).2.Sees d') ∧
      (c.file.Quiet → ∀ a d', meaning d = some (a, d') → (step c).1 = .ok a)) :
    Computes step meaning :=
  ⟨fun hs => (h hs).1, fun hs => (h hs).2.1 _, fun hs hq => (h hs).2.2 hq _ _⟩

theorem Computes.congr {α : Type} {step : SQLiteConnection D → Result α × SQLiteConnection D}
    {meaning meaning' : D → Option (α × D)} (h : Computes step meaning)
    (e : ∀ d, meaning d = meaning' d) : Computes step meaning' :=
  funext e ▸ h

theorem Computes.pure {α : Type} (a : α) :
    Computes (fun c : SQLiteConnection D => (.ok a, c)) (fun d => some (a, d)) where
  touches := fun _ => .refl _
  ok := fun hs e => (by cases e; exact ⟨_, rfl, hs⟩)
  quiet := fun _ _ e => (by cases e; rfl)

theorem Computes.fail {α : Type} (e : Error) :
    Computes (fun c : SQLiteConnection D => ((.error e, c) : Result α × _)) (fun _ => none) where
  touches := fun _ => .refl _
  ok := nofun
  quiet := nofun

theorem Computes.andThen {α β : Type} {f : SQLiteConnection D → Result α × SQLiteConnection D}
    {g : α → SQLiteConnection D → Result β × SQLiteConnection D} {m : D → Option (α × D)}
    {n : α → D → Option (β × D)} (hf : Computes f m) (hg : ∀ a, Computes (g a) (n a)) :
    Computes (fun c => Evget.andThen (f c) g) (fun d => (m d).bind fun out => n out.1 out.2) := by
  refine .intro fun {c d} hs => ?_
  have ht := hf.touches hs
  have hok := fun a => hf.ok (a := a) hs
  have hquiet : ∀ a d', c.file.Quiet → m d = some (a, d') → (f c).1 = .ok a :=
    fun _ _ => hf.quiet hs
  rcases hx : f c with ⟨r, c'⟩
  rw [hx] at ht hok hquiet
  cases r with
  | error e =>
    refine ⟨ht, nofun, fun hq b d' hm => ?_⟩
    obtain ⟨out, hm, -⟩ := Option.bind_eq_some_iff.mp hm
    exact absurd (hquiet out.1 out.2 hq hm) (by simp)
  | ok a =>
    obtain ⟨d₁, hm, hs'⟩ := hok a rfl
    refine ⟨ht.trans ((hg a).touches hs'), fun b hb => ?_, fun hq b d' hn => ?_⟩
    · obtain ⟨d', hn, hs''⟩ := (hg a).ok hs' hb
      exact ⟨d', by rw [hm]; exact hn, hs''⟩
    · rw [hm] at hn
      exact (hg a).quiet hs' (ht.file.quiet hq) hn

/-- a transaction around a step -/
def transact (step : SQLiteConnection D → Result Unit × SQLiteConnection D)
    (c : SQLiteConnection D) : Result Unit × SQLiteConnection D :=
  Evget.andThen c.begin fun _ c => Evget.andThen (step c) fun _ c => c.commit

section
variable {step : SQLiteConnection D → Result Unit × SQLiteConnection D} {meaning : D → Option D}

theorem transact_ok (hm : Computes step fun d => (meaning d).map fun d => ((), d))
    {c : SQLiteConnection D} (h : (transact step c).1 = .ok ()) :
    meaning c.file.content = some (transact step c).2.file.content ∧ (transact step c).2.Closed ∧
      (transact step c).2.database.isSome := by
  unfold transact at h ⊢
  have hb := c.begin_ok
  rcases hx : c.begin with ⟨r, c₁⟩
  rw [hx] at hb h
  cases r with
  | error e => cases h
  | ok u =>
    have hin := hb rfl
    simp only [andThen_ok] at h ⊢
    have hok := hm.ok (a := ()) hin.sees
    have ht := hm.touches hin.sees
    rcases hy : step c₁ with ⟨r, c₂⟩
    rw [hy] at h hok ht
    cases r with
    | error e => cases h
    | ok u =>
      obtain ⟨d', hd', hs⟩ := hok rfl
      obtain ⟨hcon, hclosed, hsome⟩ := (commit_spec (ht.inTransaction hin hs)).1 h
      obtain ⟨d, hd, e⟩ := Option.map_eq_some_iff.mp hd'
      cases e
      exact ⟨hd.trans (congrArg some hcon.symm), hclosed, hsome⟩

theorem transact_quiet (hm : Computes step fun d => (meaning d).map fun d => ((), d))
    {c : SQLiteConnection D} (hc : c.Closed) (hdb : c.database.isSome) (hq : c.file.Quiet) {d' : D}
    (hd : meaning c.file.content = some d') :
    (transact step c).1 = .ok () ∧ (transact step c).2.file.Quiet := by
  unfold transact
  have hb := c.begin_ok
  obtain ⟨hok, hq₁⟩ := begin_quiet hc hdb hq
  rcases hx : c.begin with ⟨r, c₁⟩
  rw [hx] at hb hok hq₁
  cases r with
  | error e => cases hok
  | ok u =>
    have hin := hb rfl
    have hd' : (meaning c.file.content).map (fun d => ((), d)) = some ((), d') := by rw [hd]; rfl
    have hok₂ := hm.quiet hin.sees hq₁ hd'
    obtain ⟨d₂, -, hs⟩ := hm.ok hin.sees hok₂
    have ht := hm.touches hin.sees
    simp only [andThen_ok]
    rcases hy : step c₁ with ⟨r, c₂⟩
    rw [hy] at hok₂ hs ht
    cases r with
    | error e => cases hok₂
    | ok u => exact (commit_spec (ht.inTransaction hin hs)).2.2.1 (ht.file.quiet hq₁)

/-- a transaction that fails has committed nothing, even when its ROLLBACK is refused -/
theorem transact_unchanged (hm : Computes step fun d => (meaning d).map fun d => ((), d))
    {c : SQLiteConnection D} {e : Error} (h : (transact step c).1 = .error e) :
    (transact step c).2.file.content = c.file.content := by
  unfold transact at h ⊢
  have hb := c.begin_ok
  have hcon := c.begin_content
  rcases hx : c.begin with ⟨r, c₁⟩
  rw [hx] at hb h hcon
  cases r with
  | error e => exact hcon
  | ok u =>
    have hin := hb rfl
    have ht := hm.touches hin.sees
    have hok := hm.ok (a := ()) hin.sees
    simp only [andThen_ok] at h ⊢
    rcases hy : step c₁ with ⟨r, c₂⟩
    rw [hy] at h hok ht
    cases r with
    | error e => exact ht.file.content.trans hin.content
    | ok u =>
      obtain ⟨d', -, hs⟩ := hok rfl
      exact ((commit_spec (ht.inTransaction hin hs)).2.1 e h).content

/-- a transaction that fails has committed nothing; what it may leave open can be rolled back -/
theorem transact_error (hm : Computes step fun d => (meaning d).map fun d => ((), d))
    {c : SQLiteConnection D} (hc : c.Closed) (hroll : c.file.RollsBack) {e : Error}
    (h : (transact step c).1 = .error e) :
    (transact step c).2.rollback.2.file.content = c.file.content ∧
      (transact step c).2.rollback.2.Closed := by
  unfold transact at h ⊢
  have hb := c.begin_ok
  have hcon := c.begin_content
  have hroll₁ := begin_rollsBack hroll
  have herr := fun e => begin_error (e := e) hc
  rcases hx : c.begin with ⟨r, c₁⟩
  rw [hx] at hb h hcon hroll₁ herr
  cases r with
  | error e =>
    obtain ⟨hclosed, hnone⟩ := herr e rfl
    have hid : c₁.rollback.2 = c₁ := by
      obtain ⟨f, db, t⟩ := c₁
      rcases hnone with hn | hn <;> cases hn
      · rfl
      · rcases t with _ | ⟨_ | _⟩ <;> rfl
    show c₁.rollback.2.file.content = _ ∧ c₁.rollback.2.Closed
    rw [hid]
    exact ⟨hcon, hclosed⟩
  | ok u =>
    have hin := hb rfl
    have ht := hm.touches hin.sees
    have hok := hm.ok (a := ()) hin.sees
    simp only [andThen_ok] at h ⊢
    rcases hy : step c₁ with ⟨r, c₂⟩
    rw [hy] at h hok ht
    have hroll₂ : c₂.file.RollsBack := by
      intro o ho
      exact hroll₁ o (ht.file.rollbacks ▸ ho)
    cases r with
    | error e =>
      have hu := ht.unfinished hin.unfinished
      exact ⟨(c₂.rollback_content).trans hu.content, rollback_closed hu hroll₂⟩
    | ok u =>
      obtain ⟨d', -, hs⟩ := hok rfl
      obtain ⟨-, hcerr, -, hrb⟩ := commit_spec (ht.inTransaction hin hs)
      have hu := hcerr e h
      refine ⟨(c₂.commit.2.rollback_content).trans hu.content, rollback_closed hu fun o ho => ?_⟩
      exact hroll₂ o (hrb ▸ ho)

end

end SQLiteConnection
end Evget
