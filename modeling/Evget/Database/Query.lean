import Evget.Database.Connection

/-!
# Queries on a SQLite connection

`SQLiteQuery` collects its binds in a map, prepares its statement at the first `Next`, and hands
the binds to the statement at each `Next`.  A query is a local object of the code that built it;
the connection is shared.

* `next`, `nextWhile`, `reset`, `exec`    the requests; `execute` is `nextWhile` and then `reset`;
* `next_spec`, `execute_spec`, `exec_spec`   what a request inside a transaction touches, what its
                success means, and that it succeeds when nothing is refused.
-/

namespace Evget
open SQLite

structure SQLiteQuery (S : Type) where
  query : S
  binds : List (Nat × Value)
  statement : Option Statement
deriving DecidableEq, Repr

/-- `binds_[position] = value`, in the order of the positions -/
def setBind (position : Nat) (value : Value) : List (Nat × Value) → List (Nat × Value)
  | [] => [(position, value)]
  | (p, v) :: rest =>
    if position < p then (position, value) :: (p, v) :: rest
    else if position = p then (position, value) :: rest
    else (p, v) :: setBind position value rest

/-- hand the binds to the statement, whose parameters are counted from 1 -/
def applyBinds : List (Nat × Value) → Statement → Option String × Statement
  | [], st => (none, st)
  | (p, v) :: rest, st =>
    match st.bind (p + 1) v with
    | .error what => (some what, st)
    | .ok st => applyBinds rest st

namespace SQLiteQuery
variable {S D : Type}

def build (query : S) : SQLiteQuery S := ⟨query, [], none⟩

def bindInt (position : Nat) (value : Int32) (q : SQLiteQuery S) : SQLiteQuery S :=
  { q with binds := setBind position (.int value.toInt) q.binds }

def bindChars (position : Nat) (value : List UInt8) (q : SQLiteQuery S) : SQLiteQuery S :=
  { q with binds := setBind position (.text (cstr value)) q.binds }

def queryError (what : String) : Error := ⟨.databaseError, what⟩

def reset (q : SQLiteQuery S) (c : SQLiteConnection D) :
    Result Unit × SQLiteQuery S × SQLiteConnection D :=
  match q.statement with
  | none => (.ok (), { q with binds := [] }, c)
  | some st =>
    match st.reset c.file with
    | (.error what, st, f) =>
      (.error (queryError what), ⟨q.query, [], some st⟩, { c with file := f })
    | (.ok (), st, f) => (.ok (), ⟨q.query, [], some st.clearBindings⟩, { c with file := f })

def prepared (eng : Engine S D) (q : SQLiteQuery S) (db : SQLite.Database D) (f : SQLite.File D) :
    Except String Statement × SQLite.File D :=
  match q.statement with
  | some st => (.ok st, f)
  | none => db.prepare eng q.query f

def next (eng : Engine S D) (q : SQLiteQuery S) (c : SQLiteConnection D) :
    Result Bool × SQLiteQuery S × SQLiteConnection D :=
  match c.database with
  | none => (.error (queryError "database not set"), q, c)
  | some db =>
    match q.prepared eng db c.file with
    | (.error what, f) => (.error (queryError what), q, { c with file := f })
    | (.ok st, f) =>
      match applyBinds q.binds st with
      | (some what, st) =>
        (.error (queryError what), { q with statement := some st }, { c with file := f })
      | (none, st) =>
        match st.step eng q.query db f with
        | (.error what, st, db, f) =>
          (.error (queryError what), ⟨q.query, [], some st⟩, ⟨f, some db, c.transaction⟩)
        | (.ok b, st, db, f) => (.ok b, ⟨q.query, [], some st⟩, ⟨f, some db, c.transaction⟩)

/-- how many times the statement will still be stepped before it has no row -/
def rowsLeft (q : SQLiteQuery S) : Nat := (q.statement.map Statement.rowsLeft).getD 0

/-- `Next` again while there is a row, at most `n` times -/
def drain (eng : Engine S D) : Nat → SQLiteQuery S → SQLiteConnection D →
    Result Unit × SQLiteQuery S × SQLiteConnection D
  | 0, q, c => (.ok (), q, c)
  | n + 1, q, c =>
    match q.next eng c with
    | (.error e, q, c) => (.error e, q, c)
    | (.ok false, q, c) => (.ok (), q, c)
    | (.ok true, q, c) => drain eng n q c

/-- `NextWhile`; a statement on a row has no more than `rowsLeft` steps before it -/
def nextWhile (eng : Engine S D) (q : SQLiteQuery S) (c : SQLiteConnection D) :
    Result Unit × SQLiteQuery S × SQLiteConnection D :=
  match q.next eng c with
  | (.error e, q, c) => (.error e, q, c)
  | (.ok false, q, c) => (.ok (), q, c)
  | (.ok true, q, c) => drain eng q.rowsLeft q c

/-- `NextWhile().and_then(Reset)`, as every caller writes it -/
def execute (eng : Engine S D) (q : SQLiteQuery S) (c : SQLiteConnection D) :
    Result Unit × SQLiteQuery S × SQLiteConnection D :=
  andThen (q.nextWhile eng c) fun _ s => s.1.reset s.2

def exec (eng : Engine S D) (q : SQLiteQuery S) (c : SQLiteConnection D) :
    Result Unit × SQLiteConnection D :=
  match c.database with
  | none => (.error (queryError "database not set"), c)
  | some db =>
    match db.script eng q.query c.file with
    | (.error what, db, f) => (.error (queryError what), ⟨f, some db, c.transaction⟩)
    | (.ok (), db, f) => (.ok (), ⟨f, some db, c.transaction⟩)

/-! ### reading a row -/

def getColumn (pos : Nat) (q : SQLiteQuery S) : Result Value :=
  match q.statement with
  | none => .error (queryError "statement has not been initialized")
  | some st =>
    match st.cursor with
    | .row current _ =>
      match current[pos]? with
      | some v => .ok v
      | none => .error (queryError "Column index out of range.")
    | _ => .error
      (queryError "No row to get a column from. executeStep() was not called, or returned false.")

/-- `sqlite3_column_int`: the low 32 bits; only a column that holds an integer is read so -/
def asInt (pos : Nat) (q : SQLiteQuery S) : Result Int32 :=
  match q.getColumn pos with
  | .error e => .error e
  | .ok (.int n) => .ok (Int32.ofInt n)
  | .ok _ => .ok 0

def asString (pos : Nat) (q : SQLiteQuery S) : Result (List UInt8) :=
  match q.getColumn pos with
  | .error e => .error e
  | .ok (.text s) => .ok s
  | .ok (.int n) => .ok ((toString n).toList.map fun c => UInt8.ofNat c.toNat)
  | .ok .null => .ok []

/-! ### what the requests do inside a transaction -/

def current (eng : Engine S D) (q : SQLiteQuery S) (h : Nat) : Statement :=
  q.statement.getD ⟨h, List.replicate (eng.params q.query) .null, .ready⟩

theorem prepared_spec (eng : Engine S D) (q : SQLiteQuery S) (db : SQLite.Database D)
    (f : SQLite.File D) :
    f.Keeps (q.prepared eng db f).2 ∧
      (∀ st, (q.prepared eng db f).1 = .ok st → st = q.current eng db.handle) ∧
      (f.Quiet → (q.prepared eng db f).1 = .ok (q.current eng db.handle)) := by
  unfold prepared current
  cases q.statement with
  | none => exact db.prepare_spec eng q.query f
  | some st => exact ⟨.refl f, fun _ e => (by cases e; rfl), fun _ => rfl⟩

theorem next_spec (eng : Engine S D) (q : SQLiteQuery S) {c : SQLiteConnection D} {d : D}
    (hs : c.Sees d) :
    c.Touches (q.next eng c).2.2 ∧
      (∀ b, (q.next eng c).1 = .ok b → ∃ h st st' d', c.Uses h ∧
        applyBinds q.binds (q.current eng h) = (none, st) ∧
        Statement.Stepped eng q.query st d b st' d' ∧
        (q.next eng c).2.1 = ⟨q.query, [], some st'⟩ ∧ (q.next eng c).2.2.Sees d') ∧
      (c.file.Quiet → ∀ h st b st' d', c.Uses h →
        applyBinds q.binds (q.current eng h) = (none, st) → st.handle = h →
        Statement.Stepped eng q.query st d b st' d' → (q.next eng c).1 = .ok b) := by
  obtain ⟨db, hdb, hp⟩ := hs
  have huse : c.Uses db.handle := by rw [SQLiteConnection.Uses, hdb]; rfl
  have huniq : ∀ h, c.Uses h → h = db.handle := by
    intro h hh
    rw [SQLiteConnection.Uses, hdb] at hh
    exact (Option.some.inj hh).symm
  obtain ⟨hk, hprep, hpq⟩ := q.prepared_spec eng db c.file
  rcases hx : q.prepared eng db c.file with ⟨r, f⟩
  rw [hx] at hk hprep hpq
  cases r with
  | error what =>
    simp only [next, hdb, hx]
    exact ⟨⟨hk, rfl, by rw [hdb]⟩, nofun, fun hq => absurd (hpq hq) (by simp)⟩
  | ok st =>
    have hst : st = q.current eng db.handle := hprep st rfl
    subst hst
    rcases hb : applyBinds q.binds (q.current eng db.handle) with ⟨err, st⟩
    cases err with
    | some what =>
      simp only [next, hdb, hx, hb]
      refine ⟨⟨hk, rfl, by rw [hdb]⟩, nofun, fun _ h st₁ b st' d' hu hb' => ?_⟩
      rw [huniq h hu, hb] at hb'
      cases hb'
    | none =>
      obtain ⟨hk', hh, hok, hquiet⟩ := st.step_spec eng q.query hp f
      rcases hy : st.step eng q.query db f with ⟨r, st', db', f'⟩
      rw [hy] at hk' hh hok hquiet
      have ht : c.Touches ⟨f', some db', c.transaction⟩ :=
        ⟨hk.trans hk', rfl, by rw [hdb]; exact congrArg some hh⟩
      have hquiet' : c.file.Quiet → ∀ h st₁ b st' d', c.Uses h →
          applyBinds q.binds (q.current eng h) = (none, st₁) → st₁.handle = h →
          Statement.Stepped eng q.query st₁ d b st' d' → r = .ok b := by
        intro hq h st₁ b st' d' hu hb' hh' hs
        have e := huniq h hu
        subst e
        rw [hb] at hb'
        cases hb'
        exact hquiet (hk.quiet hq) hh' b st' d' hs
      cases r with
      | error what =>
        simp only [next, hdb, hx, hb, hy]
        refine ⟨ht, nofun, fun hq h st₁ b st' d' hu hb' hh' hs => ?_⟩
        exact absurd (hquiet' hq h st₁ b st' d' hu hb' hh' hs) (by simp)
      | ok b =>
        simp only [next, hdb, hx, hb, hy]
        refine ⟨ht, fun b' e => ?_, fun hq h st₁ b st' d' hu hb' hh' hs => ?_⟩
        · cases e
          obtain ⟨d', hd', hst⟩ := hok b rfl
          have hd'' : db' = { db with pending := some d' } := hd'
          exact ⟨db.handle, st, st', d', huse, hb, hst, rfl, db', rfl, by rw [hd'']⟩
        · cases hquiet' hq h st₁ b st' d' hu hb' hh' hs
          rfl

theorem next_onRow (eng : Engine S D) (s : S) {st : Statement} {row : List Value}
    {rest : List (List Value)} (hc : st.cursor = .row row rest) {c : SQLiteConnection D} {d : D}
    (hs : c.Sees d) :
    c.Touches (SQLiteQuery.next eng ⟨s, [], some st⟩ c).2.2 ∧
      (∀ b, (SQLiteQuery.next eng ⟨s, [], some st⟩ c).1 = .ok b → b = (Cursor.into rest).1 ∧
        (SQLiteQuery.next eng ⟨s, [], some st⟩ c).2.1
          = ⟨s, [], some { st with cursor := (Cursor.into rest).2 }⟩ ∧
        (SQLiteQuery.next eng ⟨s, [], some st⟩ c).2.2.Sees d) ∧
      (c.file.Quiet → c.Uses st.handle →
        (SQLiteQuery.next eng ⟨s, [], some st⟩ c).1 = .ok (Cursor.into rest).1) := by
  obtain ⟨ht, hok, hquiet⟩ := next_spec eng ⟨s, [], some st⟩ hs
  refine ⟨ht, fun b hb => ?_, fun hq hu => hquiet hq st.handle st _ _ _ hu rfl rfl (.onRow hc)⟩
  obtain ⟨h, st₁, st', d', -, hb', hst, hq', hs'⟩ := hok b hb
  have e : st = st₁ := congrArg Prod.snd hb'
  subst e
  cases hst with
  | execute h => rw [hc] at h; cases h
  | onRow h =>
    rw [hc] at h
    cases h
    exact ⟨rfl, hq', hs'⟩

theorem drain_spec (eng : Engine S D) (s : S) {d : D} (rest : List (List Value)) :
    ∀ (st : Statement) (row : List Value) (c : SQLiteConnection D), st.cursor = .row row rest →
      c.Sees d →
      c.Touches (drain eng (rest.length + 1) ⟨s, [], some st⟩ c).2.2 ∧
        ((drain eng (rest.length + 1) ⟨s, [], some st⟩ c).1 = .ok () →
          (drain eng (rest.length + 1) ⟨s, [], some st⟩ c).2.1
              = ⟨s, [], some { st with cursor := .done }⟩ ∧
            (drain eng (rest.length + 1) ⟨s, [], some st⟩ c).2.2.Sees d) ∧
        (c.file.Quiet → c.Uses st.handle →
          (drain eng (rest.length + 1) ⟨s, [], some st⟩ c).1 = .ok ()) := by
  induction rest with
  | nil =>
    intro st row c hc hs
    obtain ⟨ht, hok, hquiet⟩ := next_onRow eng s hc hs
    rcases hx : SQLiteQuery.next eng ⟨s, [], some st⟩ c with ⟨r, q', c'⟩
    rw [hx] at ht hok hquiet
    cases r with
    | error e =>
      simp only [drain, hx]
      exact ⟨ht, nofun, fun hq hu => absurd (hquiet hq hu) (by simp)⟩
    | ok b =>
      obtain ⟨hb, hq', hs'⟩ := hok b rfl
      cases hb
      simp only [drain, hx]
      exact ⟨ht, fun _ => ⟨hq', hs'⟩, fun _ _ => rfl⟩
  | cons r₀ rest ih =>
    intro st row c hc hs
    obtain ⟨ht, hok, hquiet⟩ := next_onRow eng s hc hs
    rcases hx : SQLiteQuery.next eng ⟨s, [], some st⟩ c with ⟨r, q', c'⟩
    rw [hx] at ht hok hquiet
    cases r with
    | error e =>
      simp only [drain, hx]
      exact ⟨ht, nofun, fun hq hu => absurd (hquiet hq hu) (by simp)⟩
    | ok b =>
      obtain ⟨hb, hq', hs'⟩ := hok b rfl
      cases hb
      have e : q' = ⟨s, [], some { st with cursor := .row r₀ rest }⟩ := hq'
      subst e
      obtain ⟨ht', hok', hquiet'⟩ := ih { st with cursor := .row r₀ rest } r₀ c' rfl hs'
      simp only [List.length_cons, drain, hx, Cursor.into]
      exact ⟨ht.trans ht', hok', fun hq hu => hquiet' (ht.file.quiet hq) (ht.handle.trans hu)⟩

theorem reset_spec (q : SQLiteQuery S) {c : SQLiteConnection D} {d : D} (hs : c.Sees d) :
    c.Touches (q.reset c).2.2 ∧ (q.reset c).2.2.Sees d ∧
      ((q.reset c).1 = .ok () → (q.reset c).2.1 =
        ⟨q.query, [], q.statement.map fun st =>
          ({ st with cursor := .ready } : Statement).clearBindings⟩) ∧
      (c.file.Quiet → (q.reset c).1 = .ok ()) := by
  unfold reset
  cases hq : q.statement with
  | none => exact ⟨.refl c, hs, fun _ => rfl, fun _ => rfl⟩
  | some st =>
    obtain ⟨hk, hok, hquiet⟩ := st.reset_spec c.file
    rcases hx : st.reset c.file with ⟨r, st', f⟩
    rw [hx] at hk hok hquiet
    cases r with
    | error what =>
      simp only [hx]
      exact ⟨⟨hk, rfl, rfl⟩, hs, nofun, fun h => absurd (hquiet h) (by simp)⟩
    | ok u =>
      have e : st' = { st with cursor := .ready } := hok rfl
      simp only [hx]
      exact ⟨⟨hk, rfl, rfl⟩, hs, fun _ => (by rw [e]; rfl), fun _ => trivial⟩

/-- a reading of rows keeps its result through the `Reset` that follows it -/
theorem reset_after {α : Type} {x : Result α × SQLiteQuery S × SQLiteConnection D}
    {c : SQLiteConnection D} {d : D} {a : α} {P : Prop} (ht : c.Touches x.2.2)
    (hok : ∀ b, x.1 = .ok b → b = a ∧ x.2.2.Sees d) (hquiet : c.file.Quiet → P → x.1 = .ok a) :
    let y := andThen x fun b s => andThen (s.1.reset s.2) fun _ s => (.ok b, s)
    c.Touches y.2.2 ∧ (∀ b, y.1 = .ok b → b = a ∧ y.2.2.Sees d) ∧
      (c.file.Quiet → P → y.1 = .ok a) := by
  obtain ⟨r, q, c'⟩ := x
  cases r with
  | error e => exact ⟨ht, nofun, fun hq hP => absurd (hquiet hq hP) (by simp)⟩
  | ok b =>
    obtain ⟨hb, hs⟩ := hok b rfl
    subst hb
    obtain ⟨ht', hs', -, hquiet'⟩ := q.reset_spec hs
    simp only [andThen_ok]
    rcases hx : q.reset c' with ⟨r, q', c''⟩
    rw [hx] at ht' hs' hquiet'
    cases r with
    | error e =>
      exact ⟨ht.trans ht', nofun,
        fun hq _ => absurd (hquiet' (ht.file.quiet hq)) (by simp)⟩
    | ok u => exact ⟨ht.trans ht', fun b e => (by cases e; exact ⟨rfl, hs'⟩), fun _ _ => rfl⟩

theorem applyBinds_cursor (bs : List (Nat × Value)) :
    ∀ {st st' : Statement}, applyBinds bs st = (none, st') → st'.cursor = st.cursor := by
  induction bs with
  | nil => intro st st' h; cases h; rfl
  | cons b bs ih =>
    intro st st' h
    obtain ⟨p, v⟩ := b
    unfold applyBinds at h
    cases hb : st.bind (p + 1) v with
    | error what => rw [hb] at h; cases h
    | ok st₁ =>
      rw [hb] at h
      rw [ih h]
      unfold Statement.bind at hb
      split at hb
      · cases hb
      · split at hb
        · cases hb
        · cases hb; rfl

def Ready (q : SQLiteQuery S) : Prop := ∀ st ∈ q.statement, st.cursor = .ready

theorem Ready.current {q : SQLiteQuery S} (h : q.Ready) (eng : Engine S D) (n : Nat) :
    (q.current eng n).cursor = .ready := by
  unfold SQLiteQuery.current
  cases hq : q.statement with
  | none => rfl
  | some st => exact h st hq

/-- **A statement execution**: a success has run the statement, once, with the binds of the query
over those that the statement had. -/
theorem nextWhile_spec (eng : Engine S D) {q : SQLiteQuery S} (hr : q.Ready)
    {c : SQLiteConnection D} {d : D} (hs : c.Sees d) :
    c.Touches (q.nextWhile eng c).2.2 ∧
      ((q.nextWhile eng c).1 = .ok () → ∃ h st rows d', c.Uses h ∧
        applyBinds q.binds (q.current eng h) = (none, st) ∧
        eng.run q.query st.bindings d = .ok (rows, d') ∧
        (q.nextWhile eng c).2.1 = ⟨q.query, [], some { st with cursor := .done }⟩ ∧
        (q.nextWhile eng c).2.2.Sees d') ∧
      (c.file.Quiet → ∀ h st rows d', c.Uses h →
        applyBinds q.binds (q.current eng h) = (none, st) → st.handle = h →
        eng.run q.query st.bindings d = .ok (rows, d') → (q.nextWhile eng c).1 = .ok ()) := by
  obtain ⟨ht, hok, hquiet⟩ := q.next_spec eng hs
  rcases hx : q.next eng c with ⟨r, q', c'⟩
  rw [hx] at ht hok hquiet
  have hready : ∀ {h st}, applyBinds q.binds (q.current eng h) = (none, st) → st.cursor = .ready :=
    fun hb => (applyBinds_cursor _ hb).trans (hr.current eng _)
  cases r with
  | error e =>
    simp only [nextWhile, hx]
    refine ⟨ht, nofun, fun hq h st rows d' hu hb hh hrun => ?_⟩
    exact absurd (hquiet hq h st _ _ _ hu hb hh (.execute (hready hb) hrun)) (by simp)
  | ok b =>
    obtain ⟨h, st, st', d', hu, hb, hst, hq', hs'⟩ := hok b rfl
    have hc := hready hb
    cases hst with
    | onRow h' => rw [hc] at h'; cases h'
    | @execute rows _ _ hrun =>
      cases rows with
      | nil =>
        simp only [nextWhile, hx, Cursor.into]
        exact ⟨ht, fun _ => ⟨h, st, [], d', hu, hb, hrun, hq', hs'⟩,
          fun _ _ _ _ _ _ _ _ _ => trivial⟩
      | cons r₀ rest =>
        have e : q' = ⟨q.query, [], some { st with cursor := .row r₀ rest }⟩ := hq'
        subst e
        obtain ⟨ht', hok', hquiet'⟩ :=
          drain_spec eng q.query rest { st with cursor := .row r₀ rest } r₀ c' rfl hs'
        simp only [nextWhile, hx, Cursor.into]
        refine ⟨ht.trans ht', fun e => ?_, fun hq h₁ st₁ _ _ hu₁ hb₁ hh₁ _ => ?_⟩
        · obtain ⟨e₁, e₂⟩ := hok' e
          exact ⟨h, st, r₀ :: rest, d', hu, hb, hrun, e₁, e₂⟩
        · have e : h = h₁ := Option.some.inj (hu.symm.trans hu₁)
          subst e
          rw [hb] at hb₁
          cases hb₁
          refine hquiet' (ht.file.quiet hq) ?_
          show c'.Uses st.handle
          rw [hh₁]
          exact ht.handle.trans hu

/-- **A whole execution**: the statement has run once, and stands clean before its next use. -/
theorem execute_spec (eng : Engine S D) {q : SQLiteQuery S} (hr : q.Ready)
    {c : SQLiteConnection D} {d : D} (hs : c.Sees d) :
    c.Touches (q.execute eng c).2.2 ∧
      ((q.execute eng c).1 = .ok () → ∃ h st rows d', c.Uses h ∧
        applyBinds q.binds (q.current eng h) = (none, st) ∧
        eng.run q.query st.bindings d = .ok (rows, d') ∧
        (q.execute eng c).2.1
          = ⟨q.query, [], some ({ st with cursor := .ready } : Statement).clearBindings⟩ ∧
        (q.execute eng c).2.2.Sees d') ∧
      (c.file.Quiet → ∀ h st rows d', c.Uses h →
        applyBinds q.binds (q.current eng h) = (none, st) → st.handle = h →
        eng.run q.query st.bindings d = .ok (rows, d') → (q.execute eng c).1 = .ok ()) := by
  obtain ⟨ht, hok, hquiet⟩ := nextWhile_spec eng hr hs
  unfold execute
  rcases hx : q.nextWhile eng c with ⟨r, q', c'⟩
  rw [hx] at ht hok hquiet
  cases r with
  | error e =>
    refine ⟨ht, nofun, fun hq h st rows d' hu hb hh hrun => ?_⟩
    exact absurd (hquiet hq h st rows d' hu hb hh hrun) (by simp)
  | ok u =>
    obtain ⟨h, st, rows, d', hu, hb, hrun, hq', hs'⟩ := hok rfl
    obtain ⟨ht', hs'', hok', hquiet'⟩ := q'.reset_spec hs'
    refine ⟨ht.trans ht', fun e => ⟨h, st, rows, d', hu, hb, hrun, ?_, hs''⟩,
      fun hq _ _ _ _ _ _ _ _ => hquiet' (ht.file.quiet hq)⟩
    have hq'' : q' = ⟨q.query, [], some { st with cursor := .done }⟩ := hq'
    subst hq''
    exact hok' e

theorem exec_spec (eng : Engine S D) (q : SQLiteQuery S) {c : SQLiteConnection D} {d : D}
    (hs : c.Sees d) :
    c.Touches (q.exec eng c).2 ∧
      ((q.exec eng c).1 = .ok () → (eng.script q.query d).2 = none ∧
        (q.exec eng c).2.Sees (eng.script q.query d).1) ∧
      (c.file.Quiet → (eng.script q.query d).2 = none → (q.exec eng c).1 = .ok ()) := by
  obtain ⟨db, hdb, hp⟩ := hs
  obtain ⟨hk, hh, hok, hquiet⟩ := db.script_spec eng q.query hp c.file
  rcases hx : db.script eng q.query c.file with ⟨r, db', f⟩
  rw [hx] at hk hh hok hquiet
  have ht : c.Touches ⟨f, some db', c.transaction⟩ := ⟨hk, rfl, by rw [hdb]; exact congrArg some hh⟩
  cases r with
  | error what =>
    simp only [exec, hdb, hx]
    exact ⟨ht, nofun, fun hq h => absurd (hquiet hq h) (by simp)⟩
  | ok u =>
    have e : db' = { db with pending := some (eng.script q.query d).1 } := (hok rfl).2
    simp only [exec, hdb, hx]
    exact ⟨ht, fun _ => ⟨(hok rfl).1, db', rfl, by rw [e]⟩, fun _ _ => trivial⟩

/-! ### queries that live for one execution -/

def executed (eng : Engine S D) (q : SQLiteQuery S) (c : SQLiteConnection D) :
    Result Unit × SQLiteConnection D :=
  ((q.execute eng c).1, (q.execute eng c).2.2)

theorem computes_executed (eng : Engine S D) {q : SQLiteQuery S} (hq : q.statement = none)
    (vs : List Value) (hb : ∀ h, applyBinds q.binds
      ⟨h, List.replicate (eng.params q.query) .null, .ready⟩ = (none, ⟨h, vs, .ready⟩)) :
    SQLiteConnection.Computes (q.executed eng)
      (fun d => (eng.run q.query vs d).toOption.map fun out => ((), out.2)) := by
  have hr : q.Ready := by
    intro st hst
    rw [hq] at hst
    cases hst
  have hcur : ∀ h, q.current eng h = ⟨h, List.replicate (eng.params q.query) .null, .ready⟩ := by
    intro h
    rw [current, hq]
    rfl
  refine .intro fun {c d} hs => ⟨(execute_spec eng hr hs).1, fun a hok => ?_,
    fun hquiet a d' hm => ?_⟩
  · obtain ⟨h, st, rows, d', -, hb', hrun, -, hs'⟩ := (execute_spec eng hr hs).2.1 hok
    rw [hcur, hb] at hb'
    cases hb'
    exact ⟨d', by rw [hrun]; rfl, hs'⟩
  · obtain ⟨db, hdb, -⟩ := id hs
    cases hrun : eng.run q.query vs d with
    | error what => rw [hrun] at hm; cases hm
    | ok out =>
      obtain ⟨rows, d₁⟩ := out
      refine (execute_spec eng hr hs).2.2 hquiet db.handle ⟨db.handle, vs, .ready⟩ rows d₁ ?_ ?_ rfl
        hrun
      · rw [SQLiteConnection.Uses, hdb]
        rfl
      · rw [hcur, hb]

theorem computes_exec (eng : Engine S D) (q : SQLiteQuery S) :
    SQLiteConnection.Computes (q.exec eng) (fun d =>
      match eng.script q.query d with
      | (d', none) => some ((), d')
      | (_, some _) => none) := by
  refine .intro fun {c d} hs => ⟨(q.exec_spec eng hs).1, fun a hok => ?_,
    fun hquiet a d' hm => (q.exec_spec eng hs).2.2 hquiet ?_⟩
  · obtain ⟨hnone, hs'⟩ := (q.exec_spec eng hs).2.1 hok
    rcases hx : eng.script q.query d with ⟨d₁, err⟩
    rw [hx] at hnone hs'
    cases hnone
    exact ⟨d₁, rfl, hs'⟩
  · cases he : (eng.script q.query d).2 with
    | none => rfl
    | some what =>
      rcases hx : eng.script q.query d with ⟨d₁, err⟩
      rw [hx] at hm he
      cases he
      cases hm

end SQLiteQuery
end Evget
