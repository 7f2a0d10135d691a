import Evget.Database.Query
import Mathlib.Data.List.Sort

/-!
# Migrations

`Migrate` brings the tables of a database up to date: it sorts its migrations by version, reads the
table `_migrations`, checks the recorded migrations against the sorted list position by position,
executes and records the rest, and commits; whatever fails, it rolls back.

What the SQL of the migrations does (`Scripts`) and the digest SHA-512 are parameters.

* `applyMigrations`   the source, on a connection;
* `migrated`          what it makes of the content of the database, `none` when it is to fail;
* `computes_applyFrom`   the loop of the first computes that of the second, on what the open
                         transaction sees.
-/

namespace Evget
open SQLite

structure Migration where
  version : Int32
  description : List UInt8
  sql : List UInt8
  exec : Bool
deriving DecidableEq, Repr

structure AppliedMigration where
  version : Int32
  checksum : List UInt8
deriving DecidableEq, Repr

namespace Migrate

/-! ## the database -/

/-- a row of `_migrations`, without `installed_on` -/
structure Row where
  version : Int
  description : List UInt8
  checksum : List UInt8
deriving DecidableEq, Repr

structure Table where
  rows : List Row
  sorted : rows.Pairwise fun r s => r.version < s.version

def Table.empty : Table := ⟨[], .nil⟩

/-- `none` when there is a row with the same key -/
def insertRow (r : Row) : List Row → Option (List Row)
  | [] => some [r]
  | s :: rows =>
    if r.version < s.version then some (r :: s :: rows)
    else if r.version = s.version then none
    else (insertRow r rows).map (s :: ·)

theorem mem_insertRow {r x : Row} {rows rows' : List Row} (h : insertRow r rows = some rows') :
    x ∈ rows' ↔ x = r ∨ x ∈ rows := by
  induction rows generalizing rows' with
  | nil =>
    cases h
    simp
  | cons s rows ih =>
    unfold insertRow at h
    split at h
    · cases h
      simp
    · split at h
      · cases h
      · obtain ⟨l, hl, rfl⟩ := Option.map_eq_some_iff.mp h
        rw [List.mem_cons, ih hl, List.mem_cons]
        tauto

theorem insertRow_sorted {r : Row} {rows rows' : List Row} (h : insertRow r rows = some rows')
    (hs : rows.Pairwise fun r s => r.version < s.version) :
    rows'.Pairwise fun r s => r.version < s.version := by
  induction rows generalizing rows' with
  | nil =>
    cases h
    exact List.pairwise_singleton ..
  | cons s rows ih =>
    obtain ⟨hlt, htail⟩ := List.pairwise_cons.mp hs
    unfold insertRow at h
    split at h
    · rename_i hr
      cases h
      refine List.pairwise_cons.mpr ⟨fun x hx => ?_, hs⟩
      rcases List.mem_cons.mp hx with rfl | hx
      · exact hr
      · exact lt_trans hr (hlt x hx)
    · split at h
      · cases h
      · rename_i hlt' hne
        obtain ⟨l, hl, rfl⟩ := Option.map_eq_some_iff.mp h
        refine List.pairwise_cons.mpr ⟨fun x hx => ?_, ih hl htail⟩
        rcases (mem_insertRow hl).mp hx with rfl | hx
        · omega
        · exact hlt x hx

theorem insertRow_fresh {r : Row} {rows : List Row} (h : ∀ s ∈ rows, s.version ≠ r.version) :
    ∃ rows', insertRow r rows = some rows' := by
  induction rows with
  | nil => exact ⟨_, rfl⟩
  | cons s rows ih =>
    unfold insertRow
    split
    · exact ⟨_, rfl⟩
    · rw [if_neg (Ne.symm (h s (List.mem_cons_self ..)))]
      obtain ⟨l, hl⟩ := ih fun x hx => h x (List.mem_cons_of_mem _ hx)
      exact ⟨s :: l, by rw [hl]; rfl⟩

theorem insertRow_last {r : Row} {rows : List Row} (h : ∀ s ∈ rows, s.version < r.version) :
    insertRow r rows = some (rows ++ [r]) := by
  induction rows with
  | nil => rfl
  | cons s rows ih =>
    have hs := h s (List.mem_cons_self ..)
    unfold insertRow
    rw [if_neg (by omega), if_neg (by omega), ih fun x hx => h x (List.mem_cons_of_mem _ hx)]
    rfl

def Table.insert (r : Row) (t : Table) : Except String Table :=
  match h : insertRow r t.rows with
  | none => .error "UNIQUE constraint failed: _migrations.version"
  | some rows => .ok ⟨rows, insertRow_sorted h t.sorted⟩

theorem Table.insert_of_some {r : Row} {t : Table} {rows : List Row}
    (h : insertRow r t.rows = some rows) :
    t.insert r = .ok ⟨rows, insertRow_sorted h t.sorted⟩ := by
  unfold Table.insert
  split
  · rename_i h'
    rw [h] at h'
    cases h'
  · rename_i rows' h'
    rw [h] at h'
    cases h'
    rfl

/-- the content of a database file: the table `_migrations`, if there is one, and all the rest -/
structure Content (D : Type) where
  data : D
  migrations : Option Table

/-- what the SQL of a migration does to the database: as a whole text, and its first statement,
which is all that a prepared statement has of it -/
structure Scripts (D : Type) where
  exec : List UInt8 → Content D → Content D × Option String
  first : List UInt8 → Content D → Except String (List (List Value) × Content D)

inductive Sql where
  /-- create table if not exists _migrations (…) -/
  | createMigrations
  /-- select version, checksum from _migrations order by version -/
  | selectApplied
  /-- insert into _migrations (version, description, checksum) values ($1, $2, $3) -/
  | insertApplied
  /-- the SQL of a migration -/
  | migration (sql : List UInt8)
deriving DecidableEq, Repr

section
variable {D : Type} (scripts : Scripts D) (sha512 : List UInt8 → Vector UInt8 64)

def Content.create (d : Content D) : Content D :=
  { d with migrations := some (d.migrations.getD .empty) }

def noTable : String := "no such table: _migrations"

def Content.insert (r : Row) (d : Content D) : Except String (Content D) :=
  match d.migrations with
  | none => .error noTable
  | some t =>
    match t.insert r with
    | .error what => .error what
    | .ok t => .ok { d with migrations := some t }

def Row.selected (r : Row) : List Value := [.int r.version, .text r.checksum]

def runStatement : Sql → List Value → Content D → Except String (List (List Value) × Content D)
  | .createMigrations, _, d => .ok ([], d.create)
  | .selectApplied, _, d =>
    match d.migrations with
    | none => .error noTable
    | some t => .ok (t.rows.map Row.selected, d)
  | .insertApplied, [.int version, .text description, .text checksum], d =>
    match d.insert ⟨version, description, checksum⟩ with
    | .error what => .error what
    | .ok d => .ok ([], d)
  | .insertApplied, _, _ => .error "NOT NULL constraint failed"
  | .migration sql, _, d => scripts.first sql d

def engine : Engine Sql (Content D) where
  params
    | .insertApplied => 3
    | _ => 0
  run := runStatement scripts
  script
    | .migration sql, d => scripts.exec sql d
    | s, d =>
      match runStatement scripts s [] d with
      | .error what => (d, some what)
      | .ok (_, d) => (d, none)

/-! ## the migration manager -/

/-- what the constructor makes of its argument -/
def sortMigrations (migrations : List Migration) : List Migration :=
  migrations.insertionSort fun a b => a.version ≤ b.version

def migrateError (message : String) : Error := ⟨.databaseError, message⟩

def hexDigit (n : Nat) : UInt8 := UInt8.ofNat (if n < 10 then 48 + n else 87 + n)

/-- `std::format("{:02x}", byte)` -/
def hexByte (byte : UInt8) : List UInt8 := [hexDigit (byte.toNat / 16), hexDigit (byte.toNat % 16)]

def checksum (migration : Migration) : List UInt8 := (sha512 migration.sql).toList.flatMap hexByte

def createMigrationsTable (c : SQLiteConnection (Content D)) :
    Result Unit × SQLiteConnection (Content D) :=
  (SQLiteQuery.build Sql.createMigrations).executed (engine scripts) c

/-- the loop over the rows of `_migrations`, which are no more than `n` -/
def readApplied : Nat → List AppliedMigration → Result Bool → SQLiteQuery Sql →
    SQLiteConnection (Content D) →
    Result (List AppliedMigration) × SQLiteQuery Sql × SQLiteConnection (Content D)
  | _, _, .error e, query, c => (.error e, query, c)
  | _, migrations, .ok false, query, c => (.ok migrations, query, c)
  | 0, migrations, .ok true, query, c => (.ok migrations, query, c)
  | n + 1, migrations, .ok true, query, c =>
    match query.asInt 0, query.asString 1 with
    | .ok version, .ok checksum =>
      let (next, query, c) := query.next (engine scripts) c
      readApplied n (migrations ++ [⟨version, checksum⟩]) next query c
    | _, _ => (.error (migrateError "missing version or checksum"), query, c)

def getAppliedMigrations (c : SQLiteConnection (Content D)) :
    Result (List AppliedMigration) × SQLiteConnection (Content D) :=
  let (next, query, c) := (SQLiteQuery.build Sql.selectApplied).next (engine scripts) c
  let x := andThen (readApplied scripts query.rowsLeft [] next query c) fun migrations s =>
    andThen (s.1.reset s.2) fun _ s => (.ok migrations, s)
  (x.1, x.2.2)

def applyMigrationSql (migration : Migration) (c : SQLiteConnection (Content D)) :
    Result Unit × SQLiteConnection (Content D) :=
  if migration.exec then (SQLiteQuery.build (Sql.migration migration.sql)).exec (engine scripts) c
  else (SQLiteQuery.build (Sql.migration migration.sql)).executed (engine scripts) c

def insertQuery (migration : Migration) (checksum : List UInt8) : SQLiteQuery Sql :=
  (((SQLiteQuery.build .insertApplied).bindInt 0 migration.version).bindChars 1
    migration.description).bindChars 2 checksum

def applyMigration (migration : Migration) (checksum : List UInt8)
    (c : SQLiteConnection (Content D)) : Result Unit × SQLiteConnection (Content D) :=
  andThen (applyMigrationSql scripts migration c) fun _ c =>
    (insertQuery migration checksum).executed (engine scripts) c

/-- the loop over the migrations from position `i` on -/
def applyFrom (applied : List AppliedMigration) : Nat → List Migration →
    SQLiteConnection (Content D) → Result Unit × SQLiteConnection (Content D)
  | _, [], c => (.ok (), c)
  | i, migration :: migrations, c =>
    match applied[i]? with
    | some appliedMigration =>
      if appliedMigration.version ≠ migration.version ∨
          appliedMigration.checksum ≠ checksum sha512 migration then
        (.error (migrateError "applied migrations do not match current migrations"), c)
      else applyFrom applied (i + 1) migrations c
    | none =>
      andThen (applyMigration scripts migration (checksum sha512 migration) c) fun _ c =>
        applyFrom applied (i + 1) migrations c

def applyMigrations (migrations : List Migration) (c : SQLiteConnection (Content D)) :
    Result Unit × SQLiteConnection (Content D) :=
  orElse
    (andThen
      (andThen
        (andThen (andThen c.begin fun _ c => createMigrationsTable scripts c) fun _ c =>
          getAppliedMigrations scripts c)
        fun applied c => applyFrom scripts sha512 applied 0 (sortMigrations migrations) c)
      fun _ c => c.commit)
    fun err c => andThen c.rollback fun _ c => (.error err, c)

/-! ## what the steps compute -/

theorem hexDigit_ne_zero : ∀ n < 16, hexDigit n ≠ 0 := by decide

theorem cstr_checksum (migration : Migration) :
    cstr (checksum sha512 migration) = checksum sha512 migration := by
  apply cstr_eq_self
  intro b hb
  obtain ⟨byte, -, hb⟩ := List.mem_flatMap.mp hb
  have hlt := byte.toNat_lt
  rcases List.mem_pair.mp hb with rfl | rfl
  · exact hexDigit_ne_zero _ (by omega)
  · exact hexDigit_ne_zero _ (by omega)

def Row.applied (r : Row) : AppliedMigration := ⟨Int32.ofInt r.version, r.checksum⟩

/-- the SQL of a migration on the content that the transaction sees -/
def runSql (migration : Migration) (d : Content D) : Option (Content D) :=
  if migration.exec then
    match scripts.exec migration.sql d with
    | (d, none) => some d
    | (_, some _) => none
  else (scripts.first migration.sql d).toOption.map Prod.snd

def Row.of (migration : Migration) : Row :=
  ⟨migration.version.toInt, cstr migration.description, Migrate.checksum sha512 migration⟩

def migrateOne (migration : Migration) (d : Content D) : Option (Content D) :=
  (runSql scripts migration d).bind fun d => (d.insert (.of sha512 migration)).toOption

def migrateAll : List Migration → Content D → Option (Content D)
  | [], d => some d
  | migration :: migrations, d =>
    (migrateOne scripts sha512 migration d).bind (migrateAll migrations)

def appliedOf (migration : Migration) : AppliedMigration :=
  ⟨migration.version, checksum sha512 migration⟩

/-- check the recorded migrations one by one, then execute the rest -/
def migrateRest : List AppliedMigration → List Migration → Content D → Option (Content D)
  | _, [], d => some d
  | [], migration :: migrations, d => migrateAll scripts sha512 (migration :: migrations) d
  | applied :: rest, migration :: migrations, d =>
    if applied = appliedOf sha512 migration then migrateRest rest migrations d
    else none

def Content.rows (d : Content D) : List Row := (d.migrations.map Table.rows).getD []

def migrated (migrations : List Migration) (d : Content D) : Option (Content D) :=
  migrateRest scripts sha512 (d.rows.map Row.applied) (sortMigrations migrations) d.create

open SQLiteConnection (Computes)

theorem computes_createMigrationsTable :
    Computes (createMigrationsTable scripts) (fun d => some ((), d.create)) :=
  SQLiteQuery.computes_executed (engine scripts) rfl [] fun _ => rfl

theorem readApplied_error (n : Nat) (acc : List AppliedMigration) (e : Error) (q : SQLiteQuery Sql)
    (c : SQLiteConnection (Content D)) :
    readApplied scripts n acc (.error e) q c = (.error e, q, c) := by
  cases n <;> rfl

theorem readApplied_row (n : Nat) (acc : List AppliedMigration) {st : Statement} {r : Row}
    {rest : List (List Value)} (hc : st.cursor = .row r.selected rest)
    (c : SQLiteConnection (Content D)) :
    readApplied scripts (n + 1) acc (.ok true) ⟨.selectApplied, [], some st⟩ c
      = readApplied scripts n (acc ++ [r.applied])
          (SQLiteQuery.next (engine scripts) ⟨.selectApplied, [], some st⟩ c).1
          (SQLiteQuery.next (engine scripts) ⟨.selectApplied, [], some st⟩ c).2.1
          (SQLiteQuery.next (engine scripts) ⟨.selectApplied, [], some st⟩ c).2.2 := by
  simp only [readApplied, SQLiteQuery.asInt, SQLiteQuery.asString, SQLiteQuery.getColumn, hc]
  rfl

/-- **The loop reads every row**, from the one that the statement stands on. -/
theorem readApplied_spec {d : Content D} (rows : List Row) :
    ∀ (r : Row) (acc : List AppliedMigration) (st : Statement) (c : SQLiteConnection (Content D)),
      st.cursor = .row r.selected (rows.map Row.selected) → c.Sees d →
      let x := readApplied scripts (rows.length + 1) acc (.ok true) ⟨.selectApplied, [], some st⟩ c
      c.Touches x.2.2 ∧
        (∀ l, x.1 = .ok l → l = acc ++ (r :: rows).map Row.applied ∧ x.2.2.Sees d) ∧
        (c.file.Quiet → c.Uses st.handle → x.1 = .ok (acc ++ (r :: rows).map Row.applied)) := by
  induction rows with
  | nil =>
    intro r acc st c hc hs
    obtain ⟨ht, hok, hquiet⟩ := SQLiteQuery.next_onRow (engine scripts) .selectApplied hc hs
    simp only [List.length_nil, readApplied_row scripts 0 acc hc c]
    rcases hx : SQLiteQuery.next (engine scripts) ⟨.selectApplied, [], some st⟩ c with ⟨res, q, c'⟩
    rw [hx] at ht hok hquiet
    cases res with
    | error e =>
      exact ⟨ht, nofun, fun hq hu => absurd (hquiet hq hu) (by simp)⟩
    | ok b =>
      obtain ⟨hb, -, hs'⟩ := hok b rfl
      cases hb
      exact ⟨ht, fun l e => (by cases e; exact ⟨rfl, hs'⟩), fun _ _ => rfl⟩
  | cons r' rows ih =>
    intro r acc st c hc hs
    obtain ⟨ht, hok, hquiet⟩ := SQLiteQuery.next_onRow (engine scripts) .selectApplied hc hs
    simp only [List.length_cons, readApplied_row scripts (rows.length + 1) acc hc c]
    rcases hx : SQLiteQuery.next (engine scripts) ⟨.selectApplied, [], some st⟩ c with ⟨res, q, c'⟩
    rw [hx] at ht hok hquiet
    cases res with
    | error e =>
      exact ⟨ht, nofun, fun hq hu => absurd (hquiet hq hu) (by simp)⟩
    | ok b =>
      obtain ⟨hb, hq', hs'⟩ := hok b rfl
      cases hb
      have e : q = ⟨.selectApplied, [],
          some { st with cursor := .row r'.selected (rows.map Row.selected) }⟩ := hq'
      subst e
      obtain ⟨ht', hok', hquiet'⟩ := ih r' (acc ++ [r.applied])
        { st with cursor := .row r'.selected (rows.map Row.selected) } c' rfl hs'
      refine ⟨ht.trans ht', fun l hl => ?_, fun hq hu => ?_⟩
      · obtain ⟨hl, hs''⟩ := hok' l hl
        exact ⟨by rw [hl]; simp, hs''⟩
      · have h := hquiet' (ht.file.quiet hq) (ht.handle.trans hu)
        rw [List.append_assoc] at h
        exact h

theorem readApplied_all {d : Content D} (rows : List Row) (st : Statement)
    {c : SQLiteConnection (Content D)} (hs : c.Sees d) :
    let q : SQLiteQuery Sql :=
      ⟨.selectApplied, [], some { st with cursor := (Cursor.into (rows.map Row.selected)).2 }⟩
    let x := readApplied scripts q.rowsLeft [] (.ok (Cursor.into (rows.map Row.selected)).1) q c
    c.Touches x.2.2 ∧ (∀ l, x.1 = .ok l → l = rows.map Row.applied ∧ x.2.2.Sees d) ∧
      (c.file.Quiet → c.Uses st.handle → x.1 = .ok (rows.map Row.applied)) := by
  cases rows with
  | nil => exact ⟨.refl c, fun l hl => (by cases hl; exact ⟨rfl, hs⟩), fun _ _ => rfl⟩
  | cons r rows =>
    have h := readApplied_spec scripts rows r []
      { st with cursor := .row r.selected (rows.map Row.selected) } c rfl hs
    have hn : SQLiteQuery.rowsLeft (S := Sql) ⟨.selectApplied, [],
        some { st with cursor := .row r.selected (rows.map Row.selected) }⟩ = rows.length + 1 := by
      simp [SQLiteQuery.rowsLeft, Statement.rowsLeft]
    intro q x
    have hx : x = readApplied scripts (rows.length + 1) [] (.ok true) q c := by
      rw [← hn]
      rfl
    rw [hx]
    exact h

theorem computes_getAppliedMigrations :
    Computes (getAppliedMigrations scripts)
      (fun d => d.migrations.map fun t => (t.rows.map Row.applied, d)) := by
  refine .intro fun {c d} hs => ?_
  obtain ⟨ht, hok, hquiet⟩ := SQLiteQuery.next_spec (engine scripts) (.build .selectApplied) hs
  obtain ⟨db, hdb, -⟩ := id hs
  have huse : c.Uses db.handle := by
    rw [SQLiteConnection.Uses, hdb]
    rfl
  unfold getAppliedMigrations
  rcases hx : (SQLiteQuery.build Sql.selectApplied).next (engine scripts) c with ⟨res, q, c'⟩
  rw [hx] at ht hok hquiet
  cases res with
  | error e =>
    simp only [readApplied_error, andThen_error]
    refine ⟨ht, fun l e => (by cases e), fun hq l d' hm => ?_⟩
    obtain ⟨t, hm, -⟩ := Option.map_eq_some_iff.mp hm
    have hrun : runStatement scripts .selectApplied [] d = .ok (t.rows.map Row.selected, d) := by
      rw [runStatement, hm]
    exact absurd
      (hquiet hq db.handle ⟨db.handle, [], .ready⟩ _ _ _ huse rfl rfl (.execute rfl hrun)) (by simp)
  | ok b =>
    obtain ⟨h, st, st', d', hu, hb, hst, hq', hs'⟩ := hok b rfl
    have e : (⟨h, [], .ready⟩ : Statement) = st := congrArg Prod.snd hb
    subst e
    have eh : h = db.handle := Option.some.inj (hu.symm.trans huse)
    subst eh
    cases hst with
    | onRow hc => cases hc
    | @execute rows _ _ hrun =>
      have hrun' : runStatement scripts .selectApplied [] d = .ok (rows, d') := hrun
      cases hm : d.migrations with
      | none => rw [runStatement, hm] at hrun'; cases hrun'
      | some t =>
        rw [runStatement, hm] at hrun'
        cases hrun'
        have hq'' : q = ⟨.selectApplied, [],
            some ⟨db.handle, [], (Cursor.into (t.rows.map Row.selected)).2⟩⟩ := hq'
        subst hq''
        obtain ⟨ht₂, hok₂, hquiet₂⟩ := readApplied_all scripts t.rows ⟨db.handle, [], .ready⟩ hs'
        obtain ⟨ht₃, hok₃, hquiet₃⟩ := SQLiteQuery.reset_after ht₂ hok₂ hquiet₂
        refine ⟨ht.trans ht₃, fun l hl => ?_, fun hq l d' e => ?_⟩
        · obtain ⟨hl, hs₃⟩ := hok₃ l hl
          exact ⟨d, by rw [hl]; rfl, hs₃⟩
        · cases e
          exact hquiet₃ (ht.file.quiet hq) (ht.handle.trans huse)

theorem computes_applyMigrationSql (m : Migration) :
    Computes (applyMigrationSql scripts m)
      (fun d => (runSql scripts m d).map fun d => ((), d)) := by
  unfold applyMigrationSql runSql
  cases m.exec with
  | true =>
    refine (SQLiteQuery.computes_exec (engine scripts)
      (.build (.migration m.sql))).congr fun d => ?_
    have h : (engine scripts).script (.migration m.sql) d = scripts.exec m.sql d := rfl
    rcases hx : scripts.exec m.sql d with ⟨d', err⟩
    cases err <;> simp only [SQLiteQuery.build, h, hx] <;> rfl
  | false =>
    refine (SQLiteQuery.computes_executed (engine scripts) (q := .build (.migration m.sql)) rfl
      [] fun _ => rfl).congr fun d => ?_
    show (scripts.first m.sql d).toOption.map _ = _
    cases scripts.first m.sql d <;> rfl

theorem insertQuery_binds (m : Migration) (n : Nat) :
    applyBinds (insertQuery m (checksum sha512 m)).binds ⟨n, List.replicate 3 .null, .ready⟩
      = (none, ⟨n, [.int m.version.toInt, .text (cstr m.description),
          .text (checksum sha512 m)], .ready⟩) := by
  have h : (insertQuery m (checksum sha512 m)).binds = [(0, .int m.version.toInt),
      (1, .text (cstr m.description)), (2, .text (checksum sha512 m))] := by
    show [_, _, (2, Value.text (cstr (checksum sha512 m)))] = _
    rw [cstr_checksum]
  rw [h]
  rfl

theorem run_insertApplied (m : Migration) (d : Content D) :
    (engine scripts).run (insertQuery m (checksum sha512 m)).query
        [.int m.version.toInt, .text (cstr m.description), .text (checksum sha512 m)] d
      = (d.insert (.of sha512 m)).map fun d => ([], d) := by
  have h : ∀ vs, (engine scripts).run (insertQuery m (checksum sha512 m)).query vs d
      = runStatement scripts .insertApplied vs d := fun _ => rfl
  rw [h, runStatement, Row.of]
  cases d.insert ⟨m.version.toInt, cstr m.description, checksum sha512 m⟩ <;> rfl

theorem computes_applyMigration (m : Migration) :
    Computes (applyMigration scripts m (checksum sha512 m))
      (fun d => (migrateOne scripts sha512 m d).map fun d => ((), d)) := by
  refine ((computes_applyMigrationSql scripts m).andThen fun _ =>
    SQLiteQuery.computes_executed (engine scripts) rfl _
      (insertQuery_binds sha512 m)).congr fun d => ?_
  unfold migrateOne
  cases runSql scripts m d with
  | none => rfl
  | some d =>
    simp only [Option.map_some, Option.bind_some, run_insertApplied]
    cases d.insert (.of sha512 m) <;> rfl

/-- **The loop**: check position by position, then execute and record. -/
theorem computes_applyFrom (applied : List AppliedMigration) (ms : List Migration) (i : Nat) :
    Computes (applyFrom scripts sha512 applied i ms)
      (fun d => (migrateRest scripts sha512 (applied.drop i) ms d).map fun d => ((), d)) := by
  induction ms generalizing i with
  | nil =>
    refine (Computes.pure ()).congr fun d => ?_
    cases applied.drop i <;> rfl
  | cons m ms ih =>
    cases ha : applied[i]? with
    | some a =>
      obtain ⟨hi, ha'⟩ := List.getElem?_eq_some_iff.mp ha
      have hd : applied.drop i = a :: applied.drop (i + 1) := by
        rw [List.drop_eq_getElem_cons hi, ha']
      by_cases hm : a = appliedOf sha512 m
      · have hstep : applyFrom scripts sha512 applied i (m :: ms)
            = applyFrom scripts sha512 applied (i + 1) ms := by
          funext c
          simp [applyFrom, ha, hm, appliedOf]
        rw [hstep]
        refine (ih (i + 1)).congr fun d => ?_
        rw [hd, migrateRest, if_pos hm]
      · have hne : a.version ≠ m.version ∨ a.checksum ≠ checksum sha512 m := by
          by_contra h
          obtain ⟨h₁, h₂⟩ := not_or.mp h
          exact hm (by rw [appliedOf, ← not_not.mp h₁, ← not_not.mp h₂])
        have hstep : applyFrom scripts sha512 applied i (m :: ms) = fun c =>
            (.error (migrateError "applied migrations do not match current migrations"), c) := by
          funext c
          simp only [applyFrom, ha, if_pos hne]
        rw [hstep]
        refine (Computes.fail _).congr fun d => ?_
        rw [hd, migrateRest, if_neg hm]
        rfl
    | none =>
      have hi : applied.length ≤ i := List.getElem?_eq_none_iff.mp ha
      have hstep : applyFrom scripts sha512 applied i (m :: ms) = fun c =>
          andThen (applyMigration scripts m (checksum sha512 m) c) fun _ c =>
            applyFrom scripts sha512 applied (i + 1) ms c := by
        funext c
        simp only [applyFrom, ha]
      rw [hstep]
      refine ((computes_applyMigration scripts sha512 m).andThen fun _ =>
        ih (i + 1)).congr fun d => ?_
      rw [List.drop_eq_nil_of_le hi, List.drop_eq_nil_of_le (by omega)]
      cases hd : migrateOne scripts sha512 m d with
      | none => simp [migrateRest, migrateAll, hd]
      | some d' => cases ms <;> simp [migrateRest, migrateAll, hd]

end
end Migrate
end Evget
