import Evget.Database.Migrate

/-!
# Whole runs of the migration manager

A call of `applyMigrations` either computes `migrated` on the content of the file or, when a
ROLLBACK is not refused, leaves the content as it was.

* `applyMigrations_ok`, `applyMigrations_quiet`, `applyMigrations_error`   the two outcomes;
* `migrateRest_eq_some`   positional matching: one of the two lists is a prefix of the other;
* `migrateAll_rows`       what the executed migrations add to `_migrations`.
-/

namespace Evget
open SQLite

namespace Migrate
open SQLiteConnection (Computes)

section
variable {D : Type} (scripts : Scripts D) (sha512 : List UInt8 → Vector UInt8 64)

/-! ## the two outcomes of a call -/

def body (ms : List Migration) (c : SQLiteConnection (Content D)) :
    Result Unit × SQLiteConnection (Content D) :=
  andThen (createMigrationsTable scripts c) fun _ c =>
    andThen (getAppliedMigrations scripts c) fun applied c =>
      applyFrom scripts sha512 applied 0 (sortMigrations ms) c

theorem applyMigrations_eq (ms : List Migration) (c : SQLiteConnection (Content D)) :
    applyMigrations scripts sha512 ms c
      = orElse (SQLiteConnection.transact (body scripts sha512 ms) c)
          fun err c => andThen c.rollback fun _ c => (.error err, c) := by
  simp only [applyMigrations, andThen_assoc, SQLiteConnection.transact, body]

theorem computes_body (ms : List Migration) :
    Computes (body scripts sha512 ms)
      (fun d => (migrated scripts sha512 ms d).map fun d => ((), d)) := by
  refine ((computes_createMigrationsTable scripts).andThen fun _ =>
    (computes_getAppliedMigrations scripts).andThen fun applied =>
      computes_applyFrom scripts sha512 applied (sortMigrations ms) 0).congr fun d => ?_
  unfold migrated Content.rows Content.create
  cases d.migrations <;> rfl

theorem rollback_ne_ok (e : Error) (c : SQLiteConnection (Content D)) :
    (andThen c.rollback fun _ c => ((.error e, c) : Result Unit × _)).1 ≠ .ok () := by
  rcases c.rollback with ⟨r, c⟩
  cases r <;> exact fun h => by cases h

/-- **A success** has made of the content what `migrated` makes of it. -/
theorem applyMigrations_ok {ms : List Migration} {c : SQLiteConnection (Content D)}
    (h : (applyMigrations scripts sha512 ms c).1 = .ok ()) :
    migrated scripts sha512 ms c.file.content
        = some (applyMigrations scripts sha512 ms c).2.file.content ∧
      (applyMigrations scripts sha512 ms c).2.Closed ∧
      (applyMigrations scripts sha512 ms c).2.database.isSome := by
  rw [applyMigrations_eq] at h ⊢
  obtain ⟨h, e⟩ := orElse_eq_ok rollback_ne_ok h
  rw [e]
  exact SQLiteConnection.transact_ok (computes_body scripts sha512 ms) h

/-- **No failure of its own**: when SQLite refuses nothing, the call succeeds if `migrated` does. -/
theorem applyMigrations_quiet {ms : List Migration} {c : SQLiteConnection (Content D)}
    (hc : c.Closed) (hdb : c.database.isSome) (hq : c.file.Quiet) {d : Content D}
    (hd : migrated scripts sha512 ms c.file.content = some d) :
    (applyMigrations scripts sha512 ms c).1 = .ok () ∧
      (applyMigrations scripts sha512 ms c).2.file.Quiet ∧
      (applyMigrations scripts sha512 ms c).2.file.content = d := by
  obtain ⟨hok, hq'⟩ :=
    SQLiteConnection.transact_quiet (computes_body scripts sha512 ms) hc hdb hq hd
  have hx : applyMigrations scripts sha512 ms c
      = SQLiteConnection.transact (body scripts sha512 ms) c := by
    rw [applyMigrations_eq]
    generalize hy : SQLiteConnection.transact (body scripts sha512 ms) c = y at hok
    obtain ⟨r, c'⟩ := y
    cases hok
    rfl
  have hok' : (applyMigrations scripts sha512 ms c).1 = .ok () := by rw [hx]; exact hok
  have hm := (applyMigrations_ok scripts sha512 hok').1
  refine ⟨hok', by rw [hx]; exact hq', ?_⟩
  exact Option.some.inj (hm.symm.trans hd)

/-- a call that fails leaves the content, even when its ROLLBACK is refused -/
theorem applyMigrations_unchanged {ms : List Migration} {c : SQLiteConnection (Content D)}
    {e : Error} (h : (applyMigrations scripts sha512 ms c).1 = .error e) :
    (applyMigrations scripts sha512 ms c).2.file.content = c.file.content := by
  rw [applyMigrations_eq] at h ⊢
  have hcon := fun e =>
    SQLiteConnection.transact_unchanged (c := c) (e := e) (computes_body scripts sha512 ms)
  generalize SQLiteConnection.transact (body scripts sha512 ms) c = y at h hcon ⊢
  obtain ⟨r, c'⟩ := y
  cases r with
  | ok u => cases h
  | error e' =>
    have hroll := c'.rollback_content
    simp only [orElse]
    rcases hx : c'.rollback with ⟨r, c''⟩
    rw [hx] at hroll
    cases r <;> exact hroll.trans (hcon e' rfl)

/-- **All or nothing**: at whatever point a call fails, the content is what it was before. -/
theorem applyMigrations_error (ms : List Migration) {c : SQLiteConnection (Content D)}
    (hc : c.Closed) (hroll : c.file.RollsBack) {e : Error}
    (h : (applyMigrations scripts sha512 ms c).1 = .error e) :
    (applyMigrations scripts sha512 ms c).2.file.content = c.file.content ∧
      (applyMigrations scripts sha512 ms c).2.Closed := by
  rw [applyMigrations_eq] at h ⊢
  have herr := fun e =>
    SQLiteConnection.transact_error (e := e) (computes_body scripts sha512 ms) hc hroll
  generalize SQLiteConnection.transact (body scripts sha512 ms) c = y at h herr ⊢
  obtain ⟨r, c'⟩ := y
  cases r with
  | ok u => cases h
  | error e' =>
    have h' := herr e' rfl
    simp only [orElse]
    rcases hx : c'.rollback with ⟨r, c''⟩
    rw [hx] at h'
    cases r <;> exact h'

end

/-! ### a disk failure while a migration runs -/

def idle {D : Type} : Scripts D := ⟨fun _ d => (d, none), fun _ d => .ok ([], d)⟩

def createT : Migration := ⟨1, bytes "create t", bytes "create table t (x);", true⟩

def createTDigest : Vector UInt8 64 := #v[
  245, 93, 228, 81, 133, 124, 88, 101, 39, 248, 103, 113, 11, 133, 241, 158, 3, 163, 81, 71, 192,
  230, 255, 224, 79, 169, 225, 203, 159, 14, 231, 131, 118, 57, 23, 190, 226, 116, 191, 164, 249,
  118, 12, 193, 170, 186, 112, 122, 240, 242, 6, 224, 199, 201, 147, 203, 24, 62, 33, 0, 150, 194,
  89, 80]

/-- the table of migrations has been created and read, and the SQL of the first one fails -/
def failing : SQLiteConnection (Content Unit) :=
  ⟨⟨⟨(), none⟩, List.replicate 7 .done ++ [.refused "disk I/O error" false], [], 1⟩,
    some ⟨0, none⟩, none⟩

theorem failing_unchanged :
    (applyMigrations idle (fun _ => createTDigest) [createT] failing).1
        = .error ⟨.databaseError, "disk I/O error"⟩ ∧
      (applyMigrations idle (fun _ => createTDigest) [createT] failing).2.file.content
          = failing.file.content ∧
        (applyMigrations idle (fun _ => createTDigest) [createT] failing).2.Closed := by
  have h : (applyMigrations idle (fun _ => createTDigest) [createT] failing).1
      = .error ⟨.databaseError, "disk I/O error"⟩ := rfl
  exact ⟨h, applyMigrations_error idle _ [createT] (fun db hdb => by cases hdb; rfl)
    (fun o ho => by cases ho) h⟩

section
variable {D : Type} (scripts : Scripts D) (sha512 : List UInt8 → Vector UInt8 64)

/-! ## positional matching -/

/-- **Matching**: a success needs one of the lists to be a prefix of the other, and executes what
the recorded list does not cover. -/
theorem migrateRest_eq_some {applied : List AppliedMigration} {ms : List Migration}
    {d d' : Content D} :
    migrateRest scripts sha512 applied ms d = some d' ↔
      (applied <+: ms.map (appliedOf sha512) ∨ ms.map (appliedOf sha512) <+: applied) ∧
        migrateAll scripts sha512 (ms.drop applied.length) d = some d' := by
  induction ms generalizing applied with
  | nil => cases applied <;> simp [migrateRest, migrateAll]
  | cons m ms ih =>
    cases applied with
    | nil => simp [migrateRest]
    | cons a applied =>
      rw [migrateRest]
      by_cases h : a = appliedOf sha512 m
      · rw [if_pos h, ih]
        simp [h, List.cons_prefix_cons]
      · rw [if_neg h]
        simp [List.cons_prefix_cons, h, Ne.symm h]

theorem migrateAll_append (ms ms' : List Migration) (d : Content D) :
    migrateAll scripts sha512 (ms ++ ms') d
      = (migrateAll scripts sha512 ms d).bind (migrateAll scripts sha512 ms') := by
  induction ms generalizing d with
  | nil => rfl
  | cons m ms ih =>
    rw [List.cons_append, migrateAll, migrateAll]
    cases migrateOne scripts sha512 m d with
    | none => rfl
    | some d' => exact ih d'

/-! ## what is recorded -/

/-- the SQL of the migration writes to no row of `_migrations` and keeps the table -/
def LeavesRecords (m : Migration) : Prop :=
  ∀ d d', runSql scripts m d = some d' → d'.migrations = d.migrations

variable {scripts}

theorem Content.insert_last {r : Row} {d : Content D} (hd : d.migrations.isSome)
    (hlast : ∀ s ∈ d.rows, s.version < r.version) :
    ∃ d', d.insert r = .ok d' ∧ d'.migrations.isSome ∧ d'.rows = d.rows ++ [r] := by
  obtain ⟨t, ht⟩ := Option.isSome_iff_exists.mp hd
  unfold Content.rows at hlast ⊢
  rw [ht] at hlast ⊢
  have hrows : insertRow r t.rows = some (t.rows ++ [r]) := insertRow_last hlast
  refine ⟨{ d with migrations := some ⟨_, insertRow_sorted hrows t.sorted⟩ }, ?_, rfl, rfl⟩
  unfold Content.insert
  simp only [ht, Table.insert_of_some hrows]

theorem Content.insert_isSome {r : Row} {d d' : Content D} (h : d.insert r = .ok d') :
    d.migrations.isSome := by
  unfold Content.insert at h
  cases hd : d.migrations with
  | none => rw [hd] at h; cases h
  | some t => rfl

theorem migrateOne_rows {m : Migration} (hm : LeavesRecords scripts m) {d d' : Content D}
    (hlast : ∀ r ∈ d.rows, r.version < m.version.toInt)
    (h : migrateOne scripts sha512 m d = some d') :
    d'.migrations.isSome ∧ d'.rows = d.rows ++ [.of sha512 m] := by
  obtain ⟨d₁, hsql, hins⟩ := Option.bind_eq_some_iff.mp h
  have hrows : d₁.rows = d.rows := by rw [Content.rows, hm d d₁ hsql, Content.rows]
  cases hx : d₁.insert (.of sha512 m) with
  | error what => rw [hx] at hins; cases hins
  | ok d₂ =>
    rw [hx] at hins
    cases hins
    rw [← hrows] at hlast ⊢
    obtain ⟨d₂, hd₂, hsome, hadd⟩ :=
      Content.insert_last (r := .of sha512 m) (Content.insert_isSome hx) hlast
    cases hx.symm.trans hd₂
    exact ⟨hsome, hadd⟩

/-- **What is recorded**: the executed migrations, behind what was recorded before. -/
theorem migrateAll_rows {ms : List Migration} (hms : ∀ m ∈ ms, LeavesRecords scripts m)
    {d d' : Content D}
    (hs : (d.rows ++ ms.map (Row.of sha512)).Pairwise fun r s => r.version < s.version)
    (h : migrateAll scripts sha512 ms d = some d') :
    (d.migrations.isSome → d'.migrations.isSome) ∧ d'.rows = d.rows ++ ms.map (Row.of sha512) := by
  induction ms generalizing d with
  | nil =>
    cases h
    exact ⟨id, by simp⟩
  | cons m ms ih =>
    obtain ⟨d₁, h₁, h⟩ := Option.bind_eq_some_iff.mp h
    have hlast : ∀ r ∈ d.rows, r.version < m.version.toInt := fun r hr =>
      (List.pairwise_append.mp hs).2.2 r hr (.of sha512 m) (by simp)
    obtain ⟨hsome, hrows⟩ := migrateOne_rows sha512 (hms m (List.mem_cons_self ..)) hlast h₁
    have hs' : (d₁.rows ++ ms.map (Row.of sha512)).Pairwise fun r s => r.version < s.version := by
      rw [hrows]
      simpa using hs
    obtain ⟨hsome', hrows'⟩ := ih (fun m hm => hms m (List.mem_cons_of_mem _ hm)) hs' h
    exact ⟨fun _ => hsome' hsome, by rw [hrows', hrows]; simp⟩

def Agrees (ms : List Migration) (d : Content D) : Prop :=
  d.rows.map Row.applied <+: (sortMigrations ms).map (appliedOf sha512) ∨
    (sortMigrations ms).map (appliedOf sha512) <+: d.rows.map Row.applied

/-! ## rejection -/

def mismatch : Error := migrateError "applied migrations do not match current migrations"

/-- lists of which neither is a prefix of the other differ at a position of both, and the loop
stops there before it has executed anything -/
theorem applyFrom_mismatch (scripts : Scripts D) {applied : List AppliedMigration}
    {ms : List Migration} (i : Nat)
    (h : ¬ (applied.drop i <+: ms.map (appliedOf sha512) ∨
      ms.map (appliedOf sha512) <+: applied.drop i)) (c : SQLiteConnection (Content D)) :
    applyFrom scripts sha512 applied i ms c = (.error mismatch, c) := by
  induction ms generalizing i with
  | nil => exact absurd (.inr (List.nil_prefix)) h
  | cons m ms ih =>
    cases ha : applied[i]? with
    | none =>
      refine absurd (.inl ?_) h
      rw [List.drop_eq_nil_of_le (List.getElem?_eq_none_iff.mp ha)]
      exact List.nil_prefix
    | some a =>
      obtain ⟨hi, ha'⟩ := List.getElem?_eq_some_iff.mp ha
      have hd : applied.drop i = a :: applied.drop (i + 1) := by
        rw [List.drop_eq_getElem_cons hi, ha']
      by_cases hm : a.version ≠ m.version ∨ a.checksum ≠ checksum sha512 m
      · simp only [applyFrom, ha, if_pos hm]
        rfl
      · simp only [applyFrom, ha, if_neg hm]
        obtain ⟨h₁, h₂⟩ := not_or.mp hm
        have e : a = appliedOf sha512 m := by rw [appliedOf, ← not_not.mp h₁, ← not_not.mp h₂]
        refine ih (i + 1) fun h' => h ?_
        rw [hd, e, List.map_cons, List.cons_prefix_cons, List.cons_prefix_cons]
        exact h'.imp (⟨rfl, ·⟩) (⟨rfl, ·⟩)

/-- **A rejection**: when nothing is refused, a recorded list that differs from the given one at a
position of both is reported as such. -/
theorem applyMigrations_mismatch (scripts : Scripts D) {ms : List Migration}
    {c : SQLiteConnection (Content D)} (hc : c.Closed) (hdb : c.database.isSome)
    (hq : c.file.Quiet) (hroll : c.file.RollsBack) (h : ¬ Agrees sha512 ms c.file.content) :
    (applyMigrations scripts sha512 ms c).1 = .error mismatch := by
  obtain ⟨hok, hq₁⟩ := SQLiteConnection.begin_quiet hc hdb hq
  have hin := SQLiteConnection.begin_ok hok
  have hroll₁ := SQLiteConnection.begin_rollsBack hroll
  rw [applyMigrations_eq, SQLiteConnection.transact, andThen_of_ok hok]
  generalize c.begin.2 = c₁ at hin hq₁ hroll₁
  generalize c.file.content = d at h hin
  -- the table is created and read
  have hc₁ := computes_createMigrationsTable scripts
  have hok₁ := hc₁.quiet hin.sees hq₁ rfl
  obtain ⟨d₁, e₁, hs₁⟩ := hc₁.ok hin.sees hok₁
  cases e₁
  have ht₁ := hc₁.touches hin.sees
  have hc₂ := computes_getAppliedMigrations scripts
  have hread : (d.create.migrations.map fun t => (t.rows.map Row.applied, d.create))
      = some (d.rows.map Row.applied, d.create) := by
    unfold Content.rows Content.create
    cases d.migrations <;> rfl
  have hok₂ := hc₂.quiet hs₁ (ht₁.file.quiet hq₁) hread
  obtain ⟨d₂, -, hs₂⟩ := hc₂.ok hs₁ hok₂
  have ht₂ := ht₁.trans (hc₂.touches hs₁)
  -- the loop stops at the mismatch
  rw [body, andThen_of_ok hok₁, andThen_of_ok hok₂, applyFrom_mismatch sha512 scripts 0 h]
  refine congrArg Prod.fst (andThen_of_ok (SQLiteConnection.rollback_ok
    (ht₂.inTransaction hin hs₂) fun o ho => hroll₁ o ?_) _)
  rw [← ht₂.file.rollbacks]
  exact ho

/-! ## the sorted list -/

theorem sortMigrations_perm (ms : List Migration) : (sortMigrations ms).Perm ms :=
  List.perm_insertionSort ..

theorem sortMigrations_sorted {ms : List Migration} (hms : (ms.map Migration.version).Nodup) :
    (sortMigrations ms).Pairwise fun m m' => m.version.toInt < m'.version.toInt := by
  have hnodup : (sortMigrations ms).Pairwise fun m m' => m.version ≠ m'.version :=
    List.pairwise_map.mp (((sortMigrations_perm ms).map _).nodup_iff.mpr hms)
  have hle : (sortMigrations ms).Pairwise fun m m' => m.version ≤ m'.version := by
    have : Std.Total fun m m' : Migration => m.version ≤ m'.version :=
      ⟨fun m m' => Int32.le_total m.version m'.version⟩
    have : IsTrans Migration fun m m' => m.version ≤ m'.version :=
      ⟨fun _ _ _ h h' => Int32.le_trans h h'⟩
    exact List.pairwise_insertionSort ..
  refine (hle.and hnodup).imp fun {m m'} h => ?_
  have hle := Int32.le_iff_toInt_le.mp h.1
  have hne : m.version.toInt ≠ m'.version.toInt := fun e => h.2 (Int32.toInt_inj.mp e)
  omega

/-- the sorted list depends on the set of the migrations only -/
theorem sortMigrations_eq_of_perm {ms ms' : List Migration} (h : ms.Perm ms')
    (hms : (ms.map Migration.version).Nodup) : sortMigrations ms = sortMigrations ms' := by
  have hms' : (ms'.map Migration.version).Nodup := (h.map _).nodup_iff.mp hms
  have hp : (sortMigrations ms).Perm (sortMigrations ms') :=
    ((sortMigrations_perm ms).trans h).trans (sortMigrations_perm ms').symm
  refine hp.eq_of_pairwise (fun m m' _ _ h₁ h₂ => ?_) (sortMigrations_sorted hms)
    (sortMigrations_sorted hms')
  omega

/-! ## what a success says about the recorded list -/

def Content.recorded (d : Content D) : List (Int × List UInt8) :=
  d.rows.map fun r => (r.version, r.checksum)

def given (ms : List Migration) : List (Int × List UInt8) :=
  (sortMigrations ms).map fun m => (m.version.toInt, checksum sha512 m)

def Content.Fits (d : Content D) : Prop :=
  ∀ r ∈ d.rows, (Int32.ofInt r.version).toInt = r.version

def pair (a : AppliedMigration) : Int × List UInt8 := (a.version.toInt, a.checksum)

theorem given_eq (ms : List Migration) :
    given sha512 ms = ((sortMigrations ms).map (appliedOf sha512)).map pair := by
  rw [given, List.map_map]
  rfl

theorem Content.Fits.recorded_eq {d : Content D} (h : d.Fits) :
    d.recorded = (d.rows.map Row.applied).map pair := by
  rw [recorded, List.map_map]
  refine List.map_congr_left fun r hr => ?_
  rw [Function.comp, pair, Row.applied, h r hr]

theorem Content.Fits.of_isPrefix {ms : List Migration} {d : Content D}
    (h : d.recorded <+: given sha512 ms) : d.Fits := by
  intro r hr
  have hmem : (r.version, r.checksum) ∈ given sha512 ms :=
    h.subset (List.mem_map.mpr ⟨r, hr, rfl⟩)
  obtain ⟨m, -, hm⟩ := List.mem_map.mp hmem
  have hv : m.version.toInt = r.version := congrArg Prod.fst hm
  rw [← hv, Int32.ofInt_toInt]

theorem Agrees.recorded_isPrefix {ms : List Migration} {d : Content D} (h : Agrees sha512 ms d)
    (hfit : d.Fits) (hlen : d.rows.length ≤ ms.length) : d.recorded <+: given sha512 ms := by
  rw [hfit.recorded_eq, given_eq]
  refine List.IsPrefix.map _ ?_
  rcases h with h | h
  · exact h
  · have hl : ((sortMigrations ms).map (appliedOf sha512)).length
        = (d.rows.map Row.applied).length := by
      refine le_antisymm h.length_le ?_
      rw [List.length_map, List.length_map, (sortMigrations_perm ms).length_eq]
      exact hlen
    exact h.eq_of_length hl ▸ List.prefix_refl _

@[simp] theorem Content.rows_create (d : Content D) : d.create.rows = d.rows := by
  unfold Content.create Content.rows
  cases d.migrations <;> rfl

theorem row_of_recorded (ms : List Migration) :
    (ms.map (Row.of sha512)).map (fun r => (r.version, r.checksum))
      = ms.map fun m => (m.version.toInt, checksum sha512 m) := by
  rw [List.map_map]
  rfl

/-- a prefix of the given list, and behind it the rest: still in the order of the key -/
theorem rows_sorted {ms : List Migration} (hms : (ms.map Migration.version).Nodup) {d : Content D}
    (h : d.recorded <+: given sha512 ms) :
    (d.rows ++ ((sortMigrations ms).drop d.rows.length).map (Row.of sha512)).Pairwise
      fun r s => r.version < s.version := by
  have hlen : d.recorded.length = d.rows.length := List.length_map ..
  have hall : (d.rows ++ ((sortMigrations ms).drop d.rows.length).map (Row.of sha512)).map
      (fun r => (r.version, r.checksum)) = given sha512 ms := by
    rw [List.map_append, row_of_recorded, List.map_drop, ← hlen]
    obtain ⟨rest, hrest⟩ := h
    rw [show (sortMigrations ms).map _ = given sha512 ms from rfl, ← hrest, List.drop_left]
    rfl
  have hp : (given sha512 ms).Pairwise fun p q => p.1 < q.1 :=
    List.pairwise_map.mpr (sortMigrations_sorted hms)
  rw [← hall, List.pairwise_map] at hp
  exact hp

/-- **After a success**: with a recorded list that is a prefix of the given one, everything given
is recorded. -/
theorem recorded_after {ms : List Migration} (hms : (ms.map Migration.version).Nodup)
    (hsql : ∀ m ∈ ms, LeavesRecords scripts m) {d d' : Content D}
    (hpre : d.recorded <+: given sha512 ms) (h : migrated scripts sha512 ms d = some d') :
    d'.recorded = given sha512 ms := by
  have hall := (migrateRest_eq_some scripts sha512).mp h
  rw [List.length_map] at hall
  have hrows := (migrateAll_rows sha512
    (fun m hm => hsql m ((sortMigrations_perm ms).subset (List.mem_of_mem_drop hm)))
    (by rw [Content.rows_create]; exact rows_sorted sha512 hms hpre) hall.2).2
  rw [Content.rows_create] at hrows
  rw [Content.recorded, hrows, List.map_append, row_of_recorded, List.map_drop]
  obtain ⟨rest, hrest⟩ := hpre
  have hlen : d.recorded.length = d.rows.length := List.length_map ..
  rw [show (sortMigrations ms).map _ = given sha512 ms from rfl, ← hrest, ← hlen, List.drop_left]
  rfl

/-! ### a run that succeeds -/

theorem migrateOne_idle {m : Migration} {d : Content D} (hd : d.migrations.isSome)
    (hm : ∀ r ∈ d.rows, r.version ≠ m.version.toInt) :
    ∃ d', migrateOne idle sha512 m d = some d' ∧ d'.migrations.isSome ∧
      ∀ r ∈ d'.rows, r = .of sha512 m ∨ r ∈ d.rows := by
  have hrun : runSql idle m d = some d := by
    unfold runSql
    cases m.exec <;> rfl
  obtain ⟨t, ht⟩ := Option.isSome_iff_exists.mp hd
  have hrows : d.rows = t.rows := by rw [Content.rows, ht]; rfl
  rw [hrows] at hm ⊢
  obtain ⟨rows, hins⟩ := insertRow_fresh (r := .of sha512 m) hm
  refine ⟨{ d with migrations := some ⟨rows, insertRow_sorted hins t.sorted⟩ }, ?_, rfl,
    fun r hr => (mem_insertRow hins).mp hr⟩
  rw [migrateOne, hrun, Option.bind_some, Content.insert, ht]
  simp only [Table.insert_of_some hins]
  rfl

theorem migrateAll_idle {ms : List Migration} (hms : (ms.map Migration.version).Nodup)
    {d : Content D} (hd : d.migrations.isSome)
    (hm : ∀ m ∈ ms, ∀ r ∈ d.rows, r.version ≠ m.version.toInt) :
    ∃ d', migrateAll idle sha512 ms d = some d' := by
  induction ms generalizing d with
  | nil => exact ⟨d, rfl⟩
  | cons m ms ih =>
    obtain ⟨hnot, hms⟩ := List.nodup_cons.mp hms
    obtain ⟨d₁, h₁, hd₁, hrows⟩ := migrateOne_idle sha512 hd (hm m (List.mem_cons_self ..))
    obtain ⟨d', h'⟩ := ih hms hd₁ fun m' hm' r hr e => by
      rcases hrows r hr with rfl | hr
      · exact hnot (List.mem_map.mpr ⟨m', hm', (Int32.toInt_inj.mp e).symm⟩)
      · exact hm m' (List.mem_cons_of_mem _ hm') r hr e
    exact ⟨d', by rw [migrateAll, h₁]; exact h'⟩

theorem migrated_idle {ms : List Migration} (hms : (ms.map Migration.version).Nodup)
    {d : Content D} (h : Agrees sha512 ms d) : ∃ d', migrated idle sha512 ms d = some d' := by
  have hnodup : ((sortMigrations ms).map Migration.version).Nodup :=
    ((sortMigrations_perm ms).map _).nodup_iff.mpr hms
  have hfresh : ∀ m ∈ (sortMigrations ms).drop d.rows.length, ∀ r ∈ d.create.rows,
      r.version ≠ m.version.toInt := by
    intro m hm r hr e
    rw [Content.rows_create] at hr
    rcases h with h | h
    · -- the row was read as the version of an earlier migration
      have htake : d.rows.map Row.applied
          = ((sortMigrations ms).take d.rows.length).map (appliedOf sha512) := by
        rw [List.map_take]
        have := List.prefix_iff_eq_take.mp h
        rwa [List.length_map] at this
      have hmem : r.applied ∈ ((sortMigrations ms).take d.rows.length).map (appliedOf sha512) := by
        rw [← htake]
        exact List.mem_map.mpr ⟨r, hr, rfl⟩
      obtain ⟨m', hm', he⟩ := List.mem_map.mp hmem
      have hv : m'.version = m.version := by
        have hv : m'.version = Int32.ofInt r.version := congrArg AppliedMigration.version he
        rw [hv, e, Int32.ofInt_toInt]
      rw [← List.take_append_drop d.rows.length (sortMigrations ms), List.map_append] at hnodup
      exact List.disjoint_of_nodup_append hnodup (List.mem_map.mpr ⟨m', hm', rfl⟩)
        (List.mem_map.mpr ⟨m, hm, hv.symm⟩)
    · have hle := h.length_le
      rw [List.length_map, List.length_map] at hle
      rw [List.drop_eq_nil_of_le hle] at hm
      cases hm
  obtain ⟨d', h'⟩ := migrateAll_idle sha512 (d := d.create)
    (((List.drop_sublist d.rows.length _).map _).nodup hnodup) rfl hfresh
  refine ⟨d', (migrateRest_eq_some idle sha512).mpr ⟨h, ?_⟩⟩
  rw [List.length_map]
  exact h'

end
end Migrate
end Evget
