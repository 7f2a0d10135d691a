import Evget.Database.MigrateRuns

/-!
# The recorded history of a database

Which databases a list of migrations is accepted on, and what repeated runs do to them.

* `checksHistory_iff`        a success means that the recorded list is a prefix of the given one,
                             except on a database that records more than is given;
* `applyMigrations_stages`   applied in two stages or at once, a second time, in another order.
-/

namespace Evget
open SQLite

namespace Migrate

section
variable {D : Type} (sha512 : List UInt8 → Vector UInt8 64)

/-! ## accepted databases -/

/-- a success on a database with this content is a success on a prefix of the given list, and then
the whole list is recorded; any other content is rejected as a mismatch -/
structure ChecksHistory (ms : List Migration) (d : Content D) : Prop where
  accepted : ∀ (scripts : Scripts D) (c : SQLiteConnection (Content D)), c.file.content = d →
    (applyMigrations scripts sha512 ms c).1 = .ok () → d.recorded <+: given sha512 ms
  recorded : ∀ (scripts : Scripts D) (c : SQLiteConnection (Content D)), c.file.content = d →
    (∀ m ∈ ms, LeavesRecords scripts m) → (applyMigrations scripts sha512 ms c).1 = .ok () →
      (applyMigrations scripts sha512 ms c).2.file.content.recorded = given sha512 ms
  rejected : ∀ (scripts : Scripts D) (c : SQLiteConnection (Content D)), c.file.content = d →
    c.Closed → c.database.isSome → c.file.Quiet → c.file.RollsBack →
      ¬ d.recorded <+: given sha512 ms → (applyMigrations scripts sha512 ms c).1 = .error mismatch

/-- a recorded list that agrees with the migrations as far as both go holds `int`s only and is no
longer than the list of the migrations -/
def Covers (ms : List Migration) (d : Content D) : Prop :=
  Agrees sha512 ms d → d.Fits ∧ d.rows.length ≤ ms.length

/-- **The check of the history** is right on all databases but those whose recorded list goes on
where the migrations end, or holds a version that is read as another. -/
theorem checksHistory_iff {ms : List Migration} (hms : (ms.map Migration.version).Nodup)
    (d : Content D) : ChecksHistory sha512 ms d ↔ Covers sha512 ms d := by
  constructor
  · intro h hagree
    obtain ⟨d', hd'⟩ := migrated_idle sha512 hms hagree
    have hok := applyMigrations_quiet (c := ⟨⟨d, [], [], 1⟩, some ⟨0, none⟩, none⟩) idle sha512
      (fun db hdb => by cases hdb; rfl) rfl rfl hd'
    have hpre := h.accepted idle _ rfl hok.1
    refine ⟨.of_isPrefix sha512 hpre, ?_⟩
    have hle := hpre.length_le
    rw [Content.recorded, List.length_map, given, List.length_map,
      (sortMigrations_perm ms).length_eq] at hle
    exact hle
  · intro h
    have hpre : Agrees sha512 ms d → d.recorded <+: given sha512 ms := fun hagree =>
      hagree.recorded_isPrefix sha512 (h hagree).1 (h hagree).2
    have hagree : ∀ (scripts : Scripts D) (c : SQLiteConnection (Content D)), c.file.content = d →
        (applyMigrations scripts sha512 ms c).1 = .ok () → Agrees sha512 ms d := by
      intro scripts c hc hok
      have hm := (applyMigrations_ok scripts sha512 hok).1
      rw [hc] at hm
      exact ((migrateRest_eq_some scripts sha512).mp hm).1
    refine ⟨fun scripts c hc hok => hpre (hagree scripts c hc hok),
      fun scripts c hc hsql hok => ?_, fun scripts c hc hclosed hdb hq hroll hnot => ?_⟩
    · have hm := (applyMigrations_ok scripts sha512 hok).1
      rw [hc] at hm
      exact recorded_after sha512 hms hsql (hpre (hagree scripts c hc hok)) hm
    · refine applyMigrations_mismatch sha512 scripts hclosed hdb hq hroll fun ha => hnot (hpre ?_)
      rwa [hc] at ha

end

/-! ### one migration, on a database that knows two -/

def newer : Content Unit :=
  ⟨(), some ⟨[.of (fun _ => createTDigest) createT, ⟨2, bytes "create u", bytes "c0fefc"⟩],
    by decide⟩⟩

def onNewer : SQLiteConnection (Content Unit) := ⟨⟨newer, [], [], 1⟩, some ⟨0, none⟩, none⟩

/-- the newer database is accepted, and keeps a record that the given list does not have -/
theorem newer_accepted :
    (applyMigrations idle (fun _ => createTDigest) [createT] onNewer).1 = .ok () ∧
      ¬ newer.recorded <+: given (fun _ => createTDigest) [createT] ∧
      (applyMigrations idle (fun _ => createTDigest) [createT] onNewer).2.file.content.recorded
        ≠ given (fun _ => createTDigest) [createT] := by
  refine ⟨rfl, by decide, by decide⟩

/-! ### two migrations, on a database that knows the first -/

def insertT : Migration := ⟨2, bytes "insert into t", bytes "insert into t values (1);", false⟩

def insertTDigest : Vector UInt8 64 := #v[
  144, 174, 13, 124, 43, 217, 114, 149, 224, 9, 236, 124, 139, 83, 130, 247, 180, 18, 123, 38, 107,
  182, 130, 19, 171, 38, 20, 145, 168, 233, 148, 22, 75, 147, 246, 92, 191, 206, 84, 109, 159, 246,
  223, 172, 213, 118, 11, 238, 42, 121, 251, 125, 80, 197, 4, 7, 136, 171, 1, 112, 158, 208, 209,
  145]

def digests (sql : List UInt8) : Vector UInt8 64 :=
  if sql = createT.sql then createTDigest else insertTDigest

/-- the SQL of `createT` and `insertT` on the number of rows of the table `t`, if there is one -/
def runT (sql : List UInt8) (d : Content (Option Nat)) : Except String (Content (Option Nat)) :=
  match d.data with
  | none =>
    if sql = createT.sql then .ok { d with data := some 0 } else .error "no such table: t"
  | some n =>
    if sql = createT.sql then .error "table t already exists"
    else .ok { d with data := some (n + 1) }

def scriptsT : Scripts (Option Nat) where
  exec sql d :=
    match runT sql d with
    | .ok d => (d, none)
    | .error what => (d, some what)
  first sql d := (runT sql d).map fun d => ([], d)

theorem runT_migrations {sql : List UInt8} {d d' : Content (Option Nat)}
    (h : runT sql d = .ok d') : d'.migrations = d.migrations := by
  obtain ⟨_ | n, migrations⟩ := d <;> by_cases hsql : sql = createT.sql <;>
    simp only [runT, hsql, if_true, if_false] at h <;> cases h <;> rfl

theorem scriptsT_leaves (m : Migration) : LeavesRecords scriptsT m := by
  intro d d' h
  unfold runSql scriptsT at h
  dsimp only at h
  cases hrun : runT m.sql d with
  | error what =>
    rw [hrun] at h
    cases hexec : m.exec <;> rw [hexec] at h <;> cases h
  | ok after =>
    rw [hrun] at h
    cases hexec : m.exec <;> rw [hexec] at h <;> cases h <;> exact runT_migrations hrun

def onFile (d : Content (Option Nat)) : SQLiteConnection (Content (Option Nat)) :=
  ⟨⟨d, [], [], 1⟩, some ⟨0, none⟩, none⟩

def created (checksum : List UInt8) : Content (Option Nat) :=
  ⟨some 0, some ⟨[⟨1, bytes "create t", checksum⟩], List.pairwise_singleton ..⟩⟩

/-- given in the other order, the second migration is applied behind the first one, unless the SQL
of the first one has changed -/
theorem checksHistory_createT :
    let known := checksum digests createT
    let ran := applyMigrations scriptsT digests [insertT, createT] (onFile (created known))
    (ChecksHistory digests [insertT, createT] (created known) ↔
        Covers digests [insertT, createT] (created known)) ∧
      ran.1 = .ok () ∧ (created known).recorded <+: given digests [insertT, createT] ∧
      ran.2.file.content.recorded = given digests [insertT, createT] ∧
      (applyMigrations scriptsT digests [insertT, createT]
        (onFile (created (bytes "c0fefc")))).1 = .error mismatch := by
  intro known ran
  have hcovers : ∀ checksum, Covers digests [insertT, createT] (created checksum) := by
    refine fun checksum _ => ⟨fun r hr => ?_, Nat.le_succ 1⟩
    rw [List.mem_singleton.mp hr]
    rfl
  have hok : ran.1 = .ok () := rfl
  have hknown := (checksHistory_iff digests (by decide) _).mpr (hcovers known)
  have hchanged := (checksHistory_iff digests (by decide) _).mpr (hcovers (bytes "c0fefc"))
  refine ⟨checksHistory_iff digests (by decide) _, hok, hknown.accepted scriptsT _ rfl hok,
    hknown.recorded scriptsT _ rfl (fun m _ => scriptsT_leaves m) hok, ?_⟩
  refine hchanged.rejected scriptsT (onFile _) rfl (fun db hdb => ?_) rfl rfl ?_ (by decide)
  · cases hdb
    rfl
  · exact fun o ho => absurd ho List.not_mem_nil

/-! ## stages -/

section
variable {D : Type} (scripts : Scripts D) (sha512 : List UInt8 → Vector UInt8 64)

/-- each migration's SQL succeeds on what the ones before it, once recorded, have left -/
def SqlSucceeds : List Migration → Content D → Prop
  | [], _ => True
  | m :: ms, d => ∃ d₁, runSql scripts m d = some d₁ ∧
      ∀ d₂, d₁.insert (.of sha512 m) = .ok d₂ → SqlSucceeds ms d₂

variable {scripts}

theorem SqlSucceeds.migrateAll {ms : List Migration} (hms : ∀ m ∈ ms, LeavesRecords scripts m)
    {d : Content D} (hd : d.migrations.isSome)
    (hs : (d.rows ++ ms.map (Row.of sha512)).Pairwise fun r s => r.version < s.version)
    (h : SqlSucceeds scripts sha512 ms d) : ∃ d', migrateAll scripts sha512 ms d = some d' := by
  induction ms generalizing d with
  | nil => exact ⟨d, rfl⟩
  | cons m ms ih =>
    obtain ⟨d₁, hsql, hrest⟩ := h
    have hkeep := hms m (List.mem_cons_self ..) d d₁ hsql
    have hrows : d₁.rows = d.rows := by rw [Content.rows, hkeep, Content.rows]
    have hlast : ∀ r ∈ d₁.rows, r.version < (Row.of sha512 m).version := fun r hr =>
      (List.pairwise_append.mp hs).2.2 r (hrows ▸ hr) _ (by simp)
    obtain ⟨d₂, hins, hsome, hadd⟩ := Content.insert_last (hkeep ▸ hd) hlast
    have hs' : (d₂.rows ++ ms.map (Row.of sha512)).Pairwise fun r s => r.version < s.version := by
      rw [hadd, hrows]
      simpa using hs
    obtain ⟨d', h'⟩ := ih (fun m hm => hms m (List.mem_cons_of_mem _ hm)) hsome hs' (hrest d₂ hins)
    refine ⟨d', ?_⟩
    rw [Migrate.migrateAll, migrateOne, hsql, Option.bind_some, hins]
    exact h'

def Compatible (ms : List Migration) (d : Content D) : Prop :=
  d.recorded <+: given sha512 ms ∨ given sha512 ms <+: d.recorded

def unpair (p : Int × List UInt8) : AppliedMigration := ⟨Int32.ofInt p.1, p.2⟩

theorem Compatible.agrees {ms : List Migration} {d : Content D} (h : Compatible sha512 ms d) :
    Agrees sha512 ms d := by
  have hr : d.rows.map Row.applied = d.recorded.map unpair := by
    rw [Content.recorded, List.map_map]
    rfl
  have hg : (sortMigrations ms).map (appliedOf sha512) = (given sha512 ms).map unpair := by
    rw [given, List.map_map]
    refine List.map_congr_left fun m _ => ?_
    simp only [Function.comp, unpair, appliedOf, Int32.ofInt_toInt]
  rw [Agrees, hr, hg]
  rcases h with h | h
  · exact .inl (h.map _)
  · exact .inr (h.map _)

theorem Compatible.sorted {ms : List Migration} (hms : (ms.map Migration.version).Nodup)
    {d : Content D} (h : Compatible sha512 ms d) :
    (d.rows ++ ((sortMigrations ms).drop d.rows.length).map (Row.of sha512)).Pairwise
      fun r s => r.version < s.version := by
  rcases h with h | h
  · exact rows_sorted sha512 hms h
  · have hle := h.length_le
    rw [given, Content.recorded, List.length_map, List.length_map] at hle
    rw [List.drop_eq_nil_of_le hle, List.map_nil, List.append_nil, Content.rows]
    cases hd : d.migrations with
    | none => exact .nil
    | some t => exact t.sorted

theorem Agrees.migrated {ms : List Migration} {d : Content D} (h : Agrees sha512 ms d) :
    migrated scripts sha512 ms d
      = migrateAll scripts sha512 ((sortMigrations ms).drop d.rows.length) d.create := by
  refine Option.ext fun d' => ?_
  rw [Migrate.migrated, migrateRest_eq_some, List.length_map]
  exact ⟨fun h' => h'.2, fun h' => ⟨h, h'⟩⟩

theorem sortMigrations_append {ms ms' : List Migration}
    (hnodup : ((ms ++ ms').map Migration.version).Nodup)
    (hlt : ∀ m ∈ ms, ∀ m' ∈ ms', m.version < m'.version) :
    sortMigrations (ms ++ ms') = sortMigrations ms ++ sortMigrations ms' := by
  rw [List.map_append, List.nodup_append] at hnodup
  have hp : (sortMigrations (ms ++ ms')).Perm (sortMigrations ms ++ sortMigrations ms') :=
    (sortMigrations_perm _).trans
      ((sortMigrations_perm ms).symm.append (sortMigrations_perm ms').symm)
  refine hp.eq_of_pairwise (fun m m' _ _ (h₁ : m.version.toInt < m'.version.toInt) h₂ => by omega)
    (sortMigrations_sorted ?_) ?_
  · rw [List.map_append, List.nodup_append]
    exact hnodup
  · refine List.pairwise_append.mpr ⟨sortMigrations_sorted hnodup.1,
      sortMigrations_sorted hnodup.2.1, fun m hm m' hm' => ?_⟩
    exact Int32.lt_iff_toInt_lt.mp (hlt m ((sortMigrations_perm ms).subset hm) m'
      ((sortMigrations_perm ms').subset hm'))

theorem Agrees.left {ms ms' : List Migration}
    (happ : sortMigrations (ms ++ ms') = sortMigrations ms ++ sortMigrations ms') {d : Content D}
    (h : Agrees sha512 (ms ++ ms') d) : Agrees sha512 ms d := by
  have hpre : (sortMigrations ms).map (appliedOf sha512)
      <+: (sortMigrations (ms ++ ms')).map (appliedOf sha512) := by
    rw [happ, List.map_append]
    exact List.prefix_append ..
  rcases h with h | h
  · exact List.prefix_or_prefix_of_prefix h hpre
  · exact .inr (hpre.trans h)

theorem applied_of (m : Migration) : (Row.of sha512 m).applied = appliedOf sha512 m := by
  simp only [Row.applied, Row.of, appliedOf, Int32.ofInt_toInt]

theorem Agrees.extend {ms ms' : List Migration}
    (happ : sortMigrations (ms ++ ms') = sortMigrations ms ++ sortMigrations ms') {d d₁ : Content D}
    (h : Agrees sha512 (ms ++ ms') d)
    (hrows : d₁.rows = d.rows ++ ((sortMigrations ms).drop d.rows.length).map (Row.of sha512)) :
    Agrees sha512 (ms ++ ms') d₁ := by
  have hap : d₁.rows.map Row.applied = d.rows.map Row.applied
      ++ ((sortMigrations ms).map (appliedOf sha512)).drop (d.rows.map Row.applied).length := by
    rw [hrows, List.map_append, List.map_map, List.length_map, ← List.map_drop]
    exact congrArg _ (List.map_congr_left fun m _ => applied_of sha512 m)
  rw [Agrees, hap]
  rcases h.left sha512 happ with h' | h'
  · -- the recorded list was a prefix of the first part, which is now recorded whole
    refine .inl ?_
    obtain ⟨rest, hrest⟩ := h'
    rw [← hrest, List.drop_left, hrest, happ, List.map_append]
    exact List.prefix_append ..
  · rw [List.drop_eq_nil_of_le h'.length_le, List.append_nil]
    exact h

/-- **Stages**: what a run on the whole list makes of the content, a run on the first part and then
one on the whole list make of it too. -/
theorem migrated_stages (ms ms' : List Migration)
    (hnodup : ((ms ++ ms').map Migration.version).Nodup)
    (hlt : ∀ m ∈ ms, ∀ m' ∈ ms', m.version < m'.version)
    (hsql : ∀ m ∈ ms, LeavesRecords scripts m) {d d' : Content D}
    (hd : Compatible sha512 (ms ++ ms') d)
    (h : migrated scripts sha512 (ms ++ ms') d = some d') :
    ∃ d₁, migrated scripts sha512 ms d = some d₁ ∧
      migrated scripts sha512 (ms ++ ms') d₁ = some d' := by
  have happ := sortMigrations_append hnodup hlt
  have hagree := hd.agrees sha512
  rw [hagree.migrated, happ, List.drop_append, migrateAll_append] at h
  obtain ⟨d₁, h₁, h₂⟩ := Option.bind_eq_some_iff.mp h
  refine ⟨d₁, by rw [(hagree.left sha512 happ).migrated]; exact h₁, ?_⟩
  have hsorted := hd.sorted sha512 hnodup
  rw [happ, List.drop_append, List.map_append, ← List.append_assoc] at hsorted
  obtain ⟨hsome, hrows⟩ := migrateAll_rows sha512
    (fun m hm => hsql m ((sortMigrations_perm ms).subset (List.mem_of_mem_drop hm)))
    (by rw [Content.rows_create]; exact (List.pairwise_append.mp hsorted).1) h₁
  rw [Content.rows_create] at hrows
  have hcreate : d₁.create = d₁ := by
    obtain ⟨t, ht⟩ := Option.isSome_iff_exists.mp (hsome rfl)
    obtain ⟨data, table⟩ := d₁
    cases ht
    rfl
  rw [(hagree.extend sha512 happ hrows).migrated, hcreate, happ, List.drop_append]
  -- the first part is covered, and the second from where it was
  have hlen : d₁.rows.length
      = d.rows.length + ((sortMigrations ms).length - d.rows.length) := by
    rw [hrows, List.length_append, List.length_map, List.length_drop]
  rw [List.drop_eq_nil_of_le (by omega), List.nil_append,
    show d₁.rows.length - (sortMigrations ms).length
      = d.rows.length - (sortMigrations ms).length by omega]
  exact h₂

/-- **Stages, repetition, order**: on a database that agrees with the migrations, a run on a first
part and then one on the whole list leave what one run on the whole list leaves; the same run again
succeeds and changes nothing; and the order of the list does not matter. -/
theorem applyMigrations_stages (ms ms' : List Migration)
    (hnodup : ((ms ++ ms').map Migration.version).Nodup)
    (hlt : ∀ m ∈ ms, ∀ m' ∈ ms', m.version < m'.version)
    (hleave : ∀ m ∈ ms ++ ms', LeavesRecords scripts m) {c : SQLiteConnection (Content D)}
    (hc : c.Closed) (hdb : c.database.isSome) (hq : c.file.Quiet)
    (hcomp : Compatible sha512 (ms ++ ms') c.file.content)
    (hsql : SqlSucceeds scripts sha512
      ((sortMigrations (ms ++ ms')).drop c.file.content.rows.length) c.file.content.create) :
    let once := applyMigrations scripts sha512 (ms ++ ms') c
    let first := applyMigrations scripts sha512 ms c
    let staged := applyMigrations scripts sha512 (ms ++ ms') first.2
    let again := applyMigrations scripts sha512 (ms ++ ms') once.2
    (once.1 = .ok () ∧ first.1 = .ok () ∧ staged.1 = .ok () ∧
        staged.2.file.content = once.2.file.content) ∧
      (again.1 = .ok () ∧ again.2.file.content = once.2.file.content) ∧
      ∀ l, l.Perm (ms ++ ms') → applyMigrations scripts sha512 l c = once := by
  intro once first staged again
  have hsorted := hcomp.sorted sha512 hnodup
  obtain ⟨d', hd'⟩ := SqlSucceeds.migrateAll sha512 (d := c.file.content.create)
    (fun m hm => hleave m ((sortMigrations_perm _).subset (List.mem_of_mem_drop hm))) rfl
    (by rw [Content.rows_create]; exact hsorted) hsql
  have hmig : migrated scripts sha512 (ms ++ ms') c.file.content = some d' := by
    rw [(hcomp.agrees sha512).migrated]
    exact hd'
  obtain ⟨hok, hq', hcon⟩ := applyMigrations_quiet scripts sha512 hc hdb hq hmig
  obtain ⟨-, hc', hdb'⟩ := applyMigrations_ok scripts sha512 hok
  -- a first part before the whole list
  obtain ⟨d₁, hd₁, hd₂⟩ := migrated_stages sha512 ms ms' hnodup hlt
    (fun m hm => hleave m (List.mem_append_left _ hm)) hcomp hmig
  obtain ⟨hok₁, hq₁, hcon₁⟩ := applyMigrations_quiet scripts sha512 hc hdb hq hd₁
  obtain ⟨-, hc₁, hdb₁⟩ := applyMigrations_ok scripts sha512 hok₁
  obtain ⟨hok₂, -, hcon₂⟩ :=
    applyMigrations_quiet scripts sha512 hc₁ hdb₁ hq₁ (hcon₁.symm ▸ hd₂)
  -- the whole list before nothing more
  have hagain : migrated scripts sha512 (ms ++ ms') d' = some d' := by
    have h := migrated_stages sha512 (ms ++ ms') []
      (by rwa [List.append_nil]) (fun _ _ _ h => by cases h) hleave (by rwa [List.append_nil])
      (by rw [List.append_nil]; exact hmig)
    rw [List.append_nil, hmig] at h
    obtain ⟨d₂, e, h⟩ := h
    cases e
    exact h
  obtain ⟨hok₃, -, hcon₃⟩ :=
    applyMigrations_quiet scripts sha512 hc' hdb' hq' (hcon.symm ▸ hagain)
  refine ⟨⟨hok, hok₁, hok₂, hcon₂.trans hcon.symm⟩, ⟨hok₃, hcon₃⟩, fun l hl => ?_⟩
  have hsort : sortMigrations l = sortMigrations (ms ++ ms') :=
    sortMigrations_eq_of_perm hl ((hl.map _).nodup_iff.mpr hnodup)
  simp only [once, applyMigrations, hsort]

end

/-! ### SQL that writes records of its own -/

def seed : Migration :=
  ⟨1, bytes "seed",
    bytes "insert into _migrations (version, description, checksum) values (0, 'seed', '');", true⟩

def seedDigest : Vector UInt8 64 := #v[
  192, 254, 252, 210, 74, 31, 97, 138, 204, 135, 74, 66, 63, 204, 244, 39, 175, 222, 65, 255, 158,
  47, 236, 9, 226, 107, 180, 91, 62, 63, 107, 114, 202, 187, 207, 149, 222, 255, 126, 62, 149, 24,
  255, 45, 125, 22, 230, 89, 170, 79, 159, 187, 173, 122, 111, 15, 69, 194, 96, 221, 37, 43, 222,
  115]

def seeding : Scripts Unit where
  exec _ d :=
    match d.insert ⟨0, bytes "seed", []⟩ with
    | .ok d => (d, none)
    | .error what => (d, some what)
  first _ d := .ok ([], d)

def fresh : SQLiteConnection (Content Unit) := ⟨⟨⟨(), none⟩, [], [], 1⟩, some ⟨0, none⟩, none⟩

/-- the row that the SQL inserts stands before the record of the migration, and the second run
takes it for that record -/
theorem seed_twice :
    (applyMigrations seeding (fun _ => seedDigest) [seed] fresh).1 = .ok () ∧
      (applyMigrations seeding (fun _ => seedDigest) [seed]
        (applyMigrations seeding (fun _ => seedDigest) [seed] fresh).2).1 = .error mismatch :=
  ⟨rfl, rfl⟩

theorem Content.insert_data {D : Type} {r : Row} {d d' : Content D} (h : d.insert r = .ok d') :
    d'.data = d.data := by
  unfold Content.insert at h
  split at h
  · cases h
  · split at h <;> cases h
    rfl

abbrev migrateT (ms : List Migration) (c : SQLiteConnection (Content (Option Nat))) :
    Result Unit × SQLiteConnection (Content (Option Nat)) := applyMigrations scriptsT digests ms c

def freshT : SQLiteConnection (Content (Option Nat)) := onFile ⟨none, none⟩

theorem stages_createT_insertT :
    ((migrateT [createT] freshT).2.file.content.data = some 0 ∧
        (migrateT [createT, insertT] freshT).2.file.content.data = some 1) ∧
      ((migrateT [createT, insertT] freshT).1 = .ok () ∧
        (migrateT [createT, insertT] (migrateT [createT] freshT).2).2.file.content
          = (migrateT [createT, insertT] freshT).2.file.content) ∧
      ((migrateT [createT, insertT] (migrateT [createT, insertT] freshT).2).1 = .ok () ∧
        (migrateT [createT, insertT] (migrateT [createT, insertT] freshT).2).2.file.content
          = (migrateT [createT, insertT] freshT).2.file.content) ∧
      migrateT [insertT, createT] freshT = migrateT [createT, insertT] freshT := by
  have hclosed : freshT.Closed := by
    intro db hdb
    cases hdb
    rfl
  have hsql : SqlSucceeds scriptsT digests (sortMigrations [createT, insertT])
      ⟨none, some .empty⟩ := by
    have hsorted : sortMigrations [createT, insertT] = [createT, insertT] := by decide
    rw [hsorted]
    refine ⟨⟨some 0, some .empty⟩, rfl, fun d hd => ?_⟩
    obtain ⟨data, migrations⟩ := d
    obtain rfl : data = some 0 := Content.insert_data hd
    exact ⟨⟨some 1, migrations⟩, rfl, fun _ _ => trivial⟩
  obtain ⟨⟨honce, -, -, hstaged⟩, hagain, hperm⟩ := applyMigrations_stages digests [createT]
    [insertT] (by decide) (by decide) (fun m _ => scriptsT_leaves m) hclosed rfl rfl
    (.inl List.nil_prefix) hsql
  exact ⟨by decide +kernel, ⟨honce, hstaged⟩, hagain, hperm _ (List.Perm.swap ..)⟩

end Migrate
end Evget
