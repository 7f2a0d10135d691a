import Evget.Database.ConnectionMap
import Evget.Database.MigrateRuns
import Evget.Storage.DatabaseStorage

/-!
# The schema of the database

`Init` connects to the file and applies one migration, whose SQL creates the tables of the program:
three with the texts of the enumerations and eight for the events.  Its text is generated by the
build, so it is a parameter; what it does is read off the files of the schema.

* `Schema`            the tables of the program that a file has;
* `definitions`       the statements of the schema, in their order;
* `init`              the source, on a connection;
* `stored`            a file that `Init` has set up, with these rows in the event tables;
* `answerIn`          the calls of `storeEvent` on a whole file;
* `init_quiet_iff`    on which files `Init` succeeds, when SQLite refuses nothing.
-/

namespace Evget
open SQLite
open Calls

/-! ## the tables of the program -/

inductive EnumName where
  | buttonAction
  | deviceType
  | modifier
deriving DecidableEq, Repr

/-- a missing table is `none`; the rows of an enumeration are its ids and texts -/
structure Schema where
  enums : EnumName → Option (List (Int × List UInt8))
  tables : TableName → Option (List (List Value))

def EnumName.text : EnumName → String
  | .buttonAction => "button_action"
  | .deviceType => "device_type"
  | .modifier => "modifier"

def TableName.text : TableName → String
  | .key => "key"
  | .keyModifier => "key_modifier"
  | .mouseClick => "mouse_click"
  | .mouseClickModifier => "mouse_click_modifier"
  | .mouseMove => "mouse_move"
  | .mouseMoveModifier => "mouse_move_modifier"
  | .mouseScroll => "mouse_scroll"
  | .mouseScrollModifier => "mouse_scroll_modifier"

inductive Definition where
  | createEnum (name : EnumName)
  | insertEnum (name : EnumName) (rows : List (Int × List UInt8))
  | createTable (name : TableName)

/-- the rows that the schema gives to an enumeration -/
def EnumName.rows : EnumName → List (Int × List UInt8)
  | .buttonAction => buttonActionTable
  | .deviceType => deviceTypeTable
  | .modifier => modifierTable

def definitions : List Definition := [
  .createEnum .buttonAction, .insertEnum .buttonAction EnumName.buttonAction.rows,
  .createEnum .deviceType, .insertEnum .deviceType EnumName.deviceType.rows,
  .createEnum .modifier, .insertEnum .modifier EnumName.modifier.rows,
  .createTable .key, .createTable .keyModifier,
  .createTable .mouseClick, .createTable .mouseClickModifier,
  .createTable .mouseMove, .createTable .mouseMoveModifier,
  .createTable .mouseScroll, .createTable .mouseScrollModifier]

namespace Schema

def empty : Schema := ⟨fun _ => none, fun _ => none⟩

/-- the tables that the schema creates, with these rows for events -/
def full (rows : Tables) : Schema := ⟨fun name => some name.rows, fun name => some (rows name)⟩

def rows (d : Schema) : Tables := fun name => (d.tables name).getD []

/-- the ids and the texts of an enumeration are unique -/
def runDefinition : Definition → Schema → Except String Schema
  | .createEnum name, d =>
    match d.enums name with
    | some _ => .error ("table " ++ name.text ++ " already exists")
    | none => .ok { d with enums := Function.update d.enums name (some []) }
  | .insertEnum name rows, d =>
    match d.enums name with
    | none => .error ("no such table: " ++ name.text)
    | some old =>
      if ((old ++ rows).map Prod.fst).Nodup ∧ ((old ++ rows).map Prod.snd).Nodup then
        .ok { d with enums := Function.update d.enums name (some (old ++ rows)) }
      else .error "UNIQUE constraint failed"
  | .createTable name, d =>
    match d.tables name with
    | some _ => .error ("table " ++ name.text ++ " already exists")
    | none => .ok { d with tables := Function.update d.tables name (some []) }

/-- the statements one after another, as far as they succeed -/
def runScript : List Definition → Schema → Schema × Option String
  | [], d => (d, none)
  | definition :: definitions, d =>
    match runDefinition definition d with
    | .error what => (d, some what)
    | .ok d => runScript definitions d

/-! ### where the script succeeds -/

/-- no statement takes a table away -/
theorem runDefinition_keeps {definition : Definition} {d d' : Schema}
    (h : runDefinition definition d = .ok d') :
    (∀ name, d'.enums name = none → d.enums name = none) ∧
      ∀ name, d'.tables name = none → d.tables name = none := by
  have hupdate : ∀ {α β : Type} [DecidableEq α] (g : α → Option β) (a : α) (b : β) (x : α),
      Function.update g a (some b) x = none → g x = none := by
    intro α β _ g a b x hx
    by_cases e : x = a
    · rw [e, Function.update_self] at hx
      cases hx
    · rwa [Function.update_of_ne e] at hx
  unfold runDefinition at h
  split at h
  · split at h
    · cases h
    · cases h
      exact ⟨fun name hname => hupdate _ _ _ _ hname, fun _ hname => hname⟩
  · split at h
    · cases h
    · split at h
      · cases h
        exact ⟨fun name hname => hupdate _ _ _ _ hname, fun _ hname => hname⟩
      · cases h
  · split at h
    · cases h
    · cases h
      exact ⟨fun _ hname => hname, fun name hname => hupdate _ _ _ _ hname⟩

def Creates (d : Schema) : Definition → Prop
  | .createEnum name => d.enums name = none
  | .insertEnum _ _ => True
  | .createTable name => d.tables name = none

theorem creates_of_run {definition : Definition} {d d' : Schema}
    (h : runDefinition definition d = .ok d') : Creates d definition := by
  unfold runDefinition at h
  split at h
  · split at h
    · cases h
    · assumption
  · trivial
  · split at h
    · cases h
    · assumption

/-- a script that succeeds creates no table that was there before it -/
theorem creates_of_runScript {script : List Definition} {d : Schema}
    (h : (runScript script d).2 = none) : ∀ definition ∈ script, Creates d definition := by
  induction script generalizing d with
  | nil => exact fun _ hmem => absurd hmem List.not_mem_nil
  | cons first script ih =>
    rw [runScript] at h
    cases hfirst : runDefinition first d with
    | error what =>
      rw [hfirst] at h
      cases h
    | ok d' =>
      rw [hfirst] at h
      obtain ⟨henums, htables⟩ := runDefinition_keeps hfirst
      intro definition hmem
      rcases List.mem_cons.mp hmem with rfl | hmem
      · exact creates_of_run hfirst
      · have hlater := ih h definition hmem
        cases definition with
        | createEnum name => exact henums name hlater
        | insertEnum name rows => exact trivial
        | createTable name => exact htables name hlater

theorem runScript_empty : runScript definitions empty = (full fun _ => [], none) := by
  have henums : ∀ name, (runScript definitions empty).1.enums name = some name.rows := by
    intro name
    cases name <;> rfl
  have htables : ∀ name, (runScript definitions empty).1.tables name = some [] := by
    intro name
    cases name <;> rfl
  have hdata : (runScript definitions empty).1 = full fun _ => [] :=
    congrArg₂ Schema.mk (funext henums) (funext htables)
  exact Prod.ext hdata rfl

/-- **The script succeeds** only where none of its tables exists. -/
theorem runScript_definitions (d : Schema) :
    (runScript definitions d).2 = none ↔ d = empty := by
  constructor
  · intro h
    have hcreates := creates_of_runScript h
    refine congrArg₂ Schema.mk (funext fun name => ?_) (funext fun name => ?_)
    · refine hcreates (.createEnum name) ?_
      cases name <;> simp [definitions]
    · refine hcreates (.createTable name) ?_
      cases name <;> simp [definitions]
  · rintro rfl
    rw [runScript_empty]

end Schema

/-! ## the whole file -/

namespace DatabaseStorage
open Migrate

/-- the one text that the program executes as a migration, as a whole and its first statement -/
def scripts (sql : List UInt8) : Scripts Schema where
  exec text d :=
    if text = sql then
      let (data, err) := Schema.runScript definitions d.data
      ({ d with data := data }, err)
    else (d, some "no text of this program")
  first text d :=
    if text = sql then
      (Schema.runDefinition (.createEnum .buttonAction) d.data).map fun data =>
        ([], { d with data := data })
    else .error "no text of this program"

def runInsertIn (insert : Insert) (bindings : List Value) (d : Content Schema) :
    Except String (List (List Value) × Content Schema) :=
  match d.data.tables insert.table with
  | none => .error ("no such table: " ++ insert.table.text)
  | some _ =>
    (runInsert insert bindings d.data.rows).map fun (rows, tables) =>
      (rows, { d with data := { d.data with
        tables := Function.update d.data.tables insert.table (some (tables insert.table)) } })

def engineIn : Engine Insert (Content Schema) where
  params insert := insert.parameters.length
  run := runInsertIn
  script insert d :=
    match runInsertIn insert [] d with
    | .error what => (d, some what)
    | .ok (_, d) => (d, none)

def answerIn : Exec Call Reply (SQLiteConnection (Content Schema))
  | .connect, c => c.connect
  | .begin, c => c.begin
  | .nextWhile query, c =>
    let (result, query, c) := query.nextWhile engineIn c
    ((result, query), c)
  | .reset query, c =>
    let (result, query, c) := query.reset c
    ((result, query), c)
  | .commit, c => c.commit

/-- the migration of `Init`, whose text the build generates -/
def migration (sql : List UInt8) : Migration :=
  ⟨1, bytes "initialize database tables", sql, true⟩

section
variable (sql : List UInt8) (sha512 : List UInt8 → Vector UInt8 64)

/-- `Init`; both errors get the error type of the storage -/
def init (c : SQLiteConnection (Content Schema)) :
    Result Unit × SQLiteConnection (Content Schema) :=
  match c.connect with
  | (.error e, c) => (.error (storageError e), c)
  | (.ok (), c) =>
    match applyMigrations (scripts sql) sha512 [migration sql] c with
    | (.error e, c) => (.error (storageError e), c)
    | (.ok (), c) => (.ok (), c)

/-- a file that `Init` has set up, with these rows for events -/
def stored (rows : Tables) : Content Schema :=
  ⟨.full rows, some ⟨[.of sha512 (migration sql)], List.pairwise_singleton _ _⟩⟩

def unused : Content Schema := ⟨.empty, none⟩

/-! ### `storeEvent` on a file that is set up -/

theorem stored_maps : Evget.engine.Maps (stored sql sha512) engineIn := by
  refine ⟨fun _ => rfl, fun insert bindings rows => ?_⟩
  show (runInsert insert bindings rows).map _ = (runInsert insert bindings rows).map _
  cases hrun : runInsert insert bindings rows with
  | error what => rfl
  | ok out =>
    obtain ⟨yielded, rows'⟩ := out
    have hadd := runInsert_ok hrun
    have htables : Function.update (fun name => some (rows name)) insert.table
        (some (rows' insert.table)) = fun name => some (rows' name) := by
      funext name
      by_cases e : name = insert.table
      · rw [e, Function.update_self]
      · rw [Function.update_of_ne e, hadd, addRow, Function.update_of_ne e]
    simp only [Except.map]
    rw [show (stored sql sha512 rows).data.tables = fun name => some (rows name) from rfl, htables]
    rfl

/-- **A call on the whole file** is the call on the event tables. -/
theorem storeEvent_stored (uuids : Nat → List UInt8) (events : Data)
    (c : SQLiteConnection Tables) :
    (storeEvent uuids events).run answerIn (c.map (stored sql sha512))
      = (((storeEvent uuids events).run answer c).1,
          ((storeEvent uuids events).run answer c).2.map (stored sql sha512)) := by
  refine Prog.run_map (fun call c => ?_) (storeEvent uuids events) c
  cases call with
  | connect => exact SQLiteConnection.connect_map _ c
  | begin => exact SQLiteConnection.begin_map _ c
  | commit => exact SQLiteConnection.commit_map _ c
  | nextWhile query =>
    exact congrArg (fun out => ((out.1, out.2.1), out.2.2))
      (SQLiteQuery.nextWhile_map (stored_maps sql sha512) query c)
  | reset query =>
    have hreset : query.reset (c.map (stored sql sha512)) = _ := SQLiteQuery.reset_map query c
    exact congrArg (fun out => ((out.1, out.2.1), out.2.2)) hreset

/-! ### what `Init` makes of a file -/

/-- no table of the program is there, and no migration is recorded -/
structure Initial (d : Content Schema) : Prop where
  rows : d.rows = []
  data : d.data = .empty

/-- the first migration that is recorded is that of `Init` -/
def Recorded (d : Content Schema) : Prop :=
  (d.rows.map Row.applied).head? = some (appliedOf sha512 (migration sql))

theorem stored_recorded (rows : Tables) : Recorded sql sha512 (stored sql sha512 rows) := rfl

theorem migrateOne_eq {d : Content Schema} (hrows : d.rows = []) :
    (d.data = .empty → migrateOne (scripts sql) sha512 (migration sql) d.create
        = some (stored sql sha512 fun _ => [])) ∧
      (d.data ≠ .empty → migrateOne (scripts sql) sha512 (migration sql) d.create = none) := by
  have hmigrations : d.create.migrations = some .empty := by
    unfold Content.create
    unfold Content.rows at hrows
    cases hd : d.migrations with
    | none => rfl
    | some table =>
      rw [hd] at hrows
      obtain ⟨rows, sorted⟩ := table
      cases hrows
      rfl
  have hexec : (scripts sql).exec sql d.create
      = ({ d.create with data := (Schema.runScript definitions d.data).1 },
          (Schema.runScript definitions d.data).2) := if_pos rfl
  unfold migrateOne runSql
  rw [if_pos (show (migration sql).exec = true from rfl),
    show (migration sql).sql = sql from rfl, hexec]
  refine ⟨fun hdata => ?_, fun hdata => ?_⟩
  · rw [hdata, Schema.runScript_empty]
    dsimp only [Option.bind_some]
    unfold Content.insert
    dsimp only
    rw [hmigrations]
    rfl
  · have herr := mt (Schema.runScript_definitions d.data).mp hdata
    obtain ⟨what, herr⟩ := Option.ne_none_iff_exists'.mp herr
    rw [herr]
    rfl

/-- **What the migration makes of a file.** -/
theorem migrated_eq_some {d d' : Content Schema} :
    migrated (scripts sql) sha512 [migration sql] d = some d' ↔
      (Initial d ∧ d' = stored sql sha512 fun _ => []) ∨ (Recorded sql sha512 d ∧ d' = d) := by
  have hsort : sortMigrations [migration sql] = [migration sql] := rfl
  unfold migrated Recorded
  rw [hsort]
  cases hrows : d.rows with
  | nil =>
    have hrest : migrateRest (scripts sql) sha512 (([] : List Row).map Row.applied) [migration sql]
        d.create = (migrateOne (scripts sql) sha512 (migration sql) d.create).bind some := rfl
    obtain ⟨hempty, hnot⟩ := migrateOne_eq sql sha512 hrows
    rw [hrest]
    by_cases hdata : d.data = .empty
    · rw [hempty hdata]
      constructor
      · intro h
        exact .inl ⟨⟨hrows, hdata⟩, (Option.some.inj h).symm⟩
      · rintro (⟨-, rfl⟩ | ⟨h, -⟩)
        · rfl
        · cases h
    · rw [hnot hdata]
      constructor
      · intro h
        cases h
      · rintro (⟨hinitial, -⟩ | ⟨h, -⟩)
        · exact absurd hinitial.data hdata
        · cases h
  | cons row rows =>
    have hcreate : d.create = d := by
      unfold Content.create
      unfold Content.rows at hrows
      cases hd : d.migrations with
      | none =>
        rw [hd] at hrows
        cases hrows
      | some table =>
        rw [Option.getD_some, ← hd]
    rw [hcreate, List.map_cons, migrateRest]
    by_cases happlied : row.applied = appliedOf sha512 (migration sql)
    · have hrest : migrateRest (scripts sql) sha512 (rows.map Row.applied) [] d = some d := by
        cases rows.map Row.applied <;> rfl
      rw [if_pos happlied, hrest]
      constructor
      · intro h
        exact .inr ⟨congrArg some happlied, (Option.some.inj h).symm⟩
      · rintro (⟨hinitial, -⟩ | ⟨-, rfl⟩)
        · rw [hinitial.rows] at hrows
          cases hrows
        · rfl
    · rw [if_neg happlied]
      constructor
      · intro h
        cases h
      · rintro (⟨hinitial, -⟩ | ⟨h, -⟩)
        · rw [hinitial.rows] at hrows
          cases hrows
        · exact absurd (Option.some.inj h) happlied

/-- a success has made of the file what the migration makes of it -/
theorem init_ok {c : SQLiteConnection (Content Schema)} (h : (init sql sha512 c).1 = .ok ()) :
    migrated (scripts sql) sha512 [migration sql] c.file.content
        = some (init sql sha512 c).2.file.content ∧
      (init sql sha512 c).2.Closed := by
  unfold init at h ⊢
  have hcon := c.connect_content
  rcases hx : c.connect with ⟨_ | u, c₁⟩
  · rw [hx] at h
    cases h
  · rw [hx] at h hcon
    dsimp only at h hcon ⊢
    have hok : (applyMigrations (scripts sql) sha512 [migration sql] c₁).1 = .ok () → _ :=
      applyMigrations_ok (scripts sql) sha512
    rcases hy : applyMigrations (scripts sql) sha512 [migration sql] c₁ with ⟨_ | u, c₂⟩
    · rw [hy] at h
      cases h
    · rw [hy] at hok
      obtain ⟨hm, hclosed, -⟩ := hok rfl
      rw [hcon] at hm
      exact ⟨hm, hclosed⟩

/-- a failure has changed nothing -/
theorem init_error {c : SQLiteConnection (Content Schema)} {e : Error}
    (h : (init sql sha512 c).1 = .error e) :
    (init sql sha512 c).2.file.content = c.file.content := by
  unfold init at h ⊢
  have hcon := c.connect_content
  rcases hx : c.connect with ⟨_ | u, c₁⟩
  · rw [hx] at hcon
    exact hcon
  · rw [hx] at h hcon
    dsimp only at h hcon ⊢
    have herr : ∀ e, (applyMigrations (scripts sql) sha512 [migration sql] c₁).1 = .error e → _ :=
      fun e => applyMigrations_unchanged (scripts sql) sha512
    rcases hy : applyMigrations (scripts sql) sha512 [migration sql] c₁ with ⟨e | u, c₂⟩
    · rw [hy] at herr
      exact (herr e rfl).trans hcon
    · rw [hy] at h
      cases h

theorem init_quiet {c : SQLiteConnection (Content Schema)} (hq : c.file.Quiet)
    {d : Content Schema}
    (hd : migrated (scripts sql) sha512 [migration sql] c.file.content = some d) :
    (init sql sha512 c).1 = .ok () ∧ (init sql sha512 c).2.file.Quiet ∧
      (init sql sha512 c).2.file.content = d := by
  unfold init
  have hcon := c.connect_content
  obtain ⟨hok, hclosed, hsome, hq₁⟩ := SQLiteConnection.connect_quiet hq
  rcases hx : c.connect with ⟨r, c₁⟩
  rw [hx] at hcon hok hclosed hsome hq₁
  have hr : r = .ok () := hok
  subst hr
  dsimp only at hcon hclosed hsome hq₁ ⊢
  rw [← hcon] at hd
  obtain ⟨happly, hq₂, hd'⟩ := applyMigrations_quiet (scripts sql) sha512 hclosed hsome hq₁ hd
  rcases hy : applyMigrations (scripts sql) sha512 [migration sql] c₁ with ⟨r, c₂⟩
  rw [hy] at happly hq₂ hd'
  have hr : r = .ok () := happly
  subst hr
  exact ⟨rfl, hq₂, hd'⟩

/-- **On which files `Init` succeeds**, when SQLite refuses nothing: where the first recorded
migration is its own, which changes nothing, and where nothing is recorded and none of the tables
exists, which sets the file up; every other file is left as it is. -/
theorem init_quiet_iff {c : SQLiteConnection (Content Schema)} (hq : c.file.Quiet) :
    ((init sql sha512 c).1 = .ok () ↔ Initial c.file.content ∨ Recorded sql sha512 c.file.content) ∧
      (Initial c.file.content →
        (init sql sha512 c).2.file.content = stored sql sha512 fun _ => []) ∧
      (¬ Initial c.file.content → (init sql sha512 c).2.file.content = c.file.content) := by
  refine ⟨⟨fun h => ?_, fun h => ?_⟩, fun hinitial => ?_, fun hnot => ?_⟩
  · rcases (migrated_eq_some sql sha512).mp (init_ok sql sha512 h).1 with ⟨h, -⟩ | ⟨h, -⟩
    · exact .inl h
    · exact .inr h
  · rcases h with h | h
    · exact (init_quiet sql sha512 hq ((migrated_eq_some sql sha512).mpr (.inl ⟨h, rfl⟩))).1
    · exact (init_quiet sql sha512 hq ((migrated_eq_some sql sha512).mpr (.inr ⟨h, rfl⟩))).1
  · exact (init_quiet sql sha512 hq
      ((migrated_eq_some sql sha512).mpr (.inl ⟨hinitial, rfl⟩))).2.2
  · cases h : (init sql sha512 c).1 with
    | error e => exact init_error sql sha512 h
    | ok u =>
      rcases (migrated_eq_some sql sha512).mp (init_ok sql sha512 h).1 with ⟨h, -⟩ | ⟨-, h⟩
      · exact absurd h hnot
      · exact h

end

/-! ### a new file -/

def opened (content : Content Schema) : SQLiteConnection (Content Schema) :=
  ⟨⟨content, [], [], 0⟩, none, none⟩

theorem init_opened : ((init createT.sql (fun _ => createTDigest) (opened unused)).1 = .ok () ↔
      Initial unused ∨ Recorded createT.sql (fun _ => createTDigest) unused) ∧
    (Initial unused → (init createT.sql (fun _ => createTDigest) (opened unused)).2.file.content
      = stored createT.sql (fun _ => createTDigest) fun _ => []) ∧
    (¬ Initial unused →
      (init createT.sql (fun _ => createTDigest) (opened unused)).2.file.content = unused) :=
  init_quiet_iff (c := opened unused) createT.sql (fun _ => createTDigest) rfl

end DatabaseStorage
end Evget
