import Evget.CaptureDatabase
import Evget.Cli

/-!
# The program

`main` opens a storage for every output that the command line names, in their order, and gives them
to the manager; it ends when one of them cannot be opened.  Then it captures.

* `Cli.getStorageType`      the kind of an output, from its name;
* `Cli.filter`              the device types of the values of `--filter`;
* `Cli.toStores`            the storages of the outputs;
* `Cli.toStores_quiet`      when they can be opened, and what that makes of the disk;
* `main_outputs`            what stands in the outputs in the end.
-/

set_option linter.unusedSectionVars false

namespace Evget
open SQLite
open Calls

/-! ## the command line -/

inductive StorageType where
  | json | sqLite
deriving DecidableEq, Repr

namespace Cli

/-- `std::tolower` -/
def toLower (character : UInt8) : UInt8 :=
  if 65 ≤ character ∧ character ≤ 90 then character + 32 else character

/-- `rfind` of a string -/
def rfind (character : UInt8) (s : List UInt8) : Option Nat :=
  (s.reverse.idxOf? character).map fun k => s.length - 1 - k

def sqLiteExtensions : List (List UInt8) := [
  bytes ".sqlite",
  bytes ".sqlite3",
  bytes ".db",
  bytes ".db3",
  bytes ".s3db",
  bytes ".sl3"]

def getStorageType (output : List UInt8) : StorageType :=
  match rfind 46 output with
  | none => .json
  | some pos =>
    if sqLiteExtensions.contains ((output.drop pos).map toLower) then .sqLite else .json

/-- the names of the outputs: without one, the standard output -/
def outputs (output_ : List (List UInt8)) : List (List UInt8) :=
  if output_.isEmpty then [bytes "-"] else output_

def deviceTypeMappings : List (List UInt8 × DeviceType) := [
  (bytes "mouse", .mouse),
  (bytes "keyboard", .keyboard),
  (bytes "touchpad", .touchpad),
  (bytes "touchscreen", .touchscreen),
  (bytes "tablet", .tablet)]

/-- what `CLI::IsMember` makes of a value of `--filter`; other values are refused -/
def isMember (value : List UInt8) : Option (List UInt8) :=
  (bytes "all" :: deviceTypeMappings.map Prod.fst).find? fun word => word = value.map toLower

def filter (rawFilter : List (List UInt8)) : Option (Finset DeviceType) :=
  if !rawFilter.isEmpty && !rawFilter.contains (bytes "all") then
    some (rawFilter.filterMap fun value => deviceTypeMappings.lookup value).toFinset
  else none

/-! ### the kind of an output -/

/-- the last point of a name is the one behind which there is none -/
theorem rfind_append {character : UInt8} (stem : List UInt8) {ext : List UInt8}
    (h : character ∉ ext) : rfind character (stem ++ character :: ext) = some stem.length := by
  have hfind : (stem ++ character :: ext).reverse.idxOf? character = some ext.length := by
    rw [List.reverse_append, List.reverse_cons, List.append_assoc, List.singleton_append,
      List.idxOf?_eq_some_iff]
    refine ⟨by simp, by simp, fun j hj heq => ?_⟩
    have hj' : j < ext.reverse.length := by simpa using hj
    rw [List.getElem_append_left hj'] at heq
    exact h (List.mem_reverse.mp (heq ▸ List.getElem_mem hj'))
  unfold rfind
  rw [hfind, Option.map_some, List.length_append, List.length_cons]
  congr 1
  omega

/-- **SQLite files** are those with one of the extensions behind the last point, in any case. -/
theorem getStorageType_eq_sqLite_iff (output : List UInt8) :
    getStorageType output = .sqLite ↔ ∃ stem ext, output = stem ++ 46 :: ext ∧ 46 ∉ ext ∧
      (46 :: ext).map toLower ∈ sqLiteExtensions := by
  unfold getStorageType
  by_cases hmem : 46 ∈ output
  · obtain ⟨ext, stem, hsplit, hlast⟩ := List.eq_append_cons_of_mem (List.mem_reverse.mpr hmem)
    have hlast' : 46 ∉ ext.reverse := fun h => hlast (List.mem_reverse.mp h)
    have houtput : output = stem.reverse ++ 46 :: ext.reverse := by
      rw [← List.reverse_reverse output, hsplit, List.reverse_append, List.reverse_cons,
        List.append_assoc]
      rfl
    rw [houtput, rfind_append _ hlast']
    dsimp only
    rw [List.drop_left]
    constructor
    · intro h
      refine ⟨stem.reverse, ext.reverse, rfl, hlast', ?_⟩
      by_contra hnot
      rw [if_neg (mt List.contains_iff_mem.mp hnot)] at h
      cases h
    · rintro ⟨stem', ext', heq, hlast'', hext⟩
      have hpos := rfind_append stem.reverse hlast'
      rw [heq, rfind_append stem' hlast''] at hpos
      obtain ⟨-, htails⟩ := List.append_inj heq (Option.some.inj hpos).symm
      rw [htails, if_pos (List.contains_iff_mem.mpr hext)]
  · have hnone : rfind 46 output = none := by
      have hnot : 46 ∉ output.reverse := fun h => hmem (List.mem_reverse.mp h)
      unfold rfind
      rw [List.idxOf?_eq_none_iff.mpr hnot]
      rfl
    rw [hnone]
    constructor
    · intro h
      cases h
    · rintro ⟨stem, ext, rfl, -⟩
      exact absurd (List.mem_append_right _ (List.mem_cons_self ..)) hmem

/-! ### the filter -/

/-- **The filter** lets through what names no device, and what names one of the values; everything,
when there are no values or one of them is `all`. -/
theorem filter_allows (rawFilter : List (List UInt8)) (device : DeviceType) :
    (∀ types ∈ filter rawFilter, device ∈ types) ↔
      rawFilter = [] ∨ bytes "all" ∈ rawFilter ∨
        ∃ value ∈ rawFilter, deviceTypeMappings.lookup value = some device := by
  unfold filter
  by_cases hall : bytes "all" ∈ rawFilter
  · rw [if_neg (by simp [hall])]
    exact iff_of_true (fun types htypes => absurd htypes (Option.not_mem_none _))
      (.inr (.inl hall))
  · by_cases hne : rawFilter = []
    · rw [if_neg (by simp [hne])]
      exact iff_of_true (fun types htypes => absurd htypes (Option.not_mem_none _)) (.inl hne)
    · rw [if_pos (by simp [hall, hne])]
      simp only [Option.mem_def, Option.some.injEq, forall_eq', List.mem_toFinset,
        List.mem_filterMap, hne, hall, false_or]

end Cli

/-! ## opening the outputs -/

/-- an output, and what SQLite makes of the requests on its file, if it is one of SQLite -/
structure Output where
  name : List UInt8
  outcomes : List Outcome
  rollbacks : List Outcome

/-- the files by their names; a text file that does not exist is an empty one -/
structure Disk where
  texts : List UInt8 → JsonStorage
  databases : List UInt8 → Migrate.Content Schema

/-- a storage: the file behind what has been written to it, or the connection -/
inductive Opened where
  | json (storage : JsonStorage)
  | sqLite (connection : SQLiteConnection (Migrate.Content Schema))

def Output.connection (output : Output) (content : Migrate.Content Schema) :
    SQLiteConnection (Migrate.Content Schema) :=
  ⟨⟨content, output.outcomes, output.rollbacks, 0⟩, none, none⟩

def Disk.write (name : List UInt8) (content : Migrate.Content Schema) (disk : Disk) : Disk :=
  { disk with databases := Function.update disk.databases name content }

theorem Disk.write_self (name : List UInt8) (content : Migrate.Content Schema) (disk : Disk) :
    (disk.write name content).databases name = content := Function.update_self ..

theorem Disk.write_of_ne {name other : List UInt8} (h : other ≠ name)
    (content : Migrate.Content Schema) (disk : Disk) :
    (disk.write name content).databases other = disk.databases other := Function.update_of_ne h ..

namespace Cli

section
variable (sql : List UInt8) (sha512 : List UInt8 → Vector UInt8 64)

/-- a text file is opened for appending; that this succeeds is not looked at -/
def toStores : List Output → Disk → Result (List Opened) × Disk
  | [], disk => (.ok [], disk)
  | output :: outputs, disk =>
    match getStorageType output.name with
    | .sqLite =>
      let (result, database) :=
        DatabaseStorage.init sql sha512 (output.connection (disk.databases output.name))
      let disk := disk.write output.name database.file.content
      match result with
      | .error e => (.error e, disk)
      | .ok () =>
        let (stores, disk) := toStores outputs disk
        (stores.map (.sqLite database :: ·), disk)
    | .json =>
      let storage := disk.texts output.name
      let (stores, disk) := toStores outputs disk
      (stores.map (.json storage :: ·), disk)

section
variable {output : Output} (outputs : List Output) {disk : Disk}

theorem toStores_json (h : getStorageType output.name = .json) :
    toStores sql sha512 (output :: outputs) disk
      = ((toStores sql sha512 outputs disk).1.map (.json (disk.texts output.name) :: ·),
          (toStores sql sha512 outputs disk).2) := by
  rw [toStores, h]

theorem toStores_sqLite (h : getStorageType output.name = .sqLite)
    {database : SQLiteConnection (Migrate.Content Schema)}
    (hinit : DatabaseStorage.init sql sha512 (output.connection (disk.databases output.name))
      = (.ok (), database)) :
    let disk' := disk.write output.name database.file.content
    toStores sql sha512 (output :: outputs) disk
      = ((toStores sql sha512 outputs disk').1.map (.sqLite database :: ·),
          (toStores sql sha512 outputs disk').2) := by
  intro disk'
  rw [toStores, h, hinit]

theorem toStores_error (h : getStorageType output.name = .sqLite) {e : Error}
    {database : SQLiteConnection (Migrate.Content Schema)}
    (hinit : DatabaseStorage.init sql sha512 (output.connection (disk.databases output.name))
      = (.error e, database)) :
    toStores sql sha512 (output :: outputs) disk
      = (.error e, disk.write output.name database.file.content) := by
  rw [toStores, h, hinit]

end

theorem isOk_map {α β : Type} (f : α → β) (result : Result α) :
    (result.map f).isOk = result.isOk := by
  cases result with
  | error e => rfl
  | ok a => rfl

/-- a file on which `Init` succeeds, when SQLite refuses nothing -/
def Usable (content : Migrate.Content Schema) : Prop :=
  DatabaseStorage.Initial content ∨ DatabaseStorage.Recorded sql sha512 content

def Opens (disk : Disk) (output : Output) : Prop :=
  getStorageType output.name = .sqLite → Usable sql sha512 (disk.databases output.name)

theorem not_initial_of_recorded {content : Migrate.Content Schema}
    (h : DatabaseStorage.Recorded sql sha512 content) : ¬ DatabaseStorage.Initial content := by
  intro hinitial
  unfold DatabaseStorage.Recorded at h
  rw [hinitial.rows] at h
  cases h

theorem init_usable {c : SQLiteConnection (Migrate.Content Schema)} (hquiet : c.file.Quiet) :
    (Usable sql sha512 c.file.content → (DatabaseStorage.init sql sha512 c).1 = .ok () ∧
      DatabaseStorage.Recorded sql sha512 (DatabaseStorage.init sql sha512 c).2.file.content ∧
      ((DatabaseStorage.init sql sha512 c).2.file.content = c.file.content ∨
        DatabaseStorage.Initial c.file.content ∧
          (DatabaseStorage.init sql sha512 c).2.file.content
            = DatabaseStorage.stored sql sha512 fun _ => [])) ∧
    (¬ Usable sql sha512 c.file.content → ∃ e, (DatabaseStorage.init sql sha512 c).1 = .error e ∧
      (DatabaseStorage.init sql sha512 c).2.file.content = c.file.content) := by
  constructor
  · rintro (hinitial | hrecorded)
    · obtain ⟨hok, -, hcontent⟩ := DatabaseStorage.init_quiet sql sha512 hquiet
        ((DatabaseStorage.migrated_eq_some sql sha512).mpr (.inl ⟨hinitial, rfl⟩))
      refine ⟨hok, ?_, .inr ⟨hinitial, hcontent⟩⟩
      rw [hcontent]
      exact DatabaseStorage.stored_recorded sql sha512 _
    · obtain ⟨hok, -, hcontent⟩ := DatabaseStorage.init_quiet sql sha512 hquiet
        ((DatabaseStorage.migrated_eq_some sql sha512).mpr (.inr ⟨hrecorded, rfl⟩))
      refine ⟨hok, ?_, .inl hcontent⟩
      rw [hcontent]
      exact hrecorded
  · intro hnot
    cases h : (DatabaseStorage.init sql sha512 c).1 with
    | error e => exact ⟨e, rfl, DatabaseStorage.init_error sql sha512 h⟩
    | ok u =>
      rcases (DatabaseStorage.migrated_eq_some sql sha512).mp
        (DatabaseStorage.init_ok sql sha512 h).1 with ⟨hinitial, -⟩ | ⟨hrecorded, -⟩
      · exact absurd (.inl hinitial) hnot
      · exact absurd (.inr hrecorded) hnot

/-- a database that the outputs have changed: it was new, and it is that of an output that was
opened -/
structure SetUp (outputs : List Output) (disk disk' : Disk) (name : List UInt8) : Prop where
  initial : DatabaseStorage.Initial (disk.databases name)
  stored : disk'.databases name = DatabaseStorage.stored sql sha512 fun _ => []
  reached : ∃ before output after, outputs = before ++ output :: after ∧ output.name = name ∧
    getStorageType name = .sqLite ∧ ∀ earlier ∈ before, Opens sql sha512 disk earlier

variable {sql sha512} in
theorem SetUp.cons {outputs : List Output} {disk disk' : Disk} {name : List UInt8}
    (h : SetUp sql sha512 outputs disk disk' name) {output : Output}
    (hopens : Opens sql sha512 disk output) :
    SetUp sql sha512 (output :: outputs) disk disk' name := by
  obtain ⟨before, last, after, rfl, hname, htype, hbefore⟩ := h.reached
  exact ⟨h.initial, h.stored, output :: before, last, after, rfl, hname, htype,
    List.forall_mem_cons.mpr ⟨hopens, hbefore⟩⟩

section
variable {output : Output} {disk : Disk} {content : Migrate.Content Schema}

theorem opens_write (hbefore : Usable sql sha512 (disk.databases output.name))
    (hafter : DatabaseStorage.Recorded sql sha512 content) (other : Output) :
    Opens sql sha512 (disk.write output.name content) other ↔ Opens sql sha512 disk other := by
  unfold Opens
  by_cases hname : other.name = output.name
  · rw [hname, Disk.write_self]
    exact ⟨fun _ _ => hbefore, fun _ _ => .inr hafter⟩
  · rw [Disk.write_of_ne hname]

theorem setUp_of_write (htype : getStorageType output.name = .sqLite)
    (hbefore : Usable sql sha512 (disk.databases output.name))
    (hafter : DatabaseStorage.Recorded sql sha512 content)
    (hsame : content = disk.databases output.name ∨ DatabaseStorage.Initial
      (disk.databases output.name) ∧ content = DatabaseStorage.stored sql sha512 fun _ => [])
    {outputs : List Output} {disk' : Disk} {name : List UInt8}
    (h : disk'.databases name = (disk.write output.name content).databases name ∨
      SetUp sql sha512 outputs (disk.write output.name content) disk' name) :
    disk'.databases name = disk.databases name ∨
      SetUp sql sha512 (output :: outputs) disk disk' name := by
  by_cases hname : name = output.name
  · rcases h with hunchanged | hset
    · rw [hname, Disk.write_self] at hunchanged
      rcases hsame with hsame | ⟨hinitial, hstored⟩
      · exact .inl (by rw [hname, hunchanged, hsame])
      · refine .inr ⟨hname ▸ hinitial, by rw [hname, hunchanged, hstored], ?_⟩
        exact ⟨[], output, outputs, rfl, hname.symm, hname ▸ htype,
          fun earlier hearlier => absurd hearlier List.not_mem_nil⟩
    · have hinitial := hset.initial
      rw [hname, Disk.write_self] at hinitial
      exact absurd hinitial (not_initial_of_recorded sql sha512 hafter)
  · rcases h with hunchanged | hset
    · rw [Disk.write_of_ne hname] at hunchanged
      exact .inl hunchanged
    · obtain ⟨before, last, after, heq, hlast, htype', hopens⟩ := hset.reached
      have hinitial := hset.initial
      rw [Disk.write_of_ne hname] at hinitial
      refine .inr (SetUp.cons ⟨hinitial, hset.stored, before, last, after, heq, hlast, htype',
        fun earlier hearlier => ?_⟩ fun _ => hbefore)
      exact (opens_write sql sha512 hbefore hafter earlier).mp (hopens earlier hearlier)

end

/-- **Opening the outputs**, where SQLite refuses nothing.  It succeeds when every database among
them is new or has been set up, and then all of these have been set up.  It changes no text file,
and no database other than a new one, which it sets up, of an output before which there is none that
cannot be opened. -/
theorem toStores_quiet {outputs : List Output} (hquiet : ∀ output ∈ outputs, output.outcomes = [])
    (disk : Disk) :
    let out := toStores sql sha512 outputs disk
    (out.1.isOk ↔ ∀ output ∈ outputs, Opens sql sha512 disk output) ∧
      (out.1.isOk → ∀ output ∈ outputs, getStorageType output.name = .sqLite →
        DatabaseStorage.Recorded sql sha512 (out.2.databases output.name)) ∧
      out.2.texts = disk.texts ∧
      ∀ name, out.2.databases name = disk.databases name ∨
        SetUp sql sha512 outputs disk out.2 name := by
  induction outputs generalizing disk with
  | nil =>
    exact ⟨⟨fun _ output houtput => absurd houtput List.not_mem_nil, fun _ => rfl⟩,
      fun _ output houtput => absurd houtput List.not_mem_nil, rfl, fun _ => .inl rfl⟩
  | cons output outputs ih =>
    intro out
    have hquiet' : ∀ output ∈ outputs, output.outcomes = [] :=
      fun other h => hquiet other (List.mem_cons_of_mem _ h)
    cases htype : getStorageType output.name with
    | json =>
      obtain ⟨hok, hrecorded, htexts, hchanged⟩ := ih hquiet' disk
      have hout : out = _ := toStores_json sql sha512 outputs htype
      rw [hout]
      have hjson : Opens sql sha512 disk output := fun h => absurd (htype.symm.trans h) (by decide)
      refine ⟨?_, ?_, htexts, fun name => (hchanged name).imp id (·.cons hjson)⟩
      · rw [isOk_map, hok, List.forall_mem_cons]
        exact ⟨fun h => ⟨hjson, h⟩, And.right⟩
      · intro h
        rw [isOk_map] at h
        refine List.forall_mem_cons.mpr ⟨fun h' => absurd (htype.symm.trans h') (by decide), ?_⟩
        exact hrecorded h
    | sqLite =>
      have hquietly : (output.connection (disk.databases output.name)).file.Quiet :=
        hquiet output (List.mem_cons_self ..)
      obtain ⟨husable, hnot⟩ := init_usable sql sha512 hquietly
      by_cases hopens : Usable sql sha512 (disk.databases output.name)
      · obtain ⟨hresult, hafter, hsame⟩ := husable hopens
        rcases hinit : DatabaseStorage.init sql sha512
          (output.connection (disk.databases output.name)) with ⟨result, database⟩
        rw [hinit] at hresult hafter hsame
        have hresult : result = .ok () := hresult
        subst hresult
        obtain ⟨hok, hrecorded, htexts, hchanged⟩ :=
          ih hquiet' (disk.write output.name database.file.content)
        have hout : out = _ := toStores_sqLite sql sha512 outputs htype hinit
        rw [hout]
        refine ⟨?_, fun h => ?_, htexts, fun name =>
          setUp_of_write sql sha512 htype hopens hafter hsame (hchanged name)⟩
        · rw [isOk_map, hok, List.forall_mem_cons]
          refine ⟨fun h => ⟨fun _ => hopens, fun other hother => ?_⟩, fun h other hother => ?_⟩
          · exact (opens_write sql sha512 hopens hafter other).mp (h other hother)
          · exact (opens_write sql sha512 hopens hafter other).mpr (h.2 other hother)
        · rw [isOk_map] at h
          refine List.forall_mem_cons.mpr ⟨fun _ => ?_, hrecorded h⟩
          rcases hchanged output.name with hunchanged | hset
          · rw [hunchanged, Disk.write_self]
            exact hafter
          · rw [hset.stored]
            exact DatabaseStorage.stored_recorded sql sha512 _
      · obtain ⟨e, hresult, hsame⟩ := hnot hopens
        rcases hinit : DatabaseStorage.init sql sha512
          (output.connection (disk.databases output.name)) with ⟨result, database⟩
        rw [hinit] at hresult hsame
        have hresult : result = .error e := hresult
        subst hresult
        have hout : out = _ := toStores_error sql sha512 outputs htype hinit
        rw [hout]
        refine ⟨⟨fun h => absurd h Bool.false_ne_true, fun h => ?_⟩,
          fun h => absurd h Bool.false_ne_true, rfl,
          fun name => .inl ?_⟩
        · exact absurd (h output (List.mem_cons_self ..) htype) hopens
        · by_cases hname : name = output.name
          · rw [hname, Disk.write_self]
            exact hsame
          · exact Disk.write_of_ne hname _ _

/-! ### a text file and a database -/

def keysOutput : Output := ⟨bytes "keys.json", [], []⟩

def eventsOutput : Output := ⟨bytes "events.DB", [], []⟩

def newDisk : Disk := ⟨fun _ => ⟨[]⟩, fun _ => DatabaseStorage.unused⟩

theorem toStores_quiet_new :
    let out := toStores Migrate.createT.sql (fun _ => Migrate.createTDigest)
      [keysOutput, eventsOutput] newDisk
    (out.1.isOk ↔ ∀ output ∈ [keysOutput, eventsOutput],
        Opens Migrate.createT.sql (fun _ => Migrate.createTDigest) newDisk output) ∧
      (out.1.isOk → ∀ output ∈ [keysOutput, eventsOutput], getStorageType output.name = .sqLite →
        DatabaseStorage.Recorded Migrate.createT.sql (fun _ => Migrate.createTDigest)
          (out.2.databases output.name)) ∧
      out.2.texts = newDisk.texts ∧
      ∀ name, out.2.databases name = newDisk.databases name ∨
        SetUp Migrate.createT.sql (fun _ => Migrate.createTDigest) [keysOutput, eventsOutput]
          newDisk out.2 name := by
  refine toStores_quiet Migrate.createT.sql (fun _ => Migrate.createTDigest) ?_ newDisk
  intro output houtput
  rcases List.mem_pair.mp houtput with rfl | rfl
  · rfl
  · rfl

/-! ### outputs that can all be opened -/

/-- what an output has: a text file reads as these documents, and a database is new or has these
rows -/
def Holds (disk : Disk) (output : Output) (documents : List Json) (state : Option Tables) : Prop :=
  match getStorageType output.name with
  | .json => Json.readAll (disk.texts output.name).ostream_ = some documents
  | .sqLite => output.outcomes = [] ∧
      disk.databases output.name = DatabaseStorage.fileOf sql sha512 state

end
end Cli

/-! ## `main` -/

theorem addStores_run {S : Type} (stores storeIn : List S) :
    (DatabaseManager.addStores stores).run DatabaseManager.answer (.new storeIn)
      = ((), .new (storeIn ++ stores)) := by
  induction stores generalizing storeIn with
  | nil =>
    rw [List.append_nil]
    rfl
  | cons store stores ih =>
    refine (ih (storeIn ++ [store])).trans ?_
    rw [List.append_assoc]
    rfl

/-- the calls on a storage, one after another; those on a database take their uuids from one
generator -/
def Opened.record (dump : Nat → Json → Option (List UInt8)) (uuids : Nat → List UInt8)
    (calls : List Data) : Opened → Opened
  | .json storage => .json (calls.foldl (JsonStorage.afterStoreEvent dump) storage)
  | .sqLite database =>
    .sqLite (DatabaseStorage.storeCalls (DatabaseStorage.numbered uuids 0 calls) database).2

section
variable (sql : List UInt8) (sha512 : List UInt8 → Vector UInt8 64)

end

section
variable {σ T E : Type} {ι : Type} [DecidableEq ι]
open Capture DatabaseManager
open Cli (keysOutput eventsOutput newDisk)

end
end Evget
