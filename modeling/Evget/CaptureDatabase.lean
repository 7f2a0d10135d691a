import Evget.CaptureFile
import Evget.Storage.Sessions

/-!
# The database of a capture

What stands in the end in a database to which events are captured.  All calls of a run take their
uuids from one generator.

* `numbered`            calls with the uuids of one generator;
* `NewUuids`            what they rely on of the generator;
* `callRows_numbered`   the calls together have the rows of one batch;
* `run_database`        the database has the rows of what should be stored, behind its earlier ones.
-/

namespace Evget
open SQLite
open Calls

namespace DatabaseStorage
open Migrate

/-! ## calls with one generator -/

def uuidsTaken (entries : List Entry) : Nat :=
  (entries.map fun entry => if entry.data.isEmpty then 0 else 1 + entry.modifiers.length).sum

/-- the calls of a run, when `n` uuids have been taken before -/
def numbered (uuids : Nat → List UInt8) : Nat → List Data → List ((Nat → List UInt8) × Data)
  | _, [] => []
  | n, events :: data =>
    (fun k => uuids (n + k), events) :: numbered uuids (n + uuidsTaken events.entries) data

section
variable (uuids : Nat → List UInt8)

variable {uuids} in
theorem mem_numbered {n : Nat} {data : List Data} {call : (Nat → List UInt8) × Data}
    (h : call ∈ numbered uuids n data) : call.2 ∈ data := by
  induction data generalizing n with
  | nil => exact absurd h List.not_mem_nil
  | cons events data ih =>
    rcases List.mem_cons.mp h with rfl | h
    · exact List.mem_cons_self ..
    · exact List.mem_cons_of_mem _ (ih h)

theorem uuidsTaken_cons (entry : Entry) (entries : List Entry) :
    uuidsTaken (entry :: entries)
      = (if entry.data.isEmpty then 0 else 1 + entry.modifiers.length) + uuidsTaken entries :=
  List.sum_cons

theorem namedRows_add (n m : Nat) (entries : List Entry) :
    namedRows (fun k => uuids (n + k)) m entries = namedRows uuids (n + m) entries := by
  induction entries generalizing m with
  | nil => rfl
  | cons entry entries ih =>
    unfold namedRows
    by_cases h : entry.data.isEmpty
    · rw [if_pos h, if_pos h, ih]
    · rw [if_neg h, if_neg h, ih]
      have hmodifiers : namedModifierRows entry (fun k => uuids (n + k)) m
          = namedModifierRows entry uuids (n + m) := by
        unfold namedModifierRows
        simp only [Nat.add_assoc]
      rw [hmodifiers, Nat.add_assoc n, Nat.add_assoc n]

theorem namedRows_entries (n : Nat) (first entries : List Entry) :
    namedRows uuids n (first ++ entries)
      = namedRows uuids n first ++ namedRows uuids (n + uuidsTaken first) entries := by
  induction first generalizing n with
  | nil => rfl
  | cons entry first ih =>
    rw [List.cons_append, uuidsTaken_cons, namedRows, namedRows]
    by_cases h : entry.data.isEmpty
    · rw [if_pos h, if_pos h, if_pos h, ih, Nat.zero_add]
    · rw [if_neg h, if_neg h, if_neg h, ih, List.append_assoc, ← Nat.add_assoc, ← Nat.add_assoc]

/-- **The calls together** have the rows of one batch of all their entries. -/
theorem callRows_numbered (n : Nat) (data : List Data) :
    callRows (numbered uuids n data) = namedRows uuids n (data.flatMap Data.entries) := by
  induction data generalizing n with
  | nil => rfl
  | cons events data ih =>
    show namedRows (fun k => uuids (n + k)) 0 events.entries ++ callRows _ = _
    rw [ih, namedRows_add, List.flatMap_cons, namedRows_entries]
    rfl

end

/-! ## new uuids -/

/-- the uuids differ, and neither the tables nor the texts of the entries have one of them -/
structure NewUuids (uuids : Nat → List UInt8) (entries : List Entry) (d : Tables) : Prop where
  fresh : FreshUuids uuids d
  texts : ∀ entry ∈ entries, ∀ s ∈ entry.data ++ entry.modifiers, ∀ k, chars s ≠ chars (uuids k)

theorem mem_addRows {rows : List (TableName × List Value)} {d : Tables} {t : TableName}
    {row : List Value} (h : row ∈ addRows rows d t) : row ∈ d t ∨ ∃ r ∈ rows, row = r.2 := by
  induction rows generalizing d with
  | nil => exact .inl h
  | cons r rows ih =>
    rcases ih h with h | ⟨r', hr', rfl⟩
    · rcases mem_addRow h with h | rfl
      · exact .inl h
      · exact .inr ⟨r, List.mem_cons_self .., rfl⟩
    · exact .inr ⟨r', List.mem_cons_of_mem _ hr', rfl⟩

theorem namedRow_eq {entry : Entry} (h : entry.Built) (uuid : List UInt8) :
    namedRow entry uuid = chars uuid :: entry.data.map chars := by
  have hwidth : (chars uuid :: entry.data.map chars).length
      = (tableOf entry.type).columns.length := by
    rw [List.length_cons, List.length_map, h.length_data]
    cases entry.type <;> rfl
  rw [← rowOf_entry h.length_data, rowOf_eq hwidth]

def ValueOf (uuids : Nat → List UInt8) (count : Nat) (entries : List Entry) (v : Value) : Prop :=
  (∃ k < count, v = chars (uuids k)) ∨
    ∃ entry ∈ entries, ∃ s ∈ entry.data ++ entry.modifiers, v = chars s

theorem namedRows_values (uuids : Nat → List UInt8) {entries : List Entry}
    (hbuilt : ∀ entry ∈ entries, entry.Built) (n : Nat) :
    ∀ row ∈ namedRows uuids n entries, ∀ v ∈ row.2,
      ValueOf uuids (n + uuidsTaken entries) entries v := by
  induction entries generalizing n with
  | nil => exact fun row hrow => absurd hrow List.not_mem_nil
  | cons entry entries ih =>
    intro row hrow v hv
    rw [namedRows] at hrow
    rw [uuidsTaken_cons]
    by_cases h : entry.data.isEmpty
    · rw [if_pos h] at hrow
      rw [if_pos h, Nat.zero_add]
      rcases ih (fun other h => hbuilt other (List.mem_cons_of_mem _ h)) n row hrow v hv with
        hk | ⟨other, hother, hs⟩
      · exact .inl hk
      · exact .inr ⟨other, List.mem_cons_of_mem _ hother, hs⟩
    · rw [if_neg h] at hrow
      rw [if_neg h]
      rcases List.mem_append.mp hrow with hown | hlater
      · rcases List.mem_cons.mp hown with rfl | hmodifier
        · rw [namedRow_eq (hbuilt entry (List.mem_cons_self ..))] at hv
          rcases List.mem_cons.mp hv with rfl | hdata
          · exact .inl ⟨n, by omega, rfl⟩
          · obtain ⟨s, hs, rfl⟩ := List.mem_map.mp hdata
            exact .inr ⟨entry, List.mem_cons_self .., s, List.mem_append_left _ hs, rfl⟩
        · obtain ⟨⟨modifier, k⟩, hzip, rfl⟩ := List.mem_map.mp hmodifier
          obtain ⟨hk, hget⟩ := List.mem_zipIdx' hzip
          rcases List.mem_cons.mp hv with rfl | hv
          · exact .inl ⟨n + 1 + k, by omega, rfl⟩
          rcases List.mem_cons.mp hv with rfl | hv
          · exact .inl ⟨n, by omega, rfl⟩
          · obtain rfl := List.mem_singleton.mp hv
            refine .inr ⟨entry, List.mem_cons_self .., modifier, List.mem_append_right _ ?_, rfl⟩
            rw [hget]
            exact List.getElem_mem hk
      · rcases ih (fun other h => hbuilt other (List.mem_cons_of_mem _ h)) _ row hlater v hv with
          ⟨k, hk, rfl⟩ | ⟨other, hother, hs⟩
        · exact .inl ⟨k, by omega, rfl⟩
        · exact .inr ⟨other, List.mem_cons_of_mem _ hother, hs⟩

theorem NewUuids.next {uuids : Nat → List UInt8} {n : Nat} {first entries : List Entry} {d : Tables}
    (hbuilt : ∀ entry ∈ first, entry.Built)
    (h : NewUuids (fun k => uuids (n + k)) (first ++ entries) d) :
    NewUuids (fun k => uuids (n + uuidsTaken first + k)) entries
      (addRows (namedRows uuids n first) d) := by
  refine ⟨⟨fun i j hij => ?_, fun t row hrow k hk => ?_⟩, fun entry hentry s hs k => ?_⟩
  · have heq := h.fresh.distinct (uuidsTaken first + i) (uuidsTaken first + j)
      (by simpa only [Nat.add_assoc] using hij)
    omega
  · rcases mem_addRows hrow with hold | ⟨r, hr, rfl⟩
    · refine h.fresh.unused t row hold (uuidsTaken first + k) ?_
      rw [← Nat.add_assoc]
      exact hk
    · rw [← Nat.add_zero n, ← namedRows_add] at hr
      rcases namedRows_values (fun k => uuids (n + k)) hbuilt 0 r hr _ hk with
        ⟨i, hi, hsame⟩ | ⟨entry, hentry, s, hs, hsame⟩
      · have heq := h.fresh.distinct (uuidsTaken first + k) i
          (by simpa only [Nat.add_assoc] using hsame)
        omega
      · refine h.texts entry (List.mem_append_left _ hentry) s hs (uuidsTaken first + k) ?_
        rw [← Nat.add_assoc]
        exact hsame.symm
  · have hne := h.texts entry (List.mem_append_right _ hentry) s hs (uuidsTaken first + k)
    rw [← Nat.add_assoc] at hne
    exact hne

/-- **One generator** has new uuids for every call. -/
theorem freshCalls_numbered {uuids : Nat → List UInt8} {n : Nat} {data : List Data} {d : Tables}
    (hbuilt : ∀ entry ∈ data.flatMap Data.entries, entry.Built)
    (h : NewUuids (fun k => uuids (n + k)) (data.flatMap Data.entries) d) :
    FreshCalls (numbered uuids n data) d := by
  induction data generalizing n d with
  | nil => trivial
  | cons events data ih =>
    rw [List.flatMap_cons] at hbuilt h
    have hfirst : ∀ entry ∈ events.entries, entry.Built :=
      fun entry hentry => hbuilt entry (List.mem_append_left _ hentry)
    refine ⟨h.fresh, ih (fun entry hentry => hbuilt entry (List.mem_append_right _ hentry)) ?_⟩
    rw [namedRows_add, Nat.add_zero]
    exact h.next hfirst

theorem numbered_complete (sql : List UInt8) (sha512 : List UInt8 → Vector UInt8 64)
    (uuids : Nat → List UInt8) (rollbacks : List Outcome) {data : List Data} (state : Option Tables)
    (hbuilt : ∀ entry ∈ data.flatMap Data.entries, entry.Built)
    (hnew : NewUuids uuids (data.flatMap Data.entries) (state.getD fun _ => [])) :
    let session : Session := ⟨[], rollbacks, numbered uuids 0 data⟩
    session.run sql sha512 (fileOf sql sha512 state)
      = (session.success, stored sql sha512
          (addRows (namedRows uuids 0 (data.flatMap Data.entries)) (state.getD fun _ => []))) := by
  intro session
  have hfresh : FreshCalls session.calls (state.getD fun _ => []) := by
    refine freshCalls_numbered hbuilt ?_
    simpa only [Nat.zero_add] using hnew
  have hcalls : ∀ call ∈ session.calls, BuiltCall call := by
    intro call hcall entry hentry
    exact .inl (hbuilt entry (List.mem_flatMap.mpr ⟨call.2, mem_numbered hcall, hentry⟩))
  have hquiet : session.outcomes = [] := rfl
  have hrun := Session.run_complete sql sha512 hquiet hcalls state hfresh
  rw [hrun, callRows_numbered]
  rfl

end DatabaseStorage

namespace Capture
open DatabaseManager

/-! ## the database -/

section
variable {S σ T E : Type} [DecidableEq S] {ι : Type} [DecidableEq ι]

def callsOf (m : State S) (store : S) : List Data :=
  (m.passed.filter fun pass => pass.call.store = store).map fun pass => pass.call.data

theorem callsOf_entries (m : State S) (store : S) :
    (callsOf m store).flatMap Data.entries = m.received store := List.flatMap_map ..

def Builds (backend : Backend σ T E) : Prop :=
  ∀ event world data world', backend.transformEvent event world = .ok (data, world') →
    ∀ entry ∈ data.entries, entry.Built

theorem Builds.decodes {backend : Backend σ T E} (h : Builds backend) : Decodes backend :=
  fun event world data world' heq entry hentry =>
    (h event world data world' heq entry hentry).decodes

theorem Drafted.builds {backend : Backend σ T E} (h : Drafted backend) : Builds backend := by
  intro event world data world' heq entry hentry
  obtain ⟨draft, rfl, -⟩ := h event world data world' heq entry hentry
  exact draft.built

variable {backend : Backend σ T E} {nEvents : Nat} {allowed : Option (Finset DeviceType)}
  {storeIn : List S} {fuel : Nat} {world : σ} {workers : ι → Worker}

/-- **The database of a capture**, when the calls on its storage start in the order of the batches
and everything has been stored.  A run of the program that opens the file, which is new or has been
set up, and makes these calls with new uuids, succeeds throughout; the file then has, behind its
earlier rows, those of what the transformer gave of the allowed devices, in the order of the
source. -/
theorem run_database (hstores : storeIn.Nodup) (hbuilds : Builds backend) (sched : List (Option ι))
    (hturn : (start backend nEvents allowed storeIn fuel world workers).Under answer
      (protocol.prod feeding) InTurn sched)
    (hdrained : Drained (run backend nEvents allowed storeIn fuel world workers sched)) {store : S}
    (hstore : store ∈ storeIn) (sql : List UInt8) (sha512 : List UInt8 → Vector UInt8 64)
    (uuids : Nat → List UInt8) (rollbacks : List Outcome) (state : Option Tables)
    (hnew : DatabaseStorage.NewUuids uuids (expected backend allowed fuel world)
      (state.getD fun _ => [])) :
    let session : DatabaseStorage.Session := ⟨[], rollbacks, DatabaseStorage.numbered uuids 0
      (callsOf (run backend nEvents allowed storeIn fuel world workers sched).object store)⟩
    session.run sql sha512 (DatabaseStorage.fileOf sql sha512 state)
      = (session.success, DatabaseStorage.stored sql sha512 (addRows
          (DatabaseStorage.namedRows uuids 0 (expected backend allowed fuel world))
          (state.getD fun _ => []))) := by
  intro session
  let calls := callsOf (run backend nEvents allowed storeIn fuel world workers sched).object store
  have hentries : calls.flatMap Data.entries = expected backend allowed fuel world :=
    (callsOf_entries _ store).trans
      (received_drained_in_order hstores hbuilds.decodes hturn hdrained hstore)
  have hbuilt : ∀ entry ∈ calls.flatMap Data.entries, entry.Built := by
    rw [hentries]
    exact expected_forall backend allowed fuel world hbuilds
  rw [← hentries]
  rw [← hentries] at hnew
  exact DatabaseStorage.numbered_complete sql sha512 uuids rollbacks state hbuilt hnew

/-! ### a key -/

theorem keystroke_newUuids : DatabaseStorage.NewUuids DatabaseStorage.sampleUuids
    [FilterStore.keyboardPress, keyboardRelease] fun _ => [] := by
  refine ⟨sampleUuids_fresh, fun entry hentry s hs k heq => ?_⟩
  have hheads : ∀ entry ∈ [FilterStore.keyboardPress, keyboardRelease],
      ∀ s ∈ entry.data ++ entry.modifiers, (cstr s).head? ≠ some 117 := by decide +kernel
  have huuid : (cstr (DatabaseStorage.sampleUuids k)).head? = some 117 := rfl
  rw [← Value.text.inj heq] at huuid
  exact hheads entry hentry s hs huuid

theorem keystroke_database :
    let session : DatabaseStorage.Session := ⟨[], [], DatabaseStorage.numbered
      DatabaseStorage.sampleUuids 0 (callsOf (run (ofTransform threeEvents keystroke) 1
        (some {.keyboard}) [0] 4 0 twoPasses handlerFirst).object 0)⟩
    session.run Migrate.createT.sql (fun _ => Migrate.createTDigest)
        (DatabaseStorage.fileOf Migrate.createT.sql (fun _ => Migrate.createTDigest) none)
      = (session.success, DatabaseStorage.stored Migrate.createT.sql
          (fun _ => Migrate.createTDigest) (addRows (DatabaseStorage.namedRows
            DatabaseStorage.sampleUuids 0 [FilterStore.keyboardPress, keyboardRelease])
            fun _ => [])) := by
  rw [← keystroke_expected]
  exact run_database (List.nodup_singleton 0) keystroke_drafted.builds handlerFirst
    keystroke_in_turn keystroke_drained (List.mem_singleton_self 0) Migrate.createT.sql
    (fun _ => Migrate.createTDigest) DatabaseStorage.sampleUuids [] none
    (keystroke_expected ▸ keystroke_newUuids)

end
end Capture
end Evget
