import Evget.Storage.Agreement
import Evget.Storage.Schema

/-!
# The life of a database

The program is run again and again on one database file.  Each run opens the file, calls `Init`,
stops when that fails, and otherwise stores batches until it ends, which closes its handle and with
it what is still open.  SQLite may refuse any request of any run.

* `Session`             a run of the program: its calls, and what SQLite makes of its requests;
* `runSessions`         the runs one after another;
* `sessions_content`    the file has the rows of exactly the calls that succeeded;
* `sessions_complete`   where nothing is refused everything succeeds.
-/

namespace Evget
open SQLite
open Calls

namespace DatabaseStorage
open Migrate

structure Session where
  outcomes : List Outcome
  rollbacks : List Outcome
  calls : List ((Nat → List UInt8) × Data)

structure Report where
  opening : Result Unit
  results : List (Result Unit)

def Session.connection (session : Session) (content : Content Schema) :
    SQLiteConnection (Content Schema) :=
  ⟨⟨content, session.outcomes, session.rollbacks, 0⟩, none, none⟩

def storeCalls : List ((Nat → List UInt8) × Data) → SQLiteConnection (Content Schema) →
    List (Result Unit) × SQLiteConnection (Content Schema)
  | [], c => ([], c)
  | (uuids, events) :: calls, c =>
    let (result, c) := (storeEvent uuids events).run answerIn c
    let (results, c) := storeCalls calls c
    (result :: results, c)

section
variable (sql : List UInt8) (sha512 : List UInt8 → Vector UInt8 64)

def Session.run (session : Session) (content : Content Schema) : Report × Content Schema :=
  match init sql sha512 (session.connection content) with
  | (.error e, c) => (⟨.error e, []⟩, c.file.content)
  | (.ok (), c) =>
    let (results, c) := storeCalls session.calls c
    (⟨.ok (), results⟩, c.file.content)

def runSessions : List Session → Content Schema → List Report × Content Schema
  | [], content => ([], content)
  | session :: sessions, content =>
    let (report, content) := session.run sql sha512 content
    let (reports, content) := runSessions sessions content
    (report :: reports, content)

end

/-- the rows of the calls of a run that returned a success; a run that could not open the file
makes no calls -/
def sessionRows (session : Session) (report : Report) : List (TableName × List Value) :=
  match report.opening with
  | .error _ => []
  | .ok () => successRows session.calls report.results

theorem sessionRows_eq_nil {session : Session} {report : Report}
    (h : report.opening.isOk = false) : sessionRows session report = [] := by
  unfold sessionRows
  cases hopening : report.opening with
  | error e => rfl
  | ok u =>
    rw [hopening] at h
    cases h

/-! ## the calls of one run -/

section
variable (sql : List UInt8) (sha512 : List UInt8 → Vector UInt8 64)

theorem storeCalls_content (calls : List ((Nat → List UInt8) × Data))
    (c : SQLiteConnection Tables) :
    ∃ c' : SQLiteConnection Tables, (storeCalls calls (c.map (stored sql sha512))).2
        = c'.map (stored sql sha512) ∧
      c'.file.content = addRows (successRows calls
        (storeCalls calls (c.map (stored sql sha512))).1) c.file.content := by
  induction calls generalizing c with
  | nil => exact ⟨c, rfl, rfl⟩
  | cons call calls ih =>
    obtain ⟨uuids, events⟩ := call
    have hone := storeEvent_content uuids events c
    unfold storeCalls
    rw [storeEvent_stored]
    rcases hx : (storeEvent uuids events).run answer c with ⟨e | u, c₁⟩
    all_goals rw [hx] at hone
    · obtain ⟨c', hc', hcontent⟩ := ih c₁
      refine ⟨c', hc', ?_⟩
      have hsame : c₁.file.content = c.file.content := hone
      rw [← hsame]
      exact hcontent
    · obtain ⟨c', hc', hcontent⟩ := ih c₁
      refine ⟨c', hc', ?_⟩
      have hadd : c₁.file.content = addRows (batchRows uuids 0 events.entries) c.file.content :=
        hone
      dsimp only [successRows]
      rw [addRows_append, ← hadd]
      exact hcontent

/-! ## one run -/

/-- a new file, or one that has been set up -/
def fileOf : Option Tables → Content Schema
  | none => unused
  | some rows => stored sql sha512 rows

theorem migrated_fileOf (state : Option Tables) :
    migrated (scripts sql) sha512 [migration sql] (fileOf sql sha512 state)
      = some (stored sql sha512 (state.getD fun _ => [])) := by
  refine (migrated_eq_some sql sha512).mpr ?_
  cases state with
  | none => exact .inl ⟨⟨rfl, rfl⟩, rfl⟩
  | some rows => exact .inr ⟨stored_recorded sql sha512 rows, rfl⟩

theorem init_fileOf {c : SQLiteConnection (Content Schema)} (state : Option Tables)
    (hcontent : c.file.content = fileOf sql sha512 state)
    (h : (init sql sha512 c).1 = .ok ()) :
    ∃ c' : SQLiteConnection Tables, (init sql sha512 c).2 = c'.map (stored sql sha512) ∧
      c'.file.content = state.getD (fun _ => []) ∧
      c'.file.outcomes = (init sql sha512 c).2.file.outcomes := by
  obtain ⟨hm, hclosed⟩ := init_ok sql sha512 h
  rw [hcontent, migrated_fileOf] at hm
  exact hclosed.exists_map (Option.some.inj hm).symm

def Session.after (session : Session) (report : Report) (state : Option Tables) : Option Tables :=
  if report.opening.isOk then
    some (addRows (sessionRows session report) (state.getD fun _ => []))
  else state

/-- **One run.** -/
theorem Session.run_fileOf (session : Session) (state : Option Tables) :
    (session.run sql sha512 (fileOf sql sha512 state)).2
      = fileOf sql sha512
          (session.after (session.run sql sha512 (fileOf sql sha512 state)).1 state) := by
  unfold Session.run
  have hok := init_fileOf sql sha512 (c := session.connection (fileOf sql sha512 state)) state rfl
  have herr := fun e => init_error sql sha512 (e := e)
    (c := session.connection (fileOf sql sha512 state))
  rcases hx : init sql sha512 (session.connection (fileOf sql sha512 state)) with ⟨e | u, c⟩
  · rw [hx] at herr
    exact herr e rfl
  · rw [hx] at hok
    obtain ⟨c₁, hc, hcontent, -⟩ := hok rfl
    have hc : c = c₁.map (stored sql sha512) := hc
    subst hc
    obtain ⟨c₂, hc₂, hcontent₂⟩ := storeCalls_content sql sha512 session.calls c₁
    dsimp only
    rw [hc₂]
    show stored sql sha512 c₂.file.content = _
    rw [hcontent₂, hcontent]
    rfl

/-! ## the runs -/

def reportedRows (sessions : List Session) (reports : List Report) :
    List (TableName × List Value) :=
  (sessions.zip reports).flatMap fun (session, report) => sessionRows session report

theorem reportedRows_eq_nil {sessions : List Session} {reports : List Report}
    (h : (reports.any fun report => report.opening.isOk) = false) :
    reportedRows sessions reports = [] := by
  refine List.flatMap_eq_nil_iff.mpr fun x hx => ?_
  have hnot := List.any_eq_false.mp h x.2 (List.of_mem_zip hx).2
  exact sessionRows_eq_nil (Bool.eq_false_iff.mpr hnot)

theorem runSessions_fileOf (sessions : List Session) (state : Option Tables) :
    let out := runSessions sql sha512 sessions (fileOf sql sha512 state)
    out.2 = fileOf sql sha512 (if out.1.any fun report => report.opening.isOk then
      some (addRows (reportedRows sessions out.1) (state.getD fun _ => [])) else state) := by
  induction sessions generalizing state with
  | nil => rfl
  | cons session sessions ih =>
    have hrun := session.run_fileOf sql sha512 state
    unfold runSessions
    rcases hx : session.run sql sha512 (fileOf sql sha512 state) with ⟨report, content⟩
    rw [hx] at hrun
    have hcontent : content = fileOf sql sha512 (session.after report state) := hrun
    subst hcontent
    have hrest := ih (session.after report state)
    dsimp only
    rcases hy : runSessions sql sha512 sessions (fileOf sql sha512 (session.after report state))
      with ⟨reports, content⟩
    rw [hy] at hrest
    refine hrest.trans (congrArg (fileOf sql sha512) ?_)
    show _ = if (report.opening.isOk || reports.any fun report => report.opening.isOk) then
      some (addRows (sessionRows session report ++ reportedRows sessions reports) _) else _
    unfold Session.after
    cases hopening : report.opening.isOk with
    | false =>
      rw [sessionRows_eq_nil hopening]
      rfl
    | true =>
      rw [addRows_append]
      cases hany : reports.any fun report => report.opening.isOk with
      | true => rfl
      | false =>
        rw [reportedRows_eq_nil hany]
        rfl

/-- **Any number of runs on a new file**, with a failure possible at every request of every run.  As
long as no `Init` has succeeded, the file is as new; after that it has the schema, one recorded
migration, and the rows of exactly those calls, of all runs, that returned a success, in their
order. -/
theorem sessions_content (sessions : List Session) :
    let out := runSessions sql sha512 sessions unused
    out.2 = if out.1.any fun report => report.opening.isOk then
        stored sql sha512 (addRows (reportedRows sessions out.1) fun _ => [])
      else unused := by
  intro out
  have hrun : out.2 = fileOf sql sha512 (if out.1.any fun report => report.opening.isOk then
      some (addRows (reportedRows sessions out.1) fun _ => []) else none) :=
    runSessions_fileOf sql sha512 sessions none
  rw [hrun]
  cases out.1.any fun report => report.opening.isOk <;> rfl

/-! ## runs in which nothing is refused -/

/-- new uuids for every call, given what the calls before it have added -/
def FreshCalls : List ((Nat → List UInt8) × Data) → Tables → Prop
  | [], _ => True
  | (uuids, events) :: calls, rows =>
    FreshUuids uuids rows ∧ FreshCalls calls (addRows (namedRows uuids 0 events.entries) rows)

/-- every entry of the call was built by a builder, or has no data -/
def BuiltCall (call : (Nat → List UInt8) × Data) : Prop :=
  ∀ entry ∈ call.2.entries, entry.Built ∨ entry.data = []

def callRows (calls : List ((Nat → List UInt8) × Data)) : List (TableName × List Value) :=
  calls.flatMap fun call => namedRows call.1 0 call.2.entries

theorem callRows_append (calls calls' : List ((Nat → List UInt8) × Data)) :
    callRows (calls ++ calls') = callRows calls ++ callRows calls' := List.flatMap_append

theorem addRows_callRows (call : (Nat → List UInt8) × Data)
    (calls : List ((Nat → List UInt8) × Data)) (rows : Tables) :
    addRows (callRows (call :: calls)) rows
      = addRows (callRows calls) (addRows (namedRows call.1 0 call.2.entries) rows) := by
  show addRows (namedRows call.1 0 call.2.entries ++ callRows calls) rows = _
  rw [addRows_append]

theorem freshCalls_append (calls calls' : List ((Nat → List UInt8) × Data)) (rows : Tables) :
    FreshCalls (calls ++ calls') rows ↔
      FreshCalls calls rows ∧ FreshCalls calls' (addRows (callRows calls) rows) := by
  induction calls generalizing rows with
  | nil => exact ⟨fun h => ⟨trivial, h⟩, fun h => h.2⟩
  | cons call calls ih =>
    rw [List.cons_append, FreshCalls, FreshCalls, ih, and_assoc, addRows_callRows]

theorem storeCalls_complete {calls : List ((Nat → List UInt8) × Data)}
    (hbuilt : ∀ call ∈ calls, BuiltCall call) {c : SQLiteConnection Tables}
    (hquiet : c.file.Quiet) (hfresh : FreshCalls calls c.file.content) :
    ∃ c' : SQLiteConnection Tables, storeCalls calls (c.map (stored sql sha512))
        = (calls.map fun _ => .ok (), c'.map (stored sql sha512)) ∧
      c'.file.content = addRows (callRows calls) c.file.content := by
  induction calls generalizing c with
  | nil => exact ⟨c, rfl, rfl⟩
  | cons call calls ih =>
    obtain ⟨uuids, events⟩ := call
    have hcall : BuiltCall (uuids, events) := hbuilt _ (List.mem_cons_self ..)
    obtain ⟨c₁, hrun, hquiet₁⟩ := storeEvent_quiet hcall hquiet hfresh.1
    have hcontent := storeEvent_content uuids events c
    rw [hrun] at hcontent
    have hadd : c₁.file.content = addRows (namedRows uuids 0 events.entries) c.file.content := by
      rw [← batchRows_eq hcall]
      exact hcontent
    obtain ⟨c', hcalls, hrows⟩ := ih (fun call h => hbuilt call (List.mem_cons_of_mem _ h))
      hquiet₁ (hadd ▸ hfresh.2)
    refine ⟨c', ?_, ?_⟩
    · unfold storeCalls
      rw [storeEvent_stored, hrun]
      dsimp only
      rw [hcalls]
      rfl
    · rw [hrows, hadd, addRows_callRows]

def Session.success (session : Session) : Report := ⟨.ok (), session.calls.map fun _ => .ok ()⟩

theorem Session.run_complete {session : Session} (hquiet : session.outcomes = [])
    (hbuilt : ∀ call ∈ session.calls, BuiltCall call) (state : Option Tables)
    (hfresh : FreshCalls session.calls (state.getD fun _ => [])) :
    session.run sql sha512 (fileOf sql sha512 state)
      = (session.success, fileOf sql sha512
          (some (addRows (callRows session.calls) (state.getD fun _ => [])))) := by
  have hq : (session.connection (fileOf sql sha512 state)).file.Quiet := hquiet
  obtain ⟨hok, hq', -⟩ := init_quiet sql sha512 hq (migrated_fileOf sql sha512 state)
  obtain ⟨c, hc, hcontent, houtcomes⟩ := init_fileOf sql sha512 state rfl hok
  have hq₁ : c.file.Quiet := houtcomes.trans hq'
  rw [← hcontent] at hfresh
  obtain ⟨c', hcalls, hrows⟩ := storeCalls_complete sql sha512 hbuilt hq₁ hfresh
  unfold Session.run
  rcases hx : init sql sha512 (session.connection (fileOf sql sha512 state)) with ⟨r, c₁⟩
  rw [hx] at hok hc
  have hr : r = .ok () := hok
  have hc₁ : c₁ = c.map (stored sql sha512) := hc
  subst hr hc₁
  dsimp only
  rw [hcalls, ← hcontent, ← hrows]
  rfl

theorem runSessions_complete {sessions : List Session}
    (hquiet : ∀ session ∈ sessions, session.outcomes = [])
    (hbuilt : ∀ session ∈ sessions, ∀ call ∈ session.calls, BuiltCall call)
    (state : Option Tables)
    (hfresh : FreshCalls (sessions.flatMap Session.calls) (state.getD fun _ => [])) :
    runSessions sql sha512 sessions (fileOf sql sha512 state)
      = (sessions.map Session.success, fileOf sql sha512 (if sessions = [] then state
          else some (addRows (callRows (sessions.flatMap Session.calls))
            (state.getD fun _ => [])))) := by
  induction sessions generalizing state with
  | nil => rfl
  | cons session sessions ih =>
    rw [List.flatMap_cons, freshCalls_append] at hfresh
    have hone := Session.run_complete sql sha512 (hquiet session (List.mem_cons_self ..))
      (hbuilt session (List.mem_cons_self ..)) state hfresh.1
    have hrest := ih (fun session h => hquiet session (List.mem_cons_of_mem _ h))
      (fun session h => hbuilt session (List.mem_cons_of_mem _ h))
      (some (addRows (callRows session.calls) (state.getD fun _ => []))) hfresh.2
    unfold runSessions
    rw [hone]
    dsimp only
    rw [hrest]
    rw [if_neg (List.cons_ne_nil _ _), List.flatMap_cons, callRows_append, addRows_append]
    by_cases hnil : sessions = []
    · subst hnil
      rfl
    · rw [if_neg hnil]
      rfl

/-- **Runs in which nothing is refused**, of entries that were built and with uuids that the file
does not have.  Every `Init`, on the new file and on the file of the runs before, and every call
succeeds, and the file has the rows of all calls. -/
theorem sessions_complete {sessions : List Session} (hne : sessions ≠ [])
    (hquiet : ∀ session ∈ sessions, session.outcomes = [])
    (hbuilt : ∀ session ∈ sessions, ∀ call ∈ session.calls, BuiltCall call)
    (hfresh : FreshCalls (sessions.flatMap Session.calls) fun _ => []) :
    runSessions sql sha512 sessions unused = (sessions.map Session.success,
      stored sql sha512 (addRows (callRows (sessions.flatMap Session.calls)) fun _ => [])) := by
  have h := runSessions_complete sql sha512 hquiet hbuilt none hfresh
  rw [if_neg hne] at h
  exact h

end

/-! ### a run with a key and a click, and a second run -/

def twoRuns : List Session := [⟨[], [], [(sampleUuids, sampleEvents)]⟩, ⟨[], [], []⟩]

theorem twoRuns_complete : runSessions createT.sql (fun _ => createTDigest) twoRuns unused
    = (twoRuns.map Session.success, stored createT.sql (fun _ => createTDigest)
        (addRows (callRows (twoRuns.flatMap Session.calls)) fun _ => [])) := by
  refine sessions_complete createT.sql (fun _ => createTDigest) (List.cons_ne_nil _ _) ?_ ?_
    ⟨sampleUuids_fresh, trivial⟩
  · intro session hsession
    rcases List.mem_pair.mp hsession with rfl | rfl
    · rfl
    · rfl
  · intro session hsession call hcall entry hentry
    rcases List.mem_pair.mp hsession with rfl | rfl
    · obtain rfl := List.mem_singleton.mp hcall
      rcases List.mem_pair.mp hentry with rfl | rfl
      · exact .inl (.key sampleKey)
      · exact .inl (.mouseClick sampleClick)
    · exact absurd hcall List.not_mem_nil

end DatabaseStorage
end Evget
