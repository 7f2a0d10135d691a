import Evget.Storage.StoreAccepts

/-!
# Calls of `storeEvent` that leave a transaction open

`storeEvent` returns at the first request that fails, without a ROLLBACK.  What becomes of its
transaction is for SQLite to say, which rolls back by itself at some failures.

* `batchExecutions`            the executions of a batch;
* `requests`                   the requests that they make: each statement is prepared once;
* `Runs`                       a part of the program ends as the first failure of its requests says;
* `storeEvent_releases_iff`    **when no transaction is open afterwards**.
-/

namespace Evget
open SQLite
open Calls

namespace DatabaseStorage

/-! ## the requests of a batch -/

abbrev Execution := Insert × List Value

def modifierExecutions (insert : Insert) (uuids : Nat → List UInt8) (entryUuid : List UInt8) :
    Nat → List (List UInt8) → List Execution
  | _, [] => []
  | n, modifier :: modifiers =>
    (insert, [chars (uuids n), chars entryUuid, chars modifier])
      :: modifierExecutions insert uuids entryUuid (n + 1) modifiers

def entryExecutions (uuids : Nat → List UInt8) (n : Nat) (entry : Entry) : List Execution :=
  ((insertsOf entry.type).1, chars (uuids n) :: entry.data.map chars)
    :: modifierExecutions (insertsOf entry.type).2 uuids (uuids n) (n + 1) entry.modifiers

def batchExecutions (uuids : Nat → List UInt8) : Nat → List Entry → List Execution
  | _, [] => []
  | n, entry :: entries =>
    if entry.data.isEmpty then batchExecutions uuids n entries
    else entryExecutions uuids n entry ++
      batchExecutions uuids (n + 1 + entry.modifiers.length) entries

def Execution.row (x : Execution) : TableName × List Value := (x.1.table, rowOf x.1 x.2)

theorem modifierExecutions_rows (insert : Insert) (uuids : Nat → List UInt8)
    (entryUuid : List UInt8) (n : Nat) (modifiers : List (List UInt8)) :
    (modifierExecutions insert uuids entryUuid n modifiers).map Execution.row
      = modifierRows insert uuids entryUuid n modifiers := by
  induction modifiers generalizing n with
  | nil => rfl
  | cons modifier modifiers ih =>
    rw [modifierExecutions, modifierRows, List.map_cons, ih]
    rfl

theorem batchExecutions_rows (uuids : Nat → List UInt8) (n : Nat) (entries : List Entry) :
    (batchExecutions uuids n entries).map Execution.row = batchRows uuids n entries := by
  induction entries generalizing n with
  | nil => rfl
  | cons entry entries ih =>
    unfold batchExecutions batchRows
    split
    · exact ih n
    · rw [List.map_append, ih, entryExecutions, List.map_cons, modifierExecutions_rows]
      rfl

/-- the tables whose statement has been prepared, and what the transaction sees -/
structure Plan where
  prepared : TableName → Bool
  content : Tables

namespace Plan

def insert (plan : Plan) (x : Execution) : Plan :=
  ⟨Function.update plan.prepared x.1.table true, addRow x.row plan.content⟩

/-- the parameters behind the values stay NULL -/
def accepted (plan : Plan) (x : Execution) : Bool :=
  (runInsert x.1 (x.2 ++ List.replicate (x.1.parameters.length - x.2.length) .null)
    plan.content).isOk

def requests (plan : Plan) (x : Execution) : List Request :=
  (if plan.prepared x.1.table then [] else [.prepare]) ++
    [.step (x.2.length ≤ x.1.parameters.length) (plan.accepted x), .reset]

end Plan

/-- the requests of executions as long as none fails -/
def requests : Plan → List Execution → List Request
  | _, [] => []
  | plan, x :: xs => plan.requests x ++ requests (plan.insert x) xs

theorem requests_append (plan : Plan) (xs ys : List Execution) :
    requests plan (xs ++ ys) = requests plan xs ++ requests (xs.foldl Plan.insert plan) ys := by
  induction xs generalizing plan with
  | nil => rfl
  | cons x xs ih => rw [List.cons_append, requests, requests, ih, List.append_assoc]; rfl

/-! ## one execution -/

structure At (n : Nat) (outcomes : List Outcome) (d : Tables) (c : SQLiteConnection Tables) :
    Prop where
  database : c.database = some ⟨n, some d⟩
  outcomes : c.file.outcomes = outcomes
  transaction : c.transaction = some ⟨false⟩

def PreparedOn (n : Nat) (prepared : Bool) (query : SQLiteQuery Insert) : Prop :=
  query.statement.map Statement.handle = if prepared then some n else none

/-- the part ends as the first failure of its requests says: `good` in front of the outcomes that
are left, or `bad` with the transaction rolled back or open -/
def Runs {β : Type} (n : Nat) (outcomes : List Outcome) (requests : List Request) (d : Tables)
    (good bad : β → Prop) (part : Prog Call Reply β) (c : SQLiteConnection Tables) : Prop :=
  Ends (firstFailure requests outcomes)
    (∃ b c', part.run answer c = (b, c') ∧ good b ∧ At n (outcomes.drop requests.length) d c')
    fun aborted => ∃ b c', part.run answer c = (b, c') ∧ bad b ∧ (c'.Closed ↔ aborted = true)

section
variable {n : Nat} {outcomes : List Outcome} {d : Tables} {c : SQLiteConnection Tables}

theorem Runs.bind {α β : Type} {rs rs' : List Request} {d' : Tables} {good bad : α → Prop}
    {good' bad' : β → Prop} {part : Prog Call Reply α} {f : α → Prog Call Reply β}
    (h : Runs n outcomes rs d good bad part c)
    (hgood : ∀ a c', good a → At n (outcomes.drop rs.length) d c' →
      Runs n (outcomes.drop rs.length) rs' d' good' bad' (f a) c')
    (hbad : ∀ a, bad a → ∃ b, f a = .ret b ∧ bad' b) :
    Runs n outcomes (rs ++ rs') d' good' bad' (part.bind f) c := by
  refine h.append ?_ ?_
  · rintro ⟨a, c', hrun, ha, hc'⟩
    rw [Prog.run_bind, hrun, List.length_append, ← List.drop_drop]
    exact hgood a c' ha hc'
  · rintro aborted ⟨a, c', hrun, ha, hclosed⟩
    obtain ⟨b, hret, hb⟩ := hbad a ha
    rw [Prog.run_bind, hrun, hret]
    exact ⟨b, c', rfl, hb, hclosed⟩

/-- a part whose value is only handed on -/
theorem Runs.map {α β : Type} {rs : List Request} {good bad : α → Prop} {good' bad' : β → Prop}
    {part : Prog Call Reply α} {f : α → Prog Call Reply β}
    (h : Runs n outcomes rs d good bad part c)
    (hgood : ∀ a, good a → ∃ b, f a = .ret b ∧ good' b)
    (hbad : ∀ a, bad a → ∃ b, f a = .ret b ∧ bad' b) :
    Runs n outcomes rs d good' bad' (part.bind f) c := by
  rw [← List.append_nil rs]
  refine h.bind (fun a c' ha hc' => ?_) hbad
  obtain ⟨b, hret, hb⟩ := hgood a ha
  rw [hret]
  exact .of_none ⟨b, c', rfl, hb, hc'⟩

theorem draw_eq {f : SQLite.File Tables} (hf : f.outcomes = outcomes) :
    f.draw = (outcomes.headD .done, { f with outcomes := outcomes.tail }) := by
  rw [← hf]
  rfl

theorem prepared_draws {insert : Insert} {values : List Value} {query : SQLiteQuery Insert}
    (hb : Bound insert values query) {prepared : Bool} (hon : PreparedOn n prepared query)
    {f : SQLite.File Tables} (hf : f.outcomes = outcomes) :
    let rs : List Request := if prepared then [] else [.prepare]
    Ends (firstFailure rs outcomes)
      (∃ f', query.prepared engine ⟨n, some d⟩ f
        = (.ok ⟨n, List.replicate insert.parameters.length .null, .ready⟩, f') ∧
        f'.outcomes = outcomes.drop rs.length)
      fun aborted => aborted = false ∧
        ∃ what f', query.prepared engine ⟨n, some d⟩ f = (.error what, f') := by
  unfold PreparedOn at hon
  unfold SQLiteQuery.prepared
  cases prepared with
  | true =>
    obtain ⟨st, hst, hhandle⟩ := Option.map_eq_some_iff.mp hon
    obtain ⟨hcursor, hbindings⟩ := hb.statement st hst
    have heq : st = ⟨n, List.replicate insert.parameters.length .null, .ready⟩ := by
      rw [← hhandle, ← hcursor, ← hbindings]
    rw [hst, heq]
    exact .of_none ⟨f, rfl, hf⟩
  | false =>
    rw [Option.map_eq_none_iff.mp hon]
    simp only [Bool.false_eq_true, if_false, firstFailure, Option.or_none, Database.prepare,
      draw_eq hf, hb.text]
    cases outcomes.headD .done with
    | done => exact .of_none ⟨_, rfl, List.drop_one.symm⟩
    | refused what aborts => exact .of_some ⟨rfl, what, _, rfl⟩

theorem step_done {insert : Insert} {bindings : List Value} {d' : Tables}
    {f f' : SQLite.File Tables} (hdraw : f.draw = (.done, f'))
    (hrun : runInsert insert bindings d = .ok ([], d')) :
    Statement.step engine insert ⟨n, bindings, .ready⟩ ⟨n, some d⟩ f
      = (.ok false, ⟨n, bindings, .done⟩, ⟨n, some d'⟩, f') := by
  have hrun' : engine.run insert bindings (Database.view ⟨n, some d⟩ f') = .ok ([], d') := hrun
  unfold Statement.step
  rw [if_neg (not_not.mpr rfl), hdraw]
  simp only [hrun']
  rfl

theorem step_fails {insert : Insert} {bindings : List Value} {what : String}
    {f f' : SQLite.File Tables} (hdraw : f.draw = (.done, f'))
    (hrun : runInsert insert bindings d = .error what) :
    Statement.step engine insert ⟨n, bindings, .ready⟩ ⟨n, some d⟩ f
      = (.error what, ⟨n, bindings, .ready⟩, ⟨n, some d⟩, f') := by
  have hrun' : engine.run insert bindings (Database.view ⟨n, some d⟩ f') = .error what := hrun
  unfold Statement.step
  rw [if_neg (not_not.mpr rfl), hdraw]
  simp only [hrun']

theorem step_refused {insert : Insert} {bindings : List Value} {what : String} {aborts : Bool}
    {f f' : SQLite.File Tables} (hdraw : f.draw = (.refused what aborts, f')) :
    Statement.step engine insert ⟨n, bindings, .ready⟩ ⟨n, some d⟩ f
      = (.error what, ⟨n, bindings, .ready⟩, Database.abort aborts ⟨n, some d⟩, f') := by
  unfold Statement.step
  rw [if_neg (not_not.mpr rfl), hdraw]

theorem step_draws (insert : Insert) (bindings : List Value) {f : SQLite.File Tables}
    (hf : f.outcomes = outcomes) :
    let request : Request := .step true (runInsert insert bindings d).isOk
    Ends (request.failure (outcomes.headD .done))
      (∃ f', Statement.step engine insert ⟨n, bindings, .ready⟩ ⟨n, some d⟩ f
        = (.ok false, ⟨n, bindings, .done⟩,
          ⟨n, some (addRow (insert.table, insert.row bindings) d)⟩, f') ∧
        f'.outcomes = outcomes.tail)
      fun aborted => ∃ what st f',
        Statement.step engine insert ⟨n, bindings, .ready⟩ ⟨n, some d⟩ f
          = (.error what, st, Database.abort aborted ⟨n, some d⟩, f') := by
  have hdraw := draw_eq hf
  cases ho : outcomes.headD .done with
  | done =>
    rw [ho] at hdraw
    cases hrun : runInsert insert bindings d with
    | error what => exact .of_some ⟨what, _, _, step_fails hdraw hrun⟩
    | ok out =>
      obtain ⟨rows, d'⟩ := out
      obtain rfl : rows = [] := runInsert_rows hrun
      rw [← runInsert_ok hrun]
      exact .of_none ⟨_, step_done hdraw hrun, rfl⟩
  | refused what aborts =>
    rw [ho] at hdraw
    cases (runInsert insert bindings d).isOk <;>
      exact .of_some ⟨what, _, _, step_refused hdraw⟩

/-- the transaction is rolled back or open after a failing step -/
theorem closed_abort_iff (aborted : Bool) (f : SQLite.File Tables)
    (transaction : Option SQLite.Transaction) :
    SQLiteConnection.Closed ⟨f, some (Database.abort aborted ⟨n, some d⟩), transaction⟩ ↔
      aborted = true := by
  cases aborted with
  | true => exact ⟨fun _ => rfl, fun _ db hdb => by cases hdb; rfl⟩
  | false =>
    refine ⟨fun h => ?_, fun h => ?_⟩
    · exact absurd (h _ rfl) (Option.some_ne_none d)
    · cases h

theorem applyBinds_bound {insert : Insert} {values : List Value} {query : SQLiteQuery Insert}
    (hb : Bound insert values query) (n : Nat) :
    (values.length ≤ insert.parameters.length →
        applyBinds query.binds ⟨n, List.replicate insert.parameters.length .null, .ready⟩
          = (none, ⟨n, values ++ List.replicate (insert.parameters.length - values.length) .null,
            .ready⟩)) ∧
      (¬ values.length ≤ insert.parameters.length → ∃ what st,
        applyBinds query.binds ⟨n, List.replicate insert.parameters.length .null, .ready⟩
          = (some what, st)) := by
  rw [hb.binds]
  refine ⟨fun hlen => applyBinds_fits values [] n _ hlen, fun hlen => ?_⟩
  rcases hx : applyBinds (enumerate values)
    ⟨n, List.replicate insert.parameters.length .null, .ready⟩ with ⟨_ | what, st⟩
  · exact absurd (length_of_applyBinds values [] n _ st hx) hlen
  · exact ⟨what, st, rfl⟩

theorem next_draws {insert : Insert} {values : List Value} {query : SQLiteQuery Insert}
    (hb : Bound insert values query) {prepared : Bool} (hon : PreparedOn n prepared query)
    (hc : At n outcomes d c) :
    let padded := values ++ List.replicate (insert.parameters.length - values.length) .null
    let rs : List Request := (if prepared then [] else [.prepare]) ++
      [.step (values.length ≤ insert.parameters.length) (runInsert insert padded d).isOk]
    Ends (firstFailure rs outcomes)
      (∃ bindings c', bindings.length = insert.parameters.length ∧
        query.next engine c = (.ok false, ⟨insert, [], some ⟨n, bindings, .done⟩⟩, c') ∧
        At n (outcomes.drop rs.length) (addRow (insert.table, rowOf insert values) d) c')
      fun aborted => ∃ e query' c',
        query.next engine c = (.error e, query', c') ∧ (c'.Closed ↔ aborted = true) := by
  intro padded rs
  obtain ⟨hbinds, hunbound⟩ := applyBinds_bound hb n
  unfold SQLiteQuery.next
  rw [hc.database]
  refine (prepared_draws (d := d) hb hon hc.outcomes).append ?_ ?_
  · rintro ⟨f', hquery, hf'⟩
    simp only [hquery, firstFailure, Option.or_none]
    by_cases hlen : values.length ≤ insert.parameters.length
    · rw [decide_eq_true hlen, hbinds hlen, hb.text]
      refine (step_draws (n := n) (d := d) insert padded hf').mono ?_ ?_
      · rintro ⟨f'', hstep, hf''⟩
        simp only [padded] at hstep
        simp only [hstep]
        refine ⟨padded, _, ?_, rfl, rfl, ?_, hc.transaction⟩
        · rw [List.length_append, List.length_replicate, Nat.add_sub_cancel' hlen]
        · rw [List.length_append]
          exact hf''.trans List.tail_drop
      · rintro aborted ⟨what, st, f'', hstep⟩
        simp only [padded] at hstep
        simp only [hstep]
        exact ⟨_, _, _, rfl, closed_abort_iff aborted f'' c.transaction⟩
    · obtain ⟨what, st, hbinds⟩ := hunbound hlen
      simp only [hbinds, decide_eq_false hlen]
      exact .of_some ⟨_, _, _, rfl, closed_abort_iff false f' c.transaction⟩
  · rintro aborted ⟨rfl, what, f', hquery⟩
    simp only [hquery]
    exact ⟨_, _, _, rfl, closed_abort_iff false f' c.transaction⟩

def Failed {α : Type} (out : Result Unit × α) : Prop := ∃ e, out.1 = .error e

theorem nextWhile_runs {insert : Insert} {values : List Value} {query : SQLiteQuery Insert}
    (hb : Bound insert values query) {prepared : Bool} (hon : PreparedOn n prepared query)
    (hc : At n outcomes d c) :
    Runs n outcomes ((if prepared then [] else [.prepare]) ++
        [.step (values.length ≤ insert.parameters.length) (runInsert insert
          (values ++ List.replicate (insert.parameters.length - values.length) .null) d).isOk])
      (addRow (insert.table, rowOf insert values) d)
      (fun out => out.1 = .ok () ∧ ∃ bindings, bindings.length = insert.parameters.length ∧
        out.2 = ⟨insert, [], some ⟨n, bindings, .done⟩⟩) Failed
      (.call (.nextWhile query) .ret) c := by
  refine (next_draws hb hon hc).mono ?_ ?_
  · rintro ⟨bindings, c', hlen, hnext, hc'⟩
    refine ⟨(.ok (), ⟨insert, [], some ⟨n, bindings, .done⟩⟩), c', ?_,
      ⟨rfl, bindings, hlen, rfl⟩, hc'⟩
    simp only [Prog.run, answer, SQLiteQuery.nextWhile, hnext]
  · rintro aborted ⟨e, query', c', hnext, hclosed⟩
    refine ⟨(.error e, query'), c', ?_, ⟨e, rfl⟩, hclosed⟩
    simp only [Prog.run, answer, SQLiteQuery.nextWhile, hnext]

theorem reset_runs {insert : Insert} {bindings : List Value}
    (hlen : bindings.length = insert.parameters.length) (hc : At n outcomes d c) :
    Runs n outcomes [.reset] d
      (fun out => out.1 = .ok () ∧ Clean insert out.2 ∧ PreparedOn n true out.2) Failed
      (.call (.reset ⟨insert, [], some ⟨n, bindings, .done⟩⟩) .ret) c := by
  have hdraw := draw_eq hc.outcomes
  unfold Runs
  simp only [firstFailure, Option.or_none, Prog.run, answer, SQLiteQuery.reset, Statement.reset,
    hdraw]
  cases outcomes.headD .done with
  | done =>
    refine .of_none ⟨_, _, rfl, ⟨rfl, ⟨rfl, rfl, fun st hst => ?_⟩, rfl⟩, hc.database,
      List.drop_one.symm, hc.transaction⟩
    cases hst
    exact ⟨rfl, congrArg (List.replicate · Value.null) hlen⟩
  | refused what aborts =>
    have hdatabase : c.database = some (Database.abort false ⟨n, some d⟩) := hc.database
    refine .of_some ⟨_, _, rfl, ⟨_, rfl⟩, ?_⟩
    rw [hdatabase]
    exact closed_abort_iff false _ c.transaction

/-- **One execution** ends as the first failure of its requests says. -/
theorem execute_runs {plan : Plan} {insert : Insert} {values : List Value}
    {query : SQLiteQuery Insert} (hb : Bound insert values query)
    (hon : PreparedOn n (plan.prepared insert.table) query)
    (hc : At n outcomes plan.content c) :
    Runs n outcomes (plan.requests (insert, values)) (plan.insert (insert, values)).content
      (fun out => out.1 = .ok () ∧ Clean insert out.2 ∧ PreparedOn n true out.2) Failed
      (execute query) c := by
  have hsplit : plan.requests (insert, values)
      = ((if plan.prepared insert.table then [] else [.prepare]) ++
        [.step (values.length ≤ insert.parameters.length) (runInsert insert
          (values ++ List.replicate (insert.parameters.length - values.length) .null)
          plan.content).isOk]) ++ [.reset] := by
    rw [List.append_assoc]
    rfl
  have hexecute : execute query = (Prog.call (.nextWhile query) .ret).bind _ := rfl
  rw [hsplit, hexecute]
  refine (nextWhile_runs hb hon hc).bind ?_ ?_
  · rintro ⟨_ | u, query'⟩ c' ⟨hok, bindings, hlen, hquery⟩ hc'
    · cases hok
    · obtain rfl : query' = _ := hquery
      exact reset_runs hlen hc'
  · rintro ⟨_ | u, query'⟩ ⟨e, he⟩
    · exact ⟨_, rfl, _, rfl⟩
    · cases he

/-! ## the executions of an entry -/

def Ready (n : Nat) (plan : Plan) (insert : Insert) (query : SQLiteQuery Insert) : Prop :=
  Clean insert query ∧ PreparedOn n (plan.prepared insert.table) query

theorem Plan.prepared_insert (plan : Plan) (x : Execution) :
    (plan.insert x).prepared x.1.table = true :=
  Function.update_self ..

theorem bindValues_runs {plan : Plan} {insert : Insert} {query : SQLiteQuery Insert}
    (hq : Ready n plan insert query) (data : List (List UInt8)) (uuid : List UInt8)
    (hc : At n outcomes plan.content c) :
    let x : Execution := (insert, chars uuid :: data.map chars)
    Runs n outcomes (plan.requests x) (plan.insert x).content
      (fun out => out.1 = .ok () ∧ Ready n (plan.insert x) insert out.2) Failed
      (bindValues query data uuid) c := by
  intro x
  have hon : PreparedOn n (plan.prepared insert.table) (bindData data uuid query) := by
    unfold PreparedOn
    rw [bindData_statement]
    exact hq.2
  refine (execute_runs (Bound.bindData hq.1 data uuid) hon hc).map ?_ ?_
  · rintro ⟨_ | u, query'⟩ ⟨hok, hclean, hon'⟩
    · cases hok
    · refine ⟨_, rfl, rfl, hclean, ?_⟩
      rw [plan.prepared_insert x]
      exact hon'
  · rintro ⟨_ | u, query'⟩ ⟨e, he⟩
    · exact ⟨_, rfl, _, rfl⟩
    · cases he

theorem bindValuesModifier_runs {insert : Insert} (uuids : Nat → List UInt8) (uuid : List UInt8)
    (modifiers : List (List UInt8)) :
    ∀ (k : Nat) (outcomes : List Outcome) (plan : Plan) (query : SQLiteQuery Insert)
      (c : SQLiteConnection Tables), Ready n plan insert query → At n outcomes plan.content c →
      Runs n outcomes (requests plan (modifierExecutions insert uuids uuid k modifiers))
        ((modifierExecutions insert uuids uuid k modifiers).foldl Plan.insert plan).content
        (fun out => out.1 = .ok () ∧ Ready n
          ((modifierExecutions insert uuids uuid k modifiers).foldl Plan.insert plan) insert out.2)
        Failed (bindValuesModifier uuids uuid k query modifiers) c := by
  induction modifiers with
  | nil => exact fun k outcomes plan query c hq hc => .of_none ⟨_, c, rfl, ⟨rfl, hq⟩, hc⟩
  | cons modifier modifiers ih =>
    intro k outcomes plan query c hq hc
    have hb := ((hq.1.bound.bindChars (uuids k)).bindChars uuid).bindChars modifier
    refine (execute_runs hb hq.2 hc).bind ?_ ?_
    · rintro ⟨_ | u, query'⟩ c' ⟨hok, hclean, hon'⟩ hc'
      · cases hok
      · refine ih (k + 1) _ _ query' c' ⟨hclean, ?_⟩ hc'
        rw [plan.prepared_insert (insert, [chars (uuids k), chars uuid, chars modifier])]
        exact hon'
    · rintro ⟨_ | u, query'⟩ ⟨e, he⟩
      · exact ⟨_, rfl, _, rfl⟩
      · cases he

theorem Ready.congr {plan plan' : Plan} {insert : Insert} {query : SQLiteQuery Insert}
    (h : Ready n plan insert query)
    (heq : plan'.prepared insert.table = plan.prepared insert.table) :
    Ready n plan' insert query := by
  refine ⟨h.1, ?_⟩
  rw [heq]
  exact h.2

theorem modifierExecutions_insert {insert : Insert} {uuids : Nat → List UInt8} {uuid : List UInt8}
    {modifiers : List (List UInt8)} {k : Nat} {x : Execution}
    (hx : x ∈ modifierExecutions insert uuids uuid k modifiers) : x.1 = insert := by
  induction modifiers generalizing k with
  | nil => cases hx
  | cons modifier modifiers ih =>
    rcases List.mem_cons.mp hx with rfl | hx
    · rfl
    · exact ih hx

/-- executions on other tables prepare nothing of this one -/
theorem Plan.prepared_foldl {t : TableName} {xs : List Execution}
    (hxs : ∀ x ∈ xs, x.1.table ≠ t) (plan : Plan) :
    (xs.foldl Plan.insert plan).prepared t = plan.prepared t := by
  induction xs generalizing plan with
  | nil => rfl
  | cons x xs ih =>
    rw [List.foldl_cons, ih fun y hy => hxs y (List.mem_cons_of_mem _ hy)]
    exact Function.update_of_ne (hxs x (List.mem_cons_self ..)).symm ..

def Planned (n : Nat) (plan : Plan) (statements : Statements) : Prop :=
  ∀ t, Ready n plan (insertInto t) (setOptionalStatement (statements t) (insertInto t))

theorem planned_none (n : Nat) (d : Tables) : Planned n ⟨fun _ => false, d⟩ fun _ => none :=
  fun t => ⟨.build (insertInto t), rfl⟩

theorem Planned.update {plan plan' : Plan} {statements : Statements}
    (h : Planned n plan statements) {t₁ t₂ : TableName} {query₁ query₂ : SQLiteQuery Insert}
    (h₁ : Ready n plan' (insertInto t₁) query₁) (h₂ : Ready n plan' (insertInto t₂) query₂)
    (hsame : ∀ t, t ≠ t₁ → t ≠ t₂ → plan'.prepared t = plan.prepared t) :
    Planned n plan' (Function.update (Function.update statements t₂ (some query₂)) t₁
      (some query₁)) := by
  intro t
  by_cases ht₁ : t = t₁
  · subst ht₁
    rw [Function.update_self]
    exact h₁
  · rw [Function.update_of_ne ht₁]
    by_cases ht₂ : t = t₂
    · subst ht₂
      rw [Function.update_self]
      exact h₂
    · rw [Function.update_of_ne ht₂]
      refine (h t).congr ?_
      rw [(insertInto_values t).2.2]
      exact hsame t ht₁ ht₂

theorem insertEvents_runs {uuids : Nat → List UInt8} {m : Nat} {entry : Entry} {plan : Plan}
    {statements : Statements} (h : Planned n plan statements)
    (hc : At n outcomes plan.content c) :
    Runs n outcomes (requests plan (entryExecutions uuids m entry))
      ((entryExecutions uuids m entry).foldl Plan.insert plan).content
      (fun out => out.1 = .ok () ∧
        Planned n ((entryExecutions uuids m entry).foldl Plan.insert plan) out.2) Failed
      (insertEvents uuids m entry statements (insertsOf entry.type).1 (insertsOf entry.type).2)
      c := by
  have h₁ : insertInto (insertsOf entry.type).1.table = (insertsOf entry.type).1 := by
    cases entry.type <;> rfl
  have h₂ : insertInto (insertsOf entry.type).2.table = (insertsOf entry.type).2 := by
    cases entry.type <;> rfl
  have hne : (insertsOf entry.type).2.table ≠ (insertsOf entry.type).1.table := by
    cases entry.type <;> decide
  unfold insertEvents entryExecutions
  generalize (insertsOf entry.type).1 = insert at h₁ hne ⊢
  generalize (insertsOf entry.type).2 = insertModifier at h₂ hne ⊢
  have hq := h insert.table
  have hqModifier := h insertModifier.table
  rw [h₁] at hq
  rw [h₂] at hqModifier
  have hothers (t : TableName) (ht : t ≠ insertModifier.table) (plan : Plan) :
      ((modifierExecutions insertModifier uuids (uuids m) (m + 1) entry.modifiers).foldl
        Plan.insert plan).prepared t = plan.prepared t :=
    Plan.prepared_foldl (fun x hx e => ht (modifierExecutions_insert hx ▸ e).symm) plan
  refine (bindValues_runs hq entry.data (uuids m) hc).bind ?_ ?_
  · rintro ⟨_ | u, query⟩ c' ⟨hok, hready⟩ hc'
    · cases hok
    · have hmodifier : Ready n (plan.insert (insert, chars (uuids m) :: entry.data.map chars))
          insertModifier (setOptionalStatement (statements insertModifier.table) insertModifier) :=
        hqModifier.congr (Function.update_of_ne hne ..)
      refine (bindValuesModifier_runs uuids (uuids m) entry.modifiers (m + 1) _ _ _ c' hmodifier
        hc').map ?_ ?_
      · rintro ⟨result, modifierQuery⟩ ⟨hok', hready'⟩
        refine ⟨_, rfl, hok', h.update ?_ ?_ ?_⟩
        · rw [h₁]
          exact hready.congr (hothers _ hne.symm _)
        · rw [h₂]
          exact hready'
        · intro t ht htModifier
          rw [List.foldl_cons, hothers t htModifier]
          exact Function.update_of_ne ht ..
      · rintro ⟨result, modifierQuery⟩ ⟨e, he⟩
        exact ⟨_, rfl, e, he⟩
  · rintro ⟨_ | u, query⟩ ⟨e, he⟩
    · exact ⟨_, rfl, _, rfl⟩
    · cases he

theorem storeEntries_runs (uuids : Nat → List UInt8) (entries : List Entry) :
    ∀ (m : Nat) (outcomes : List Outcome) (plan : Plan) (statements : Statements)
      (c : SQLiteConnection Tables), Planned n plan statements → At n outcomes plan.content c →
      Runs n outcomes (requests plan (batchExecutions uuids m entries))
        ((batchExecutions uuids m entries).foldl Plan.insert plan).content
        (fun out => out = .ok ()) (fun out => ∃ e, out = .error e)
        (storeEntries uuids m statements entries) c := by
  induction entries with
  | nil =>
    exact fun m outcomes plan statements c _ hc => .of_none ⟨_, c, rfl, rfl, hc⟩
  | cons entry entries ih =>
    intro m outcomes plan statements c h hc
    unfold storeEntries batchExecutions
    by_cases he : entry.data.isEmpty
    · rw [if_pos he, if_pos he]
      exact ih m outcomes plan statements c h hc
    · rw [if_neg he, if_neg he, requests_append, List.foldl_append]
      refine (insertEvents_runs h hc).bind ?_ ?_
      · rintro ⟨_ | u, statements'⟩ c' ⟨hok, h'⟩ hc'
        · cases hok
        · exact ih _ _ _ statements' c' h' hc'
      · rintro ⟨_ | u, statements'⟩ ⟨e, he⟩
        · exact ⟨_, rfl, _, rfl⟩
        · cases he

/-! ## the whole call -/

theorem begin_draws (hdatabase : c.database = some ⟨n, none⟩) (hout : c.file.outcomes = outcomes)
    (hcontent : c.file.content = d) :
    (outcomes.headD .done = .done → c.begin.1 = .ok () ∧ At n outcomes.tail d c.begin.2) ∧
      (∀ what aborts, outcomes.headD .done = .refused what aborts →
        (∃ e, c.begin.1 = .error e) ∧ c.begin.2.Closed) := by
  obtain ⟨hcon', hout', -, hsame⟩ := SQLiteConnection.destroy_spec c.transaction ⟨n, none⟩ c.file
  rcases hdestroy : SQLiteConnection.destroy c.transaction ⟨n, none⟩ c.file with ⟨db, f⟩
  rw [hdestroy] at hcon' hout' hsame
  obtain rfl : db = ⟨n, none⟩ := hsame rfl
  have hdraw := draw_eq (hout'.trans hout)
  unfold SQLiteConnection.begin
  simp only [hdatabase, hdestroy, Database.begin, hdraw]
  constructor
  · intro ho
    simp only [ho]
    refine ⟨trivial, ?_, rfl, rfl⟩
    rw [show f.content = d from hcon'.trans hcontent]
  · intro what aborts ho
    simp only [ho]
    refine ⟨⟨_, rfl⟩, fun db hdb => ?_⟩
    cases hdb
    rfl

/-- the requests of a batch behind BEGIN -/
def batchRequests (uuids : Nat → List UInt8) (entries : List Entry) (content : Tables) :
    List Request :=
  requests ⟨fun _ => false, content⟩ (batchExecutions uuids 0 entries) ++ [.commit]

/-- the first request that fails, if there is one, is connecting, BEGIN, or one at whose failure
SQLite rolls back; where there is no new handle, no transaction was open before -/
def Releases (uuids : Nat → List UInt8) (events : Data) (c : SQLiteConnection Tables) : Prop :=
  if events.empty then c.Closed
  else
    match c.file.outcomes.headD .done, c.file.outcomes.tail.headD .done with
    | .refused .., _ => c.Closed
    | .done, .refused .. => True
    | .done, .done =>
      firstFailure (batchRequests uuids events.entries c.file.content) (c.file.outcomes.drop 2)
        ≠ some false

theorem commit_closed_iff (hc : At n outcomes d c) :
    c.commit.2.Closed ↔ Request.commit.failure (outcomes.headD .done) ≠ some false := by
  have hdraw := draw_eq hc.outcomes
  unfold SQLiteConnection.commit SQLiteConnection.finish
  simp only [hc.transaction, hc.database, Database.commit, hdraw]
  rcases outcomes.headD .done with _ | ⟨what, aborts⟩
  · refine ⟨fun _ h => ?_, fun _ db hdb => ?_⟩
    · cases h
    · cases hdb
      rfl
  · show SQLiteConnection.Closed ⟨_, some (Database.abort aborts ⟨n, some d⟩), _⟩ ↔ _
    rw [closed_abort_iff]
    cases aborts <;> simp [Request.failure]

theorem committed_closed_iff {rs : List Request} {part : Prog Call Reply (Result Unit)}
    {k : Result Unit → Prog Call Reply (Result Unit)}
    (hruns : Runs n outcomes rs d (fun r => r = .ok ()) (fun r => ∃ e, r = .error e) part c)
    (herror : ∀ e, ∃ r, k (.error e) = .ret r)
    (hok : ∃ k', k (.ok ()) = .call .commit k' ∧ ∀ r, ∃ r', k' r = .ret r') :
    ((part.bind k).run answer c).2.Closed ↔
      firstFailure (rs ++ [.commit]) outcomes ≠ some false := by
  rw [Prog.run_bind, firstFailure_append]
  cases hfirst : firstFailure rs outcomes with
  | some aborted =>
    obtain ⟨_, c', hrun, ⟨e, rfl⟩, hclosed⟩ := hruns.error aborted hfirst
    obtain ⟨r, hret⟩ := herror e
    rw [hrun, hret]
    show c'.Closed ↔ some aborted ≠ some false
    rw [hclosed]
    cases aborted <;> decide
  | none =>
    obtain ⟨_, c', hrun, rfl, hc'⟩ := hruns.ok hfirst
    obtain ⟨k', hcall, hends⟩ := hok
    obtain ⟨r, hret⟩ := hends c'.commit.1
    have hcommit : answer .commit c' = c'.commit := rfl
    rw [hrun, hcall]
    show (Prog.run answer (.call .commit k') c').2.Closed ↔ _
    rw [Prog.run, hcommit, hret, firstFailure, firstFailure, Option.or_none]
    exact commit_closed_iff hc'

/-- **When no transaction is open afterwards**: for every batch, every connection and every point
of failure, exactly when nothing fails or the failure is one at which SQLite rolls back. -/
theorem storeEvent_releases_iff (uuids : Nat → List UInt8) (events : Data)
    (c : SQLiteConnection Tables) :
    ((storeEvent uuids events).run answer c).2.Closed ↔ Releases uuids events c := by
  unfold storeEvent Releases
  cases he : events.empty with
  | true => exact Iff.rfl
  | false =>
    rw [if_neg Bool.false_ne_true, if_neg Bool.false_ne_true]
    have hdraw := draw_eq (f := c.file) rfl
    cases ho : c.file.outcomes.headD .done with
    | refused what aborts =>
      have hconnect : answer .connect c = (.error (SQLiteConnection.connectError what),
          { c with file := { c.file with outcomes := c.file.outcomes.tail } }) := by
        simp only [answer, SQLiteConnection.connect, hdraw, ho]
      rw [Prog.run, hconnect]
      exact Iff.rfl
    | done =>
      obtain ⟨c₁, hconnect, hdatabase, hout, hcontent⟩ : ∃ c₁, answer .connect c = (.ok (), c₁) ∧
          c₁.database = some ⟨c.file.handles, none⟩ ∧
          c₁.file.outcomes = c.file.outcomes.tail ∧ c₁.file.content = c.file.content := by
        simp only [answer, SQLiteConnection.connect, hdraw, ho]
        exact ⟨_, rfl, rfl, rfl, rfl⟩
      obtain ⟨hstarts, hrefused⟩ := begin_draws hdatabase hout hcontent
      rw [Prog.run, hconnect]
      show (Prog.run answer (.call .begin _) c₁).2.Closed ↔ _
      rw [Prog.run]
      cases ho' : c.file.outcomes.tail.headD .done with
      | refused what aborts =>
        obtain ⟨⟨e, herror⟩, hclosed⟩ := hrefused what aborts ho'
        have hbegin : answer .begin c₁ = (.error e, c₁.begin.2) := Prod.ext herror rfl
        rw [hbegin]
        exact iff_of_true hclosed trivial
      | done =>
        obtain ⟨hok, hc₂⟩ := hstarts ho'
        have hbegin : answer .begin c₁ = (.ok (), c₁.begin.2) := Prod.ext hok rfl
        have hdrop : c.file.outcomes.tail.tail = c.file.outcomes.drop 2 := by
          rw [← List.drop_one, ← List.drop_one, List.drop_drop]
        have hruns := storeEntries_runs uuids events.entries 0 _ _ (fun _ => none) _
          (planned_none c.file.handles c.file.content) (hdrop ▸ hc₂)
        rw [hbegin]
        refine committed_closed_iff hruns (fun e => ⟨_, rfl⟩) ⟨_, rfl, ?_⟩
        rintro (_ | u) <;> exact ⟨_, rfl⟩

end

/-! ### a locked database -/

def locked : SQLiteConnection Tables :=
  { fresh with file := { fresh.file with
      outcomes := [.done, .done, .done, .refused "database is locked" false] } }

/-- **Left open**: the call returns the error of the INSERT, inside the transaction. -/
theorem locked_open :
    (((storeEvent sampleUuids sampleEvents).run answer locked).1
        = .error ⟨.databaseError, "database is locked"⟩) ∧
      ((storeEvent sampleUuids sampleEvents).run answer locked).2.database
        = some ⟨0, some fun _ => []⟩ ∧
      ¬ ((storeEvent sampleUuids sampleEvents).run answer locked).2.Closed := by
  have hdatabase : ((storeEvent sampleUuids sampleEvents).run answer locked).2.database
      = some ⟨0, some fun _ => []⟩ := by
    rfl
  refine ⟨rfl, hdatabase, fun h => ?_⟩
  exact absurd (h _ hdatabase) (Option.some_ne_none _)

end DatabaseStorage
end Evget
