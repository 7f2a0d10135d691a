import Evget.Storage.DatabaseStorage

/-!
# What a call of `storeEvent` does to its connection

The calls that `storeEvent` makes follow a protocol: connect, start a transaction, execute
statements that are clean, commit.  Along the protocol the connection keeps `Holds`.

* `storeEvent_follows`   the program keeps to the protocol; it ends with a success only in the phase
                         `stored`, with the rows of its batch;
* `answer_holds`         the connection keeps `Holds` at every call that the protocol allows.
-/

namespace Evget
open SQLite
open Calls

def enumerate (values : List Value) : List (Nat × Value) := values.zipIdx.map Prod.swap

theorem setBind_last {position : Nat} {value : Value} {binds : List (Nat × Value)}
    (h : ∀ b ∈ binds, b.1 < position) :
    setBind position value binds = binds ++ [(position, value)] := by
  induction binds with
  | nil => rfl
  | cons b binds ih =>
    obtain ⟨p, v⟩ := b
    have hp : p < position := h (p, v) (List.mem_cons_self ..)
    unfold setBind
    rw [if_neg (by omega), if_neg (by omega), ih fun b hb => h b (List.mem_cons_of_mem _ hb)]
    rfl

theorem setBind_enumerate (values : List Value) (value : Value) :
    setBind values.length value (enumerate values) = enumerate (values ++ [value]) := by
  rw [setBind_last]
  · simp [enumerate, List.zipIdx_append]
  · intro b hb
    obtain ⟨⟨v, k⟩, hk, rfl⟩ := List.mem_map.mp hb
    obtain ⟨-, hlt, -⟩ := List.mem_zipIdx hk
    simpa using hlt

@[simp] theorem enumerate_snd (values : List Value) : (enumerate values).map Prod.snd = values := by
  rw [enumerate, List.map_map]
  exact List.zipIdx_map_fst 0 values

/-- the next of the parameters that are left is bound -/
theorem bind_next (bound : List Value) (v : Value) (n m : Nat) :
    Statement.bind (bound.length + 1) v ⟨n, bound ++ List.replicate (m + 1) .null, .ready⟩
      = .ok ⟨n, (bound ++ [v]) ++ List.replicate m .null, .ready⟩ := by
  have hset : (bound ++ List.replicate (m + 1) Value.null).set bound.length v
      = (bound ++ [v]) ++ List.replicate m .null := by
    rw [List.set_append_right _ _ (le_refl _), List.replicate_succ]
    simp
  unfold Statement.bind
  rw [if_neg (by simp), if_neg (by simp), Nat.add_sub_cancel, hset]

theorem applyBinds_next (v : Value) (values bound : List Value) (n m : Nat) :
    applyBinds (((v :: values).zipIdx bound.length).map Prod.swap)
        ⟨n, bound ++ List.replicate (m + 1) .null, .ready⟩
      = applyBinds ((values.zipIdx (bound ++ [v]).length).map Prod.swap)
          ⟨n, (bound ++ [v]) ++ List.replicate m .null, .ready⟩ := by
  have hlen : (bound ++ [v]).length = bound.length + 1 := by simp
  rw [List.zipIdx_cons, List.map_cons, hlen]
  simp only [Prod.swap_prod_mk, applyBinds, bind_next]

theorem applyBinds_fits (values : List Value) :
    ∀ (bound : List Value) (n m : Nat), values.length ≤ m →
      applyBinds ((values.zipIdx bound.length).map Prod.swap)
          ⟨n, bound ++ List.replicate m .null, .ready⟩
        = (none, ⟨n, bound ++ values ++ List.replicate (m - values.length) .null, .ready⟩) := by
  induction values with
  | nil =>
    intro bound n m _
    simp [applyBinds]
  | cons v values ih =>
    intro bound n m h
    obtain ⟨m, rfl⟩ : ∃ k, m = k + 1 := ⟨m - 1, by simp at h; omega⟩
    rw [applyBinds_next, ih (bound ++ [v]) n m (by simpa using h)]
    simp

theorem length_of_applyBinds (values : List Value) :
    ∀ (bound : List Value) (n m : Nat) (st : Statement),
      applyBinds ((values.zipIdx bound.length).map Prod.swap)
        ⟨n, bound ++ List.replicate m .null, .ready⟩ = (none, st) → values.length ≤ m := by
  induction values with
  | nil =>
    intro bound n m st _
    exact Nat.zero_le m
  | cons v values ih =>
    intro bound n m st h
    cases m with
    | zero =>
      simp [applyBinds, Statement.bind] at h
    | succ m =>
      rw [applyBinds_next] at h
      exact Nat.succ_le_succ (ih (bound ++ [v]) n m st h)

/-- binds to the first positions fill the first parameters, of which there are enough -/
theorem applyBinds_enumerate (values bound : List Value) (n m : Nat) (st : Statement)
    (h : applyBinds ((values.zipIdx bound.length).map Prod.swap)
      ⟨n, bound ++ List.replicate m .null, .ready⟩ = (none, st)) :
    values.length ≤ m ∧
      st = ⟨n, bound ++ values ++ List.replicate (m - values.length) .null, .ready⟩ := by
  have hle := length_of_applyBinds values bound n m st h
  rw [applyBinds_fits values bound n m hle] at h
  exact ⟨hle, (Prod.mk.inj h).2.symm⟩

namespace DatabaseStorage

/-! ## clean statements -/

/-- a query of `insert` between two executions: no bind is left from an earlier one -/
structure Clean (insert : Insert) (query : SQLiteQuery Insert) : Prop where
  text : query.query = insert
  binds : query.binds = []
  statement : ∀ st ∈ query.statement,
    st.cursor = .ready ∧ st.bindings = List.replicate insert.parameters.length .null

theorem Clean.build (insert : Insert) : Clean insert (.build insert) :=
  ⟨rfl, rfl, nofun⟩

structure Bound (insert : Insert) (values : List Value) (query : SQLiteQuery Insert) : Prop where
  text : query.query = insert
  binds : query.binds = enumerate values
  statement : ∀ st ∈ query.statement,
    st.cursor = .ready ∧ st.bindings = List.replicate insert.parameters.length .null

theorem Clean.bound {insert : Insert} {query : SQLiteQuery Insert} (h : Clean insert query) :
    Bound insert [] query := ⟨h.text, h.binds, h.statement⟩

theorem Bound.bindChars {insert : Insert} {values : List Value} {query : SQLiteQuery Insert}
    (h : Bound insert values query) (s : List UInt8) :
    Bound insert (values ++ [chars s]) (query.bindChars values.length s) := by
  refine ⟨h.text, ?_, h.statement⟩
  show setBind values.length (chars s) query.binds = _
  rw [h.binds, setBind_enumerate]

theorem Bound.bindData {insert : Insert} {query : SQLiteQuery Insert} (h : Clean insert query)
    (data : List (List UInt8)) (uuid : List UInt8) :
    Bound insert (chars uuid :: data.map chars) (bindData data uuid query) := by
  have key : ∀ (data : List (List UInt8)) (values : List Value) (query : SQLiteQuery Insert),
      Bound insert (chars uuid :: values) query →
      Bound insert (chars uuid :: values ++ data.map chars)
        ((data.zipIdx values.length).foldl
          (fun query x => query.bindChars (x.2 + 1) x.1) query) := by
    intro data
    induction data with
    | nil =>
      intro values query h
      simpa using h
    | cons s data ih =>
      intro values query h
      have h' := ih (values ++ [chars s]) _ (h.bindChars s)
      simp only [List.length_append, List.length_cons, List.length_nil] at h'
      simpa using h'
  exact key data [] _ (h.bound.bindChars uuid)

/-! ## the protocol -/

inductive Phase where
  | before
  /-- between a started transaction and its end, with the rows inserted so far -/
  | inside (rows : List (TableName × List Value))
  | stored (rows : List (TableName × List Value))
  | failed

def added (query : SQLiteQuery Insert) : TableName × List Value :=
  (query.query.table, rowOf query.query (query.binds.map Prod.snd))

def protocol : Protocol Call Reply Phase where
  allowed
    | .before, .connect => True
    | .before, .begin => True
    | .inside _, .nextWhile query => ∃ values, Bound query.query values query
    | .inside _, .reset _ => True
    | .inside _, .commit => True
    | _, _ => False
  possible
    | _, .nextWhile query, (result, query') => result = .ok () → ∃ n values,
      query' = ⟨query.query, [], some ⟨n, values, .done⟩⟩ ∧
        values.length = query.query.parameters.length
    | _, .reset query, (result, query') => result = .ok () → query' =
      ⟨query.query, [], query.statement.map fun st =>
        ({ st with cursor := .ready } : Statement).clearBindings⟩
    | _, _, _ => True
  next
    | .before, .connect, _ => .before
    | .before, .begin, .ok () => .inside []
    | .before, .begin, .error _ => .before
    | .inside rows, .nextWhile query, (.ok (), _) => .inside (rows ++ [added query])
    | .inside rows, .reset _, (.ok (), _) => .inside rows
    | .inside rows, .commit, .ok () => .stored rows
    | _, _, _ => .failed

def Ended (rows : List (TableName × List Value)) : Phase → Result Unit → Prop
  | .stored rows', .ok () => rows' = rows
  | .before, .ok () => rows = []
  | .before, .error _ => True
  | .failed, .error _ => True
  | _, _ => False

/-- inside a transaction, a part of the call has added `rows'` or has failed -/
def Adds {α : Type} (rows rows' : List (TableName × List Value)) (good : α → Prop) (p : Phase)
    (out : Result Unit × α) : Prop :=
  match out.1 with
  | .ok () => p = .inside (rows ++ rows') ∧ good out.2
  | .error _ => p = .failed

section
variable {rows : List (TableName × List Value)}

theorem execute_follows {insert : Insert} {values : List Value} {query : SQLiteQuery Insert}
    (h : Bound insert values query) :
    (execute query).Follows protocol
      (Adds rows [(insert.table, rowOf insert values)] (Clean insert)) (.inside rows) := by
  have hadded : added query = (insert.table, rowOf insert values) := by
    rw [added, h.text, h.binds, enumerate_snd]
  refine ⟨⟨values, by rw [h.text]; exact h⟩, ?_⟩
  rintro ⟨_ | u, query'⟩ hpos
  · rfl
  · obtain ⟨n, vs, rfl, hlen⟩ := hpos rfl
    refine ⟨trivial, ?_⟩
    rintro ⟨_ | u, query''⟩ hpos'
    · rfl
    · have e := hpos' rfl
      refine ⟨by rw [← hadded]; rfl, ?_⟩
      show Clean insert query''
      rw [e, h.text]
      refine ⟨rfl, rfl, fun st hst => ?_⟩
      cases hst
      refine ⟨rfl, ?_⟩
      show List.replicate vs.length Value.null = _
      rw [hlen, h.text]

theorem bindValues_follows {insert : Insert} {query : SQLiteQuery Insert}
    (h : Clean insert query) (data : List (List UInt8)) (uuid : List UInt8) :
    (bindValues query data uuid).Follows protocol
      (Adds rows [(insert.table, rowOf insert (chars uuid :: data.map chars))] (Clean insert))
      (.inside rows) := by
  refine (execute_follows (Bound.bindData h data uuid)).bind fun p out hout => ?_
  obtain ⟨_ | u, query'⟩ := out <;> exact hout

theorem bindValuesModifier_follows {insert : Insert} (uuids : Nat → List UInt8)
    (uuid : List UInt8) (modifiers : List (List UInt8)) :
    ∀ (n : Nat) (rows : List (TableName × List Value)) (query : SQLiteQuery Insert),
      Clean insert query →
      (bindValuesModifier uuids uuid n query modifiers).Follows protocol
        (Adds rows (modifierRows insert uuids uuid n modifiers) (Clean insert)) (.inside rows) := by
  induction modifiers with
  | nil =>
    intro n rows query h
    exact ⟨by rw [modifierRows, List.append_nil], h⟩
  | cons modifier modifiers ih =>
    intro n rows query h
    have hb := ((h.bound.bindChars (uuids n)).bindChars uuid).bindChars modifier
    refine (execute_follows hb).bind fun p out hout => ?_
    obtain ⟨_ | u, query'⟩ := out
    · exact hout
    · obtain ⟨hp, hclean⟩ := hout
      subst hp
      refine (ih (n + 1) _ query' hclean).mono fun p out hout => ?_
      obtain ⟨_ | u, query''⟩ := out
      · exact hout
      · exact ⟨by rw [hout.1, modifierRows, List.append_assoc]; rfl, hout.2⟩

def insertInto : TableName → Insert
  | .key => insertKey
  | .keyModifier => insertKeyModifier
  | .mouseClick => insertMouseClick
  | .mouseClickModifier => insertMouseClickModifier
  | .mouseMove => insertMouseMove
  | .mouseMoveModifier => insertMouseMoveModifier
  | .mouseScroll => insertMouseScroll
  | .mouseScrollModifier => insertMouseScrollModifier

def CleanStatements (statements : Statements) : Prop :=
  ∀ t, ∀ query ∈ statements t, Clean (insertInto t) query

theorem CleanStatements.update {statements : Statements} (h : CleanStatements statements)
    {t : TableName} {query : SQLiteQuery Insert} (hq : Clean (insertInto t) query) :
    CleanStatements (Function.update statements t (some query)) := by
  intro t' query' hq'
  by_cases e : t' = t
  · subst e
    rw [Function.update_self] at hq'
    cases hq'
    exact hq
  · rw [Function.update_of_ne e] at hq'
    exact h t' query' hq'

theorem CleanStatements.setOptionalStatement {statements : Statements}
    (h : CleanStatements statements) {insert : Insert} (hi : insertInto insert.table = insert) :
    Clean insert (setOptionalStatement (statements insert.table) insert) := by
  have h' := h insert.table
  rw [hi] at h'
  cases hs : statements insert.table with
  | none => exact .build insert
  | some query => exact h' query hs

theorem insertEvents_follows {uuids : Nat → List UInt8} {n : Nat} {entry : Entry}
    {statements : Statements} (h : CleanStatements statements) :
    (insertEvents uuids n entry statements (insertsOf entry.type).1
        (insertsOf entry.type).2).Follows protocol
      (Adds rows (entryRows uuids n entry) CleanStatements) (.inside rows) := by
  have h₁ : insertInto (insertsOf entry.type).1.table = (insertsOf entry.type).1 := by
    cases entry.type <;> rfl
  have h₂ : insertInto (insertsOf entry.type).2.table = (insertsOf entry.type).2 := by
    cases entry.type <;> rfl
  refine (bindValues_follows (h.setOptionalStatement h₁) entry.data (uuids n)).bind
    fun p out hout => ?_
  obtain ⟨_ | u, query⟩ := out
  · exact hout
  · obtain ⟨hp, hclean⟩ := hout
    subst hp
    refine (bindValuesModifier_follows uuids (uuids n) entry.modifiers (n + 1) _ _
      (h.setOptionalStatement h₂)).bind fun p out hout => ?_
    obtain ⟨_ | u, modifierQuery⟩ := out
    · exact hout
    · refine ⟨by rw [hout.1, entryRows, List.append_assoc]; rfl, ?_⟩
      refine (h.update ?_).update ?_
      · rw [h₂]
        exact hout.2
      · rw [h₁]
        exact hclean

theorem storeEntries_follows (uuids : Nat → List UInt8) (entries : List Entry) :
    ∀ (n : Nat) (rows : List (TableName × List Value)) (statements : Statements),
      CleanStatements statements →
      (storeEntries uuids n statements entries).Follows protocol
        (fun p out => match out with
          | .ok () => p = .inside (rows ++ batchRows uuids n entries)
          | .error _ => p = .failed) (.inside rows) := by
  induction entries with
  | nil =>
    intro n rows statements _
    show Phase.inside rows = _
    rw [batchRows, List.append_nil]
  | cons entry entries ih =>
    intro n rows statements h
    unfold storeEntries batchRows
    by_cases he : entry.data.isEmpty
    · rw [if_pos he, if_pos he]
      exact ih n rows statements h
    · rw [if_neg he, if_neg he]
      refine (insertEvents_follows h).bind fun p out hout => ?_
      obtain ⟨_ | u, statements'⟩ := out
      · exact hout
      · obtain ⟨hp, hclean⟩ := hout
        subst hp
        rw [← List.append_assoc]
        exact ih _ _ statements' hclean

end

/-- **The program keeps to the protocol**: it starts a transaction, adds the rows of its batch, and
ends with a success once these rows are stored. -/
theorem storeEvent_follows (uuids : Nat → List UInt8) (events : Data) :
    (storeEvent uuids events).Follows protocol (Ended (batchRows uuids 0 events.entries))
      .before := by
  unfold storeEvent
  cases he : events.empty with
  | true =>
    show batchRows uuids 0 events.entries = []
    rw [List.isEmpty_iff.mp he]
    rfl
  | false =>
    refine ⟨trivial, fun r _ => ?_⟩
    cases r with
    | error e => trivial
    | ok u =>
      refine ⟨trivial, fun r _ => ?_⟩
      cases r with
      | error e => trivial
      | ok u =>
        refine (storeEntries_follows uuids events.entries 0 [] _
          (fun t query hq => by cases hq)).bind fun p out hout => ?_
        cases out with
        | error e =>
          have hp : p = .failed := hout
          subst hp
          trivial
        | ok u =>
          have hp : p = .inside (batchRows uuids 0 events.entries) := hout
          subst hp
          refine ⟨trivial, fun r _ => ?_⟩
          cases r with
          | error e => trivial
          | ok u => exact rfl

/-! ## the connection -/

/-- what holds of the connection of a call in each phase, on a file that held `base` before -/
def Holds (base : Tables) : Phase → SQLiteConnection Tables → Prop
  | .before, c => c.file.content = base
  | .inside rows, c => c.InTransaction base (addRows rows base)
  | .stored rows, c => c.file.content = addRows rows base
  | .failed, c => c.file.content = base

theorem Bound.run_ok {insert : Insert} {values : List Value} {query : SQLiteQuery Insert}
    (h : Bound insert values query) {n : Nat} {st : Statement} {d d' : Tables}
    {yield : List (List Value)} (hb : applyBinds query.binds (query.current engine n) = (none, st))
    (hrun : engine.run query.query st.bindings d = .ok (yield, d')) :
    d' = addRow (added query) d ∧ st.bindings.length = insert.parameters.length := by
  obtain ⟨n', hcur⟩ : ∃ n', query.current engine n
      = ⟨n', List.replicate insert.parameters.length .null, .ready⟩ := by
    unfold SQLiteQuery.current
    cases hs : query.statement with
    | none => exact ⟨n, by rw [h.text]; rfl⟩
    | some st₀ =>
      obtain ⟨hc, hn⟩ := h.statement st₀ hs
      obtain ⟨n₀, bindings, cursor⟩ := st₀
      exact ⟨n₀, by rw [← hn, ← hc]; rfl⟩
  rw [hcur, h.binds] at hb
  obtain ⟨hle, hst⟩ := applyBinds_enumerate values [] n' _ st hb
  subst hst
  refine ⟨?_, ?_⟩
  · rw [runInsert_ok hrun, added, h.binds, enumerate_snd, h.text]
    rfl
  · simp
    omega

section
variable {base : Tables} {c : SQLiteConnection Tables}

theorem begin_holds (h : c.file.content = base) :
    Holds base (protocol.next .before .begin (answer .begin c).1) (answer .begin c).2 := by
  have hok := c.begin_ok
  have hcon := c.begin_content
  show Holds base (protocol.next .before .begin c.begin.1) c.begin.2
  rcases hx : c.begin with ⟨r, c'⟩
  rw [hx] at hok hcon
  cases r with
  | error e => exact hcon.trans h
  | ok u =>
    have hin := hok rfl
    rw [h] at hin
    exact hin

variable {rows : List (TableName × List Value)} (hin : c.InTransaction base (addRows rows base))
include hin

theorem nextWhile_holds {query : SQLiteQuery Insert}
    (ha : protocol.allowed (.inside rows) (.nextWhile query)) :
    protocol.possible (.inside rows) (.nextWhile query) (answer (.nextWhile query) c).1 ∧
      Holds base (protocol.next (.inside rows) (.nextWhile query) (answer (.nextWhile query) c).1)
        (answer (.nextWhile query) c).2 := by
  obtain ⟨values, hb⟩ := ha
  have hready : query.Ready := fun st hst => (hb.statement st hst).1
  obtain ⟨ht, hok, -⟩ := query.nextWhile_spec engine hready hin.sees
  show protocol.possible (.inside rows) (.nextWhile query) ((query.nextWhile engine c).1,
      (query.nextWhile engine c).2.1) ∧ Holds base (protocol.next (.inside rows)
        (.nextWhile query) ((query.nextWhile engine c).1, (query.nextWhile engine c).2.1))
          (query.nextWhile engine c).2.2
  rcases hx : query.nextWhile engine c with ⟨r, query', c'⟩
  rw [hx] at ht hok
  cases r with
  | error e => exact ⟨nofun, ht.file.content.trans hin.content⟩
  | ok u =>
    obtain ⟨n, st, yield, d', -, hbinds, hrun, hq', hs'⟩ := hok rfl
    obtain ⟨hd', hlen⟩ := hb.run_ok hbinds hrun
    refine ⟨fun _ => ⟨st.handle, st.bindings, hq', hlen⟩, ?_⟩
    apply ht.inTransaction hin
    rw [addRows_append]
    show SQLiteConnection.Sees (addRow (added query) (addRows rows base)) c'
    rw [← hd']
    exact hs'

theorem reset_holds (query : SQLiteQuery Insert) :
    protocol.possible (.inside rows) (.reset query) (answer (.reset query) c).1 ∧
      Holds base (protocol.next (.inside rows) (.reset query) (answer (.reset query) c).1)
        (answer (.reset query) c).2 := by
  obtain ⟨ht, hs, hok, -⟩ := query.reset_spec hin.sees
  show protocol.possible (.inside rows) (.reset query) ((query.reset c).1,
      (query.reset c).2.1) ∧ Holds base (protocol.next (.inside rows) (.reset query)
        ((query.reset c).1, (query.reset c).2.1)) (query.reset c).2.2
  rcases hx : query.reset c with ⟨r, query', c'⟩
  rw [hx] at ht hs hok
  cases r with
  | error e => exact ⟨nofun, ht.file.content.trans hin.content⟩
  | ok u => exact ⟨fun _ => hok rfl, ht.inTransaction hin hs⟩

theorem commit_holds :
    Holds base (protocol.next (.inside rows) .commit (answer .commit c).1)
      (answer .commit c).2 := by
  obtain ⟨hok, herr, -⟩ := SQLiteConnection.commit_spec hin
  show Holds base (protocol.next (.inside rows) .commit c.commit.1) c.commit.2
  rcases hx : c.commit with ⟨r, c'⟩
  rw [hx] at hok herr
  cases r with
  | error e => exact (herr e rfl).content
  | ok u => exact (hok rfl).1

end

/-- **Every allowed call keeps the invariant**, whatever outcome it has. -/
theorem answer_holds {base : Tables} (p : Phase) (c : SQLiteConnection Tables) (call : Call)
    (h : Holds base p c) (ha : protocol.allowed p call) :
    protocol.possible p call (answer call c).1 ∧
      Holds base (protocol.next p call (answer call c).1) (answer call c).2 := by
  cases p with
  | before =>
    cases call with
    | connect => exact ⟨trivial, c.connect_content.trans h⟩
    | begin => exact ⟨trivial, begin_holds h⟩
    | nextWhile query => exact ha.elim
    | reset query => exact ha.elim
    | commit => exact ha.elim
  | inside rows =>
    cases call with
    | connect => exact ha.elim
    | begin => exact ha.elim
    | nextWhile query => exact nextWhile_holds h ha
    | reset query => exact reset_holds h query
    | commit => exact ⟨trivial, commit_holds h⟩
  | stored rows => exact ha.elim
  | failed => exact ha.elim

end DatabaseStorage
end Evget
