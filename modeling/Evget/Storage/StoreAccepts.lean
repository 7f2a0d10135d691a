import Evget.Storage.StoreRuns
import Mathlib.Data.List.Nodup

/-!
# Calls of `storeEvent` that succeed

On a file that refuses nothing, with uuids that the tables do not have, a call of `storeEvent` on
entries that were built returns a success.

* `Accepts`             what a table asks of a new row;
* `Quietly`             a transaction is open on a handle, and no request will be refused;
* `Succeeds`            a part of the program that succeeds and adds its rows;
* `FreshUuids`          what the store relies on of the generator of uuids;
* `storeEvent_accepts`  the call succeeds.
-/

namespace Evget
open SQLite
open Calls

/-! ## rows that a table takes -/

/-- a row of the right width, without NULL, with a key that the table does not have -/
structure Accepts (row : TableName × List Value) (d : Tables) : Prop where
  width : row.2.length = row.1.columns.length
  notNull : ∀ v ∈ row.2, v ≠ .null
  key : ∀ other ∈ d row.1, other.head? ≠ row.2.head?

theorem Accepts.runInsert {insert : Insert} {bindings : List Value} {d : Tables}
    (h : Accepts (insert.table, insert.row bindings) d) :
    runInsert insert bindings d = .ok ([], addRow (insert.table, insert.row bindings) d) := by
  have hnull : ((insert.table.columns.zip (insert.row bindings)).any
      fun x => x.1.notNull && x.2 = .null) = false := by
    rw [List.any_eq_false]
    intro x hx
    have hv : x.2 ≠ .null := h.notNull x.2 (List.of_mem_zip hx).2
    simp [hv]
  have hkey : ((d insert.table).any fun other =>
      other.head? = (insert.row bindings).head? && (insert.row bindings).head? ≠ some .null)
        = false := by
    rw [List.any_eq_false]
    intro other hother
    have hne : other.head? ≠ (insert.row bindings).head? := h.key other hother
    simp [hne]
  unfold Evget.runInsert
  simp only
  rw [if_neg (not_not.mpr h.width), if_neg (by rw [hnull]; exact Bool.false_ne_true),
    if_neg (by rw [hkey]; exact Bool.false_ne_true)]

def AcceptsAll : List (TableName × List Value) → Tables → Prop
  | [], _ => True
  | row :: rows, d => Accepts row d ∧ AcceptsAll rows (addRow row d)

theorem acceptsAll_append {rows rows' : List (TableName × List Value)} {d : Tables} :
    AcceptsAll (rows ++ rows') d ↔ AcceptsAll rows d ∧ AcceptsAll rows' (addRows rows d) := by
  induction rows generalizing d with
  | nil => exact ⟨fun h => ⟨trivial, h⟩, fun h => h.2⟩
  | cons row rows ih =>
    rw [List.cons_append, AcceptsAll, AcceptsAll, ih, and_assoc]
    rfl

theorem mem_addRow {row : TableName × List Value} {d : Tables} {t : TableName} {other : List Value}
    (h : other ∈ addRow row d t) : other ∈ d t ∨ other = row.2 := by
  unfold addRow at h
  by_cases ht : t = row.1
  · rw [ht, Function.update_self] at h
    rcases List.mem_append.mp h with h | h
    · exact .inl (ht ▸ h)
    · exact .inr (List.mem_singleton.mp h)
  · rw [Function.update_of_ne ht] at h
    exact .inl h

/-- rows with keys that are all different and new -/
theorem acceptsAll_of_keys {rows : List (TableName × List Value)} {d : Tables}
    (hrows : ∀ row ∈ rows, row.2.length = row.1.columns.length ∧ ∀ v ∈ row.2, v ≠ .null)
    (hkeys : (rows.map fun row => row.2.head?).Nodup)
    (hnew : ∀ row ∈ rows, ∀ t, ∀ other ∈ d t, other.head? ≠ row.2.head?) : AcceptsAll rows d := by
  induction rows generalizing d with
  | nil => trivial
  | cons row rows ih =>
    obtain ⟨hwidth, hnull⟩ := hrows row (List.mem_cons_self ..)
    obtain ⟨hnot, hkeys⟩ := List.nodup_cons.mp hkeys
    refine ⟨⟨hwidth, hnull, hnew row (List.mem_cons_self ..) row.1⟩,
      ih (fun r hr => hrows r (List.mem_cons_of_mem _ hr)) hkeys fun r hr t other hother => ?_⟩
    rcases mem_addRow hother with h | rfl
    · exact hnew r (List.mem_cons_of_mem _ hr) t other h
    · intro e
      apply hnot
      exact List.mem_map.mpr ⟨r, hr, e.symm⟩

namespace DatabaseStorage

/-! ## parts of the program -/

/-- a transaction that sees `d` on the handle `n`, on a file that refuses nothing -/
structure Quietly (base : Tables) (n : Nat) (d : Tables) (c : SQLiteConnection Tables) : Prop where
  transaction : c.InTransaction base d
  quiet : c.file.Quiet
  uses : c.Uses n

/-- the query is not prepared on another handle -/
def On (n : Nat) (query : SQLiteQuery Insert) : Prop := ∀ st ∈ query.statement, st.handle = n

/-- the part succeeds on `c` with a value that is `good`, and has then added `rows` -/
def Succeeds {α : Type} (base : Tables) (n : Nat) (d : Tables)
    (rows : List (TableName × List Value)) (good : α → Prop)
    (part : Prog Call Reply (Result Unit × α)) (c : SQLiteConnection Tables) : Prop :=
  ∃ a c', part.run answer c = ((.ok (), a), c') ∧ good a ∧ Quietly base n (addRows rows d) c'

section
variable {base d : Tables} {n : Nat} {c : SQLiteConnection Tables}

theorem Succeeds.bind {α β : Type} {rows rows' : List (TableName × List Value)} {good : α → Prop}
    {good' : β → Prop} {part : Prog Call Reply (Result Unit × α)}
    {f : Result Unit × α → Prog Call Reply (Result Unit × β)}
    (h : Succeeds base n d rows good part c)
    (hf : ∀ a c', good a → Quietly base n (addRows rows d) c' →
      Succeeds base n (addRows rows d) rows' good' (f (.ok (), a)) c') :
    Succeeds base n d (rows ++ rows') good' (part.bind f) c := by
  obtain ⟨a, c', hrun, hgood, hc'⟩ := h
  obtain ⟨b, c'', hrun', hgood', hc''⟩ := hf a c' hgood hc'
  refine ⟨b, c'', ?_, hgood', ?_⟩
  · rw [Prog.run_bind, hrun, hrun']
  · rw [addRows_append]
    exact hc''

theorem Succeeds.map {α β : Type} {rows : List (TableName × List Value)} {good : α → Prop}
    {good' : β → Prop} {part : Prog Call Reply (Result Unit × α)}
    {f : Result Unit × α → Prog Call Reply (Result Unit × β)}
    (h : Succeeds base n d rows good part c)
    (hf : ∀ a, good a → ∃ b, f (.ok (), a) = .ret (.ok (), b) ∧ good' b) :
    Succeeds base n d rows good' (part.bind f) c := by
  obtain ⟨a, c', hrun, hgood, hc'⟩ := h
  obtain ⟨b, hret, hgood'⟩ := hf a hgood
  refine ⟨b, c', ?_, hgood', hc'⟩
  rw [Prog.run_bind, hrun, hret]
  rfl

theorem Bound.current {insert : Insert} {values : List Value} {query : SQLiteQuery Insert}
    (hb : Bound insert values query) (hon : On n query) :
    query.current engine n = ⟨n, List.replicate insert.parameters.length .null, .ready⟩ := by
  unfold SQLiteQuery.current
  cases hst : query.statement with
  | none => rw [hb.text]; rfl
  | some st =>
    obtain ⟨hc, hbindings⟩ := hb.statement st hst
    have hn := hon st hst
    obtain ⟨handle, bindings, cursor⟩ := st
    rw [← hn, ← hbindings, ← hc]
    rfl

theorem nextWhile_inserts {insert : Insert} {values : List Value} {query : SQLiteQuery Insert}
    (hb : Bound insert values query) (hon : On n query)
    (hlen : values.length ≤ insert.parameters.length)
    (haccepts : Accepts (insert.table, rowOf insert values) d) (hc : Quietly base n d c) :
    ∃ bindings c', bindings.length = insert.parameters.length ∧
      query.nextWhile engine c = (.ok (), ⟨query.query, [], some ⟨n, bindings, .done⟩⟩, c') ∧
      c.Touches c' ∧ c'.Sees (addRow (insert.table, rowOf insert values) d) := by
  have hready : query.Ready := fun st hst => (hb.statement st hst).1
  have hbinds : applyBinds query.binds (query.current engine n)
      = (none, ⟨n, values ++ List.replicate (insert.parameters.length - values.length) .null,
        .ready⟩) := by
    rw [hb.current hon, hb.binds]
    exact applyBinds_fits values [] n _ hlen
  have hrun : engine.run query.query
      (values ++ List.replicate (insert.parameters.length - values.length) .null) d
        = .ok ([], addRow (insert.table, rowOf insert values) d) := by
    rw [hb.text]
    exact haccepts.runInsert
  obtain ⟨ht, hok, hquiet⟩ := query.nextWhile_spec engine hready hc.transaction.sees
  have hanswer := hquiet hc.quiet n _ _ _ hc.uses hbinds rfl hrun
  obtain ⟨n', st, rows, d', huses, hbinds', hrun', hquery, hsees⟩ := hok hanswer
  have hn : n' = n := Option.some.inj (huses.symm.trans hc.uses)
  subst hn
  rw [hbinds] at hbinds'
  cases hbinds'
  rw [hrun] at hrun'
  cases hrun'
  refine ⟨values ++ List.replicate (insert.parameters.length - values.length) .null,
    (query.nextWhile engine c).2.2, ?_, ?_, ht, hsees⟩
  · rw [List.length_append, List.length_replicate, Nat.add_sub_cancel' hlen]
  · exact Prod.ext hanswer (Prod.ext hquery rfl)

theorem execute_succeeds {insert : Insert} {values : List Value} {query : SQLiteQuery Insert}
    (hb : Bound insert values query) (hon : On n query)
    (hlen : values.length ≤ insert.parameters.length)
    (haccepts : Accepts (insert.table, rowOf insert values) d) (hc : Quietly base n d c) :
    Succeeds base n d [(insert.table, rowOf insert values)]
      (fun query => Clean insert query ∧ On n query) (execute query) c := by
  obtain ⟨bindings, c', hbindings, hnext, ht, hsees⟩ :=
    nextWhile_inserts hb hon hlen haccepts hc
  obtain ⟨ht', hsees', hok, hquiet⟩ :=
    SQLiteQuery.reset_spec ⟨query.query, [], some ⟨n, bindings, .done⟩⟩ hsees
  have hanswer := hquiet (ht.file.quiet hc.quiet)
  have hquery := hok hanswer
  rcases hreset : SQLiteQuery.reset ⟨query.query, [], some ⟨n, bindings, .done⟩⟩ c'
    with ⟨r, query', c''⟩
  rw [hreset] at ht' hsees' hanswer hquery
  have hr : r = .ok () := hanswer
  subst hr
  have htouches : c.Touches c'' := ht.trans ht'
  refine ⟨query', c'', ?_, ?_, htouches.inTransaction hc.transaction hsees',
    htouches.file.quiet hc.quiet, htouches.handle.trans hc.uses⟩
  · have hanswer₁ : answer (.nextWhile query) c = (((query.nextWhile engine c).1,
        (query.nextWhile engine c).2.1), (query.nextWhile engine c).2.2) := rfl
    rw [hnext] at hanswer₁
    have hanswer₂ := congrArg (fun x => ((x.1, x.2.1), x.2.2)) hreset
    unfold execute Prog.run
    rw [hanswer₁]
    exact hanswer₂
  · have hclean : query' = ⟨query.query, [],
        some ⟨n, List.replicate bindings.length .null, .ready⟩⟩ := hquery
    rw [hbindings] at hclean
    rw [hclean]
    refine ⟨⟨hb.text, rfl, fun st hst => ?_⟩, fun st hst => ?_⟩
    · cases hst
      exact ⟨rfl, rfl⟩
    · cases hst
      rfl

theorem bindData_statement (data : List (List UInt8)) (uuid : List UInt8)
    (query : SQLiteQuery Insert) : (bindData data uuid query).statement = query.statement := by
  have key : ∀ (xs : List (List UInt8 × Nat)) (query : SQLiteQuery Insert),
      (xs.foldl (fun query x => query.bindChars (x.2 + 1) x.1) query).statement
        = query.statement := by
    intro xs
    induction xs with
    | nil => exact fun query => rfl
    | cons x xs ih => exact fun query => ih (query.bindChars (x.2 + 1) x.1)
  exact key data.zipIdx (query.bindChars 0 uuid)

theorem bindValues_succeeds {insert : Insert} {query : SQLiteQuery Insert}
    (hq : Clean insert query ∧ On n query) {data : List (List UInt8)} {uuid : List UInt8}
    (hlen : data.length + 1 ≤ insert.parameters.length)
    (haccepts : Accepts (insert.table, rowOf insert (chars uuid :: data.map chars)) d)
    (hc : Quietly base n d c) :
    Succeeds base n d [(insert.table, rowOf insert (chars uuid :: data.map chars))]
      (fun query => Clean insert query ∧ On n query) (bindValues query data uuid) c := by
  have hon : On n (bindData data uuid query) := by
    intro st hst
    rw [bindData_statement] at hst
    exact hq.2 st hst
  have hlen' : (chars uuid :: data.map chars).length ≤ insert.parameters.length := by
    rw [List.length_cons, List.length_map]
    exact hlen
  exact (execute_succeeds (Bound.bindData hq.1 data uuid) hon hlen' haccepts hc).map
    fun query hgood => ⟨query, rfl, hgood⟩

theorem bindValuesModifier_succeeds {insert : Insert} (hparams : insert.parameters.length = 3)
    (uuids : Nat → List UInt8) (uuid : List UInt8) (modifiers : List (List UInt8)) :
    ∀ (m : Nat) (d : Tables) (query : SQLiteQuery Insert) (c : SQLiteConnection Tables),
      Clean insert query ∧ On n query →
      AcceptsAll (modifierRows insert uuids uuid m modifiers) d → Quietly base n d c →
      Succeeds base n d (modifierRows insert uuids uuid m modifiers)
        (fun query => Clean insert query ∧ On n query)
        (bindValuesModifier uuids uuid m query modifiers) c := by
  induction modifiers with
  | nil => exact fun m d query c hq _ hc => ⟨query, c, rfl, hq, hc⟩
  | cons modifier modifiers ih =>
    intro m d query c hq haccepts hc
    have hb := ((hq.1.bound.bindChars (uuids m)).bindChars uuid).bindChars modifier
    refine (execute_succeeds hb hq.2 (Nat.le_of_eq hparams.symm) haccepts.1 hc).bind
      fun query' c' hgood hc' => ?_
    exact ih (m + 1) _ query' c' hgood haccepts.2 hc'

/-- every statement of a batch is clean between two entries, and prepared on the handle -/
def Prepared (n : Nat) (statements : Statements) : Prop :=
  CleanStatements statements ∧ ∀ t, ∀ query ∈ statements t, On n query

/-- no statement is made before the first entry -/
theorem prepared_none (n : Nat) : Prepared n fun _ => none := by
  constructor
  · intro t query h
    cases h
  · intro t query h
    cases h

theorem Prepared.update {statements : Statements} (h : Prepared n statements) {t : TableName}
    {query : SQLiteQuery Insert} (hq : Clean (insertInto t) query ∧ On n query) :
    Prepared n (Function.update statements t (some query)) := by
  refine ⟨h.1.update hq.1, fun t' query' hq' => ?_⟩
  by_cases e : t' = t
  · subst e
    rw [Function.update_self] at hq'
    cases hq'
    exact hq.2
  · rw [Function.update_of_ne e] at hq'
    exact h.2 t' query' hq'

theorem Prepared.setOptionalStatement {statements : Statements} (h : Prepared n statements)
    {insert : Insert} (hi : insertInto insert.table = insert) :
    Clean insert (setOptionalStatement (statements insert.table) insert) ∧
      On n (setOptionalStatement (statements insert.table) insert) := by
  refine ⟨h.1.setOptionalStatement hi, ?_⟩
  unfold DatabaseStorage.setOptionalStatement
  cases hs : statements insert.table with
  | none => exact nofun
  | some query => exact h.2 _ query hs

theorem insertEvents_succeeds {uuids : Nat → List UInt8} {m : Nat} {entry : Entry}
    {statements : Statements} (hlen : entry.data.length = entry.type.fields.length)
    (h : Prepared n statements) (haccepts : AcceptsAll (entryRows uuids m entry) d)
    (hc : Quietly base n d c) :
    Succeeds base n d (entryRows uuids m entry) (Prepared n)
      (insertEvents uuids m entry statements (insertsOf entry.type).1 (insertsOf entry.type).2)
      c := by
  have h₁ : insertInto (insertsOf entry.type).1.table = (insertsOf entry.type).1 := by
    cases entry.type <;> rfl
  have h₂ : insertInto (insertsOf entry.type).2.table = (insertsOf entry.type).2 := by
    cases entry.type <;> rfl
  have hwidth : entry.data.length + 1 ≤ (insertsOf entry.type).1.parameters.length := by
    rw [hlen]
    cases entry.type <;> decide
  have hthree : (insertsOf entry.type).2.parameters.length = 3 := by
    cases entry.type <;> rfl
  refine (bindValues_succeeds (h.setOptionalStatement h₁) hwidth haccepts.1 hc).bind
    fun query c' hquery hc' => ?_
  refine (bindValuesModifier_succeeds hthree uuids (uuids m) entry.modifiers (m + 1) _
    _ c' (h.setOptionalStatement h₂) haccepts.2 hc').map fun modifierQuery hm => ⟨_, rfl, ?_⟩
  refine (h.update ?_).update ?_
  · rw [h₂]
    exact hm
  · rw [h₁]
    exact hquery

theorem storeEntries_succeeds (uuids : Nat → List UInt8) {entries : List Entry}
    (hbuilt : ∀ entry ∈ entries, entry.Built ∨ entry.data = []) :
    ∀ (m : Nat) (d : Tables) (statements : Statements) (c : SQLiteConnection Tables),
      Prepared n statements → AcceptsAll (batchRows uuids m entries) d → Quietly base n d c →
      ∃ c', (storeEntries uuids m statements entries).run answer c = (.ok (), c') ∧
        Quietly base n (addRows (batchRows uuids m entries) d) c' := by
  induction entries with
  | nil => exact fun m d statements c _ _ hc => ⟨c, rfl, hc⟩
  | cons entry entries ih =>
    intro m d statements c h haccepts hc
    have hrest := ih fun entry he => hbuilt entry (List.mem_cons_of_mem _ he)
    unfold storeEntries batchRows
    unfold batchRows at haccepts
    by_cases he : entry.data.isEmpty
    · rw [if_pos he] at haccepts ⊢
      rw [if_pos he]
      exact hrest m d statements c h haccepts hc
    · rw [if_neg he] at haccepts ⊢
      rw [if_neg he]
      have hentry : entry.Built := Entry.built_of_data (hbuilt entry (List.mem_cons_self ..)) he
      obtain ⟨hfirst, hlast⟩ := acceptsAll_append.mp haccepts
      obtain ⟨statements', c', hrun, hs', hc'⟩ :=
        insertEvents_succeeds hentry.length_data h hfirst hc
      obtain ⟨c'', hrun', hc''⟩ := hrest _ _ statements' c' hs' hlast hc'
      refine ⟨c'', ?_, ?_⟩
      · rw [Prog.run_bind, hrun]
        exact hrun'
      · rw [addRows_append]
        exact hc''

end

/-! ## the keys of a batch -/

/-- what the store relies on of the generator of uuids: they differ, and no table has one of them -/
structure FreshUuids (uuids : Nat → List UInt8) (d : Tables) : Prop where
  distinct : ∀ m n, chars (uuids m) = chars (uuids n) → m = n
  unused : ∀ t, ∀ row ∈ d t, ∀ n, chars (uuids n) ∉ row

section
variable (uuids : Nat → List UInt8)

def Texts (row : TableName × List Value) : Prop :=
  row.2.length = row.1.columns.length ∧ ∀ v ∈ row.2, ∃ s, v = chars s

theorem modifierRows_texts (type : EntryType) (uuid : List UInt8) (modifiers : List (List UInt8))
    (m : Nat) : ∀ row ∈ modifierRows (insertInto (modifierTableOf type)) uuids uuid m modifiers,
      Texts row := by
  rw [modifierRows_eq]
  intro row hrow
  obtain ⟨⟨modifier, k⟩, -, rfl⟩ := List.mem_map.mp hrow
  refine ⟨by cases type <;> rfl, fun v hv => ?_⟩
  rcases List.mem_cons.mp hv with rfl | hv
  · exact ⟨_, rfl⟩
  rcases List.mem_cons.mp hv with rfl | hv
  · exact ⟨_, rfl⟩
  · exact ⟨_, List.mem_singleton.mp hv⟩

theorem modifierRows_keys (type : EntryType) (uuid : List UInt8) (modifiers : List (List UInt8))
    (m : Nat) :
    (modifierRows (insertInto (modifierTableOf type)) uuids uuid m modifiers).map
        (fun row => row.2.head?)
      = (List.range' m modifiers.length).map fun k => some (chars (uuids k)) := by
  induction modifiers generalizing m with
  | nil => rfl
  | cons modifier modifiers ih =>
    have hrow : ∀ a b c : Value, rowOf (insertInto (modifierTableOf type)) [a, b, c] = [a, b, c] :=
      fun a b c => rowOf_eq (by cases type <;> rfl)
    rw [modifierRows, List.map_cons, ih, hrow, List.length_cons, List.range'_succ, List.map_cons]
    rfl

/-- the rows of an entry: its own, and those of its modifiers -/
theorem entryRows_eq {entry : Entry} (hlen : entry.data.length = entry.type.fields.length)
    (m : Nat) : entryRows uuids m entry
      = (tableOf entry.type, chars (uuids m) :: entry.data.map chars)
        :: modifierRows (insertInto (modifierTableOf entry.type)) uuids (uuids m) (m + 1)
          entry.modifiers := by
  have hwidth : (chars (uuids m) :: entry.data.map chars).length
      = (tableOf entry.type).columns.length := by
    rw [List.length_cons, List.length_map, hlen]
    cases entry.type <;> rfl
  rw [entryRows, insertsOf_eq]
  simp only
  rw [rowOf_eq hwidth, (insertInto_values _).2.2]

theorem batchRows_texts {entries : List Entry}
    (hbuilt : ∀ entry ∈ entries, entry.Built ∨ entry.data = []) (m : Nat) :
    ∀ row ∈ batchRows uuids m entries, Texts row := by
  induction entries generalizing m with
  | nil => exact nofun
  | cons entry entries ih =>
    have hrest := fun m => ih (fun entry he => hbuilt entry (List.mem_cons_of_mem _ he)) m
    unfold batchRows
    by_cases he : entry.data.isEmpty
    · rw [if_pos he]
      exact hrest m
    · rw [if_neg he]
      have hlen : entry.data.length = entry.type.fields.length :=
        (Entry.built_of_data (hbuilt entry (List.mem_cons_self ..)) he).length_data
      rw [entryRows_eq uuids hlen]
      intro row hrow
      rcases List.mem_append.mp hrow with hrow | hrow
      · rcases List.mem_cons.mp hrow with rfl | hrow
        · refine ⟨?_, fun v hv => ?_⟩
          · show (chars (uuids m) :: entry.data.map chars).length = _
            rw [List.length_cons, List.length_map, hlen]
            cases entry.type <;> rfl
          · rcases List.mem_cons.mp hv with rfl | hv
            · exact ⟨_, rfl⟩
            · obtain ⟨s, -, rfl⟩ := List.mem_map.mp hv
              exact ⟨s, rfl⟩
        · exact modifierRows_texts uuids entry.type (uuids m) entry.modifiers (m + 1) row hrow
      · exact hrest _ row hrow

/-- the rows of a batch take the uuids one after another -/
theorem batchRows_keys {entries : List Entry}
    (hbuilt : ∀ entry ∈ entries, entry.Built ∨ entry.data = []) (m : Nat) :
    (batchRows uuids m entries).map (fun row => row.2.head?)
      = (List.range' m (batchRows uuids m entries).length).map fun k => some (chars (uuids k)) := by
  induction entries generalizing m with
  | nil => rfl
  | cons entry entries ih =>
    have hrest := fun m => ih (fun entry he => hbuilt entry (List.mem_cons_of_mem _ he)) m
    unfold batchRows
    by_cases he : entry.data.isEmpty
    · rw [if_pos he]
      exact hrest m
    · rw [if_neg he]
      have hlen : entry.data.length = entry.type.fields.length :=
        (Entry.built_of_data (hbuilt entry (List.mem_cons_self ..)) he).length_data
      have hcount : (entryRows uuids m entry).length = 1 + entry.modifiers.length := by
        have hkeys := congrArg List.length
          (modifierRows_keys uuids entry.type (uuids m) entry.modifiers (m + 1))
        rw [List.length_map, List.length_map, List.length_range'] at hkeys
        rw [entryRows_eq uuids hlen, List.length_cons, hkeys, Nat.add_comm]
      have hfirst : (entryRows uuids m entry).map (fun row => row.2.head?)
          = (List.range' m (1 + entry.modifiers.length)).map fun k => some (chars (uuids k)) := by
        rw [entryRows_eq uuids hlen, List.map_cons, modifierRows_keys, Nat.add_comm 1,
          List.range'_succ, List.map_cons]
        rfl
      rw [List.map_append, hfirst, hrest, ← List.map_append, List.length_append, hcount,
        Nat.add_assoc m, List.range'_append_1]

end

theorem batchRows_keys_nodup {uuids : Nat → List UInt8} {entries : List Entry} {d : Tables}
    (hbuilt : ∀ entry ∈ entries, entry.Built ∨ entry.data = []) (hfresh : FreshUuids uuids d) :
    ((batchRows uuids 0 entries).map fun row => row.2.head?).Nodup := by
  rw [batchRows_keys uuids hbuilt 0]
  exact List.Nodup.map (fun m n h => hfresh.distinct m n (Option.some.inj h)) List.nodup_range'

theorem batchRows_accepts {uuids : Nat → List UInt8} {entries : List Entry} {d : Tables}
    (hbuilt : ∀ entry ∈ entries, entry.Built ∨ entry.data = []) (hfresh : FreshUuids uuids d) :
    AcceptsAll (batchRows uuids 0 entries) d := by
  have hkeys := batchRows_keys uuids hbuilt 0
  refine acceptsAll_of_keys (fun row hrow => ?_) (batchRows_keys_nodup hbuilt hfresh)
    fun row hrow t other hother e => ?_
  · obtain ⟨hwidth, htexts⟩ := batchRows_texts uuids hbuilt 0 row hrow
    refine ⟨hwidth, fun v hv => ?_⟩
    obtain ⟨s, rfl⟩ := htexts v hv
    exact nofun
  · have hmem : row.2.head? ∈ (batchRows uuids 0 entries).map fun row => row.2.head? :=
      List.mem_map_of_mem hrow
    rw [hkeys] at hmem
    obtain ⟨k, -, hk⟩ := List.mem_map.mp hmem
    rw [← hk] at e
    exact hfresh.unused t other hother k (List.mem_of_mem_head? e)

/-! ## the whole call -/

theorem storeEvent_quiet {uuids : Nat → List UInt8} {events : Data}
    (hbuilt : ∀ entry ∈ events.entries, entry.Built ∨ entry.data = [])
    {c : SQLiteConnection Tables} (hquiet : c.file.Quiet)
    (hfresh : FreshUuids uuids c.file.content) :
    ∃ c' : SQLiteConnection Tables, (storeEvent uuids events).run answer c = (.ok (), c') ∧
      c'.file.Quiet := by
  unfold storeEvent
  cases he : events.empty with
  | true => exact ⟨c, rfl, hquiet⟩
  | false =>
    obtain ⟨hconnect, hclosed, hsome, hquiet₁⟩ := SQLiteConnection.connect_quiet hquiet
    have hcon₁ := c.connect_content
    rcases hx : c.connect with ⟨r, c₁⟩
    rw [hx] at hconnect hclosed hsome hquiet₁ hcon₁
    have hr : r = .ok () := hconnect
    subst hr
    obtain ⟨hbegin, hquiet₂⟩ := SQLiteConnection.begin_quiet hclosed hsome hquiet₁
    have hin := SQLiteConnection.begin_ok hbegin
    rcases hy : c₁.begin with ⟨r, c₂⟩
    rw [hy] at hbegin hquiet₂ hin
    have hr : r = .ok () := hbegin
    subst hr
    obtain ⟨db, hdb, hpending⟩ := hin.sees
    have huses : c₂.Uses db.handle := by
      rw [SQLiteConnection.Uses, hdb]
      rfl
    have hfresh' : FreshUuids uuids c₁.file.content := by
      rw [hcon₁]
      exact hfresh
    obtain ⟨c₃, hrun, hc₃⟩ := storeEntries_succeeds uuids hbuilt 0 _ (fun _ => none) c₂
      (prepared_none db.handle) (batchRows_accepts hbuilt hfresh') ⟨hin, hquiet₂, huses⟩
    obtain ⟨hcommit, hquiet₄⟩ := (SQLiteConnection.commit_spec hc₃.transaction).2.2.1 hc₃.quiet
    rcases hz : c₃.commit with ⟨r, c₄⟩
    rw [hz] at hcommit hquiet₄
    have hr : r = .ok () := hcommit
    subst hr
    have hanswer₁ : answer .connect c = (.ok (), c₁) := hx
    have hanswer₂ : answer .begin c₁ = (.ok (), c₂) := hy
    have hanswer₃ : answer .commit c₃ = (.ok (), c₄) := hz
    refine ⟨c₄, ?_, hquiet₄⟩
    show Prog.run answer (.call .connect _) c = _
    rw [Prog.run, hanswer₁]
    show Prog.run answer (.call .begin _) c₁ = _
    rw [Prog.run, hanswer₂]
    show Prog.run answer (Prog.bind (storeEntries uuids 0 _ events.entries) _) c₂ = _
    rw [Prog.run_bind, hrun]
    show Prog.run answer (.call .commit _) c₃ = _
    rw [Prog.run, hanswer₃]
    rfl

/-- **The call succeeds**: nothing is refused, and the uuids are new. -/
theorem storeEvent_accepts {uuids : Nat → List UInt8} {events : Data}
    (hbuilt : ∀ entry ∈ events.entries, entry.Built ∨ entry.data = [])
    {c : SQLiteConnection Tables} (hquiet : c.file.Quiet)
    (hfresh : FreshUuids uuids c.file.content) :
    ((storeEvent uuids events).run answer c).1 = .ok () := by
  obtain ⟨c', hrun, -⟩ := storeEvent_quiet hbuilt hquiet hfresh
  rw [hrun]

end DatabaseStorage
end Evget
