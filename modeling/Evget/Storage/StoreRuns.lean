import Evget.Storage.StoreProtocol

/-!
# Runs of `storeEvent`

Calls on one store, one after another.

* `storeAll_content`   whatever fails, the file has the rows of exactly the calls that succeeded, in
                       the order of the calls;
* `storeEvent_rows`    which rows a successful call has added, by the names of their columns.
-/

namespace Evget
open SQLite
open Calls

namespace DatabaseStorage

/-! ## one call -/

/-- **One call**: a success has added the rows of its batch, a failure none. -/
theorem storeEvent_content (uuids : Nat → List UInt8) (events : Data)
    (c : SQLiteConnection Tables) :
    ((storeEvent uuids events).run answer c).2.file.content
      = match ((storeEvent uuids events).run answer c).1 with
        | .ok () => addRows (batchRows uuids 0 events.entries) c.file.content
        | .error _ => c.file.content := by
  have hstart : Holds c.file.content .before c := rfl
  obtain ⟨p, hend, hp⟩ := (storeEvent_follows uuids events).run
    (fun p c call h ha => answer_holds p c call h ha) hstart
  generalize (storeEvent uuids events).run answer c = out at hend hp
  obtain ⟨_ | u, c'⟩ := out
  · cases p with
    | before => exact hp
    | failed => exact hp
    | inside rows => exact hend.elim
    | stored rows => exact hend.elim
  · cases p with
    | before =>
      have hrows : batchRows uuids 0 events.entries = [] := hend
      rw [hrows]
      exact hp
    | stored rows =>
      have hrows : rows = batchRows uuids 0 events.entries := hend
      rw [← hrows]
      exact hp
    | inside rows => exact hend.elim
    | failed => exact hend.elim

/-! ## one call after another -/

/-- calls on one store, each with the uuids that it generates -/
def storeAll : List ((Nat → List UInt8) × Data) → SQLiteConnection Tables →
    List (Result Unit) × SQLiteConnection Tables
  | [], c => ([], c)
  | (uuids, events) :: calls, c =>
    let (result, c) := (storeEvent uuids events).run answer c
    let (results, c) := storeAll calls c
    (result :: results, c)

def successRows : List ((Nat → List UInt8) × Data) → List (Result Unit) →
    List (TableName × List Value)
  | (uuids, events) :: calls, .ok () :: results =>
    batchRows uuids 0 events.entries ++ successRows calls results
  | _ :: calls, .error _ :: results => successRows calls results
  | _, _ => []

/-- **Any sequence of calls**, with a failure possible at every request: the file has the rows of
the successful calls, in the order of the calls, and no others. -/
theorem storeAll_content (calls : List ((Nat → List UInt8) × Data)) (c : SQLiteConnection Tables) :
    (storeAll calls c).2.file.content
      = addRows (successRows calls (storeAll calls c).1) c.file.content := by
  induction calls generalizing c with
  | nil => rfl
  | cons call calls ih =>
    obtain ⟨uuids, events⟩ := call
    have hone := storeEvent_content uuids events c
    show (storeAll calls ((storeEvent uuids events).run answer c).2).2.file.content
      = addRows (successRows ((uuids, events) :: calls) (((storeEvent uuids events).run answer c).1
          :: (storeAll calls ((storeEvent uuids events).run answer c).2).1)) c.file.content
    rw [ih]
    generalize (storeEvent uuids events).run answer c = out at hone ⊢
    obtain ⟨_ | u, c'⟩ := out
    · rw [show c'.file.content = c.file.content from hone]
      rfl
    · have h : c'.file.content = addRows (batchRows uuids 0 events.entries) c.file.content := hone
      rw [successRows, addRows_append, ← h]

/-! ## the rows by the names of their columns -/

def tableOf : EntryType → TableName
  | .key => .key
  | .mouseClick => .mouseClick
  | .mouseMove => .mouseMove
  | .mouseScroll => .mouseScroll

def modifierTableOf : EntryType → TableName
  | .key => .keyModifier
  | .mouseClick => .mouseClickModifier
  | .mouseMove => .mouseMoveModifier
  | .mouseScroll => .mouseScrollModifier

/-- the value for the column `name`: the uuid, or the field of that name -/
def columnValue (entry : Entry) (uuid : List UInt8) (name : List UInt8) : Value :=
  if name = bytes "uuid" then chars uuid
  else
    match entry.getEntryWithFields.field name with
    | some s => chars s
    | none => .null

def namedRow (entry : Entry) (uuid : List UInt8) : List Value :=
  (tableOf entry.type).columns.map fun column => columnValue entry uuid column.name

def namedModifierRows (entry : Entry) (uuids : Nat → List UInt8) (n : Nat) :
    List (TableName × List Value) :=
  entry.modifiers.zipIdx.map fun (modifier, k) =>
    (modifierTableOf entry.type, [chars (uuids (n + 1 + k)), chars (uuids n), chars modifier])

/-- the rows of a batch: of every entry with data its own and those of its modifiers -/
def namedRows (uuids : Nat → List UInt8) : Nat → List Entry → List (TableName × List Value)
  | _, [] => []
  | n, entry :: entries =>
    if entry.data.isEmpty then namedRows uuids n entries
    else (tableOf entry.type, namedRow entry (uuids n)) :: namedModifierRows entry uuids n
      ++ namedRows uuids (n + 1 + entry.modifiers.length) entries

/-- the parameters of every statement are the columns of its table, in their order -/
theorem insertInto_values (t : TableName) :
    (insertInto t).values.map (insertInto t).parameters.idxOf = List.range t.columns.length ∧
      (insertInto t).parameters.length = t.columns.length ∧ (insertInto t).table = t := by
  cases t <;> decide

theorem rowOf_eq {t : TableName} {values : List Value} (h : values.length = t.columns.length) :
    rowOf (insertInto t) values = values := by
  obtain ⟨hvalues, hlen, -⟩ := insertInto_values t
  have hrow : ∀ bindings, (insertInto t).row bindings
      = (List.range t.columns.length).map fun k => bindings.getD k .null := by
    intro bindings
    rw [← hvalues, List.map_map]
    rfl
  rw [rowOf, hrow, hlen, h, Nat.sub_self, List.replicate_zero, List.append_nil, ← h]
  refine List.ext_getElem (by simp) fun k h₁ h₂ => ?_
  simp [h₂]

theorem columns_eq (type : EntryType) :
    (tableOf type).columns.map Column.name = bytes "uuid" :: type.fields ∧
      (bytes "uuid" :: type.fields).Nodup := by
  cases type <;> decide +kernel

/-- **By position and by name**: with one text for each name of its type, an entry's row has under
every name the text of that name. -/
theorem rowOf_entry {entry : Entry} (hlen : entry.data.length = entry.type.fields.length)
    (uuid : List UInt8) :
    rowOf (insertInto (tableOf entry.type)) (chars uuid :: entry.data.map chars)
      = namedRow entry uuid := by
  obtain ⟨hcols, hnodup⟩ := columns_eq entry.type
  obtain ⟨hnot, hnodup⟩ := List.nodup_cons.mp hnodup
  have hwidth : (chars uuid :: entry.data.map chars).length
      = (tableOf entry.type).columns.length := by
    rw [← List.length_map Column.name, hcols, List.length_cons, List.length_cons, List.length_map,
      hlen]
  have hnamed : namedRow entry uuid
      = ((tableOf entry.type).columns.map Column.name).map (columnValue entry uuid) := by
    rw [List.map_map]
    rfl
  rw [rowOf_eq hwidth, hnamed, hcols, List.map_cons]
  have huuid : columnValue entry uuid (bytes "uuid") = chars uuid := if_pos rfl
  have hfields : entry.type.fields.map (columnValue entry uuid)
      = (entry.type.fields.map fun name => (entry.type.fields.zip entry.data).lookup name).map
          fun text => (text.map chars).getD .null := by
    rw [List.map_map]
    refine List.map_congr_left fun name hname => ?_
    have hne : name ≠ bytes "uuid" := fun e => hnot (e ▸ hname)
    rw [columnValue, if_neg hne]
    show _ = (((entry.type.fields.zip entry.data).lookup name).map chars).getD Value.null
    show (match (entry.type.fields.zip entry.data).lookup name with
      | some s => chars s
      | none => Value.null) = _
    cases (entry.type.fields.zip entry.data).lookup name <;> rfl
  rw [huuid, hfields, map_lookup_zip hlen hnodup, List.map_map]
  rfl

theorem modifierRows_eq (type : EntryType) (uuids : Nat → List UInt8) (uuid : List UInt8)
    (modifiers : List (List UInt8)) (n : Nat) :
    modifierRows (insertInto (modifierTableOf type)) uuids uuid n modifiers
      = modifiers.zipIdx.map fun (modifier, k) =>
          (modifierTableOf type, [chars (uuids (n + k)), chars uuid, chars modifier]) := by
  have hrow : ∀ a b c : Value, rowOf (insertInto (modifierTableOf type)) [a, b, c] = [a, b, c] :=
    fun a b c => rowOf_eq (by cases type <;> rfl)
  have htable : (insertInto (modifierTableOf type)).table = modifierTableOf type :=
    (insertInto_values _).2.2
  induction modifiers generalizing n with
  | nil => rfl
  | cons modifier modifiers ih =>
    rw [modifierRows, ih, hrow, htable, List.zipIdx_cons, List.map_cons, Nat.zero_add,
      List.zipIdx_succ, List.map_map]
    simp only [Nat.add_zero, Function.comp_def, Nat.add_assoc, Nat.add_comm 1]

theorem insertsOf_eq (type : EntryType) :
    insertsOf type = (insertInto (tableOf type), insertInto (modifierTableOf type)) := by
  cases type <;> rfl

theorem batchRows_eq {entries : List Entry}
    (h : ∀ entry ∈ entries, entry.Built ∨ entry.data = []) (uuids : Nat → List UInt8) (n : Nat) :
    batchRows uuids n entries = namedRows uuids n entries := by
  induction entries generalizing n with
  | nil => rfl
  | cons entry entries ih =>
    have hrest := fun m => ih (fun entry he => h entry (List.mem_cons_of_mem _ he)) m
    unfold batchRows namedRows
    by_cases he : entry.data.isEmpty
    · rw [if_pos he, if_pos he, hrest]
    · rw [if_neg he, if_neg he, hrest]
      have hbuilt : entry.Built := Entry.built_of_data (h entry (List.mem_cons_self ..)) he
      rw [entryRows, insertsOf_eq]
      simp only
      rw [rowOf_entry hbuilt.length_data, modifierRows_eq, (insertInto_values _).2.2]
      rfl

/-- **What a success adds**: in each table, behind the rows that it had, exactly the rows of the
entries with data and of their modifiers that belong to it, in the order of the entries, and under
the name of each column the text of the field of that name. -/
theorem storeEvent_rows (uuids : Nat → List UInt8) (events : Data)
    (hbuilt : ∀ entry ∈ events.entries, entry.Built ∨ entry.data = [])
    (c : SQLiteConnection Tables) (hok : ((storeEvent uuids events).run answer c).1 = .ok ())
    (t : TableName) :
    ((storeEvent uuids events).run answer c).2.file.content t
      = c.file.content t ++
        ((namedRows uuids 0 events.entries).filter fun row => row.1 = t).map Prod.snd := by
  have h := storeEvent_content uuids events c
  rw [hok] at h
  rw [show _ = addRows (batchRows uuids 0 events.entries) c.file.content from h, addRows_apply,
    batchRows_eq hbuilt]

/-! ### a key and a click -/

def sampleUuids (n : Nat) : List UInt8 := bytes "uuid-" ++ decimal n

def sampleKey : Key :=
  Builder.mapBase (fun base => ((base.timestamp 0).device .keyboard).modifier .shift)
    (((({} : Key).button 38).buttonName (bytes "a")).action .press)

def sampleClick : MouseClick :=
  Builder.mapBase (fun base => (base.timestamp 1000).device .mouse)
    ((({} : MouseClick).button 1).action .release)

def sampleEvents : Data := Builder.build sampleClick (Builder.build sampleKey .new)

def fresh : SQLiteConnection Tables := ⟨⟨fun _ => [], [], [], 0⟩, none, none⟩

def texts (ss : List String) : List Value := ss.map fun s => chars (bytes s)

theorem sampleEvents_clicks :
    let tables := ((storeEvent sampleUuids sampleEvents).run answer fresh).2.file.content
    tables .key = [texts (["uuid-0", "", "1970-01-01T00:00:00.000000000+0000"]
        ++ List.replicate 12 "" ++ ["1", "38", "a", "", "0"])] ∧
      tables .keyModifier = [texts ["uuid-1", "uuid-0", "0"]] ∧
      tables .mouseClick = [texts (["uuid-2", "", "1970-01-01T00:00:00.000001000+0000"]
        ++ List.replicate 12 "" ++ ["0", "", "1", "", "1"])] ∧
      tables .mouseClickModifier = [] := by
  have hbuilt : ∀ entry ∈ sampleEvents.entries, entry.Built ∨ entry.data = [] := by
    intro entry he
    rcases List.mem_pair.mp he with rfl | rfl
    · exact .inl (.key sampleKey)
    · exact .inl (.mouseClick sampleClick)
  have hrows := storeEvent_rows sampleUuids sampleEvents hbuilt fresh rfl
  refine ⟨(hrows .key).trans ?_, (hrows .keyModifier).trans ?_, (hrows .mouseClick).trans ?_,
    (hrows .mouseClickModifier).trans ?_⟩
  all_goals decide +kernel

end DatabaseStorage
end Evget
