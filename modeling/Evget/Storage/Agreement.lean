import Evget.Storage.JsonStorage
import Evget.Storage.StoreAccepts

/-!
# The two storages of the same entries

The JSON storage counts the bytes of a text and refuses one that is not UTF-8; the database storage
binds the bytes before the first NUL, whatever they are.

* `boundField`, `boundModifiers`   what the tables have of an entry;
* `nameIn`                         the name of a number in one of the tables of types;
* `Agree`                          both storages accept the entries and have the same texts;
* `agree_iff`                      when this is so.
-/

namespace Evget
open SQLite
open Calls

/-! ## the tables of types -/

/-- the name of a number that was bound; a text that is no number of the table has none -/
def nameIn (table : List (Int × List UInt8)) (text : List UInt8) : List UInt8 :=
  match table.find? fun row => decimal row.1 = text with
  | some row => row.2
  | none => []

/-- what a bound text stands for in the column `name` -/
def throughTables (name text : List UInt8) : List UInt8 :=
  if name = bytes "device_type" then nameIn deviceTypeTable text
  else if name = bytes "button_action" then nameIn buttonActionTable text
  else text

/-! ## what the tables have of an entry -/

namespace DatabaseStorage

def textOf : Value → Option (List UInt8)
  | .text s => some s
  | _ => none

/-- the text in the column `name`, in the row with this key -/
def boundField (d : Tables) (type : EntryType) (uuid name : List UInt8) : Option (List UInt8) := do
  let row ← (d (tableOf type)).find? fun row => row.head? = some (chars uuid)
  let value ← (((tableOf type).columns.map Column.name).zip row).lookup name
  textOf value

def modifierOf (uuid : List UInt8) (row : List Value) : Option (List UInt8) :=
  if row[1]? = some (chars uuid) then row[2]?.bind textOf else none

def boundModifiers (d : Tables) (type : EntryType) (uuid : List UInt8) : List (List UInt8) :=
  (d (modifierTableOf type)).filterMap (modifierOf uuid)

def uuidCount (drafts : List Draft) : Nat :=
  (drafts.map fun draft => 1 + draft.modifiers.length).sum

end DatabaseStorage

/-! ## the agreement -/

/-- a text that both storages keep as it is -/
def Storable (text : List UInt8) : Prop := Utf8 text ∧ ∀ b ∈ text, b ≠ 0

instance (text : List UInt8) : Decidable (Storable text) := inferInstanceAs (Decidable (_ ∧ _))

/-- both storages accept the entries, and have the same texts of each of them: under the name of a
field, and of its modifiers -/
structure Agree (dump : Nat → Json → Option (List UInt8)) (uuids : Nat → List UInt8)
    (drafts : List Draft) (storage : JsonStorage) (c : SQLiteConnection Tables) : Prop where
  json : ∃ storage', JsonStorage.storeEvent dump (buildAll drafts) storage
    = .ok (.ok (), storage')
  database : ((DatabaseStorage.storeEvent uuids (buildAll drafts)).run
    DatabaseStorage.answer c).1 = .ok ()
  texts : ∃ document, JsonStorage.output (buildAll drafts) = .ok document ∧
    ∀ pre draft post, drafts = pre ++ draft :: post →
      let uuid := uuids (DatabaseStorage.uuidCount pre)
      let tables := ((DatabaseStorage.storeEvent uuids (buildAll drafts)).run
        DatabaseStorage.answer c).2.file.content
      (∀ name ∈ draft.type.fields, ∃ text bound,
        JsonStorage.recordedField document pre.length name = some text ∧
        DatabaseStorage.boundField tables draft.type uuid name = some bound ∧
        text = throughTables name bound) ∧
      JsonStorage.recordedModifiers document pre.length
        = some ((DatabaseStorage.boundModifiers tables draft.type uuid).map (nameIn modifierTable))

namespace DatabaseStorage

/-! ## the rows of one entry among all rows -/

theorem tableOf_ne_modifierTableOf (type type' : EntryType) :
    tableOf type ≠ modifierTableOf type' := by
  cases type <;> cases type' <;> decide

section
variable (uuids : Nat → List UInt8)

/-- an entry that was built takes one uuid for itself and one for each of its modifiers -/
theorem namedRows_draft (draft : Draft) (m : Nat) (entries : List Entry) :
    namedRows uuids m (draft.entry :: entries)
      = (tableOf draft.type, namedRow draft.entry (uuids m))
        :: namedModifierRows draft.entry uuids m
        ++ namedRows uuids (m + (1 + draft.modifiers.length)) entries := by
  obtain ⟨device, action, -, -, hentry⟩ := draft.entry_eq
  have hdata : draft.entry.data.isEmpty = false := by
    have hlen := draft.built.length_data
    cases hnil : draft.entry.data with
    | nil =>
      rw [hnil] at hlen
      cases draft <;> cases hlen
    | cons s data => rfl
  have htype : draft.entry.type = draft.type := by rw [hentry]
  have hmodifiers : draft.entry.modifiers.length = draft.modifiers.length := by
    rw [hentry, List.length_map]
  rw [namedRows, hdata, if_neg Bool.false_ne_true, htype, hmodifiers, Nat.add_assoc]

theorem namedRows_append (pre : List Draft) (entries : List Entry) (m : Nat) :
    namedRows uuids m (pre.map Draft.entry ++ entries)
      = namedRows uuids m (pre.map Draft.entry) ++ namedRows uuids (m + uuidCount pre) entries := by
  induction pre generalizing m with
  | nil => rfl
  | cons draft pre ih =>
    have hcount : m + uuidCount (draft :: pre)
        = m + (1 + draft.modifiers.length) + uuidCount pre := by
      rw [uuidCount, List.map_cons, List.sum_cons, uuidCount, Nat.add_assoc m]
    rw [List.map_cons, List.cons_append, namedRows_draft, namedRows_draft, ih, hcount,
      List.append_assoc]

/-- a row of modifiers refers to the uuid of an entry of the batch -/
theorem namedRows_refers (drafts : List Draft) (m : Nat) (type : EntryType) :
    ∀ row ∈ namedRows uuids m (drafts.map Draft.entry), row.1 = modifierTableOf type →
      ∃ k, m ≤ k ∧ k < m + uuidCount drafts ∧ row.2[1]? = some (chars (uuids k)) := by
  induction drafts generalizing m with
  | nil => exact nofun
  | cons draft drafts ih =>
    intro row hrow htable
    have hcount : uuidCount (draft :: drafts) = 1 + draft.modifiers.length + uuidCount drafts := by
      rw [uuidCount, List.map_cons, List.sum_cons]
      rfl
    rw [List.map_cons, namedRows_draft] at hrow
    rw [hcount]
    rcases List.mem_append.mp hrow with hrow | hrow
    · rcases List.mem_cons.mp hrow with rfl | hrow
      · exact absurd htable (tableOf_ne_modifierTableOf draft.type type)
      · obtain ⟨⟨modifier, k⟩, -, rfl⟩ := List.mem_map.mp hrow
        exact ⟨m, Nat.le_refl m, by omega, rfl⟩
    · obtain ⟨k, hle, hlt, hk⟩ := ih _ row hrow htable
      exact ⟨k, by omega, by omega, hk⟩

variable {uuids} {base : Tables}

theorem filterMap_modifierOf_nil {rows : List (List Value)} {uuid : List UInt8}
    (h : ∀ row ∈ rows, row[1]? ≠ some (chars uuid)) : rows.filterMap (modifierOf uuid) = [] := by
  rw [List.filterMap_eq_nil_iff]
  intro row hrow
  exact if_neg (h row hrow)

theorem filterMap_modifierOf_own (uuids : Nat → List UInt8) (entry : Entry) (m : Nat) :
    ((((namedModifierRows entry uuids m).filter fun row => row.1 = modifierTableOf entry.type).map
      Prod.snd).filterMap (modifierOf (uuids m))) = entry.modifiers.map cstr := by
  have hall : ((namedModifierRows entry uuids m).filter
      fun row => row.1 = modifierTableOf entry.type) = namedModifierRows entry uuids m := by
    rw [List.filter_eq_self]
    intro row hrow
    obtain ⟨⟨modifier, k⟩, -, rfl⟩ := List.mem_map.mp hrow
    exact decide_eq_true rfl
  have hone : ∀ x : List UInt8 × Nat, modifierOf (uuids m)
      [chars (uuids (m + 1 + x.2)), chars (uuids m), chars x.1] = some (cstr x.1) :=
    fun x => if_pos rfl
  rw [hall, namedModifierRows, List.map_map, List.filterMap_map]
  show entry.modifiers.zipIdx.filterMap (fun x => modifierOf (uuids m)
    [chars (uuids (m + 1 + x.2)), chars (uuids m), chars x.1]) = _
  have hfst := congrArg (List.map cstr) (List.zipIdx_map_fst 0 entry.modifiers)
  rw [List.map_map] at hfst
  simp only [hone]
  rw [List.filterMap_eq_map']
  exact hfst

theorem filterMap_modifierOf_others (hfresh : FreshUuids uuids base) (type : EntryType)
    (drafts : List Draft) (own m : Nat)
    (hne : ∀ k, m ≤ k → k < m + uuidCount drafts → k ≠ own) :
    (((namedRows uuids m (drafts.map Draft.entry)).filter
      fun row => row.1 = modifierTableOf type).map Prod.snd).filterMap
        (modifierOf (uuids own)) = [] := by
  apply filterMap_modifierOf_nil
  intro row hrow
  obtain ⟨⟨t, _⟩, hmem, rfl⟩ := List.mem_map.mp hrow
  obtain ⟨hmem, htable⟩ := List.mem_filter.mp hmem
  obtain ⟨k, hle, hlt, hk⟩ := namedRows_refers uuids drafts m type _ hmem
    (of_decide_eq_true htable)
  rw [hk]
  intro e
  exact hne k hle hlt (hfresh.distinct k _ (Option.some.inj e))

/-- the modifiers that the tables have of one entry of a batch -/
theorem boundModifiers_draft (pre : List Draft) (draft : Draft) (post : List Draft)
    (hfresh : FreshUuids uuids base) :
    boundModifiers (addRows (namedRows uuids 0 ((pre ++ draft :: post).map Draft.entry)) base)
        draft.type (uuids (uuidCount pre)) = draft.modifiers.map toUnderlying := by
  obtain ⟨device, action, -, -, hentry⟩ := draft.entry_eq
  have htype : draft.entry.type = draft.type := by rw [hentry]
  have hbefore := filterMap_modifierOf_others hfresh draft.type pre (uuidCount pre) 0
    (by omega)
  have hbehind := filterMap_modifierOf_others hfresh draft.type post (uuidCount pre)
    (uuidCount pre + (1 + draft.modifiers.length)) (by omega)
  have hown := filterMap_modifierOf_own uuids draft.entry (uuidCount pre)
  have hbase : (base (modifierTableOf draft.type)).filterMap
      (modifierOf (uuids (uuidCount pre))) = [] := by
    apply filterMap_modifierOf_nil
    intro row hrow e
    exact hfresh.unused _ row hrow _ (List.mem_of_getElem? e)
  have hplain : ∀ modifier : ModifierValue,
      cstr (toUnderlying modifier) = toUnderlying modifier := by
    intro modifier
    cases modifier <;> decide
  rw [htype] at hown
  rw [List.map_append, List.map_cons, namedRows_append, Nat.zero_add, namedRows_draft]
  unfold boundModifiers
  rw [addRows_apply, List.filterMap_append, hbase, List.filter_append, List.map_append,
    List.filterMap_append, hbefore, List.filter_append, List.map_append,
    List.filterMap_append, hbehind, List.filter_cons_of_neg (by
      simpa using tableOf_ne_modifierTableOf draft.type draft.type), hown, hentry]
  simp only [List.nil_append, List.append_nil, List.map_map]
  exact List.map_congr_left fun modifier _ => hplain modifier

/-! ## the fields of one entry -/

theorem drafts_built (drafts : List Draft) :
    ∀ entry ∈ drafts.map Draft.entry, entry.Built ∨ entry.data = [] := by
  intro entry he
  obtain ⟨draft, -, rfl⟩ := List.mem_map.mp he
  exact .inl draft.built

theorem lookup_zip_map {names : List (List UInt8)} (f : List UInt8 → Value) {name : List UInt8}
    (h : name ∈ names) : (names.zip (names.map f)).lookup name = some (f name) := by
  induction names with
  | nil => cases h
  | cons other names ih =>
    rw [List.map_cons, List.zip_cons_cons, List.lookup_cons]
    by_cases e : name = other
    · subst e
      rw [beq_self_eq_true]
    · rw [beq_false_of_ne e]
      exact ih ((List.mem_cons.mp h).resolve_left e)

/-- the row of an entry is the only one with its uuid -/
theorem find?_draft (pre : List Draft) (draft : Draft) (post : List Draft)
    (hfresh : FreshUuids uuids base) :
    (addRows (namedRows uuids 0 ((pre ++ draft :: post).map Draft.entry)) base
      (tableOf draft.type)).find? (fun row => row.head? = some (chars (uuids (uuidCount pre))))
        = some (namedRow draft.entry (uuids (uuidCount pre))) := by
  have hhead : (namedRow draft.entry (uuids (uuidCount pre))).head?
      = some (chars (uuids (uuidCount pre))) := by
    unfold namedRow
    cases draft.entry.type <;> rfl
  have hbuilt := drafts_built (pre ++ draft :: post)
  have hkeys := batchRows_keys_nodup hbuilt hfresh
  rw [batchRows_eq hbuilt] at hkeys
  have hmem : (tableOf draft.type, namedRow draft.entry (uuids (uuidCount pre)))
      ∈ namedRows uuids 0 ((pre ++ draft :: post).map Draft.entry) := by
    rw [List.map_append, List.map_cons, namedRows_append, Nat.zero_add, namedRows_draft]
    exact List.mem_append_right _ (List.mem_append_left _ (List.mem_cons_self ..))
  rw [addRows_apply]
  refine find?_of_unique (List.mem_append_right _ (List.mem_map.mpr
    ⟨_, List.mem_filter.mpr ⟨hmem, decide_eq_true rfl⟩, rfl⟩)) (decide_eq_true hhead)
    fun row hrow hkey => ?_
  rcases List.mem_append.mp hrow with hrow | hrow
  · exact absurd (List.mem_of_mem_head? (of_decide_eq_true hkey)) (hfresh.unused _ row hrow _)
  · obtain ⟨other, hother, rfl⟩ := List.mem_map.mp hrow
    have hsame := (of_decide_eq_true hkey).trans hhead.symm
    exact congrArg Prod.snd
      (List.inj_on_of_nodup_map hkeys (List.mem_filter.mp hother).1 hmem hsame)

theorem lookup_namedRow {entry : Entry} {type : EntryType} (htype : entry.type = type)
    (uuid : List UInt8) {name text : List UInt8} (hname : name ∈ type.fields)
    (htext : entry.getEntryWithFields.field name = some text) :
    (((tableOf type).columns.map Column.name).zip (namedRow entry uuid)).lookup name
      = some (chars text) := by
  obtain ⟨hcols, hnodup⟩ := columns_eq type
  have hrow : namedRow entry uuid
      = ((tableOf type).columns.map Column.name).map (columnValue entry uuid) := by
    rw [namedRow, htype, List.map_map]
    rfl
  have hne : name ≠ bytes "uuid" := fun e => (List.nodup_cons.mp hnodup).1 (e ▸ hname)
  have hvalue : columnValue entry uuid name = chars text := by
    rw [columnValue, if_neg hne, htext]
  rw [hrow, lookup_zip_map _ (by rw [hcols]; exact List.mem_cons_of_mem _ hname), hvalue]

/-- the text that the tables have in a column of one entry of a batch -/
theorem boundField_draft (pre : List Draft) (draft : Draft) (post : List Draft)
    (hfresh : FreshUuids uuids base) {name text : List UInt8} (hname : name ∈ draft.type.fields)
    (htext : draft.entry.getEntryWithFields.field name = some text) :
    boundField (addRows (namedRows uuids 0 ((pre ++ draft :: post).map Draft.entry)) base)
        draft.type (uuids (uuidCount pre)) name = some (cstr text) := by
  obtain ⟨device, action, -, -, hentry⟩ := draft.entry_eq
  have htype : draft.entry.type = draft.type := by rw [hentry]
  have hlookup := lookup_namedRow htype (uuids (uuidCount pre)) hname htext
  unfold boundField
  rw [find?_draft pre draft post hfresh]
  show ((((tableOf draft.type).columns.map Column.name).zip _).lookup name).bind textOf = _
  rw [hlookup]
  rfl

end

end DatabaseStorage

/-! ## when they agree -/

theorem cstr_eq_self_iff {text : List UInt8} : cstr text = text ↔ ∀ b ∈ text, b ≠ 0 := by
  rw [cstr, List.takeWhile_eq_self_iff]
  simp only [bne_iff_ne]

theorem storable_of_plain {text : List UInt8} (h : Plain text) : Storable text := by
  refine ⟨JsonStorage.utf8_of_plain h, fun b hb e => ?_⟩
  have hle := (h b hb).1
  rw [e] at hle
  exact absurd hle (by decide)

/-- a column without a table of types -/
theorem throughTables_other {a : Attribute} (hdevice : a ≠ .deviceType)
    (haction : a ≠ .buttonAction) (text : List UInt8) : throughTables a.name text = text := by
  have hname : a.name ≠ bytes "device_type" ∧ a.name ≠ bytes "button_action" := by
    cases a <;> first | exact absurd rfl hdevice | exact absurd rfl haction | decide
  unfold throughTables
  rw [if_neg hname.1, if_neg hname.2]

theorem throughTables_device (device : Option DeviceType) :
    throughTables (bytes "device_type") (cstr (toUnderlyingOptional device))
      = fromDevice device := by
  rcases device with _ | device
  · rfl
  · cases device <;> decide

theorem throughTables_action (action : Option ButtonAction) :
    throughTables (bytes "button_action") (cstr (toUnderlyingOptional action))
      = fromButtonAction action := by
  rcases action with _ | action
  · rfl
  · cases action <;> decide

/-- the numbers that are bound have the names that the document has -/
theorem throughTables_number {device : Option DeviceType} {action : Option ButtonAction}
    (text : Attribute → List UInt8) (hdevice : text .deviceType = fromDevice device)
    (haction : text .buttonAction = fromButtonAction action) (a : Attribute)
    (ha : ∀ b ∈ text a, b ≠ 0) :
    throughTables a.name (cstr (Attribute.number device action text a)) = text a := by
  by_cases h₁ : a = .deviceType
  · subst h₁
    rw [hdevice]
    exact throughTables_device device
  by_cases h₂ : a = .buttonAction
  · subst h₂
    rw [haction]
    exact throughTables_action action
  have hsame : Attribute.number device action text a = text a := by
    cases a <;> first | exact absurd rfl h₁ | exact absurd rfl h₂ | rfl
  rw [throughTables_other h₁ h₂, hsame, cstr_eq_self_iff.mpr ha]

theorem nameIn_modifierTable (modifier : ModifierValue) :
    nameIn modifierTable (toUnderlying modifier) = fromModifierValue (some modifier) := by
  cases modifier <;> decide

section
variable {dump : Nat → Json → Option (List UInt8)} {uuids : Nat → List UInt8}
  {drafts : List Draft} {storage : JsonStorage} {c : SQLiteConnection Tables}

theorem field_draft (draft : Draft) {a : Attribute} (ha : a ∈ draft.type.attributes) :
    ∃ device action, draft.lastText .deviceType = fromDevice device ∧
      draft.lastText .buttonAction = fromButtonAction action ∧
      draft.entry.getEntryWithFields.field a.name
        = some (Attribute.number device action (fun a => draft.lastText a) a) := by
  obtain ⟨device, action, hdevice, haction, hentry⟩ := draft.entry_eq
  refine ⟨device, action, hdevice, haction, ?_⟩
  rw [hentry]
  exact field_eq _ rfl ha

theorem content_of_ok (hok : ((DatabaseStorage.storeEvent uuids (buildAll drafts)).run
    DatabaseStorage.answer c).1 = .ok ()) :
    ((DatabaseStorage.storeEvent uuids (buildAll drafts)).run
      DatabaseStorage.answer c).2.file.content
        = addRows (DatabaseStorage.namedRows uuids 0 (drafts.map Draft.entry)) c.file.content := by
  have h := DatabaseStorage.storeEvent_content uuids (buildAll drafts) c
  rw [hok, buildAll_entries] at h
  rw [← DatabaseStorage.batchRows_eq (DatabaseStorage.drafts_built drafts)]
  exact h

/-- what both storages keep as it is: the JSON storage has refused the rest, and the database
storage has cut it -/
theorem Agree.storable (h : Agree dump uuids drafts storage c) (hdump : Json.Strict dump)
    (hfresh : DatabaseStorage.FreshUuids uuids c.file.content) {draft : Draft}
    (hdraft : draft ∈ drafts) {a : Attribute} (ha : a ∈ draft.type.attributes)
    (hstring : a.isString = true) : Storable (draft.lastText a) := by
  refine ⟨(JsonStorage.accepts_iff hdump drafts storage).mp h.json draft hdraft a ha, ?_⟩
  obtain ⟨pre, post, rfl⟩ := List.append_of_mem hdraft
  obtain ⟨document, hdocument, htexts⟩ := h.texts
  have hname : a.name ∈ draft.type.fields := by
    rw [draft.type.fields_eq]
    exact List.mem_map_of_mem ha
  obtain ⟨text, bound, hjson, hbound, htext⟩ := (htexts pre draft post rfl).1 a.name hname
  obtain ⟨device, action, -, -, hfield⟩ := field_draft draft ha
  have hdevice : a ≠ .deviceType := fun e => (by rw [e] at hstring; cases hstring)
  have haction : a ≠ .buttonAction := fun e => (by rw [e] at hstring; cases hstring)
  have hnumber : Attribute.number device action (fun a => draft.lastText a) a
      = draft.lastText a := by
    cases a <;> first | exact absurd rfl hdevice | exact absurd rfl haction | rfl
  rw [JsonStorage.output_drafts] at hdocument
  cases hdocument
  rw [JsonStorage.recordedField_draft pre draft post ha] at hjson
  rw [content_of_ok h.database, DatabaseStorage.boundField_draft pre draft post hfresh hname hfield,
    hnumber] at hbound
  rw [throughTables_other hdevice haction, ← Option.some.inj hbound, ← Option.some.inj hjson]
    at htext
  exact cstr_eq_self_iff.mp htext.symm

theorem agree_of_storable (hdump : Json.Strict dump) (hquiet : c.file.Quiet)
    (hfresh : DatabaseStorage.FreshUuids uuids c.file.content)
    (h : ∀ draft ∈ drafts, ∀ a ∈ draft.type.attributes, a.isString = true →
      Storable (draft.lastText a)) : Agree dump uuids drafts storage c := by
  have hall : ∀ draft ∈ drafts, ∀ a ∈ draft.type.attributes, Storable (draft.lastText a) := by
    intro draft hdraft a ha
    cases hstring : a.isString with
    | true => exact h draft hdraft a ha hstring
    | false => exact storable_of_plain (draft.plain_lastText hstring)
  have hok := DatabaseStorage.storeEvent_accepts
    (buildAll_entries drafts ▸ DatabaseStorage.drafts_built drafts) hquiet hfresh
  refine ⟨(JsonStorage.accepts_iff hdump drafts storage).mpr
    fun draft hdraft a ha => (hall draft hdraft a ha).1, hok,
    JsonStorage.draftsJson drafts, JsonStorage.output_drafts drafts,
    fun pre draft post hsplit => ⟨?_, ?_⟩⟩
  · intro name hname
    subst hsplit
    rw [draft.type.fields_eq] at hname
    obtain ⟨a, ha, rfl⟩ := List.mem_map.mp hname
    obtain ⟨device, action, hdevice, haction, hfield⟩ := field_draft draft ha
    have hnul := (hall draft (List.mem_append_right _ (List.mem_cons_self ..)) a ha).2
    refine ⟨draft.lastText a, cstr (Attribute.number device action (fun a => draft.lastText a) a),
      JsonStorage.recordedField_draft pre draft post ha, ?_, ?_⟩
    · rw [content_of_ok hok]
      rw [← draft.type.fields_eq] at hname
      exact DatabaseStorage.boundField_draft pre draft post hfresh hname hfield
    · exact (throughTables_number (fun a => draft.lastText a) hdevice haction a hnul).symm
  · subst hsplit
    rw [JsonStorage.recordedModifiers_draft, content_of_ok hok,
      DatabaseStorage.boundModifiers_draft pre draft post hfresh, List.map_map]
    exact congrArg some (List.map_congr_left fun modifier _ =>
      (nameIn_modifierTable modifier).symm)

/-- **When the two storages agree**: on a file that refuses nothing, with new uuids, they both
accept the entries and have the same texts of them if and only if every string that a builder was
given last is UTF-8 and has no NUL. -/
theorem agree_iff (hdump : Json.Strict dump) (hquiet : c.file.Quiet)
    (hfresh : DatabaseStorage.FreshUuids uuids c.file.content) :
    Agree dump uuids drafts storage c ↔ ∀ draft ∈ drafts, ∀ a ∈ draft.type.attributes,
      a.isString = true → Storable (draft.lastText a) :=
  ⟨fun h _ hdraft _ ha hstring => h.storable hdump hfresh hdraft ha hstring,
    agree_of_storable hdump hquiet hfresh⟩

end

/-! ### names of windows -/

theorem sampleUuids_fresh :
    DatabaseStorage.FreshUuids DatabaseStorage.sampleUuids DatabaseStorage.fresh.file.content where
  distinct m n h := by
    have hcstr : ∀ k, cstr (DatabaseStorage.sampleUuids k) = DatabaseStorage.sampleUuids k := by
      intro k
      have hplain : Plain (bytes "uuid-" ++ decimal k) :=
        Plain.append (by decide +kernel) (plain_decimal k)
      exact cstr_eq_self_iff.mpr (storable_of_plain hplain).2
    have htext : cstr (DatabaseStorage.sampleUuids m) = cstr (DatabaseStorage.sampleUuids n) :=
      Value.text.inj h
    rw [hcstr, hcstr] at htext
    exact Int.ofNat.inj (decimal_injective (List.append_cancel_left htext))
  unused _ _ hrow := nomatch hrow

def scrollIn (name : List UInt8) : Draft :=
  .mouseScroll [.base (.timestamp 0), .base (.device .mouse), .base (.modifier .shift),
    .base (.focusWindowName name), .own (.vertical (.finite false 1))]

theorem scrollIn_agrees : Agree Json.dump DatabaseStorage.sampleUuids
    [scrollIn (bytes "caf" ++ [195, 169])] ⟨[]⟩ DatabaseStorage.fresh :=
  (agree_iff Json.dump_strict (rfl : DatabaseStorage.fresh.file.Quiet) sampleUuids_fresh).mpr
    (by decide +kernel)

/-- `café` in Latin-1, and a name with a NUL -/
theorem scrollIn_disagrees :
    ¬ Agree Json.dump DatabaseStorage.sampleUuids [scrollIn (bytes "caf" ++ [233])] ⟨[]⟩
      DatabaseStorage.fresh ∧
    ¬ Agree Json.dump DatabaseStorage.sampleUuids [scrollIn (bytes "a" ++ [0] ++ bytes "b")] ⟨[]⟩
      DatabaseStorage.fresh := by
  have hname : ∀ name, Agree Json.dump DatabaseStorage.sampleUuids [scrollIn name] ⟨[]⟩
      DatabaseStorage.fresh → Storable name := by
    intro name h
    have hlast : (scrollIn name).lastText .focusWindowName = name := rfl
    rw [← hlast]
    have ha : Attribute.focusWindowName ∈ EntryType.mouseScroll.attributes := by decide
    exact h.storable Json.dump_strict sampleUuids_fresh (List.mem_singleton_self _) ha rfl
  constructor
  · intro h
    exact absurd (hname _ h) (by decide +kernel)
  · intro h
    exact absurd (hname _ h) (by decide +kernel)

end Evget
