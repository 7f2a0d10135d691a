import Evget.Event.Setters
import Evget.Lib.Json
import Mathlib.Data.List.Nodup

/-!
# The JSON storage

`storeEvent` writes the entries of a batch as one JSON document, with names for their numbers.  How
a document becomes text is a parameter: `dump` has no text for a document that the JSON library
refuses with its `type_error`.

* `output`             the document of a batch;
* `storeEvent`         the document as text, behind what was written before;
* `storeEvent_drafts`  what is written of entries that were built.
-/

namespace Evget
open SQLite

/-- what has been written to the stream -/
structure JsonStorage where
  ostream_ : List UInt8

namespace JsonStorage

/-- `at` of a vector -/
def vectorAt (xs : List (List UInt8)) (i : Nat) : Except Thrown (List UInt8) :=
  match xs[i]? with
  | some x => .ok x
  | none => .error .outOfRange

/-- an object lists its members in the order of their keys -/
def formatField (entry : EntryWithFields) (i : Nat) : Except Thrown Json := do
  let name ← vectorAt entry.fields i
  let data ← vectorAt entry.data i
  return .object [(bytes "data", .string data), (bytes "name", .string name)]

def formatEntry (entry : Entry) : Except Thrown Json := do
  let named ← entry.toNamedRepresentation
  let entryWithFields := named.getEntryWithFields
  let fields ← (List.range entryWithFields.data.length).mapM (formatField entryWithFields)
  return .object [
    (bytes "fields", .array fields),
    (bytes "modifiers", .array (entryWithFields.modifiers.map Json.string)),
    (bytes "type", .string (fromEntryType (some entryWithFields.type)))]

def output (events : Data) : Except Thrown Json := do
  let entries ← events.entries.mapM formatEntry
  return .object [(bytes "entries", .array entries)]

def storeEvent (dump : Nat → Json → Option (List UInt8)) (events : Data) (self : JsonStorage) :
    Except Thrown (Result Unit × JsonStorage) :=
  if events.empty then .ok (.ok (), self)
  else do
    let output ← output events
    match dump 4 output with
    | none => .error .typeError
    | some text => .ok (.ok (), ⟨self.ostream_ ++ text ++ bytes "\n"⟩)

/-! ## the document of entries that were built -/

def fieldJson (name text : List UInt8) : Json :=
  .object [(bytes "data", .string text), (bytes "name", .string name)]

/-- under each name the text that was set last, and the names of all modifiers -/
def draftJson (draft : Draft) : Json :=
  .object [
    (bytes "fields", .array
      (draft.type.attributes.map fun a => fieldJson a.name (draft.lastText a))),
    (bytes "modifiers", .array
      (draft.modifiers.map fun modifier => .string (fromModifierValue (some modifier)))),
    (bytes "type", .string (fromEntryType (some draft.type)))]

def draftsJson (drafts : List Draft) : Json :=
  .object [(bytes "entries", .array (drafts.map draftJson))]

theorem formatField_ok {entry : EntryWithFields} {i : Nat} {name text : List UInt8}
    (hname : entry.fields[i]? = some name) (htext : entry.data[i]? = some text) :
    formatField entry i = .ok (fieldJson name text) := by
  unfold formatField vectorAt
  rw [hname, htext]
  rfl

/-- no index is past the table of names, and the fields come in its order -/
theorem mapM_formatField {entry : EntryWithFields} (attributes : List Attribute)
    {text : Attribute → List UInt8} (hfields : entry.fields = attributes.map Attribute.name)
    (hdata : entry.data = attributes.map text) :
    (List.range entry.data.length).mapM (formatField entry)
      = .ok (attributes.map fun a => fieldJson a.name (text a)) := by
  let field := fun i => fieldJson (entry.fields.getD i []) (entry.data.getD i [])
  have hfield : ∀ i ∈ List.range entry.data.length, formatField entry i = .ok (field i) := by
    intro i hi
    have hi : i < entry.data.length := List.mem_range.mp hi
    have hi' : i < entry.fields.length := by
      rw [hfields, List.length_map]
      rw [hdata, List.length_map] at hi
      exact hi
    show formatField entry i = .ok (fieldJson (entry.fields.getD i []) (entry.data.getD i []))
    rw [List.getD_eq_getElem?_getD, List.getD_eq_getElem?_getD, List.getElem?_eq_getElem hi,
      List.getElem?_eq_getElem hi']
    exact formatField_ok (List.getElem?_eq_getElem hi') (List.getElem?_eq_getElem hi)
  rw [mapM_ok hfield]
  refine congrArg _ (List.ext_getElem (by simp [hdata]) fun i h h' => ?_)
  have hi : i < attributes.length := by simpa using h'
  simp [field, hfields, hdata, hi]

theorem formatEntry_draft (draft : Draft) : formatEntry draft.entry = .ok (draftJson draft) := by
  unfold formatEntry
  rw [draft.toNamedRepresentation_entry]
  show ((List.range _).mapM (formatField _) >>= fun fields => _) = _
  rw [mapM_formatField draft.type.attributes draft.type.fields_eq rfl]
  show Except.ok _ = Except.ok _
  unfold draftJson
  show Except.ok (Json.object [_, (_, .array (List.map _ (List.map _ _))), _]) = _
  rw [List.map_map]
  rfl

theorem output_drafts (drafts : List Draft) :
    output (buildAll drafts) = .ok (draftsJson drafts) := by
  unfold output
  rw [buildAll_entries, List.mapM_map]
  show (drafts.mapM (fun draft => formatEntry draft.entry) >>= fun entries => _) = _
  rw [mapM_ok fun draft _ => formatEntry_draft draft]
  rfl

theorem storeEvent_eq (dump : Nat → Json → Option (List UInt8)) (drafts : List Draft)
    (self : JsonStorage) :
    storeEvent dump (buildAll drafts) self =
      if drafts.isEmpty then .ok (.ok (), self)
      else match dump 4 (draftsJson drafts) with
        | none => .error .typeError
        | some text => .ok (.ok (), ⟨self.ostream_ ++ text ++ bytes "\n"⟩) := by
  unfold storeEvent
  have hempty : (buildAll drafts).empty = drafts.isEmpty := by
    show (buildAll drafts).entries.isEmpty = _
    rw [buildAll_entries, List.isEmpty_map]
  rw [hempty, output_drafts]
  rfl

/-- **What is written**, of any number of entries with any setter calls before each is built.  An
entry has as many names as texts; under every name of its type stands the text of the value that
was set last, or the empty text, with names for the device type and the button action; and its
modifiers are the names of all that were added, in their order.  The document consists of exactly
these, and no index is past the table of names. -/
theorem storeEvent_drafts (dump : Nat → Json → Option (List UInt8)) (drafts : List Draft)
    (self : JsonStorage) :
    (buildAll drafts).entries = drafts.map Draft.entry ∧
    (∀ draft ∈ drafts, ∃ named, draft.entry.toNamedRepresentation = .ok named ∧
      named.getEntryWithFields.fields.length = named.getEntryWithFields.data.length ∧
      named.getEntryWithFields.fields = draft.type.attributes.map Attribute.name ∧
      (∀ a ∈ draft.type.attributes,
        named.getEntryWithFields.field a.name = some (draft.lastText a)) ∧
      named.getEntryWithFields.modifiers
        = draft.modifiers.map fun modifier => fromModifierValue (some modifier)) ∧
    storeEvent dump (buildAll drafts) self =
      if drafts.isEmpty then .ok (.ok (), self)
      else match dump 4 (draftsJson drafts) with
        | none => .error .typeError
        | some text => .ok (.ok (), ⟨self.ostream_ ++ text ++ bytes "\n"⟩) := by
  refine ⟨buildAll_entries drafts, fun draft _ =>
    ⟨_, draft.toNamedRepresentation_entry, ?_, draft.type.fields_eq, ?_, rfl⟩, ?_⟩
  · show draft.type.fields.length = (draft.type.attributes.map _).length
    rw [draft.type.fields_eq, List.length_map, List.length_map]
  · intro a ha
    exact field_eq (fun a => draft.lastText a) rfl ha
  · exact storeEvent_eq dump drafts self

/-! ### which documents have a text -/

theorem utf8_of_plain {text : List UInt8} (h : Plain text) : Utf8 text :=
  Utf8.of_ascii fun b hb => UInt8.lt_trans (h b hb).2 (by decide : (127 : UInt8) < 128)

theorem fieldJson_valid (a : Attribute) (text : List UInt8) :
    (fieldJson a.name text).Valid ↔ Utf8 text := by
  have hname : Utf8 a.name := utf8_of_plain (by cases a <;> decide +kernel)
  have hdata : Utf8 (bytes "data") := utf8_of_plain (by decide +kernel)
  have hkey : Utf8 (bytes "name") := utf8_of_plain (by decide +kernel)
  unfold fieldJson
  rw [Json.valid_object, List.forall_mem_cons, List.forall_mem_singleton, Json.valid_string,
    Json.valid_string]
  exact ⟨fun h => h.1.2, fun h => ⟨⟨hdata, h⟩, hkey, hname⟩⟩

theorem draftJson_valid (draft : Draft) : (draftJson draft).Valid ↔
    ∀ a ∈ draft.type.attributes, Utf8 (draft.lastText a) := by
  have hfields : (Json.array (draft.type.attributes.map
      fun a => fieldJson a.name (draft.lastText a))).Valid
        ↔ ∀ a ∈ draft.type.attributes, Utf8 (draft.lastText a) := by
    rw [Json.valid_array, List.forall_mem_map]
    exact forall₂_congr fun a _ => fieldJson_valid a _
  have hmodifiers : (Json.array (draft.modifiers.map
      fun modifier => .string (fromModifierValue (some modifier)))).Valid := by
    rw [Json.valid_array, List.forall_mem_map]
    intro modifier _
    exact Json.valid_string.mpr (utf8_of_plain (by cases modifier <;> decide +kernel))
  have hname : Plain (fromEntryType (some draft.type)) := by
    cases draft.type <;> decide +kernel
  have htype : (Json.string (fromEntryType (some draft.type))).Valid :=
    Json.valid_string.mpr (utf8_of_plain hname)
  have hkey₁ : Utf8 (bytes "fields") := utf8_of_plain (by decide +kernel)
  have hkey₂ : Utf8 (bytes "modifiers") := utf8_of_plain (by decide +kernel)
  have hkey₃ : Utf8 (bytes "type") := utf8_of_plain (by decide +kernel)
  unfold draftJson
  rw [Json.valid_object, List.forall_mem_cons, List.forall_mem_cons, List.forall_mem_singleton,
    ← hfields]
  exact ⟨fun h => h.1.2, fun h => ⟨⟨hkey₁, h⟩, ⟨hkey₂, hmodifiers⟩, hkey₃, htype⟩⟩

theorem draftsJson_valid (drafts : List Draft) : (draftsJson drafts).Valid ↔
    ∀ draft ∈ drafts, ∀ a ∈ draft.type.attributes, Utf8 (draft.lastText a) := by
  have hkey : Utf8 (bytes "entries") := utf8_of_plain (by decide +kernel)
  unfold draftsJson
  rw [Json.valid_object, List.forall_mem_singleton, Json.valid_array, List.forall_mem_map]
  constructor
  · intro h draft hdraft
    exact (draftJson_valid draft).mp (h.2 draft hdraft)
  · intro h
    exact ⟨hkey, fun draft hdraft => (draftJson_valid draft).mpr (h draft hdraft)⟩

/-- the storage accepts entries whose texts are UTF-8, and no others -/
theorem accepts_iff {dump : Nat → Json → Option (List UInt8)} (hdump : Json.Strict dump)
    (drafts : List Draft) (self : JsonStorage) :
    (∃ self', storeEvent dump (buildAll drafts) self = .ok (.ok (), self')) ↔
      ∀ draft ∈ drafts, ∀ a ∈ draft.type.attributes, Utf8 (draft.lastText a) := by
  rw [storeEvent_eq, ← draftsJson_valid, ← hdump 4]
  cases drafts with
  | nil =>
    have hvalid : (draftsJson []).Valid := (draftsJson_valid []).mpr nofun
    exact ⟨fun _ => (hdump 4 _).mpr hvalid, fun _ => ⟨self, rfl⟩⟩
  | cons draft drafts =>
    rw [if_neg (by exact Bool.false_ne_true)]
    cases dump 4 (draftsJson (draft :: drafts)) with
    | none => exact ⟨fun ⟨_, h⟩ => (by cases h), nofun⟩
    | some text => exact ⟨fun _ => rfl, fun _ => ⟨_, rfl⟩⟩

/-! ## reading a document -/

def recordedEntry (document : Json) (k : Nat) : Option Json :=
  (document.member (bytes "entries")).bind fun entries => entries.elements[k]?

def recordedField (document : Json) (k : Nat) (name : List UInt8) : Option (List UInt8) := do
  let entry ← recordedEntry document k
  let fields ← entry.member (bytes "fields")
  let field ← fields.elements.find? fun field =>
    (field.member (bytes "name")).bind Json.string? = some name
  let data ← field.member (bytes "data")
  data.string?

def recordedModifiers (document : Json) (k : Nat) : Option (List (List UInt8)) := do
  let entry ← recordedEntry document k
  let modifiers ← entry.member (bytes "modifiers")
  return modifiers.elements.filterMap Json.string?

section
variable (pre : List Draft) (draft : Draft) (post : List Draft)

theorem recordedEntry_draft :
    recordedEntry (draftsJson (pre ++ draft :: post)) pre.length = some (draftJson draft) := by
  show ((pre ++ draft :: post).map draftJson)[pre.length]? = _
  rw [List.getElem?_map, List.getElem?_append_right (Nat.le_refl _), Nat.sub_self]
  rfl

theorem recordedField_draft {a : Attribute} (ha : a ∈ draft.type.attributes) :
    recordedField (draftsJson (pre ++ draft :: post)) pre.length a.name
      = some (draft.lastText a) := by
  have hfind : (draft.type.attributes.map fun a => fieldJson a.name (draft.lastText a)).find?
      (fun field => (field.member (bytes "name")).bind Json.string? = some a.name)
        = some (fieldJson a.name (draft.lastText a)) := by
    have hnames : (draft.type.attributes.map Attribute.name).Nodup := by
      rw [← draft.type.fields_eq]
      exact draft.type.fields_nodup
    have hfirst : draft.type.attributes.find? (fun b => b.name = a.name) = some a := by
      refine find?_of_unique ha (decide_eq_true rfl) fun b hb hname => ?_
      exact List.inj_on_of_nodup_map hnames hb ha (of_decide_eq_true hname)
    have hsame : ((fun field => decide ((field.member (bytes "name")).bind Json.string?
        = some a.name)) ∘ fun b : Attribute => fieldJson b.name (draft.lastText b))
          = fun b => decide (b.name = a.name) := by
      funext b
      show decide (some b.name = some a.name) = _
      simp only [Option.some.injEq]
    rw [List.find?_map, hsame, hfirst]
    rfl
  unfold recordedField
  rw [recordedEntry_draft]
  show (((draft.type.attributes.map _).find? _).bind _) = _
  rw [hfind]
  rfl

theorem recordedModifiers_draft :
    recordedModifiers (draftsJson (pre ++ draft :: post)) pre.length
      = some (draft.modifiers.map fun modifier => fromModifierValue (some modifier)) := by
  unfold recordedModifiers
  rw [recordedEntry_draft]
  show some ((draft.modifiers.map _).filterMap Json.string?) = _
  rw [List.filterMap_map]
  exact congrArg some (List.filterMap_eq_map ▸ rfl)

end

end JsonStorage
end Evget
