import Evget.Event.Schema

/-!
# Entries

An entry has a type, the texts of its fields and the texts of its modifiers.  The names of the
fields are kept apart, in one table for each type, and matched with the texts by position.

* `Entry.getEntryWithFields`   an entry with the names of its fields;
* `EntryWithFields.field`      the text of the field with a given name;
* `Data`                       entries in the order in which they are to be stored.
-/

namespace Evget
open SQLite

inductive EntryType where
  | key | mouseClick | mouseMove | mouseScroll
deriving DecidableEq, Repr

def kBaseFields : List (List UInt8) := [
  bytes "interval",
  bytes "timestamp",
  bytes "position_x",
  bytes "position_y",
  bytes "device_name",
  bytes "focus_window_name",
  bytes "focus_window_position_x",
  bytes "focus_window_position_y",
  bytes "focus_window_width",
  bytes "focus_window_height",
  bytes "screen",
  bytes "device_id",
  bytes "system_event",
  bytes "event_source",
  bytes "device_type"]

def kMouseMoveFields : List (List UInt8) := kBaseFields ++ [bytes "touch_id"]

def kMouseScrollFields : List (List UInt8) :=
  kBaseFields ++ [bytes "scroll_vertical", bytes "scroll_horizontal"]

def kMouseClickFields : List (List UInt8) :=
  kBaseFields ++ [bytes "touch_id", bytes "button_id", bytes "button_name", bytes "button_action"]

def kKeyFields : List (List UInt8) :=
  kBaseFields ++ [bytes "button_id", bytes "button_name", bytes "character", bytes "button_action"]

def EntryType.fields : EntryType → List (List UInt8)
  | .key => kKeyFields
  | .mouseClick => kMouseClickFields
  | .mouseMove => kMouseMoveFields
  | .mouseScroll => kMouseScrollFields

structure Entry where
  type : EntryType
  data : List (List UInt8)
  modifiers : List (List UInt8)
deriving DecidableEq, Repr

structure EntryWithFields where
  type : EntryType
  fields : List (List UInt8)
  data : List (List UInt8)
  modifiers : List (List UInt8)
deriving DecidableEq, Repr

def Entry.getEntryWithFields (entry : Entry) : EntryWithFields :=
  ⟨entry.type, entry.type.fields, entry.data, entry.modifiers⟩

/-- the text of the field named `name` -/
def EntryWithFields.field (entry : EntryWithFields) (name : List UInt8) : Option (List UInt8) :=
  (entry.fields.zip entry.data).lookup name

theorem find?_of_unique {α : Type} {p : α → Bool} {xs : List α} {x : α} (hx : x ∈ xs)
    (hp : p x = true) (hunique : ∀ y ∈ xs, p y = true → y = x) : xs.find? p = some x := by
  cases hfind : xs.find? p with
  | none => exact absurd hp (List.find?_eq_none.mp hfind x hx)
  | some y => rw [hunique y (List.mem_of_find?_eq_some hfind) (List.find?_some hfind)]

theorem map_lookup_zip {names texts : List (List UInt8)} (hlen : texts.length = names.length)
    (hnodup : names.Nodup) :
    names.map (fun name => (names.zip texts).lookup name) = texts.map some := by
  induction names generalizing texts with
  | nil =>
    rw [List.length_nil, List.length_eq_zero_iff] at hlen
    rw [hlen]
    rfl
  | cons name names ih =>
    cases texts with
    | nil => cases hlen
    | cons s texts =>
      obtain ⟨hnot, hnodup⟩ := List.nodup_cons.mp hnodup
      rw [List.map_cons, List.zip_cons_cons, List.lookup_cons_self, List.map_cons,
        ← ih (Nat.succ.inj hlen) hnodup]
      refine congrArg _ (List.map_congr_left fun other hother => ?_)
      have hne : (other == name) = false := by
        rw [beq_eq_false_iff_ne]
        intro e
        exact hnot (e ▸ hother)
      rw [List.lookup_cons, hne]

theorem EntryType.fields_nodup (type : EntryType) : type.fields.Nodup := by
  cases type <;> decide +kernel

/-! ## data -/

structure Data where
  entries : List Entry
deriving DecidableEq, Repr

namespace Data

def new : Data := ⟨[]⟩

def mergeWith (self data : Data) : Data := ⟨self.entries ++ data.entries⟩

def addEntry (self : Data) (entry : Entry) : Data := ⟨self.entries ++ [entry]⟩

def empty (self : Data) : Bool := self.entries.isEmpty

end Data
end Evget
