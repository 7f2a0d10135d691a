import Evget.Event.Entry
import Mathlib.Logic.Function.Basic

/-!
# The tables

The rows of the tables of types, the tables that the schema creates for events, the statements that
insert into these, and what SQLite makes of an insertion.  Values are stored as they are bound,
before the affinity of their column; foreign keys are not enforced.

* `buttonActionTable`, `deviceTypeTable`, `modifierTable`   ids and texts, as the schema has them;
* `TableName.columns`   the columns of each table, in the order of the schema;
* `Insert`              an insertion of as many parameters as the table has columns;
* `engine`              SQLite on these tables;
* `runInsert_ok`        an insertion that succeeds adds one row.
-/

namespace Evget
open SQLite

/-! ## the tables of types -/

def buttonActionTable : List (Int × List UInt8) :=
  [(0, bytes "Press"), (1, bytes "Release"), (2, bytes "Repeat")]

def deviceTypeTable : List (Int × List UInt8) :=
  [(0, bytes "Mouse"), (1, bytes "Keyboard"), (2, bytes "Touchpad"), (3, bytes "Touchscreen"),
    (4, bytes "Tablet"), (5, bytes "Unknown")]

def modifierTable : List (Int × List UInt8) :=
  [(0, bytes "Shift"), (1, bytes "CapsLock"), (2, bytes "Control"), (3, bytes "Alt"),
    (4, bytes "NumLock"), (5, bytes "Mod3"), (6, bytes "Super"), (7, bytes "Mod5")]

/-! ## the tables for events -/

inductive TableName where
  | key
  | keyModifier
  | mouseClick
  | mouseClickModifier
  | mouseMove
  | mouseMoveModifier
  | mouseScroll
  | mouseScrollModifier
deriving DecidableEq, Repr

/-- the first column of every table is its primary key -/
structure Column where
  name : List UInt8
  notNull : Bool

def column (name : String) : Column := ⟨bytes name, false⟩

def columnNotNull (name : String) : Column := ⟨bytes name, true⟩

def TableName.columns : TableName → List Column
  | .key => [
    column "uuid", column "interval", columnNotNull "timestamp", column "position_x",
    column "position_y", column "device_name", column "focus_window_name",
    column "focus_window_position_x", column "focus_window_position_y",
    column "focus_window_width", column "focus_window_height", column "screen", column "device_id",
    column "system_event", column "event_source", columnNotNull "device_type", column "button_id",
    column "button_name", column "character", columnNotNull "button_action"]
  | .keyModifier => [
    column "uuid", columnNotNull "key_uuid", columnNotNull "modifier_id"]
  | .mouseClick => [
    column "uuid", column "interval", columnNotNull "timestamp", column "position_x",
    column "position_y", column "device_name", column "focus_window_name",
    column "focus_window_position_x", column "focus_window_position_y",
    column "focus_window_width", column "focus_window_height", column "screen", column "device_id",
    column "system_event", column "event_source", columnNotNull "device_type", column "touch_id",
    column "button_id", column "button_name", columnNotNull "button_action"]
  | .mouseClickModifier => [
    column "uuid", columnNotNull "mouse_click_uuid", columnNotNull "modifier_id"]
  | .mouseMove => [
    column "uuid", column "interval", columnNotNull "timestamp", column "position_x",
    column "position_y", column "device_name", column "focus_window_name",
    column "focus_window_position_x", column "focus_window_position_y",
    column "focus_window_width", column "focus_window_height", column "screen", column "device_id",
    column "system_event", column "event_source", columnNotNull "device_type", column "touch_id"]
  | .mouseMoveModifier => [
    column "uuid", columnNotNull "mouse_click_uuid", columnNotNull "modifier_id"]
  | .mouseScroll => [
    column "uuid", column "interval", columnNotNull "timestamp", column "position_x",
    column "position_y", column "device_name", column "focus_window_name",
    column "focus_window_position_x", column "focus_window_position_y",
    column "focus_window_width", column "focus_window_height", column "screen", column "device_id",
    column "system_event", column "event_source", columnNotNull "device_type",
    column "scroll_vertical", column "scroll_horizontal"]
  | .mouseScrollModifier => [
    column "uuid", columnNotNull "mouse_click_uuid", columnNotNull "modifier_id"]

/-- the rows of the tables; the first value of a row is its key -/
abbrev Tables := TableName → List (List Value)

def addRow (row : TableName × List Value) (d : Tables) : Tables :=
  Function.update d row.1 (d row.1 ++ [row.2])

def addRows (rows : List (TableName × List Value)) (d : Tables) : Tables :=
  rows.foldl (fun d row => addRow row d) d

/-! ## insertions -/

/-- `insert into table values (...)`, where the number `n` stands for the parameter `$n` -/
structure Insert where
  table : TableName
  values : List Nat
deriving DecidableEq, Repr

def insertKey : Insert :=
  ⟨.key, [1, 2, 3, 4, 5, 6, 7, 8, 9, 10, 11, 12, 13, 14, 15, 16, 17, 18, 19, 20]⟩

def insertKeyModifier : Insert := ⟨.keyModifier, [1, 2, 3]⟩

def insertMouseClick : Insert :=
  ⟨.mouseClick, [1, 2, 3, 4, 5, 6, 7, 8, 9, 10, 11, 12, 13, 14, 15, 16, 17, 18, 19, 20]⟩

def insertMouseClickModifier : Insert := ⟨.mouseClickModifier, [1, 2, 3]⟩

def insertMouseMove : Insert :=
  ⟨.mouseMove, [1, 2, 3, 4, 5, 6, 7, 8, 9, 10, 11, 12, 13, 14, 15, 16, 17]⟩

def insertMouseMoveModifier : Insert := ⟨.mouseMoveModifier, [1, 2, 3]⟩

def insertMouseScroll : Insert :=
  ⟨.mouseScroll, [1, 2, 3, 4, 5, 6, 7, 8, 9, 10, 11, 12, 13, 14, 15, 16, 17, 18]⟩

def insertMouseScrollModifier : Insert := ⟨.mouseScrollModifier, [1, 2, 3]⟩

namespace Insert

/-- `$n` names a parameter, and the names are numbered in the order in which they appear -/
def parameters (insert : Insert) : List Nat := insert.values.eraseDups

def row (insert : Insert) (bindings : List Value) : List Value :=
  insert.values.map fun n => bindings.getD (insert.parameters.idxOf n) .null

end Insert

def runInsert (insert : Insert) (bindings : List Value) (d : Tables) :
    Except String (List (List Value) × Tables) :=
  let row := insert.row bindings
  if row.length ≠ insert.table.columns.length then
    .error "the table has not as many columns as there are values"
  else if (insert.table.columns.zip row).any fun (column, v) => column.notNull && v = .null then
    .error "NOT NULL constraint failed"
  else if (d insert.table).any fun other => other.head? = row.head? && row.head? ≠ some .null then
    .error "UNIQUE constraint failed"
  else .ok ([], addRow (insert.table, row) d)

def engine : Engine Insert Tables where
  params insert := insert.parameters.length
  run := runInsert
  script insert d :=
    match runInsert insert [] d with
    | .error what => (d, some what)
    | .ok (_, d) => (d, none)

/-! ## what is added -/

theorem addRows_append (rows rows' : List (TableName × List Value)) (d : Tables) :
    addRows (rows ++ rows') d = addRows rows' (addRows rows d) := by
  rw [addRows, List.foldl_append]
  rfl

theorem addRows_apply (rows : List (TableName × List Value)) (d : Tables) (t : TableName) :
    addRows rows d t = d t ++ (rows.filter fun row => row.1 = t).map Prod.snd := by
  induction rows generalizing d with
  | nil => simp [addRows]
  | cons row rows ih =>
    show addRows rows (addRow row d) t = _
    rw [ih]
    by_cases h : row.1 = t
    · subst h
      simp [addRow]
    · have h' : t ≠ row.1 := fun e => h e.symm
      simp [addRow, h, Function.update_of_ne h']

theorem runInsert_rows {insert : Insert} {bindings : List Value} {d d' : Tables}
    {rows : List (List Value)} (h : runInsert insert bindings d = .ok (rows, d')) : rows = [] := by
  unfold runInsert at h
  simp only at h
  split at h
  · cases h
  · split at h
    · cases h
    · split at h
      · cases h
      · cases h
        rfl

theorem runInsert_ok {insert : Insert} {bindings : List Value} {d d' : Tables}
    {rows : List (List Value)} (h : runInsert insert bindings d = .ok (rows, d')) :
    d' = addRow (insert.table, insert.row bindings) d := by
  unfold runInsert at h
  simp only at h
  split at h
  · cases h
  · split at h
    · cases h
    · split at h
      · cases h
      · cases h
        rfl

end Evget
