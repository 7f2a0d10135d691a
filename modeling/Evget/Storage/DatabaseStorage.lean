import Evget.Database.Query
import Evget.Event.Builders
import Evget.Lib.Prog
import Evget.Storage.Tables

/-!
# The database storage

`storeEvent` as a program of calls on the connection of the store: connecting, starting a
transaction, each execution of a statement, and the commit.  The connection is shared by all calls
of `storeEvent` on one store, the queries are local to each.

* `storeEvent`          the program;
* `batchRows`           the rows of a batch.
-/

namespace Evget
open SQLite
open Calls

namespace DatabaseStorage

/-! ## the calls -/

inductive Call where
  | connect
  | begin
  | nextWhile (query : SQLiteQuery Insert)
  | reset (query : SQLiteQuery Insert)
  | commit

/-- a call on a query also gives the query back -/
abbrev Reply : Call → Type
  | .connect => Result Unit
  | .begin => Result Unit
  | .nextWhile _ => Result Unit × SQLiteQuery Insert
  | .reset _ => Result Unit × SQLiteQuery Insert
  | .commit => Result Unit

def answer : Exec Call Reply (SQLiteConnection Tables)
  | .connect, c => c.connect
  | .begin, c => c.begin
  | .nextWhile query, c =>
    let (result, query, c) := query.nextWhile engine c
    ((result, query), c)
  | .reset query, c =>
    let (result, query, c) := query.reset c
    ((result, query), c)
  | .commit, c => c.commit

/-! ## the program -/

def storageError (e : Error) : Error := e.as .databaseError

/-- `NextWhile().and_then(Reset)` -/
def execute (query : SQLiteQuery Insert) : Prog Call Reply (Result Unit × SQLiteQuery Insert) :=
  .call (.nextWhile query) fun
    | (.error e, query) => .ret (.error e, query)
    | (.ok (), query) => .call (.reset query) .ret

def setOptionalStatement (query : Option (SQLiteQuery Insert)) (insert : Insert) :
    SQLiteQuery Insert :=
  query.getD (.build insert)

def bindData (data : List (List UInt8)) (uuid : List UInt8) (query : SQLiteQuery Insert) :
    SQLiteQuery Insert :=
  data.zipIdx.foldl (fun query (value, index) => query.bindChars (index + 1) value)
    (query.bindChars 0 uuid)

def bindValues (query : SQLiteQuery Insert) (data : List (List UInt8)) (uuid : List UInt8) :
    Prog Call Reply (Result Unit × SQLiteQuery Insert) :=
  (execute (bindData data uuid query)).bind fun
    | (.error e, query) => .ret (.error (storageError e), query)
    | (.ok (), query) => .ret (.ok (), query)

/-- the modifiers take the uuids from number `n` on -/
def bindValuesModifier (uuids : Nat → List UInt8) (entryUuid : List UInt8) :
    Nat → SQLiteQuery Insert → List (List UInt8) →
      Prog Call Reply (Result Unit × SQLiteQuery Insert)
  | _, query, [] => .ret (.ok (), query)
  | n, query, modifier :: modifiers =>
    let query := ((query.bindChars 0 (uuids n)).bindChars 1 entryUuid).bindChars 2 modifier
    (execute query).bind fun
      | (.error e, query) => .ret (.error (storageError e), query)
      | (.ok (), query) => bindValuesModifier uuids entryUuid (n + 1) query modifiers

/-- the prepared statements of a batch, one for each table, set when first used -/
abbrev Statements := TableName → Option (SQLiteQuery Insert)

def insertsOf : EntryType → Insert × Insert
  | .key => (insertKey, insertKeyModifier)
  | .mouseClick => (insertMouseClick, insertMouseClickModifier)
  | .mouseMove => (insertMouseMove, insertMouseMoveModifier)
  | .mouseScroll => (insertMouseScroll, insertMouseScrollModifier)

/-- the uuid number `n` is the entry's -/
def insertEvents (uuids : Nat → List UInt8) (n : Nat) (entry : Entry) (statements : Statements)
    (insert insertModifier : Insert) : Prog Call Reply (Result Unit × Statements) :=
  let query := setOptionalStatement (statements insert.table) insert
  let modifierQuery := setOptionalStatement (statements insertModifier.table) insertModifier
  (bindValues query entry.data (uuids n)).bind fun
    | (.error e, query) =>
      .ret (.error e, Function.update (Function.update statements insertModifier.table
        (some modifierQuery)) insert.table (some query))
    | (.ok (), query) =>
      (bindValuesModifier uuids (uuids n) (n + 1) modifierQuery entry.modifiers).bind
        fun (result, modifierQuery) =>
          .ret (result, Function.update (Function.update statements insertModifier.table
            (some modifierQuery)) insert.table (some query))

def storeEntries (uuids : Nat → List UInt8) :
    Nat → Statements → List Entry → Prog Call Reply (Result Unit)
  | _, _, [] => .ret (.ok ())
  | n, statements, entry :: entries =>
    if entry.data.isEmpty then storeEntries uuids n statements entries
    else
      (insertEvents uuids n entry statements (insertsOf entry.type).1 (insertsOf entry.type).2).bind
        fun
        | (.error e, _) => .ret (.error e)
        | (.ok (), statements) =>
          storeEntries uuids (n + 1 + entry.modifiers.length) statements entries

/-- the uuids that the call generates are a parameter -/
def storeEvent (uuids : Nat → List UInt8) (events : Data) : Prog Call Reply (Result Unit) :=
  if events.empty then .ret (.ok ())
  else .call .connect fun
    | .error e => .ret (.error (storageError e))
    | .ok () => .call .begin fun
      | .error e => .ret (.error (storageError e))
      | .ok () => (storeEntries uuids 0 (fun _ => none) events.entries).bind fun
        | .error e => .ret (.error e)
        | .ok () => .call .commit fun
          | .error e => .ret (.error (storageError e))
          | .ok () => .ret (.ok ())

/-! ## the rows of a batch -/

/-- the row that a statement inserts when the first of its parameters are bound to `values` -/
def rowOf (insert : Insert) (values : List Value) : List Value :=
  insert.row (values ++ List.replicate (insert.parameters.length - values.length) .null)

def chars (s : List UInt8) : Value := .text (cstr s)

def modifierRows (insert : Insert) (uuids : Nat → List UInt8) (entryUuid : List UInt8) :
    Nat → List (List UInt8) → List (TableName × List Value)
  | _, [] => []
  | n, modifier :: modifiers =>
    (insert.table, rowOf insert [chars (uuids n), chars entryUuid, chars modifier])
      :: modifierRows insert uuids entryUuid (n + 1) modifiers

def entryRows (uuids : Nat → List UInt8) (n : Nat) (entry : Entry) :
    List (TableName × List Value) :=
  ((insertsOf entry.type).1.table,
      rowOf (insertsOf entry.type).1 (chars (uuids n) :: entry.data.map chars))
    :: modifierRows (insertsOf entry.type).2 uuids (uuids n) (n + 1) entry.modifiers

def batchRows (uuids : Nat → List UInt8) : Nat → List Entry → List (TableName × List Value)
  | _, [] => []
  | n, entry :: entries =>
    if entry.data.isEmpty then batchRows uuids n entries
    else entryRows uuids n entry ++ batchRows uuids (n + 1 + entry.modifiers.length) entries

end DatabaseStorage
end Evget
