import Evget.Database.Query
import Evget.Lib.SqliteMap

/-!
# Connections and queries on a part of a file

What `SQLiteConnection` and `SQLiteQuery` ask of a handle they ask of the content that the handle
sees, so on a file whose content is `f d` they do what they do on the part `d` of it.

* `SQLiteConnection.map`      the same connection to the whole file;
* `connect_map`, `begin_map`, `commit_map`    the requests of the connection;
* `SQLiteQuery.nextWhile_map`, `SQLiteQuery.reset_map`    the requests of its queries.
-/

namespace Evget
open SQLite

namespace SQLiteConnection
variable {D D' : Type} (f : D → D')

def map (c : SQLiteConnection D) : SQLiteConnection D' :=
  ⟨c.file.map f, c.database.map (Database.map f), c.transaction⟩

theorem connect_map (c : SQLiteConnection D) :
    (c.map f).connect = (c.connect.1, c.connect.2.map f) := by
  obtain ⟨file, database, transaction⟩ := c
  unfold connect
  rw [show (map f ⟨file, database, transaction⟩).file = file.map f from rfl, File.draw_map]
  dsimp only
  rcases file.draw with ⟨_ | ⟨what, aborts⟩, file'⟩ <;> rfl

theorem destroy_map (t : Option SQLite.Transaction) (db : Database D) (file : File D) :
    destroy t (db.map f) (file.map f)
      = ((destroy t db file).1.map f, (destroy t db file).2.map f) := by
  unfold destroy
  split
  · rw [Database.rollback_map]
  · rfl

theorem begin_map (c : SQLiteConnection D) : (c.map f).begin = (c.begin.1, c.begin.2.map f) := by
  obtain ⟨file, database, transaction⟩ := c
  cases database with
  | none => rfl
  | some db =>
    unfold begin map
    dsimp only [Option.map_some]
    rw [destroy_map]
    rcases destroy transaction db file with ⟨db', file'⟩
    dsimp only
    rw [Database.begin_map]
    rcases db'.begin file' with ⟨_ | u, db'', file''⟩ <;> rfl

theorem commit_map (c : SQLiteConnection D) :
    (c.map f).commit = (c.commit.1, c.commit.2.map f) := by
  obtain ⟨file, database, transaction⟩ := c
  unfold commit finish map
  cases transaction with
  | none => rfl
  | some t =>
    obtain ⟨_ | _⟩ := t
    · cases database with
      | none => rfl
      | some db =>
        dsimp only [Option.map_some]
        rw [Database.commit_map]
        rcases db.commit file with ⟨_ | u, db', file'⟩ <;> rfl
    · rfl

variable {f}

theorem Closed.exists_map {c : SQLiteConnection D'} (hclosed : c.Closed) {d : D}
    (hcontent : c.file.content = f d) :
    ∃ c' : SQLiteConnection D, c = c'.map f ∧ c'.file.content = d ∧
      c'.file.outcomes = c.file.outcomes := by
  obtain ⟨⟨content, outcomes, rollbacks, handles⟩, database, transaction⟩ := c
  have hcontent : content = f d := hcontent
  subst hcontent
  cases database with
  | none => exact ⟨⟨⟨d, outcomes, rollbacks, handles⟩, none, transaction⟩, rfl, rfl, rfl⟩
  | some db =>
    obtain ⟨handle, pending⟩ := db
    have hpending : pending = none := hclosed ⟨handle, pending⟩ rfl
    subst hpending
    exact ⟨⟨⟨d, outcomes, rollbacks, handles⟩, some ⟨handle, none⟩, transaction⟩, rfl, rfl, rfl⟩

end SQLiteConnection

namespace SQLiteQuery
variable {S D D' : Type} {f : D → D'} {eng : Engine S D} {eng' : Engine S D'}

theorem prepared_map (h : eng.Maps f eng') (q : SQLiteQuery S) (db : Database D) (file : File D) :
    q.prepared eng' (db.map f) (file.map f)
      = ((q.prepared eng db file).1, (q.prepared eng db file).2.map f) := by
  unfold prepared
  cases q.statement with
  | some st => rfl
  | none => exact Database.prepare_map h q.query db file

theorem next_map (h : eng.Maps f eng') (q : SQLiteQuery S) (c : SQLiteConnection D) :
    q.next eng' (c.map f)
      = ((q.next eng c).1, (q.next eng c).2.1, (q.next eng c).2.2.map f) := by
  obtain ⟨file, database, transaction⟩ := c
  unfold next SQLiteConnection.map
  cases database with
  | none => rfl
  | some db =>
    dsimp only [Option.map_some]
    rw [prepared_map h]
    rcases q.prepared eng db file with ⟨what | st, file'⟩
    · rfl
    · dsimp only
      rcases applyBinds q.binds st with ⟨_ | what, st'⟩
      · dsimp only
        rw [Statement.step_map h]
        rcases st'.step eng q.query db file' with ⟨_ | b, st'', db', file''⟩ <;> rfl
      · rfl

theorem drain_map (h : eng.Maps f eng') (n : Nat) (q : SQLiteQuery S) (c : SQLiteConnection D) :
    q.drain eng' n (c.map f)
      = ((q.drain eng n c).1, (q.drain eng n c).2.1, (q.drain eng n c).2.2.map f) := by
  induction n generalizing q c with
  | zero => rfl
  | succ n ih =>
    unfold drain
    rw [next_map h]
    rcases q.next eng c with ⟨e | _ | _, q', c'⟩
    · rfl
    · rfl
    · exact ih q' c'

theorem nextWhile_map (h : eng.Maps f eng') (q : SQLiteQuery S) (c : SQLiteConnection D) :
    q.nextWhile eng' (c.map f)
      = ((q.nextWhile eng c).1, (q.nextWhile eng c).2.1, (q.nextWhile eng c).2.2.map f) := by
  unfold nextWhile
  rw [next_map h]
  rcases q.next eng c with ⟨e | _ | _, q', c'⟩
  · rfl
  · rfl
  · exact drain_map h q'.rowsLeft q' c'

theorem reset_map (q : SQLiteQuery S) (c : SQLiteConnection D) :
    q.reset (c.map f) = ((q.reset c).1, (q.reset c).2.1, (q.reset c).2.2.map f) := by
  unfold reset
  cases q.statement with
  | none => rfl
  | some st =>
    dsimp only
    rw [show (c.map f).file = c.file.map f from rfl, Statement.reset_map]
    rcases st.reset c.file with ⟨what | u, st', file'⟩ <;> rfl

end SQLiteQuery
end Evget
