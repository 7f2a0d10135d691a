import Evget.Lib.Sqlite

/-!
# Handles that only see a part of a file

A statement may touch only a part of the content of a file.  `f : D → D'` puts such a part into a
whole content; when every statement does to `f d` what it does to `d`, so does every request.

* `Engine.Maps f eng eng'`   every statement of `eng` does so;
* `File.map`, `Database.map`   the same file and the same handle with the whole content;
* `Statement.step_map`       a step on the whole content, and so for the other requests.
-/

namespace SQLite

section
variable {S D D' : Type} (f : D → D')

def File.map (file : File D) : File D' :=
  ⟨f file.content, file.outcomes, file.rollbacks, file.handles⟩

def Database.map (db : Database D) : Database D' := ⟨db.handle, db.pending.map f⟩

structure Engine.Maps (eng : Engine S D) (eng' : Engine S D') : Prop where
  params : ∀ s, eng'.params s = eng.params s
  run : ∀ s bindings d, eng'.run s bindings (f d)
    = (eng.run s bindings d).map fun out => (out.1, f out.2)

/-! ## requests -/

theorem File.draw_map (file : File D) : (file.map f).draw = (file.draw.1, file.draw.2.map f) := rfl

theorem File.drawRollback_map (file : File D) :
    (file.map f).drawRollback = (file.drawRollback.1, file.drawRollback.2.map f) := rfl

theorem Database.view_map (db : Database D) (file : File D) :
    (db.map f).view (file.map f) = f (db.view file) := by
  obtain ⟨handle, _ | d⟩ := db <;> rfl

theorem Database.put_map (d : D) (db : Database D) (file : File D) :
    (db.map f).put (f d) (file.map f) = ((db.put d file).1.map f, (db.put d file).2.map f) := by
  obtain ⟨handle, _ | d'⟩ := db <;> rfl

theorem Database.abort_map (aborts : Bool) (db : Database D) :
    (db.map f).abort aborts = (db.abort aborts).map f := by
  cases aborts <;> rfl

theorem Database.begin_map (db : Database D) (file : File D) :
    (db.map f).begin (file.map f)
      = ((db.begin file).1, (db.begin file).2.1.map f, (db.begin file).2.2.map f) := by
  unfold Database.begin
  rw [File.draw_map]
  obtain ⟨handle, _ | d⟩ := db
  · rcases file.draw with ⟨_ | ⟨what, aborts⟩, file'⟩ <;> rfl
  · rfl

theorem Database.commit_map (db : Database D) (file : File D) :
    (db.map f).commit (file.map f)
      = ((db.commit file).1, (db.commit file).2.1.map f, (db.commit file).2.2.map f) := by
  unfold Database.commit
  rw [File.draw_map]
  obtain ⟨handle, _ | d⟩ := db
  · rfl
  · rcases file.draw with ⟨_ | ⟨what, aborts⟩, file'⟩
    · rfl
    · cases aborts <;> rfl

theorem Database.rollback_map (db : Database D) (file : File D) :
    (db.map f).rollback (file.map f)
      = ((db.rollback file).1, (db.rollback file).2.1.map f, (db.rollback file).2.2.map f) := by
  unfold Database.rollback
  rw [File.drawRollback_map]
  obtain ⟨handle, _ | d⟩ := db
  · rfl
  · rcases file.drawRollback with ⟨_ | ⟨what, aborts⟩, file'⟩ <;> rfl

theorem Statement.reset_map (st : Statement) (file : File D) :
    st.reset (file.map f)
      = ((st.reset file).1, (st.reset file).2.1, (st.reset file).2.2.map f) := by
  unfold Statement.reset
  rw [File.draw_map]
  rcases file.draw with ⟨_ | ⟨what, aborts⟩, file'⟩ <;> rfl

variable {f} {eng : Engine S D} {eng' : Engine S D'}

theorem Database.prepare_map (h : eng.Maps f eng') (s : S) (db : Database D) (file : File D) :
    (db.map f).prepare eng' s (file.map f)
      = ((db.prepare eng s file).1, (db.prepare eng s file).2.map f) := by
  unfold Database.prepare
  rw [File.draw_map, h.params]
  rcases file.draw with ⟨_ | ⟨what, aborts⟩, file'⟩ <;> rfl

/-- **A step on the whole content.** -/
theorem Statement.step_map (h : eng.Maps f eng') (s : S) (st : Statement) (db : Database D)
    (file : File D) :
    st.step eng' s (db.map f) (file.map f)
      = ((st.step eng s db file).1, (st.step eng s db file).2.1,
          (st.step eng s db file).2.2.1.map f, (st.step eng s db file).2.2.2.map f) := by
  unfold Statement.step
  rw [File.draw_map, show (db.map f).handle = db.handle from rfl]
  by_cases hh : st.handle ≠ db.handle
  · rw [if_pos hh, if_pos hh]
  · rw [if_neg hh, if_neg hh]
    cases st.cursor with
    | done => rfl
    | row current rest =>
      rcases file.draw with ⟨_ | ⟨what, aborts⟩, file'⟩
      · rfl
      · simp only [Database.abort_map]
    | ready =>
      rcases file.draw with ⟨_ | ⟨what, aborts⟩, file'⟩
      · simp only [Database.view_map, h.run]
        cases eng.run s st.bindings (db.view file') with
        | error what => rfl
        | ok out =>
          obtain ⟨rows, d⟩ := out
          simp only [Except.map, Database.put_map]
      · simp only [Database.abort_map]

end
end SQLite
