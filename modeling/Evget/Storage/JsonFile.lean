import Evget.Lib.JsonReader
import Evget.Storage.JsonStorage

/-!
# What a JSON file holds

The file of a `JsonStorage` is opened behind what it already holds, and every batch that is stored
puts one more document there.  A JSON reader finds all of them.

* `afterStores`         the storage after any number of batches;
* `Writes`              the batches that leave a document;
* `afterStores_reads`   the file reads as what it held, and a document for each of these batches.
-/

namespace Evget
namespace JsonStorage
open SQLite

section
variable (dump : Nat → Json → Option (List UInt8))

/-- the storage after a call, which may throw -/
def afterStoreEvent (self : JsonStorage) (events : Data) : JsonStorage :=
  match storeEvent dump events self with
  | .ok (_, self) => self
  | .error _ => self

def afterStore (self : JsonStorage) (batch : List Draft) : JsonStorage :=
  afterStoreEvent dump self (buildAll batch)

def afterStores (self : JsonStorage) (batches : List (List Draft)) : JsonStorage :=
  batches.foldl (afterStore dump) self

end

def Writes (batch : List Draft) : Prop := batch ≠ [] ∧ (draftsJson batch).Valid

instance (batch : List Draft) : Decidable (Writes batch) :=
  inferInstanceAs (Decidable (_ ∧ _))

def documents (batches : List (List Draft)) : List Json :=
  (batches.filter Writes).map draftsJson

theorem documents_cons (batch : List Draft) (batches : List (List Draft)) :
    documents (batch :: batches)
      = (if Writes batch then [draftsJson batch] else []) ++ documents batches := by
  unfold documents
  by_cases h : Writes batch
  · rw [List.filter_cons_of_pos (by exact decide_eq_true h), if_pos h]
    rfl
  · rw [List.filter_cons_of_neg (by rw [decide_eq_false h]; exact Bool.false_ne_true), if_neg h]
    rfl

section
variable {dump : Nat → Json → Option (List UInt8)}

/-- one batch: its text and a new line, or nothing -/
theorem afterStore_cases (hdump : Json.Strict dump) (self : JsonStorage) (batch : List Draft) :
    (Writes batch ∧ ∃ text, dump 4 (draftsJson batch) = some text ∧
      afterStore dump self batch = ⟨self.ostream_ ++ text ++ bytes "\n"⟩) ∨
    (¬ Writes batch ∧ afterStore dump self batch = self) := by
  unfold afterStore afterStoreEvent
  rw [storeEvent_eq]
  cases batch with
  | nil => exact .inr ⟨fun hwrites => hwrites.1 rfl, rfl⟩
  | cons draft batch =>
    have hvalid := hdump 4 (draftsJson (draft :: batch))
    rw [if_neg (by exact Bool.false_ne_true)]
    cases htext : dump 4 (draftsJson (draft :: batch)) with
    | none =>
      rw [htext] at hvalid
      exact .inr ⟨fun hwrites => Bool.false_ne_true (hvalid.mpr hwrites.2), rfl⟩
    | some text =>
      rw [htext] at hvalid
      exact .inl ⟨⟨List.cons_ne_nil _ _, hvalid.mp rfl⟩, text, rfl, rfl⟩

theorem afterStore_reads (hdump : Json.Strict dump) (hreads : Json.ReadsBack dump)
    {self : JsonStorage} {file : List Json} (h : Json.readAll self.ostream_ = some file)
    (batch : List Draft) :
    Json.readAll (afterStore dump self batch).ostream_
      = some (file ++ if Writes batch then [draftsJson batch] else []) := by
  obtain ⟨hwrites, text, htext, heq⟩ | ⟨hwrites, heq⟩ := afterStore_cases hdump self batch
  · have hnew : Json.readAll (text ++ bytes "\n") = some [draftsJson batch] :=
      Json.readAll_append (hreads htext) rfl
    rw [heq, if_pos hwrites]
    show Json.readAll (self.ostream_ ++ text ++ bytes "\n") = _
    rw [List.append_assoc]
    exact Json.readAll_append h hnew
  · rw [heq, if_neg hwrites, List.append_nil]
    exact h

theorem readAll_afterStores (hdump : Json.Strict dump) (hreads : Json.ReadsBack dump)
    {self : JsonStorage} {file : List Json} (h : Json.readAll self.ostream_ = some file)
    (batches : List (List Draft)) :
    Json.readAll (afterStores dump self batches).ostream_ = some (file ++ documents batches) := by
  induction batches generalizing self file with
  | nil =>
    show Json.readAll self.ostream_ = some (file ++ [])
    rw [List.append_nil]
    exact h
  | cons batch batches ih =>
    show Json.readAll (afterStores dump (afterStore dump self batch) batches).ostream_ = _
    rw [ih (afterStore_reads hdump hreads h batch), documents_cons, List.append_assoc]

/-- nothing that stands in the file is written over -/
theorem prefix_afterStores (hdump : Json.Strict dump) (self : JsonStorage)
    (batches : List (List Draft)) : self.ostream_ <+: (afterStores dump self batches).ostream_ := by
  induction batches generalizing self with
  | nil => exact List.prefix_rfl
  | cons batch batches ih =>
    have hbatch : self.ostream_ <+: (afterStore dump self batch).ostream_ := by
      obtain ⟨-, text, -, heq⟩ | ⟨-, heq⟩ := afterStore_cases hdump self batch
      · rw [heq]
        show self.ostream_ <+: self.ostream_ ++ text ++ bytes "\n"
        rw [List.append_assoc]
        exact List.prefix_append _ _
      · exact heq.symm ▸ List.prefix_rfl
    exact hbatch.trans (ih (afterStore dump self batch))

end

/-- a document from which every text and all modifiers of a batch can be read -/
def Records (document : Json) (batch : List Draft) : Prop :=
  ∀ (k : Nat) (draft : Draft), batch[k]? = some draft →
    (∀ a ∈ draft.type.attributes, recordedField document k a.name = some (draft.lastText a)) ∧
    recordedModifiers document k
      = some (draft.modifiers.map fun modifier => fromModifierValue (some modifier))

theorem records_draftsJson (batch : List Draft) : Records (draftsJson batch) batch := by
  intro k draft hdraft
  obtain ⟨hk, heq⟩ := List.getElem?_eq_some_iff.mp hdraft
  have hsplit : batch = batch.take k ++ draft :: batch.drop (k + 1) := by
    rw [← heq, List.getElem_cons_drop, List.take_append_drop]
  have hlength : (batch.take k).length = k := List.length_take_of_le (Nat.le_of_lt hk)
  have hfield := @recordedField_draft (batch.take k) draft (batch.drop (k + 1))
  have hmodifiers := recordedModifiers_draft (batch.take k) draft (batch.drop (k + 1))
  rw [← hsplit, hlength] at hfield hmodifiers
  exact ⟨fun a ha => hfield ha, hmodifiers⟩

/-- **What can be read from the file**, of any batches, stored one after the other in a file that
already reads as some documents, when the texts of the JSON library read back as the documents that
they were made of.  The file still reads as what it held; behind that stands one document for each
batch that is not empty and whose texts are UTF-8, in the order of the batches; every text and all
modifiers of the batch can be read from it; and all other batches leave no trace. -/
theorem afterStores_reads {dump : Nat → Json → Option (List UInt8)} (hdump : Json.Strict dump)
    (hreads : Json.ReadsBack dump) (self : JsonStorage) (file : List Json)
    (h : Json.readAll self.ostream_ = some file) (batches : List (List Draft)) :
    self.ostream_ <+: (afterStores dump self batches).ostream_ ∧
    ∃ written, Json.readAll (afterStores dump self batches).ostream_ = some (file ++ written) ∧
      List.Forall₂ Records written (batches.filter fun batch =>
        batch ≠ [] ∧ ∀ draft ∈ batch, ∀ a ∈ draft.type.attributes, Utf8 (draft.lastText a)) := by
  have hfilter : (batches.filter fun batch =>
      batch ≠ [] ∧ ∀ draft ∈ batch, ∀ a ∈ draft.type.attributes, Utf8 (draft.lastText a))
        = batches.filter Writes := by
    refine List.filter_congr fun batch _ => decide_eq_decide.mpr ?_
    unfold Writes
    rw [draftsJson_valid]
  refine ⟨prefix_afterStores hdump self batches, documents batches,
    readAll_afterStores hdump hreads h batches, ?_⟩
  rw [hfilter, documents, List.forall₂_map_left_iff]
  exact List.forall₂_same.mpr fun batch _ => records_draftsJson batch

def pressed (name : List UInt8) : Draft :=
  .key [.base (.modifier .control), .own (.buttonName name), .own (.action .press)]

/-- behind an object that another program wrote: a quotation mark and a new line in a name, a batch
without entries, and a name in Latin-1 -/
theorem afterStores_reads_pressed :
    (⟨bytes "\x7b\x7d\n"⟩ : JsonStorage).ostream_ <+: (afterStores Json.dump ⟨bytes "\x7b\x7d\n"⟩
      [[pressed [34, 10]], [], [pressed [233]]]).ostream_ ∧
    ∃ written, Json.readAll (afterStores Json.dump ⟨bytes "\x7b\x7d\n"⟩
        [[pressed [34, 10]], [], [pressed [233]]]).ostream_ = some ([.object []] ++ written) ∧
      List.Forall₂ Records written ([[pressed [34, 10]], [], [pressed [233]]].filter fun batch =>
        batch ≠ [] ∧ ∀ draft ∈ batch, ∀ a ∈ draft.type.attributes, Utf8 (draft.lastText a)) :=
  afterStores_reads Json.dump_strict Json.dump_readsBack ⟨bytes "\x7b\x7d\n"⟩ [.object []] rfl
    [[pressed [34, 10]], [], [pressed [233]]]

end JsonStorage
end Evget
