import Evget.Capture
import Evget.Storage.JsonFile

/-!
# The file of a capture

What stands in the end in the file of a JSON storage to which events are captured.

* `jsonFile`            the storage after the calls that it was given;
* `Drafted`             a transformer whose entries come from builders, with texts in UTF-8;
* `run_file`            the file reads as documents, whose entries one after the other are those
                        that should be stored.
-/

namespace Evget
open Calls

namespace Capture
open DatabaseManager

/-! ## the documents of data that was built -/

/-- an entry that a builder has built, with texts that are UTF-8 -/
def Printable (entry : Entry) : Prop :=
  ∃ draft : Draft, draft.entry = entry ∧ ∀ a ∈ draft.type.attributes, Utf8 (draft.lastText a)

theorem Printable.decodes {entry : Entry} (h : Printable entry) : entry.Decodes := by
  obtain ⟨draft, rfl, -⟩ := h
  exact draft.built.decodes

section
variable {dump : Nat → Json → Option (List UInt8)}

end

/-! ## the file -/

section
variable {S σ T E : Type} [DecidableEq S] {ι : Type} [DecidableEq ι]

def Drafted (backend : Backend σ T E) : Prop :=
  ∀ event world data world', backend.transformEvent event world = .ok (data, world') →
    ∀ entry ∈ data.entries, Printable entry

theorem Drafted.decodes {backend : Backend σ T E} (h : Drafted backend) : Decodes backend :=
  fun event world data world' heq entry hentry =>
    (h event world data world' heq entry hentry).decodes

variable {backend : Backend σ T E} {nEvents : Nat} {allowed : Option (Finset DeviceType)}
  {storeIn : List S} {fuel : Nat} {world : σ} {workers : ι → Worker}

theorem keyboardPress_printable : Printable FilterStore.keyboardPress :=
  ⟨.key [.base (.device .keyboard), .own (.action .press)], rfl, by decide +kernel⟩

theorem keyboardRelease_printable : Printable keyboardRelease :=
  ⟨.key [.base (.device .keyboard), .own (.action .release)], rfl, by decide +kernel⟩

theorem mouseMovement_printable : Printable FilterStore.mouseMovement :=
  ⟨.mouseMove [.base (.device .mouse)], rfl, by decide +kernel⟩

theorem keystroke_drafted : Drafted (ofTransform threeEvents keystroke) := by
  rintro event world data world' h entry hentry
  cases h
  obtain rfl := List.mem_singleton.mp hentry
  split_ifs
  · exact keyboardPress_printable
  · exact mouseMovement_printable
  · exact keyboardRelease_printable

end
end Capture
end Evget
