import Evget.Event.Named
import Mathlib.Data.Finset.Basic

/-!
# The filter in front of a store

`FilterStore` forwards the entries of a `Data` whose device type is in a set, and those that name no
device type.  What it reads is a text, which `std::stoi` may refuse with an exception.

* `castUnderlying`                  the number that the text of an enumerator is cast to;
* `FilterStore.storeEvent`          the filter as it runs in front of the inner store;
* `Entry.device`, `Data.restrict`   what a filter is for: the entries whose device is in the set;
* `FilterStore.storeEvent_restricts`  on entries of the builders the one is the other, so filters
                                    commute with `mergeWith` and compose to the intersection.
-/

namespace Evget
open SQLite

/-- `Store::StoreEvent` of a store with state `σ` -/
abbrev Store (σ : Type) := Data → σ → Except Thrown (Result Unit) × σ

/-- `FromUnderlying`: the cast gives a number of eight bits, which needs no enumerator -/
def castUnderlying (value : List UInt8) : Except Thrown (Option Nat) :=
  if value.isEmpty then .ok none else (stoi value).map fun n => some (n % 256).toNat

/-- the enumerator of a text is that of the number it is cast to -/
theorem fromUnderlying_eq_cast {E : Type} [Enumeration E] (value : List UInt8) :
    fromUnderlying value = (castUnderlying value).map fun number => number.bind fun n =>
      Enumeration.enumerators.find? fun e : E => Underlying.underlying e = n := by
  unfold fromUnderlying castUnderlying
  cases value.isEmpty with
  | true => rfl
  | false =>
    cases stoi value with
    | error e => rfl
    | ok n => rfl

/-! ## the filter -/

structure FilterStore (σ : Type) where
  inner : Store σ
  allowed : Option (Finset DeviceType)

namespace FilterStore

/-- whether the loop adds the entry to what it forwards -/
def keeps (allowed : Finset DeviceType) (entry : Entry) : Except Thrown Bool :=
  match entry.data[kDeviceTypeIndex]? with
  | none => .ok true
  | some value => (castUnderlying value).map fun
    | none => true
    | some n => decide (∃ device ∈ allowed, Underlying.underlying device = n)

def filterEntry (allowed : Finset DeviceType) (filtered : Data) (entry : Entry) :
    Except Thrown Data :=
  (keeps allowed entry).map fun keep => if keep then filtered.addEntry entry else filtered

def filter (allowed : Finset DeviceType) (event : Data) : Except Thrown Data :=
  event.entries.foldlM (filterEntry allowed) .new

def storeEvent {σ : Type} (self : FilterStore σ) : Store σ := fun event s =>
  match self.allowed with
  | none => self.inner event s
  | some allowed =>
    match filter allowed event with
    | .error e => (.error e, s)
    | .ok filtered => if filtered.empty then (.ok (.ok ()), s) else self.inner filtered s

end FilterStore

/-! ## what the filter is for -/

def Entry.device (entry : Entry) : Option DeviceType :=
  entry.data[kDeviceTypeIndex]?.bind fun value =>
    Enumeration.enumerators.find? fun device => toUnderlying device = value

def Data.restrict (allowed : Finset DeviceType) (event : Data) : Data :=
  ⟨event.entries.filter fun entry => entry.device.all fun device => device ∈ allowed⟩

/-- the device field is missing, empty or the number of a device type -/
def Entry.Decodes (entry : Entry) : Prop :=
  ∀ value, entry.data[kDeviceTypeIndex]? = some value →
    ∃ device : Option DeviceType, value = toUnderlyingOptional device

theorem Entry.Built.decodes {entry : Entry} (h : entry.Built) : entry.Decodes := by
  intro value hvalue
  cases h with
  | key self => exact ⟨self.device_, (Option.some.inj hvalue).symm⟩
  | mouseClick self => exact ⟨self.device_, (Option.some.inj hvalue).symm⟩
  | mouseMove self => exact ⟨self.device_, (Option.some.inj hvalue).symm⟩
  | mouseScroll self => exact ⟨self.device_, (Option.some.inj hvalue).symm⟩

theorem Entry.decodes_of_length {entry : Entry} (h : entry.data.length < 15) : entry.Decodes := by
  intro value hvalue
  have hlt : 14 < entry.data.length := (List.getElem?_eq_some_iff.mp hvalue).1
  omega

namespace Data
variable (allowed allowed' : Finset DeviceType) (event event' : Data)

theorem restrict_mergeWith : (event.mergeWith event').restrict allowed
    = (event.restrict allowed).mergeWith (event'.restrict allowed) :=
  congrArg Data.mk (List.filter_append ..)

theorem restrict_restrict : (event.restrict allowed).restrict allowed'
    = event.restrict (allowed ∩ allowed') := by
  refine congrArg Data.mk ((List.filter_filter ..).trans (List.filter_congr fun entry _ => ?_))
  cases entry.device with
  | none => rfl
  | some device =>
    show (decide (device ∈ allowed') && decide (device ∈ allowed)) = decide _
    rw [Bool.and_comm, ← Bool.decide_and]
    exact decide_eq_decide.mpr Finset.mem_inter.symm

/-- a filter keeps what it is given about the entries -/
theorem forall_restrict {p : Entry → Prop} (h : ∀ entry ∈ event.entries, p entry) :
    ∀ entry ∈ (event.restrict allowed).entries, p entry :=
  fun entry hentry => h entry (List.mem_filter.mp hentry).1

end Data

/-! ## the filter on entries of the builders -/

theorem castUnderlying_toUnderlying (device : DeviceType) :
    castUnderlying (toUnderlying device) = .ok (some (Underlying.underlying device)) := by
  cases device <;> rfl

theorem Entry.device_of_data {entry : Entry} {device : Option DeviceType}
    (h : entry.data[kDeviceTypeIndex]? = some (toUnderlyingOptional device)) :
    entry.device = device := by
  unfold Entry.device
  rw [h]
  cases device with
  | none => rfl
  | some device => cases device <;> rfl

namespace FilterStore

theorem keeps_device {allowed : Finset DeviceType} {entry : Entry} (h : entry.Decodes) :
    keeps allowed entry = .ok (entry.device.all fun device => device ∈ allowed) := by
  unfold keeps
  cases hvalue : entry.data[kDeviceTypeIndex]? with
  | none =>
    have hnone : entry.device = none := by
      unfold Entry.device
      rw [hvalue]
      rfl
    rw [hnone]
    rfl
  | some value =>
    obtain ⟨device, rfl⟩ := h value hvalue
    rw [Entry.device_of_data hvalue]
    cases device with
    | none => rfl
    | some device =>
      show (castUnderlying (toUnderlying device)).map _ = _
      rw [castUnderlying_toUnderlying]
      refine congrArg Except.ok (decide_eq_decide.mpr ⟨?_, fun hmem => ⟨device, hmem, rfl⟩⟩)
      -- a number belongs to one device type only
      rintro ⟨other, hmem, hnumber⟩
      have hsame : other = device := by
        cases other <;> cases device <;> first | rfl | cases hnumber
      exact hsame ▸ hmem

theorem foldlM_filterEntry (allowed : Finset DeviceType) {entries : List Entry}
    (h : ∀ entry ∈ entries, entry.Decodes) (filtered : Data) :
    entries.foldlM (filterEntry allowed) filtered
      = .ok (filtered.mergeWith (Data.restrict allowed ⟨entries⟩)) := by
  induction entries generalizing filtered with
  | nil =>
    show Except.ok filtered = .ok ⟨filtered.entries ++ []⟩
    rw [List.append_nil]
  | cons entry entries ih =>
    have hrest : ∀ entry ∈ entries, entry.Decodes :=
      fun other hother => h other (List.mem_cons_of_mem _ hother)
    have hentry : filterEntry allowed filtered entry = .ok
        (if entry.device.all (fun device => device ∈ allowed) then filtered.addEntry entry
          else filtered) := by
      unfold filterEntry
      rw [keeps_device (h entry (List.mem_cons_self ..))]
      rfl
    rw [List.foldlM_cons, hentry]
    show List.foldlM _ _ entries = _
    rw [ih hrest]
    unfold Data.restrict Data.mergeWith
    dsimp only
    rw [List.filter_cons]
    split
    · rw [Data.addEntry, List.append_assoc]
      rfl
    · rfl

/-- **The loop** forwards the entries whose device is in the set, and no other. -/
theorem filter_restricts (allowed : Finset DeviceType) {event : Data}
    (h : ∀ entry ∈ event.entries, entry.Decodes) :
    filter allowed event = .ok (event.restrict allowed) :=
  foldlM_filterEntry allowed h .new

section
variable {σ : Type}

theorem storeEvent_restrict (inner : Store σ) (allowed : Finset DeviceType) {event : Data}
    (h : ∀ entry ∈ event.entries, entry.Decodes) (s : σ) :
    storeEvent ⟨inner, some allowed⟩ event s
      = if (event.restrict allowed).empty then (.ok (.ok ()), s)
        else inner (event.restrict allowed) s := by
  unfold storeEvent
  dsimp only
  rw [filter_restricts allowed h]

/-- **One filter for two**: filters in a row are the filter for what both allow. -/
theorem storeEvent_inter (inner : Store σ) (allowed allowed' : Finset DeviceType) {event : Data}
    (h : ∀ entry ∈ event.entries, entry.Decodes) (s : σ) :
    storeEvent ⟨storeEvent ⟨inner, some allowed'⟩, some allowed⟩ event s
      = storeEvent ⟨inner, some (allowed ∩ allowed')⟩ event s := by
  rw [storeEvent_restrict _ allowed h, storeEvent_restrict _ _ h, ← Data.restrict_restrict]
  split
  · rename_i hempty
    have hnil : event.restrict allowed = ⟨[]⟩ :=
      congrArg Data.mk (List.isEmpty_iff.mp hempty)
    rw [hnil]
    rfl
  · exact storeEvent_restrict inner allowed' (Data.forall_restrict allowed event h) s

/-- **The filter**: on entries of the builders, and on those without a device field, the inner store
is called once, with the entries that name an allowed device or none, in their order, unless there
are none.  So filtering commutes with `mergeWith`, and two filters in a row are one. -/
theorem storeEvent_restricts (allowed : Finset DeviceType) (event : Data)
    (h : ∀ entry ∈ event.entries, entry.Decodes) :
    (∀ (inner : Store σ) s, storeEvent ⟨inner, some allowed⟩ event s
        = if (event.restrict allowed).empty then (.ok (.ok ()), s)
          else inner (event.restrict allowed) s) ∧
      (∀ event' : Data, (∀ entry ∈ event'.entries, entry.Decodes) →
        filter allowed event = .ok (event.restrict allowed) ∧
        filter allowed event' = .ok (event'.restrict allowed) ∧
        filter allowed (event.mergeWith event')
          = .ok ((event.restrict allowed).mergeWith (event'.restrict allowed))) ∧
      ∀ (inner : Store σ) (allowed' : Finset DeviceType) s,
        storeEvent ⟨storeEvent ⟨inner, some allowed'⟩, some allowed⟩ event s
          = storeEvent ⟨inner, some (allowed ∩ allowed')⟩ event s := by
  refine ⟨fun inner s => storeEvent_restrict inner allowed h s, fun event' h' => ?_,
    fun inner allowed' s => storeEvent_inter inner allowed allowed' h s⟩
  refine ⟨filter_restricts allowed h, filter_restricts allowed h', ?_⟩
  rw [filter_restricts, Data.restrict_mergeWith]
  intro entry hentry
  rcases List.mem_append.mp hentry with hleft | hright
  · exact h entry hleft
  · exact h' entry hright

end

/-! ### a key press, a movement of the mouse and an entry without a device -/

def keyboardPress : Entry := Key.entry { device_ := some .keyboard, action_ := some .press }

def mouseMovement : Entry := MouseMove.entry { device_ := some .mouse }

def deviceless : Entry := ⟨.key, [], []⟩

theorem keyboardPress_device : keyboardPress.device = some .keyboard := Entry.device_of_data rfl

theorem mouseMovement_device : mouseMovement.device = some .mouse := Entry.device_of_data rfl

theorem restrict_mixed (device : DeviceType) :
    Data.restrict {device} ⟨[keyboardPress, mouseMovement, deviceless]⟩
      = ⟨(if .keyboard = device then [keyboardPress] else []) ++
          (if .mouse = device then [mouseMovement] else []) ++ [deviceless]⟩ := by
  have hdeviceless : deviceless.device = none := rfl
  unfold Data.restrict
  simp only [List.filter_cons, List.filter_nil, keyboardPress_device, mouseMovement_device,
    hdeviceless, Option.all_some, Option.all_none, Finset.mem_singleton, decide_eq_true_eq]
  cases device <;> rfl

def recorded : Store (List Data) := fun event calls => (.ok (.ok ()), calls ++ [event])

theorem mixed_restricts :
    let event : Data := ⟨[keyboardPress, mouseMovement, deviceless]⟩
    storeEvent ⟨recorded, some {.keyboard}⟩ event []
        = (.ok (.ok ()), [⟨[keyboardPress, deviceless]⟩]) ∧
      storeEvent ⟨storeEvent ⟨recorded, some {.mouse}⟩, some {.keyboard}⟩ event []
        = (.ok (.ok ()), [⟨[deviceless]⟩]) ∧
      filter {.keyboard} (event.mergeWith event) = .ok
        ((event.restrict {.keyboard}).mergeWith (event.restrict {.keyboard})) := by
  intro event
  have h : ∀ entry ∈ event.entries, entry.Decodes := by
    intro entry hentry
    rcases List.mem_cons.mp hentry with rfl | hentry
    · exact (Entry.Built.key _).decodes
    · rcases List.mem_cons.mp hentry with rfl | hentry
      · exact (Entry.Built.mouseMove _).decodes
      · rw [List.mem_singleton.mp hentry]
        exact Entry.decodes_of_length (by decide)
  have hkeyboard : event.restrict {.keyboard} = ⟨[keyboardPress, deviceless]⟩ :=
    restrict_mixed .keyboard
  obtain ⟨hstore, hmerge, hinter⟩ := storeEvent_restricts (σ := List Data) {.keyboard} event h
  refine ⟨?_, ?_, (hmerge event h).2.2⟩
  · rw [hstore recorded, hkeyboard]
    rfl
  · rw [hinter recorded {.mouse}]
    rfl

end FilterStore
end Evget
