import Evget.Lib.Returns
import Evget.Storage.FilterStore

/-!
# Decoding texts that hold no enumerator

`FromUnderlying` is documented to give nothing for a text that is empty or invalid.  It converts the
text with `std::stoi` and casts the number without a check, so a text that is no number raises an
exception, and a number without an enumerator is cast to one that does not exist.

* `Decoded`                       what is documented of a text;
* `Converts`                      the texts that raise nothing;
* `decoded_iff`                   when the documentation holds;
* `named_returns`, `filter_returns`   when the two consumers of entries raise nothing.
-/

namespace Evget
open SQLite

/-- a text that is empty, or that `std::stoi` converts -/
def Converts (text : List UInt8) : Prop := text = [] ∨ Returns (stoi text)

theorem castUnderlying_returns (text : List UInt8) :
    Returns (castUnderlying text) ↔ Converts text := by
  unfold castUnderlying Converts
  by_cases h : text = []
  · simp [h]
  · simp [h]

theorem fromUnderlying_returns {E : Type} [Enumeration E] (text : List UInt8) :
    Returns (fromUnderlying (E := E) text) ↔ Converts text := by
  rw [fromUnderlying_eq_cast, returns_map, castUnderlying_returns]

/-! ## one text -/

/-- the enumerator of a text that holds its number, and nothing for any other text -/
structure Decoded (E : Type) [Underlying E] (text : List UInt8) : Prop where
  enumerator : ∀ e : E,
    castUnderlying text = .ok (some (Underlying.underlying e)) ↔ text = toUnderlying e
  other : (∀ e : E, text ≠ toUnderlying e) → castUnderlying text = .ok none

section
variable {E : Type} [Enumeration E] [LawfulEnumeration E]

theorem castUnderlying_enumerator (e : E) :
    castUnderlying (toUnderlying e) = .ok (some (Underlying.underlying e)) := by
  have h := LawfulEnumeration.fromUnderlying_toUnderlying e
  rw [fromUnderlying_eq_cast] at h
  cases hcast : castUnderlying (toUnderlying e) with
  | error raised =>
    rw [hcast] at h
    cases h
  | ok number =>
    rw [hcast] at h
    cases number with
    | none => cases h
    | some n =>
      have hfind := List.find?_some (Except.ok.inj h)
      rw [of_decide_eq_true hfind]

theorem toUnderlying_ne_nil (e : E) : toUnderlying e ≠ [] := by
  intro h
  have hcast := castUnderlying_enumerator e
  rw [h] at hcast
  cases hcast

/-- only the empty text is cast to nothing -/
theorem castUnderlying_eq_none_iff (text : List UInt8) :
    castUnderlying text = .ok none ↔ text = [] := by
  unfold castUnderlying
  by_cases h : text = []
  · simp [h]
  · cases hstoi : stoi text with
    | error e => simp [h, Except.map]
    | ok n => simp [h, Except.map]

/-- a text is decoded as it is documented when it is empty or holds the number of an enumerator -/
theorem decoded_iff (text : List UInt8) :
    Decoded E text ↔ text = [] ∨ ∃ e : E, text = toUnderlying e := by
  constructor
  · intro h
    by_cases hheld : ∃ e : E, text = toUnderlying e
    · exact .inr hheld
    · left
      rw [← castUnderlying_eq_none_iff]
      exact h.other fun e he => hheld ⟨e, he⟩
  · rintro (rfl | ⟨e, rfl⟩)
    · refine ⟨fun e => ⟨?_, fun h => absurd h.symm (toUnderlying_ne_nil e)⟩, fun _ => rfl⟩
      intro h
      cases h
    · refine ⟨fun other => ⟨?_, ?_⟩, fun h => absurd rfl (h e)⟩
      · intro h
        rw [castUnderlying_enumerator] at h
        show decimal _ = decimal _
        rw [Option.some.inj (Except.ok.inj h)]
      · intro h
        rw [h, castUnderlying_enumerator]

end

/-! ## the consumers -/

def actionText (type : EntryType) (data : List (List UInt8)) : Option (List UInt8) :=
  match type with
  | .mouseClick => data[kMouseClickNFields - 1]?
  | .key => data[kKeyNFields - 1]?
  | _ => none

def Entry.decodedTexts (entry : Entry) : List (List UInt8) :=
  entry.data[kDeviceTypeIndex]?.toList ++ (actionText entry.type entry.data).toList ++
    entry.modifiers

section
variable {E : Type} [Enumeration E] (name : Option E → List UInt8)

theorem renamed_returns (text : List UInt8) : Returns (renamed name text) ↔ Converts text := by
  rw [renamed, returns_map, fromUnderlying_returns]

theorem renameAt_returns {index : Nat} {data : List (List UInt8)} (h : index < data.length) :
    Returns (renameAt name index data) ↔ ∀ text ∈ data[index]?.toList, Converts text := by
  rw [List.getElem?_eq_getElem h]
  simp only [renameAt, List.getElem?_eq_getElem h]
  rw [returns_map, renamed_returns]
  simp

theorem renameAt_other {index : Nat} {data data' : List (List UInt8)}
    (h : renameAt name index data = .ok data') {i : Nat} (hi : index ≠ i) :
    data'[i]? = data[i]? := by
  unfold renameAt at h
  cases hvalue : data[index]? with
  | none =>
    rw [hvalue] at h
    cases h
  | some value =>
    rw [hvalue] at h
    cases hname : renamed name value with
    | error e =>
      simp only [hname] at h
      cases h
    | ok text =>
      simp only [hname] at h
      cases h
      exact List.getElem?_set_ne hi

end

theorem nameButtonAction_returns (type : EntryType) (data : List (List UInt8)) :
    Returns (nameButtonAction type data) ↔
      ∀ text ∈ (actionText type data).toList, Converts text := by
  cases type with
  | mouseMove => simp [nameButtonAction, actionText]
  | mouseScroll => simp [nameButtonAction, actionText]
  | mouseClick =>
    show Returns (if _ then _ else _) ↔ ∀ text ∈ data[kMouseClickNFields - 1]?.toList, _
    by_cases h : kMouseClickNFields ≤ data.length
    · rw [if_pos h, renameAt_returns fromButtonAction (Nat.lt_of_lt_of_le (by decide) h)]
    · rw [if_neg h, List.getElem?_eq_none (by simp only [kMouseClickNFields] at h ⊢; omega)]
      simp
  | key =>
    show Returns (if _ then _ else _) ↔ ∀ text ∈ data[kKeyNFields - 1]?.toList, _
    by_cases h : kKeyNFields ≤ data.length
    · rw [if_pos h, renameAt_returns fromButtonAction (Nat.lt_of_lt_of_le (by decide) h)]
    · rw [if_neg h, List.getElem?_eq_none (by simp only [kKeyNFields] at h ⊢; omega)]
      simp

/-- the text of the button action is not the one of the device type -/
theorem actionText_renamed (type : EntryType) {data data' : List (List UInt8)}
    (h : data'[18]? = data[18]?) : actionText type data' = actionText type data := by
  cases type with
  | mouseMove => rfl
  | mouseScroll => rfl
  | mouseClick => exact h
  | key => exact h

def nameDevice (data : List (List UInt8)) : Except Thrown (List (List UInt8)) :=
  if kDeviceTypeIndex < data.length then renameAt fromDevice kDeviceTypeIndex data else .ok data

theorem nameDevice_returns (data : List (List UInt8)) :
    Returns (nameDevice data) ↔ ∀ text ∈ data[kDeviceTypeIndex]?.toList, Converts text := by
  unfold nameDevice
  by_cases h : kDeviceTypeIndex < data.length
  · rw [if_pos h, renameAt_returns fromDevice h]
  · rw [if_neg h, List.getElem?_eq_none (by omega)]
    simp

theorem nameDevice_kept {data data' : List (List UInt8)} (h : nameDevice data = .ok data') :
    data'[18]? = data[18]? := by
  unfold nameDevice at h
  by_cases hlen : kDeviceTypeIndex < data.length
  · rw [if_pos hlen] at h
    exact renameAt_other fromDevice h (by decide)
  · rw [if_neg hlen] at h
    rw [Except.ok.inj h]

theorem named_eq (entry : Entry) : entry.toNamedRepresentation =
    (nameDevice entry.data >>= fun data => nameButtonAction entry.type data >>= fun data =>
      entry.modifiers.mapM (renamed fromModifierValue) >>= fun modifiers =>
        .ok ⟨entry.type, data, modifiers⟩) := by
  unfold Entry.toNamedRepresentation nameDevice
  by_cases h : kDeviceTypeIndex < entry.data.length
  · rw [if_pos h, if_pos h]
    rfl
  · rw [if_neg h, if_neg h]
    rfl

/-- **Names.**  An entry gets its names when each of its decoded texts is empty or converts. -/
theorem named_returns (entry : Entry) :
    Returns entry.toNamedRepresentation ↔ ∀ text ∈ entry.decodedTexts, Converts text := by
  have hmodifiers : Returns (entry.modifiers.mapM (renamed fromModifierValue)) ↔
      ∀ text ∈ entry.modifiers, Converts text := by
    rw [returns_mapM]
    simp only [renamed_returns]
  rw [named_eq, returns_bind, Entry.decodedTexts, List.forall_mem_append, List.forall_mem_append,
    ← nameDevice_returns, ← hmodifiers]
  constructor
  · rintro ⟨data, hdata, hrest⟩
    obtain ⟨data', hdata', hrest⟩ := (returns_bind _ _).mp hrest
    obtain ⟨modifiers, hmods, -⟩ := (returns_bind _ _).mp hrest
    refine ⟨⟨⟨data, hdata⟩, ?_⟩, ⟨modifiers, hmods⟩⟩
    rw [← actionText_renamed entry.type (nameDevice_kept hdata), ← nameButtonAction_returns]
    exact ⟨data', hdata'⟩
  · rintro ⟨⟨⟨data, hdata⟩, haction⟩, ⟨modifiers, hmods⟩⟩
    rw [← actionText_renamed entry.type (nameDevice_kept hdata),
      ← nameButtonAction_returns] at haction
    obtain ⟨data', hdata'⟩ := haction
    exact ⟨data, hdata, (returns_bind _ _).mpr
      ⟨data', hdata', (returns_bind _ _).mpr ⟨modifiers, hmods, returns_ok _⟩⟩⟩

namespace FilterStore

theorem filterEntry_returns (allowed : Finset DeviceType) (filtered : Data) (entry : Entry) :
    Returns (filterEntry allowed filtered entry) ↔
      ∀ text ∈ entry.data[kDeviceTypeIndex]?.toList, Converts text := by
  rw [filterEntry, returns_map, keeps]
  cases entry.data[kDeviceTypeIndex]? with
  | none => simp
  | some text =>
    show Returns ((castUnderlying text).map _) ↔ _
    rw [returns_map, castUnderlying_returns]
    simp

theorem filter_returns (allowed : Finset DeviceType) (event : Data) :
    Returns (filter allowed event) ↔
      ∀ entry ∈ event.entries, ∀ text ∈ entry.data[kDeviceTypeIndex]?.toList, Converts text :=
  returns_foldlM _ (filterEntry_returns allowed) _ _

/-- **The filter.**  In front of a store that raises nothing, the filter raises nothing when it lets
every device pass, or when the device type of each entry is empty or converts. -/
theorem storeEvent_returns {σ : Type} (inner : Data → σ → Result Unit × σ)
    (allowed : Option (Finset DeviceType)) (event : Data) (s : σ) :
    Returns (storeEvent ⟨fun event s => ((.ok (inner event s).1), (inner event s).2), allowed⟩
        event s).1 ↔
      allowed = none ∨ ∀ entry ∈ event.entries,
        ∀ text ∈ entry.data[kDeviceTypeIndex]?.toList, Converts text := by
  cases allowed with
  | none => simp [storeEvent]
  | some allowed =>
    rw [← filter_returns allowed event]
    unfold storeEvent
    cases hfilter : filter allowed event with
    | error e => simp [hfilter]
    | ok filtered =>
      by_cases hempty : filtered.empty <;> simp [hfilter, hempty]

end FilterStore

/-! ## when the documentation holds -/

/-- **Decoding.**  A text is decoded as it is documented when it is empty or holds the number of an
enumerator, and then only.  The names of an entry and the filter raise nothing when each text that
they decode is empty or converts, and then only. -/
theorem decoding_documented_iff (text : List UInt8) (entry : Entry) {σ : Type}
    (inner : Data → σ → Result Unit × σ) (allowed : Option (Finset DeviceType)) (event : Data)
    (s : σ) :
    ((Decoded DeviceType text ↔ text = [] ∨ ∃ e : DeviceType, text = toUnderlying e) ∧
      (Decoded ButtonAction text ↔ text = [] ∨ ∃ e : ButtonAction, text = toUnderlying e) ∧
      (Decoded ModifierValue text ↔ text = [] ∨ ∃ e : ModifierValue, text = toUnderlying e)) ∧
    (Returns entry.toNamedRepresentation ↔ ∀ text ∈ entry.decodedTexts, Converts text) ∧
    (Returns (FilterStore.storeEvent
        ⟨fun event s => ((.ok (inner event s).1), (inner event s).2), allowed⟩ event s).1 ↔
      allowed = none ∨ ∀ entry ∈ event.entries,
        ∀ text ∈ entry.data[kDeviceTypeIndex]?.toList, Converts text) :=
  ⟨⟨decoded_iff text, decoded_iff text, decoded_iff text⟩, named_returns entry,
    FilterStore.storeEvent_returns inner allowed event s⟩

/-- `mouse` raises an exception, and `7` is cast to a device type that does not exist -/
theorem invalid_not_decoded :
    castUnderlying (bytes "mouse") = .error .invalidArgument ∧
      castUnderlying (bytes "7") = .ok (some 7) ∧ ¬ Decoded DeviceType (bytes "mouse") := by
  have hraised : castUnderlying (bytes "mouse") = .error .invalidArgument := by decide
  refine ⟨hraised, by decide, fun h => ?_⟩
  have hother := h.other fun e => by cases e <;> decide
  rw [hraised] at hother
  cases hother

end Evget
