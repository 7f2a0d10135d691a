import Evget.Error
import Evget.Event.Builders

/-!
# Entries with names for their numbers

`Entry::ToNamedRepresentation` puts names in the place of the numbers that stand for the device
type, the button action and the modifiers.  A number is read back with `std::stoi`, which throws on
a text that is no number of an `int`.

* `fromUnderlying`                the enumerator of a text;
* `fromDevice`, `fromButtonAction`, `fromModifierValue`, `fromEntryType`   the names;
* `Entry.toNamedRepresentation`   the entry with names;
* `named_plain`, `named_action`   what becomes of an entry that holds numbers of enumerators.
-/

namespace Evget
open SQLite

inductive Thrown where
  | invalidArgument
  | outOfRange
  | typeError
deriving DecidableEq, Repr

/-! ## numbers and their enumerators -/

def isSpace (b : UInt8) : Bool := b = 32 || (9 ≤ b && b ≤ 13)

def isDigit (b : UInt8) : Bool := 48 ≤ b && b ≤ 57

/-- `std::stoi`: blanks, a sign and digits, and then anything -/
def stoi (value : List UInt8) : Except Thrown Int :=
  let rest := value.dropWhile isSpace
  let negative := rest.head? = some 45
  let rest := if negative ∨ rest.head? = some 43 then rest.tail else rest
  let digits := rest.takeWhile isDigit
  if digits.isEmpty then .error .invalidArgument
  else
    let magnitude : Int := digits.foldl (fun n b => 10 * n + (b.toNat - 48)) 0
    let n := if negative then -magnitude else magnitude
    if n < -2147483648 ∨ 2147483647 < n then .error .outOfRange else .ok n

class Enumeration (E : Type) extends Underlying E where
  enumerators : List E

instance : Enumeration DeviceType where
  enumerators := [.mouse, .keyboard, .touchpad, .touchscreen, .tablet, .unknown]

instance : Enumeration ButtonAction where
  enumerators := [.press, .release, .repeat]

instance : Enumeration ModifierValue where
  enumerators := [.shift, .capsLock, .control, .alt, .numLock, .mod3, .super, .mod5]

/-- a cast to an enumeration of eight bits; a number without an enumerator is `none` as well, since
its name is the empty text too -/
def fromUnderlying {E : Type} [Enumeration E] (value : List UInt8) : Except Thrown (Option E) :=
  if value.isEmpty then .ok none
  else (stoi value).map fun n =>
    Enumeration.enumerators.find? fun e : E => Underlying.underlying e = (n % 256).toNat

def fromButtonAction (value : Option ButtonAction) : List UInt8 :=
  optionalToString value fun
    | .press => bytes "Press"
    | .release => bytes "Release"
    | .repeat => bytes "Repeat"

def fromDevice (value : Option DeviceType) : List UInt8 :=
  optionalToString value fun
    | .mouse => bytes "Mouse"
    | .keyboard => bytes "Keyboard"
    | .touchpad => bytes "Touchpad"
    | .touchscreen => bytes "Touchscreen"
    | .tablet => bytes "Tablet"
    | .unknown => bytes "Unknown"

def fromModifierValue (value : Option ModifierValue) : List UInt8 :=
  optionalToString value fun
    | .shift => bytes "Shift"
    | .capsLock => bytes "CapsLock"
    | .control => bytes "Control"
    | .alt => bytes "Alt"
    | .numLock => bytes "NumLock"
    | .mod3 => bytes "Mod3"
    | .super => bytes "Super"
    | .mod5 => bytes "Mod5"

def fromEntryType (value : Option EntryType) : List UInt8 :=
  optionalToString value fun
    | .key => bytes "Key"
    | .mouseMove => bytes "MouseMove"
    | .mouseClick => bytes "MouseClick"
    | .mouseScroll => bytes "MouseScroll"

/-! ## the entry with names -/

def kDeviceTypeIndex : Nat := 14

def kMouseClickNFields : Nat := 19

def kKeyNFields : Nat := 19

def renamed {E : Type} [Enumeration E] (name : Option E → List UInt8) (value : List UInt8) :
    Except Thrown (List UInt8) :=
  (fromUnderlying value).map name

/-- `data.at(index) = name(data.at(index))` -/
def renameAt {E : Type} [Enumeration E] (name : Option E → List UInt8) (index : Nat)
    (data : List (List UInt8)) : Except Thrown (List (List UInt8)) :=
  match data[index]? with
  | none => .error .outOfRange
  | some value => (renamed name value).map fun text => data.set index text

/-- where the button action stands depends on the type -/
def nameButtonAction (type : EntryType) (data : List (List UInt8)) :
    Except Thrown (List (List UInt8)) :=
  match type with
  | .mouseClick =>
    if kMouseClickNFields ≤ data.length then renameAt fromButtonAction (kMouseClickNFields - 1) data
    else .ok data
  | .key =>
    if kKeyNFields ≤ data.length then renameAt fromButtonAction (kKeyNFields - 1) data
    else .ok data
  | _ => .ok data

def Entry.toNamedRepresentation (entry : Entry) : Except Thrown Entry := do
  let data ←
    if kDeviceTypeIndex < entry.data.length then renameAt fromDevice kDeviceTypeIndex entry.data
    else .ok entry.data
  let data ← nameButtonAction entry.type data
  let modifiers ← entry.modifiers.mapM (renamed fromModifierValue)
  return ⟨entry.type, data, modifiers⟩

/-! ## entries that hold numbers of enumerators -/

class LawfulEnumeration (E : Type) [Enumeration E] : Prop where
  fromUnderlying_toUnderlying : ∀ value : E, fromUnderlying (toUnderlying value) = .ok (some value)

instance : LawfulEnumeration DeviceType := ⟨fun value => (by cases value <;> rfl)⟩

instance : LawfulEnumeration ButtonAction := ⟨fun value => (by cases value <;> rfl)⟩

instance : LawfulEnumeration ModifierValue := ⟨fun value => (by cases value <;> rfl)⟩

section
variable {E : Type} [Enumeration E] [LawfulEnumeration E] (name : Option E → List UInt8)

theorem renamed_toUnderlying (value : E) :
    renamed name (toUnderlying value) = .ok (name (some value)) := by
  unfold renamed
  rw [LawfulEnumeration.fromUnderlying_toUnderlying]
  rfl

theorem renamed_toUnderlyingOptional (value : Option E) :
    renamed name (toUnderlyingOptional value) = .ok (name value) := by
  cases value with
  | none => rfl
  | some value => exact renamed_toUnderlying name value

theorem renameAt_ok {index : Nat} {data : List (List UInt8)} {value : Option E}
    (h : data[index]? = some (toUnderlyingOptional value)) :
    renameAt name index data = .ok (data.set index (name value)) := by
  unfold renameAt
  rw [h]
  show (renamed name (toUnderlyingOptional value)).map _ = _
  rw [renamed_toUnderlyingOptional]
  rfl

theorem mapM_renamed (values : List E) :
    (values.map toUnderlying).mapM (renamed name)
      = .ok (values.map fun value => name (some value)) := by
  rw [List.mapM_map]
  exact mapM_ok fun value _ => renamed_toUnderlying name value

end

namespace Entry
variable {entry : Entry} {device : Option DeviceType} {modifiers : List ModifierValue}

/-- an entry of a type without a button action -/
theorem named_plain (htype : entry.type ≠ .key ∧ entry.type ≠ .mouseClick)
    (hdevice : entry.data[kDeviceTypeIndex]? = some (toUnderlyingOptional device))
    (hmodifiers : entry.modifiers = modifiers.map toUnderlying) :
    entry.toNamedRepresentation = .ok ⟨entry.type,
      entry.data.set kDeviceTypeIndex (fromDevice device),
      modifiers.map fun modifier => fromModifierValue (some modifier)⟩ := by
  obtain ⟨hlen, -⟩ := List.getElem?_eq_some_iff.mp hdevice
  have hplain : ∀ data, nameButtonAction entry.type data = .ok data := by
    intro data
    cases htype' : entry.type with
    | key => exact absurd htype' htype.1
    | mouseClick => exact absurd htype' htype.2
    | mouseMove => rfl
    | mouseScroll => rfl
  unfold toNamedRepresentation
  rw [if_pos hlen, renameAt_ok fromDevice hdevice, hmodifiers, mapM_renamed]
  show (nameButtonAction entry.type _ >>= fun data => _) = _
  rw [hplain]
  rfl

theorem named_action {action : Option ButtonAction}
    (htype : entry.type = .key ∨ entry.type = .mouseClick)
    (hdevice : entry.data[kDeviceTypeIndex]? = some (toUnderlyingOptional device))
    (haction : entry.data[18]? = some (toUnderlyingOptional action))
    (hmodifiers : entry.modifiers = modifiers.map toUnderlying) :
    entry.toNamedRepresentation = .ok ⟨entry.type,
      (entry.data.set kDeviceTypeIndex (fromDevice device)).set 18 (fromButtonAction action),
      modifiers.map fun modifier => fromModifierValue (some modifier)⟩ := by
  obtain ⟨hlen, -⟩ := List.getElem?_eq_some_iff.mp hdevice
  have haction' : (entry.data.set kDeviceTypeIndex (fromDevice device))[18]?
      = some (toUnderlyingOptional action) := by
    rw [List.getElem?_set_ne (by decide), haction]
  have hlen' : 19 ≤ (entry.data.set kDeviceTypeIndex (fromDevice device)).length :=
    (List.getElem?_eq_some_iff.mp haction').1
  have hname : nameButtonAction entry.type (entry.data.set kDeviceTypeIndex (fromDevice device))
      = .ok ((entry.data.set kDeviceTypeIndex (fromDevice device)).set 18
        (fromButtonAction action)) := by
    unfold nameButtonAction
    rcases htype with htype | htype
    · rw [htype]
      exact (if_pos hlen').trans (renameAt_ok fromButtonAction haction')
    · rw [htype]
      exact (if_pos hlen').trans (renameAt_ok fromButtonAction haction')
  unfold toNamedRepresentation
  rw [if_pos hlen, renameAt_ok fromDevice hdevice, hmodifiers, mapM_renamed]
  show (nameButtonAction entry.type _ >>= fun data => _) = _
  rw [hname]
  rfl

end Entry
end Evget
