import Evget.Lib.Sqlite

/-!
# JSON values and their texts

Values made of strings, arrays and objects, which is all that some programs write.  A string is a
list of bytes, and only one that is UTF-8 has a text.

* `Utf8`              lists of bytes that are UTF-8; `Utf8.of_ascii`;
* `Json.Valid`        values all of whose strings and keys are UTF-8;
* `Json.dump`         the text of a value over several lines, if it has one;
* `Json.Strict`       a function that gives texts to exactly the values that have one;
* `Json.member`, `Json.elements`, `Json.string?`   the parts of a value.
-/

def Utf8 (s : List UInt8) : Prop := s.toByteArray.IsValidUTF8

instance (s : List UInt8) : Decidable (Utf8 s) :=
  inferInstanceAs (Decidable s.toByteArray.IsValidUTF8)

theorem Utf8.nil : Utf8 [] := ByteArray.isValidUTF8_empty

theorem Utf8.append {s t : List UInt8} (hs : Utf8 s) (ht : Utf8 t) : Utf8 (s ++ t) := by
  unfold Utf8
  rw [List.toByteArray_append]
  exact ByteArray.IsValidUTF8.append hs ht

theorem Utf8.of_ascii_singleton {b : UInt8} (hb : b < 128) : Utf8 [b] := by
  have hval : (Char.ofNat b.toNat).val.toNat = b.toNat := by
    have hlt : b.toNat < 55296 := Nat.lt_of_lt_of_le (UInt8.lt_iff_toNat_lt.mp hb) (by decide)
    unfold Char.ofNat
    rw [dif_pos (.inl hlt)]
    rfl
  have hsize : (Char.ofNat b.toNat).utf8Size = 1 := by
    rw [Char.utf8Size_eq_one_iff, UInt32.le_iff_toNat_le, hval]
    exact Nat.le_of_lt_succ hb
  refine ⟨[Char.ofNat b.toNat], ?_⟩
  rw [List.utf8Encode_singleton, String.utf8EncodeChar_eq_singleton hsize]
  congr 2
  apply UInt8.toNat_inj.mp
  rw [UInt32.toNat_toUInt8, hval]
  exact (Nat.mod_eq_of_lt (Nat.lt_trans hb (by decide))).symm

theorem Utf8.of_ascii {s : List UInt8} (h : ∀ b ∈ s, b < 128) : Utf8 s := by
  induction s with
  | nil => exact .nil
  | cons b s ih =>
    have hrest : Utf8 s := ih fun b hb => h b (List.mem_cons_of_mem _ hb)
    exact (Utf8.of_ascii_singleton (h b (List.mem_cons_self ..))).append hrest

inductive Json where
  | string (s : List UInt8)
  | array (elements : List Json)
  | object (members : List (List UInt8 × Json))

namespace Json
open SQLite

/-! ## strings -/

mutual

def strings : Json → List (List UInt8)
  | .string s => [s]
  | .array elements => elementStrings elements
  | .object members => memberStrings members

def elementStrings : List Json → List (List UInt8)
  | [] => []
  | element :: elements => element.strings ++ elementStrings elements

def memberStrings : List (List UInt8 × Json) → List (List UInt8)
  | [] => []
  | (key, value) :: members => key :: value.strings ++ memberStrings members

end

def Valid (json : Json) : Prop := ∀ s ∈ json.strings, Utf8 s

instance (json : Json) : Decidable json.Valid := inferInstanceAs (Decidable (∀ _ ∈ _, _))

/-! ## texts -/

def escape (b : UInt8) : List UInt8 :=
  if b = 34 then [92, 34]
  else if b = 92 then [92, 92]
  else if b = 8 then bytes "\\b"
  else if b = 9 then bytes "\\t"
  else if b = 10 then bytes "\\n"
  else if b = 12 then bytes "\\f"
  else if b = 13 then bytes "\\r"
  else if b < 32 then
    bytes "\\u00" ++ [48 + b / 16, if b % 16 < 10 then 48 + b % 16 else 87 + b % 16]
  else [b]

def quote (s : List UInt8) : List UInt8 := [34] ++ s.flatMap escape ++ [34]

def line (blanks : Nat) : List UInt8 := 10 :: List.replicate blanks 32

mutual

def text (indent blanks : Nat) : Json → List UInt8
  | .string s => quote s
  | .array elements =>
    if elements.isEmpty then bytes "[]"
    else bytes "[" ++ elementTexts indent (blanks + indent) elements ++ line blanks ++ bytes "]"
  | .object members =>
    if members.isEmpty then bytes "\x7b\x7d"
    else bytes "\x7b" ++ memberTexts indent (blanks + indent) members ++ line blanks ++ bytes "\x7d"

def elementTexts (indent blanks : Nat) : List Json → List UInt8
  | [] => []
  | element :: elements =>
    line blanks ++ element.text indent blanks ++ (if elements.isEmpty then [] else bytes ",")
      ++ elementTexts indent blanks elements

def memberTexts (indent blanks : Nat) : List (List UInt8 × Json) → List UInt8
  | [] => []
  | (key, value) :: members =>
    line blanks ++ quote key ++ bytes ": " ++ value.text indent blanks
      ++ (if members.isEmpty then [] else bytes ",") ++ memberTexts indent blanks members

end

def dump (indent : Nat) (json : Json) : Option (List UInt8) :=
  if json.Valid then some (json.text indent 0) else none

/-- texts for exactly the values whose strings are all UTF-8 -/
def Strict (dump : Nat → Json → Option (List UInt8)) : Prop :=
  ∀ indent json, (dump indent json).isSome ↔ json.Valid

theorem dump_strict : Strict dump := by
  intro indent json
  unfold dump
  by_cases h : json.Valid
  · rw [if_pos h]
    exact ⟨fun _ => h, fun _ => rfl⟩
  · rw [if_neg h]
    exact ⟨nofun, fun h' => absurd h' h⟩

example : text 4 0 (.object [(bytes "a", .array [.string (bytes "b"), .string [10]])])
    = bytes "\x7b\n    \"a\": [\n        \"b\",\n        \"\\n\"\n    ]\n\x7d" := by decide +kernel

/-! ## parts -/

def member (key : List UInt8) : Json → Option Json
  | .object members => members.lookup key
  | _ => none

def elements : Json → List Json
  | .array elements => elements
  | _ => []

def string? : Json → Option (List UInt8)
  | .string s => some s
  | _ => none

theorem valid_string {s : List UInt8} : (string s).Valid ↔ Utf8 s := List.forall_mem_singleton

theorem valid_array {elements : List Json} :
    (array elements).Valid ↔ ∀ element ∈ elements, element.Valid := by
  unfold Valid
  rw [strings]
  induction elements with
  | nil => exact ⟨nofun, nofun⟩
  | cons element elements ih =>
    rw [elementStrings, List.forall_mem_append, ih, List.forall_mem_cons]

theorem valid_object {members : List (List UInt8 × Json)} :
    (object members).Valid ↔ ∀ m ∈ members, Utf8 m.1 ∧ m.2.Valid := by
  unfold Valid
  rw [strings]
  induction members with
  | nil => exact ⟨nofun, nofun⟩
  | cons m members ih =>
    rw [memberStrings, List.forall_mem_append, List.forall_mem_cons, ih, List.forall_mem_cons]

end Json
