import Evget.Lib.Sqlite

/-!
# Names and characters of keys

`GetKeyName` lets xkbcommon write into a buffer of 64 bytes, and when the name does not fit into a
string of the needed size.  `GetKeyCharacter` asks for the size first.  Both functions of xkbcommon
write as `snprintf` does: at most `size - 1` bytes of their text, and a NUL.

* `Answer`                          what a function of xkbcommon has for a key;
* `XkbState`                        the keyboard state;
* `getKeyName`, `getKeyCharacter`   the functions; a write past the end of its memory gives `none`;
* `keyTexts_exact`                  what they return.
-/

namespace Evget.LibInput
open SQLite

/-! ## xkbcommon -/

/-- the text that a function of xkbcommon has for a key, with its length, or no text and a length
that is not positive -/
structure Answer where
  length : Int
  text : List UInt8
  full : 0 < length → (text.length : Int) = length
  noNul : ∀ b ∈ text, b ≠ 0

namespace Answer

def written (answer : Answer) (size : Nat) : List UInt8 :=
  if size = 0 then [] else answer.text.take (size - 1) ++ [0]

/-- the call with some memory: its result, and the memory after it, unless it writes past the end -/
def call (answer : Answer) (size : Nat) (memory : List UInt8) : Option (Int × List UInt8) :=
  let bytes := answer.written size
  if bytes.length ≤ memory.length then some (answer.length, bytes ++ memory.drop bytes.length)
  else none

end Answer

def XKB_KEY_NoSymbol : UInt32 := 0

/-- a keyboard state: the symbols of every key, and the one of a key that has exactly one, the names
of symbols, and the texts of keys; a key without symbols has no text -/
structure XkbState where
  syms : UInt32 → List UInt32
  oneSym : UInt32 → UInt32
  keysymName : UInt32 → Answer
  keyUtf8 : UInt32 → Answer
  oneSym_of_length : ∀ key, (syms key).length ≠ 1 → oneSym key = XKB_KEY_NoSymbol
  utf8_of_noSyms : ∀ key, syms key = [] → (keyUtf8 key).length ≤ 0

namespace XkbState

/-! ## the functions -/

def kKeySymBufSize : Nat := 64

def getKeyName (self : XkbState) (key : UInt32) : Option (Option (List UInt8)) :=
  let sym := self.oneSym key
  if sym = XKB_KEY_NoSymbol then some none
  else
    match (self.keysymName sym).call kKeySymBufSize (List.replicate kKeySymBufSize 0) with
    | none => none
    | some (needed, buf) =>
      if needed ≤ 0 then some none
      else if needed < kKeySymBufSize then some (some (cstr buf))
      else
        -- a string of `needed` bytes and its terminator
        match (self.keysymName sym).call (needed.toNat + 1)
            (List.replicate (needed.toNat + 1) 0) with
        | none => none
        | some (_, memory) => some (some (memory.take needed.toNat))

def getKeyCharacter (self : XkbState) (key : UInt32) : Option (Option (List UInt8)) :=
  match (self.keyUtf8 key).call 0 [] with
  | none => none
  | some (size, _) =>
    if size ≤ 0 then some none
    else
      match (self.keyUtf8 key).call (size.toNat + 1) (List.replicate (size.toNat + 1) 0) with
      | none => none
      | some (_, memory) => some (some (memory.take size.toNat))

end XkbState

/-! ## what is written -/

namespace Answer

theorem length_written (answer : Answer) (size : Nat) : (answer.written size).length ≤ size := by
  unfold written
  by_cases h : size = 0
  · simp [h]
  · simp [h]
    omega

theorem call_within (answer : Answer) {size : Nat} {memory : List UInt8}
    (h : size ≤ memory.length) : answer.call size memory =
      some (answer.length,
        answer.written size ++ memory.drop (answer.written size).length) := by
  unfold call
  exact if_pos (Nat.le_trans (answer.length_written size) h)

theorem written_of_lt (answer : Answer) {size : Nat} (h : answer.text.length < size) :
    answer.written size = answer.text ++ [0] := by
  have htake : answer.text.take (size - 1) = answer.text := List.take_of_length_le (by omega)
  rw [written, if_neg (by omega), htake]

theorem cstr_written (answer : Answer) {size : Nat} (h : answer.text.length < size)
    (rest : List UInt8) : cstr (answer.written size ++ rest) = answer.text := by
  rw [answer.written_of_lt h, List.append_assoc]
  unfold cstr
  rw [List.takeWhile_append_of_pos (by simpa using answer.noNul)]
  simp

theorem call_exact (answer : Answer) (h : 0 < answer.length) :
    answer.call (answer.length.toNat + 1) (List.replicate (answer.length.toNat + 1) 0) =
      some (answer.length, answer.text ++ [0]) := by
  have hlength := answer.full h
  have hnat : answer.length.toNat = answer.text.length := by omega
  rw [hnat, call_within _ (by simp), answer.written_of_lt (Nat.lt_succ_self _)]
  simp

theorem sampleName_noNul : ∀ b ∈ List.replicate 64 (97 : UInt8), b ≠ 0 := by
  intro b hb
  rw [List.eq_of_mem_replicate hb]
  decide

theorem sampleText_noNul : ∀ b ∈ [(195 : UInt8), 169], b ≠ 0 := by
  simp

def sampleName : Answer := ⟨64, List.replicate 64 97, fun _ => rfl, sampleName_noNul⟩

def sampleText : Answer := ⟨2, [195, 169], fun _ => rfl, sampleText_noNul⟩

def noText : Answer := ⟨0, [], fun _ => rfl, fun _ hb => absurd hb List.not_mem_nil⟩

end Answer

/-! ## what is returned -/

namespace XkbState

theorem getKeyName_none (self : XkbState) {key : UInt32}
    (h : self.oneSym key = XKB_KEY_NoSymbol ∨ (self.keysymName (self.oneSym key)).length ≤ 0) :
    self.getKeyName key = some none := by
  unfold getKeyName
  by_cases hsym : self.oneSym key = XKB_KEY_NoSymbol
  · exact if_pos hsym
  · have hlength : (self.keysymName (self.oneSym key)).length ≤ 0 := h.resolve_left hsym
    simp [hsym, Answer.call_within, hlength]

/-- both paths return the name: the buffer when it fits with its NUL, and else the string -/
theorem getKeyName_some (self : XkbState) {key : UInt32}
    (hsym : self.oneSym key ≠ XKB_KEY_NoSymbol)
    (hlength : 0 < (self.keysymName (self.oneSym key)).length) :
    self.getKeyName key = some (some (self.keysymName (self.oneSym key)).text) := by
  have hfull := (self.keysymName (self.oneSym key)).full hlength
  have hbuf := Answer.call_within (self.keysymName (self.oneSym key))
    (Nat.le_of_eq (List.length_replicate (n := kKeySymBufSize) (a := (0 : UInt8))).symm)
  have hpos : ¬ (self.keysymName (self.oneSym key)).length ≤ 0 := by omega
  unfold getKeyName
  simp only [if_neg hsym, hbuf, if_neg hpos]
  by_cases hfits : (self.keysymName (self.oneSym key)).length < kKeySymBufSize
  · have hlt : (self.keysymName (self.oneSym key)).text.length < kKeySymBufSize := by omega
    rw [if_pos hfits, Answer.cstr_written _ hlt]
  · have hnat : (self.keysymName (self.oneSym key)).length.toNat =
        (self.keysymName (self.oneSym key)).text.length := by omega
    rw [if_neg hfits, Answer.call_exact _ hlength, hnat]
    simp

theorem getKeyCharacter_none (self : XkbState) {key : UInt32} (h : (self.keyUtf8 key).length ≤ 0) :
    self.getKeyCharacter key = some none := by
  simp [getKeyCharacter, Answer.call_within, h]

theorem getKeyCharacter_some (self : XkbState) {key : UInt32} (h : 0 < (self.keyUtf8 key).length) :
    self.getKeyCharacter key = some (some (self.keyUtf8 key).text) := by
  have hfull := (self.keyUtf8 key).full h
  have hnat : (self.keyUtf8 key).length.toNat = (self.keyUtf8 key).text.length := by omega
  have hpos : ¬ (self.keyUtf8 key).length ≤ 0 := by omega
  unfold getKeyCharacter
  simp only [Answer.call_within _ (Nat.zero_le _), if_neg hpos]
  rw [Answer.call_exact _ h, hnat]
  simp

/-- **The texts of keys.**  Whatever the length of a name or of a text, neither function writes past
its memory, and each returns exactly the name or the text when there is one. -/
theorem keyTexts_exact (self : XkbState) (key : UInt32) :
    ((self.getKeyName key = some none ↔
        self.oneSym key = XKB_KEY_NoSymbol ∨ (self.keysymName (self.oneSym key)).length ≤ 0) ∧
      (self.oneSym key ≠ XKB_KEY_NoSymbol → 0 < (self.keysymName (self.oneSym key)).length →
        self.getKeyName key = some (some (self.keysymName (self.oneSym key)).text))) ∧
    ((self.getKeyCharacter key = some none ↔
        self.syms key = [] ∨ (self.keyUtf8 key).length ≤ 0) ∧
      (0 < (self.keyUtf8 key).length →
        self.getKeyCharacter key = some (some (self.keyUtf8 key).text))) ∧
    (self.syms key = [] → self.getKeyName key = some none) := by
  refine ⟨⟨⟨fun h => ?_, self.getKeyName_none⟩, self.getKeyName_some⟩,
    ⟨⟨fun h => ?_, fun h => ?_⟩, self.getKeyCharacter_some⟩, fun h => ?_⟩
  · by_contra hnot
    have hsome := self.getKeyName_some (fun e => hnot (.inl e))
      (Int.not_le.mp fun e => hnot (.inr e))
    rw [h] at hsome
    cases hsome
  · by_contra hnot
    have hsome := self.getKeyCharacter_some (Int.not_le.mp fun e => hnot (.inr e))
    rw [h] at hsome
    cases hsome
  · exact self.getKeyCharacter_none (h.elim (self.utf8_of_noSyms key) id)
  · exact self.getKeyName_none (.inl (self.oneSym_of_length key (by simp [h])))

def sampleState : XkbState where
  syms _ := [5]
  oneSym _ := 5
  keysymName _ := .sampleName
  keyUtf8 _ := .sampleText
  oneSym_of_length _ h := absurd rfl h
  utf8_of_noSyms _ h := absurd h (List.cons_ne_nil _ _)

def silentState : XkbState where
  syms _ := []
  oneSym _ := XKB_KEY_NoSymbol
  keysymName _ := .sampleName
  keyUtf8 _ := .noText
  oneSym_of_length _ _ := rfl
  utf8_of_noSyms _ _ := Int.le_refl 0

theorem keyTexts_sample :
    sampleState.getKeyName 9 = some (some (List.replicate 64 97)) ∧
    sampleState.getKeyCharacter 9 = some (some [195, 169]) ∧
    silentState.getKeyName 9 = some none ∧ silentState.getKeyCharacter 9 = some none :=
  ⟨(sampleState.keyTexts_exact 9).1.2 (by decide) (by decide),
    (sampleState.keyTexts_exact 9).2.1.2 (by decide),
    (silentState.keyTexts_exact 9).2.2 rfl,
    (silentState.keyTexts_exact 9).2.1.1.mpr (.inl rfl)⟩

end XkbState
end Evget.LibInput
