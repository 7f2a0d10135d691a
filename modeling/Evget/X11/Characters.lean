import Evget.X11.Switches

/-!
# The character of a key

`X11::LookupCharacter` asks the input method for the characters of a key, and Xlib for those of ISO
Latin-1 otherwise.  Both write into one buffer of five bytes, and the text ends at its first NUL.

* `Buffer`                       the buffer, with the write that ends the text;
* `KeyLookup`                    the two functions of Xlib, `KeyLookup.Documented` their promises;
* `lookupCharacter`              the function;
* `lookupCharacter_latin1`       what it returns;
* `lookupCharacter_composed_iff` **when the text is that of the input method**.
-/

namespace Evget.X11
open SQLite

variable {ω : Type}

def kUtf8MaxBytes : Nat := 4

abbrev XIC := Nat

/-! ## statuses -/

def success : Int := 0
def xBufferOverflow : Int := -1
def xLookupNone : Int := 1
def xLookupChars : Int := 2
def xLookupKeySym : Int := 3
def xLookupBoth : Int := 4

/-! ## the buffer -/

abbrev Buffer := Vector UInt8 (kUtf8MaxBytes + 1)

namespace Buffer

def zero : Buffer := Vector.replicate (kUtf8MaxBytes + 1) 0

def write (written : List UInt8) (buffer : Buffer) : Buffer :=
  ⟨(written.take (kUtf8MaxBytes + 1) ++ buffer.toList.drop written.length).toArray, by
    rw [List.size_toArray, List.length_append, List.length_take, List.length_drop,
      Vector.length_toList]
    omega⟩

/-- `array.at(index) = value` -/
def setAt (index : Int) (value : UInt8) (buffer : Buffer) : Except Fault Buffer :=
  if h : 0 ≤ index ∧ index.toNat < kUtf8MaxBytes + 1 then
    .ok (buffer.set index.toNat value h.2)
  else .error .outOfRange

def text (buffer : Buffer) : List UInt8 := buffer.toList.takeWhile (· ≠ 0)

theorem write_toList {written : List UInt8} (hlen : written.length ≤ kUtf8MaxBytes)
    (buffer : Buffer) :
    (buffer.write written).toList = written ++ buffer.toList.drop written.length := by
  have htake : written.take (kUtf8MaxBytes + 1) = written :=
    List.take_of_length_le (Nat.le_succ_of_le hlen)
  exact congrArg (· ++ _) htake

theorem set_write_text {written : List UInt8} (hlen : written.length ≤ kUtf8MaxBytes)
    (buffer : Buffer) :
    text ((buffer.write written).set written.length 0 (Nat.lt_succ_of_le hlen))
      = written.takeWhile (· ≠ 0) := by
  have hdrop : buffer.toList.drop written.length
      = buffer[written.length] :: buffer.toList.drop (written.length + 1) :=
    List.drop_eq_getElem_cons (Vector.length_toList ▸ Nat.lt_succ_of_le hlen)
  rw [text, Vector.toList_set, write_toList hlen, hdrop,
    List.set_append_right _ _ (Nat.le_refl _), Nat.sub_self, List.set_cons_zero,
    List.takeWhile_append, List.takeWhile_cons_of_neg (by decide), List.append_nil]
  split
  · rename_i hall
    exact ((List.takeWhile_prefix _).eq_of_length hall).symm
  · rfl

/-- a text of at most four bytes is ended in the buffer, and is read back up to its first NUL -/
theorem setAt_write_text {written : List UInt8} (hlen : written.length ≤ kUtf8MaxBytes)
    (buffer : Buffer) : ((buffer.write written).setAt written.length 0).map text
      = .ok (written.takeWhile (· ≠ 0)) := by
  have hin : (0 : Int) ≤ written.length ∧ (written.length : Int).toNat < kUtf8MaxBytes + 1 :=
    ⟨Int.natCast_nonneg _, Nat.lt_succ_of_le hlen⟩
  rw [setAt, dif_pos hin]
  exact congrArg Except.ok (set_write_text hlen buffer)

end Buffer

/-! ## Xlib -/

/-- without `serial`, `send_event` and `display`, which are those of the event -/
structure XKeyEvent where
  type : Int
  window : Window
  root : Window
  subwindow : Window
  time : Nat
  x : Int
  y : Int
  xRoot : Int
  yRoot : Int
  state : UInt32
  keycode : Nat
  sameScreen : Bool
deriving DecidableEq, Repr

/-- what a lookup returns, writes in the buffer and stores as the symbol -/
structure Lookup where
  bytes : Int
  written : List UInt8
  keySym : Option KeySym
deriving DecidableEq, Repr

/-- the answers of Xlib for a key and a number of bytes; those of the input method have a status -/
structure KeyLookup (ω : Type) where
  xutf8LookupString : XIC → XKeyEvent → Nat → ω → (Lookup × Int) × ω
  xLookupString : XKeyEvent → Nat → ω → Lookup × ω

namespace Lookup

/-- as many bytes are written as are returned, and no more than asked for -/
structure Fits (nbytes : Nat) (lookup : Lookup) : Prop where
  bytes_eq : lookup.bytes = lookup.written.length
  length_le : lookup.written.length ≤ nbytes

def store (buffer : Buffer) (keySym : KeySym) (self : Lookup) : Int × Buffer × KeySym :=
  (self.bytes, buffer.write self.written, self.keySym.getD keySym)

end Lookup

/-- what Xlib promises about four bytes -/
structure KeyLookup.Documented (xlib : KeyLookup ω) : Prop where
  status : ∀ xic keyEvent world,
    (xlib.xutf8LookupString xic keyEvent kUtf8MaxBytes world).1.2 ∈
      [xBufferOverflow, xLookupNone, xLookupChars, xLookupKeySym, xLookupBoth]
  /-- no characters -/
  none : ∀ xic keyEvent world,
    (xlib.xutf8LookupString xic keyEvent kUtf8MaxBytes world).1.2 ∈
        [xLookupNone, xLookupKeySym] →
      (xlib.xutf8LookupString xic keyEvent kUtf8MaxBytes world).1.1.bytes = 0
  /-- characters -/
  chars : ∀ xic keyEvent world,
    (xlib.xutf8LookupString xic keyEvent kUtf8MaxBytes world).1.2 ∈
        [xLookupChars, xLookupBoth] →
      (xlib.xutf8LookupString xic keyEvent kUtf8MaxBytes world).1.1.Fits kUtf8MaxBytes
  latin1 : ∀ keyEvent world,
    (xlib.xLookupString keyEvent kUtf8MaxBytes world).1.Fits kUtf8MaxBytes

/-! ## the function -/

def keyEventOf (event : XIRawEvent) (pointer : QueryPointerResult) : XKeyEvent where
  type := 2
  window := 0
  root := 0
  subwindow := 0
  time := event.time
  x := truncate pointer.rootX
  y := truncate pointer.rootY
  xRoot := truncate pointer.rootX
  yRoot := truncate pointer.rootY
  state := pointer.modifierState
  keycode := (event.detail % 4294967296).toNat
  sameScreen := true

def lookupCharacter (xlib : KeyLookup ω) (xic : Option XIC) (event : XIRawEvent)
    (pointer : QueryPointerResult) (keySym : KeySym) (world : ω) :
    Except Fault (List UInt8 × KeySym) × ω :=
  if event.evtype = xiRawKeyPress then
    let keyEvent := keyEventOf event pointer
    let ((bytes, buffer, keySym), world) : (Int × Buffer × KeySym) × ω :=
      match xic with
      | some xic =>
        let ((lookup, status), world) := xlib.xutf8LookupString xic keyEvent kUtf8MaxBytes world
        let (bytes, buffer, keySym) := lookup.store .zero keySym
        if status ≠ success ∨ status = xBufferOverflow ∨ bytes = 0 then
          let (lookup, world) := xlib.xLookupString keyEvent kUtf8MaxBytes world
          (lookup.store buffer keySym, world)
        else ((bytes, buffer, keySym), world)
      | none =>
        let (lookup, world) := xlib.xLookupString keyEvent kUtf8MaxBytes world
        (lookup.store .zero keySym, world)
    ((buffer.setAt bytes 0).map fun buffer => (buffer.text, keySym), world)
  else (.ok ([], keySym), world)

/-! ## what it returns -/

def afterInputMethod (xlib : KeyLookup ω) (xic : Option XIC) (keyEvent : XKeyEvent) (world : ω) :
    ω :=
  match xic with
  | some xic => (xlib.xutf8LookupString xic keyEvent kUtf8MaxBytes world).2
  | none => world

/-- `Success` is no status of the input method -/
theorem KeyLookup.Documented.ne_success {xlib : KeyLookup ω} (hxlib : xlib.Documented) (xic : XIC)
    (keyEvent : XKeyEvent) (world : ω) :
    (xlib.xutf8LookupString xic keyEvent kUtf8MaxBytes world).1.2 ≠ success := by
  intro h
  exact absurd (h ▸ hxlib.status xic keyEvent world) (by decide)

theorem Lookup.Fits.text {lookup : Lookup} (hfits : lookup.Fits kUtf8MaxBytes) (buffer : Buffer)
    (keySym : KeySym) :
    ((lookup.store buffer keySym).2.1.setAt (lookup.store buffer keySym).1 0).map Buffer.text
      = .ok (lookup.written.takeWhile (· ≠ 0)) := by
  unfold Lookup.store
  rw [hfits.bytes_eq]
  exact Buffer.setAt_write_text hfits.length_le buffer

theorem map_pair_fst {ε α β γ : Type} (f : α → β) (c : γ) (x : Except ε α) :
    (x.map fun a => (f a, c)).map Prod.fst = x.map f := by
  cases x <;> rfl

/-- **The text is that of ISO Latin-1** in every case: whether or not there is an input context,
and whatever the input method has composed. -/
theorem lookupCharacter_latin1 {xlib : KeyLookup ω} (hxlib : xlib.Documented) (xic : Option XIC)
    {event : XIRawEvent} (hpress : event.evtype = xiRawKeyPress) (pointer : QueryPointerResult)
    (keySym : KeySym) (world : ω) :
    let keyEvent := keyEventOf event pointer
    let asked := xlib.xLookupString keyEvent kUtf8MaxBytes
      (afterInputMethod xlib xic keyEvent world)
    let result := lookupCharacter xlib xic event pointer keySym world
    result.1.map Prod.fst = .ok (asked.1.written.takeWhile (· ≠ 0)) ∧ result.2 = asked.2 := by
  intro keyEvent asked result
  have hfits := hxlib.latin1 keyEvent (afterInputMethod xlib xic keyEvent world)
  obtain ⟨buffer, keySym', hresult⟩ : ∃ buffer keySym', result =
      (((asked.1.store buffer keySym').2.1.setAt (asked.1.store buffer keySym').1 0).map
        fun buffer' => (buffer'.text, (asked.1.store buffer keySym').2.2), asked.2) := by
    cases xic with
    | none =>
      refine ⟨.zero, keySym, ?_⟩
      exact if_pos hpress
    | some xic =>
      have hne := hxlib.ne_success xic keyEvent world
      let stored := (xlib.xutf8LookupString xic keyEvent kUtf8MaxBytes world).1.1.store .zero keySym
      refine ⟨stored.2.1, stored.2.2, (if_pos hpress).trans ?_⟩
      dsimp only
      rw [if_pos (.inl hne)]
      rfl
  rw [hresult]
  exact ⟨(map_pair_fst Buffer.text _ _).trans (hfits.text buffer keySym'), rfl⟩

/-- the write that ends the text is inside of the buffer -/
theorem lookupCharacter_returns {xlib : KeyLookup ω} (hxlib : xlib.Documented) (xic : Option XIC)
    (event : XIRawEvent) (pointer : QueryPointerResult) (keySym : KeySym) (world : ω) :
    ∃ returned, (lookupCharacter xlib xic event pointer keySym world).1 = .ok returned := by
  by_cases hpress : event.evtype = xiRawKeyPress
  · have hok := (lookupCharacter_latin1 hxlib xic hpress pointer keySym world).1
    cases hresult : (lookupCharacter xlib xic event pointer keySym world).1 with
    | error fault =>
      rw [hresult] at hok
      cases hok
    | ok returned => exact ⟨returned, rfl⟩
  · exact ⟨([], keySym), congrArg Prod.fst (if_neg hpress)⟩

def KeyLookup.api (xlib : KeyLookup ω) (xic : Option XIC) (api : X11Api ω) : X11Api ω :=
  { api with
    lookupCharacter := fun event pointer world =>
      let (result, world) := lookupCharacter xlib xic event pointer 0 world
      (result.toOption.getD ([], 0), world) }

/-- the handlers get what the lookup returns -/
theorem KeyLookup.Documented.api_lookupCharacter {xlib : KeyLookup ω} (hxlib : xlib.Documented)
    (xic : Option XIC) (api : X11Api ω) (event : XIRawEvent) (pointer : QueryPointerResult)
    (world : ω) :
    lookupCharacter xlib xic event pointer 0 world
      = (.ok ((xlib.api xic api).lookupCharacter event pointer world).1,
          ((xlib.api xic api).lookupCharacter event pointer world).2) := by
  obtain ⟨returned, hreturned⟩ := lookupCharacter_returns hxlib xic event pointer 0 world
  have happ : (xlib.api xic api).lookupCharacter event pointer world
      = ((lookupCharacter xlib xic event pointer 0 world).1.toOption.getD ([], 0),
          (lookupCharacter xlib xic event pointer 0 world).2) := rfl
  rw [happ, hreturned]
  exact Prod.ext hreturned rfl

/-! ## calls -/

inductive Call where
  | xutf8LookupString | xLookupString
deriving DecidableEq, Repr

def KeyLookup.logged (xlib : KeyLookup ω) : KeyLookup (ω × List Call) where
  xutf8LookupString xic keyEvent nbytes s :=
    let (answer, world) := xlib.xutf8LookupString xic keyEvent nbytes s.1
    (answer, world, s.2 ++ [.xutf8LookupString])
  xLookupString keyEvent nbytes s :=
    let (answer, world) := xlib.xLookupString keyEvent nbytes s.1
    (answer, world, s.2 ++ [.xLookupString])

theorem KeyLookup.Documented.logged {xlib : KeyLookup ω} (hxlib : xlib.Documented) :
    xlib.logged.Documented where
  status xic keyEvent s := hxlib.status xic keyEvent s.1
  none xic keyEvent s := hxlib.none xic keyEvent s.1
  chars xic keyEvent s := hxlib.chars xic keyEvent s.1
  latin1 keyEvent s := hxlib.latin1 keyEvent s.1

def calls (xlib : KeyLookup ω) (xic : Option XIC) (event : XIRawEvent)
    (pointer : QueryPointerResult) (keySym : KeySym) (world : ω) : List Call :=
  (lookupCharacter xlib.logged xic event pointer keySym (world, [])).2.2

theorem xLookupString_mem_calls {xlib : KeyLookup ω} (hxlib : xlib.Documented) (xic : Option XIC)
    {event : XIRawEvent} (hpress : event.evtype = xiRawKeyPress) (pointer : QueryPointerResult)
    (keySym : KeySym) (world : ω) :
    .xLookupString ∈ calls xlib xic event pointer keySym world := by
  unfold calls
  rw [(lookupCharacter_latin1 hxlib.logged xic hpress pointer keySym (world, [])).2]
  exact List.mem_append_right _ (List.mem_singleton_self _)

/-! ## the input method first -/

/-- the input method has composed characters -/
def Composed (xlib : KeyLookup ω) (xic : XIC) (keyEvent : XKeyEvent) (world : ω) : Prop :=
  (xlib.xutf8LookupString xic keyEvent kUtf8MaxBytes world).1.2 ∈ [xLookupChars, xLookupBoth] ∧
    1 ≤ (xlib.xutf8LookupString xic keyEvent kUtf8MaxBytes world).1.1.bytes

/-- an input method that has composed nothing has returned no characters or too many -/
theorem KeyLookup.Documented.bytes_eq_zero_or {xlib : KeyLookup ω} (hxlib : xlib.Documented)
    {xic : XIC} {keyEvent : XKeyEvent} {world : ω} (hnot : ¬ Composed xlib xic keyEvent world) :
    (xlib.xutf8LookupString xic keyEvent kUtf8MaxBytes world).1.1.bytes = 0 ∨
      (xlib.xutf8LookupString xic keyEvent kUtf8MaxBytes world).1.2 = xBufferOverflow := by
  have hnone := hxlib.none xic keyEvent world
  have hchars := hxlib.chars xic keyEvent world
  have hstatus := hxlib.status xic keyEvent world
  unfold Composed at hnot
  generalize xlib.xutf8LookupString xic keyEvent kUtf8MaxBytes world = answer at *
  have hlength (h : answer.1.2 ∈ [xLookupChars, xLookupBoth]) : answer.1.1.bytes = 0 := by
    have hle : ¬ 1 ≤ answer.1.1.bytes := fun hone => hnot ⟨h, hone⟩
    have heq := (hchars h).bytes_eq
    omega
  simp only [List.mem_cons, List.not_mem_nil, or_false] at hstatus hnone hlength
  rcases hstatus with h | h | h | h | h
  · exact .inr h
  · exact .inl (hnone (.inl h))
  · exact .inl (hlength (.inl h))
  · exact .inl (hnone (.inr h))
  · exact .inl (hlength (.inr h))

/-- the text of the input method is returned, ISO Latin-1 is asked for in its place only, and the
write that ends the text is inside of the buffer -/
structure InputMethodFirst (xlib : KeyLookup ω) (xic : Option XIC) (event : XIRawEvent)
    (pointer : QueryPointerResult) (keySym : KeySym) (world : ω) : Prop where
  composed : ∀ ic ∈ xic, Composed xlib ic (keyEventOf event pointer) world →
    (xlib.xutf8LookupString ic (keyEventOf event pointer) kUtf8MaxBytes world).1.1.bytes ≤ 4 →
      (lookupCharacter xlib xic event pointer keySym world).1.map Prod.fst
        = .ok (xlib.xutf8LookupString ic (keyEventOf event pointer) kUtf8MaxBytes
            world).1.1.written
  asked : .xLookupString ∈ calls xlib xic event pointer keySym world → ∀ ic ∈ xic,
    (xlib.xutf8LookupString ic (keyEventOf event pointer) kUtf8MaxBytes world).1.1.bytes = 0 ∨
      (xlib.xutf8LookupString ic (keyEventOf event pointer) kUtf8MaxBytes world).1.2
        = xBufferOverflow
  inBounds : ∃ returned, (lookupCharacter xlib xic event pointer keySym world).1 = .ok returned

/-- **When the input method comes first**: for every press and every answer, exactly when there is
no input context or it has composed no characters. -/
theorem lookupCharacter_composed_iff {xlib : KeyLookup ω} (hxlib : xlib.Documented)
    (xic : Option XIC) {event : XIRawEvent} (hpress : event.evtype = xiRawKeyPress)
    (pointer : QueryPointerResult) (keySym : KeySym) (world : ω) :
    InputMethodFirst xlib xic event pointer keySym world ↔
      ∀ ic ∈ xic, ¬ Composed xlib ic (keyEventOf event pointer) world := by
  constructor
  · intro h ic hic hcomposed
    have hmem := xLookupString_mem_calls hxlib xic hpress pointer keySym world
    rcases h.asked hmem ic hic with hzero | hoverflow
    · exact absurd (hzero ▸ hcomposed.2) (by decide)
    · exact absurd (hoverflow ▸ hcomposed.1) (by decide)
  · intro hnot
    refine ⟨fun ic hic hcomposed => absurd hcomposed (hnot ic hic), fun _ ic hic => ?_, ?_⟩
    · exact hxlib.bytes_eq_zero_or (hnot ic hic)
    · exact lookupCharacter_returns hxlib xic event pointer keySym world

/-! ### a dead key and an accent -/

def keyLookup (composed : Lookup) (status : Int) (latin1 : Lookup) : KeyLookup Unit where
  xutf8LookupString _ _ _ _ := ((composed, status), ())
  xLookupString _ _ _ := (latin1, ())

def deadKey : KeyLookup Unit := keyLookup ⟨0, [], none⟩ xLookupNone ⟨0, [], some 0xFE51⟩

def accentKey : KeyLookup Unit :=
  keyLookup ⟨2, [0xC3, 0xA9], some 0xE9⟩ xLookupBoth ⟨1, [0xE9], some 0xE9⟩

def pressedKey : XIRawEvent := ⟨xiRawKeyPress, 3, 26, 0, 1000, ⟨0, [], []⟩⟩

def restingPointer : QueryPointerResult := ⟨EventSwitch.double 0, EventSwitch.double 0, 0, 0⟩

theorem keyLookup_documented {composed : Lookup} {status : Int} {latin1 : Lookup}
    (hstatus : status ∈ [xBufferOverflow, xLookupNone, xLookupChars, xLookupKeySym, xLookupBoth])
    (hnone : status ∈ [xLookupNone, xLookupKeySym] → composed.bytes = 0)
    (hchars : status ∈ [xLookupChars, xLookupBoth] → composed.Fits kUtf8MaxBytes)
    (hlatin1 : latin1.Fits kUtf8MaxBytes) : (keyLookup composed status latin1).Documented :=
  ⟨fun _ _ _ => hstatus, fun _ _ _ => hnone, fun _ _ _ => hchars, fun _ _ => hlatin1⟩

theorem deadKey_documented : deadKey.Documented :=
  keyLookup_documented (by decide) (fun _ => rfl) (fun h => absurd h (by decide))
    ⟨rfl, by decide⟩

theorem accentKey_documented : accentKey.Documented :=
  keyLookup_documented (by decide) (fun h => absurd h (by decide)) (fun _ => ⟨rfl, by decide⟩)
    ⟨rfl, by decide⟩

theorem deadKey_composed : InputMethodFirst deadKey (some 1) pressedKey restingPointer 0 () := by
  refine (lookupCharacter_composed_iff deadKey_documented (some 1) rfl restingPointer 0 ()).mpr ?_
  rintro ic - ⟨hchars, -⟩
  change xLookupNone ∈ _ at hchars
  exact absurd hchars (by decide)

/-- **ISO Latin-1 instead of UTF-8**: the input method has composed the two bytes of a letter, and
the one byte that the letter has in ISO Latin-1 is returned. -/
theorem accentKey_fails :
    accentKey.Documented ∧
      (accentKey.xutf8LookupString 1 (keyEventOf pressedKey restingPointer) kUtf8MaxBytes ()).1
        = (⟨2, [0xC3, 0xA9], some 0xE9⟩, xLookupBoth) ∧
      (lookupCharacter accentKey (some 1) pressedKey restingPointer 0 ()).1
        = .ok ([0xE9], 0xE9) ∧
      ¬ InputMethodFirst accentKey (some 1) pressedKey restingPointer 0 () := by
  have hreturned : (lookupCharacter accentKey (some 1) pressedKey restingPointer 0 ()).1
      = .ok ([0xE9], 0xE9) := by
    rfl
  refine ⟨accentKey_documented, rfl, hreturned, fun h => ?_⟩
  have hcomposed := h.composed 1 rfl (by unfold Composed; decide) (by decide)
  rw [hreturned] at hcomposed
  exact absurd (Except.ok.inj hcomposed) (by decide)

end Evget.X11
