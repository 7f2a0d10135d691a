import Evget.Lib.Json

/-!
# Reading JSON texts

A reader for the values of `Evget.Lib.Json`: blanks may stand between any two signs, an escape is a
short one or four hexadecimal digits below 128, and after a comma another part has to come.  Fuel
bounds the number of values and parts that are read.

* `readQuoted`    a string after its first quotation mark;
* `read`          one value, and what stands behind it;
* `readAll`       all values of a text;
* `read_text`     the reader gives back the value whose text it reads, and leaves what follows;
* `readAll_append`  values written one behind the other;
* `ReadsBack`     functions whose texts read as the values that they were given for.
-/

namespace Json
open SQLite

def isBlank (b : UInt8) : Bool := b = 32 || b = 9 || b = 10 || b = 13

def skipBlanks (s : List UInt8) : List UInt8 := s.dropWhile isBlank

theorem skipBlanks_cons {b : UInt8} (h : isBlank b = false) (s : List UInt8) :
    skipBlanks (b :: s) = b :: s :=
  List.dropWhile_cons_of_neg (by rw [h]; exact Bool.false_ne_true)

theorem skipBlanks_line (blanks : Nat) (s : List UInt8) :
    skipBlanks (line blanks ++ s) = skipBlanks s := by
  show skipBlanks (List.replicate blanks 32 ++ s) = skipBlanks s
  induction blanks with
  | zero => rfl
  | succ blanks ih => exact ih

/-! ## strings -/

def hexDigit? (b : UInt8) : Option UInt8 :=
  if 48 ≤ b ∧ b ≤ 57 then some (b - 48)
  else if 97 ≤ b ∧ b ≤ 102 then some (b - 87)
  else if 65 ≤ b ∧ b ≤ 70 then some (b - 55)
  else none

def unescape? (b : UInt8) : Option UInt8 :=
  if b = 34 then some 34
  else if b = 92 then some 92
  else if b = 47 then some 47
  else if b = 98 then some 8
  else if b = 116 then some 9
  else if b = 110 then some 10
  else if b = 102 then some 12
  else if b = 114 then some 13
  else none

def hexByte? (a b high low : UInt8) : Option UInt8 :=
  if a = 48 ∧ b = 48 then do
    let high ← hexDigit? high
    let low ← hexDigit? low
    if high < 8 then return high * 16 + low else none
  else none

def readHex : List UInt8 → Option (UInt8 × List UInt8)
  | a :: b :: high :: low :: rest => (hexByte? a b high low).map fun byte => (byte, rest)
  | _ => none

def readEscape : List UInt8 → Option (UInt8 × List UInt8)
  | [] => none
  | sign :: rest =>
    if sign = 117 then readHex rest else (unescape? sign).map fun byte => (byte, rest)

theorem readEscape_cons (sign : UInt8) (rest : List UInt8) : readEscape (sign :: rest) =
    if sign = 117 then readHex rest else (unescape? sign).map fun byte => (byte, rest) := rfl

/-- one byte of a string; control characters have to be escaped -/
def readByte : List UInt8 → Option (UInt8 × List UInt8)
  | [] => none
  | b :: rest => if b = 92 then readEscape rest else if b < 32 then none else some (b, rest)

theorem readByte_cons (b : UInt8) (rest : List UInt8) : readByte (b :: rest) =
    if b = 92 then readEscape rest else if b < 32 then none else some (b, rest) := rfl

def readBytes : Nat → List UInt8 → Option (List UInt8 × List UInt8)
  | 0, _ => none
  | fuel + 1, s =>
    if s.head? = some 34 then some ([], s.tail)
    else do
      let (b, s) ← readByte s
      let (bs, s) ← readBytes fuel s
      return (b :: bs, s)

def readQuoted (s : List UInt8) : Option (List UInt8 × List UInt8) := readBytes s.length s

def readKey : List UInt8 → Option (List UInt8 × List UInt8)
  | [] => none
  | sign :: s =>
    if sign = 34 then (readQuoted s).bind fun (key, s) =>
      if (skipBlanks s).head? = some 58 then some (key, (skipBlanks s).tail) else none
    else none

theorem readKey_cons (sign : UInt8) (s : List UInt8) : readKey (sign :: s) =
    if sign = 34 then (readQuoted s).bind fun (key, s) =>
      if (skipBlanks s).head? = some 58 then some (key, (skipBlanks s).tail) else none
    else none := rfl

theorem hexDigit?_control {b : UInt8} (hb : b < 32) :
    hexDigit? (48 + b / 16) = some (b / 16) ∧
      hexDigit? (if b % 16 < 10 then 48 + b % 16 else 87 + b % 16) = some (b % 16) ∧
      b / 16 < 8 ∧ b / 16 * 16 + b % 16 = b := by
  have hall : ∀ n : Fin 32, hexDigit? (48 + UInt8.ofNat n / 16) = some (UInt8.ofNat n / 16) ∧
      hexDigit? (if UInt8.ofNat n % 16 < 10 then 48 + UInt8.ofNat n % 16
        else 87 + UInt8.ofNat n % 16) = some (UInt8.ofNat n % 16) ∧
      UInt8.ofNat n / 16 < 8 ∧ UInt8.ofNat n / 16 * 16 + UInt8.ofNat n % 16 = UInt8.ofNat n := by
    decide
  have h := hall ⟨b.toNat, UInt8.lt_iff_toNat_lt.mp hb⟩
  rwa [UInt8.ofNat_toNat] at h

theorem readByte_control {b low : UInt8} (hb : b < 32)
    (hlow : (if b % 16 < 10 then 48 + b % 16 else 87 + b % 16) = low) (rest : List UInt8) :
    readByte (bytes "\\u00" ++ [48 + b / 16, low] ++ rest) = some (b, rest) := by
  obtain ⟨hhigh, hdigit, hsmall, hsum⟩ := hexDigit?_control hb
  rw [hlow] at hdigit
  show (hexByte? 48 48 (48 + b / 16) low).map (fun byte => (byte, rest)) = _
  rw [hexByte?, if_pos ⟨rfl, rfl⟩, hhigh, hdigit]
  show (if b / 16 < 8 then some (b / 16 * 16 + b % 16) else none).map (fun byte => (byte, rest)) = _
  rw [if_pos hsmall, hsum]
  rfl

theorem readByte_escape (b : UInt8) (rest : List UInt8) :
    readByte (escape b ++ rest) = some (b, rest) := by
  unfold escape
  split_ifs with h34 h92 h8 h9 h10 h12 h13 h32 hdigit
  · rw [h34]; rfl
  · rw [h92]; rfl
  · rw [h8]; rfl
  · rw [h9]; rfl
  · rw [h10]; rfl
  · rw [h12]; rfl
  · rw [h13]; rfl
  · exact readByte_control h32 (if_pos hdigit) rest
  · exact readByte_control h32 (if_neg hdigit) rest
  · show readByte (b :: rest) = _
    rw [readByte_cons, if_neg h92, if_neg h32]

theorem escape_cases (b : UInt8) : b ≠ 34 ∧ escape b = [b] ∨ ∃ s, escape b = 92 :: s := by
  unfold escape
  by_cases h34 : b = 34
  · rw [if_pos h34]
    exact .inr ⟨_, rfl⟩
  · rw [if_neg h34]
    split_ifs <;> first | exact .inr ⟨_, rfl⟩ | exact .inl ⟨h34, rfl⟩

/-- a quotation mark in a string is never taken for the end of it -/
theorem escape_head (b : UInt8) (rest : List UInt8) : (escape b ++ rest).head? ≠ some 34 := by
  intro h
  obtain ⟨hb, heq⟩ | ⟨s, heq⟩ := escape_cases b
  · rw [heq] at h
    exact hb (Option.some.inj h)
  · rw [heq] at h
    exact absurd (Option.some.inj h) (by decide)

theorem length_flatMap_escape (s : List UInt8) : s.length ≤ (s.flatMap escape).length := by
  induction s with
  | nil => exact Nat.le_refl _
  | cons b s ih =>
    have hb : 1 ≤ (escape b).length := by
      obtain ⟨-, heq⟩ | ⟨s, heq⟩ := escape_cases b
      · rw [heq]; exact Nat.le_refl _
      · rw [heq]; exact Nat.succ_pos _
    rw [List.flatMap_cons, List.length_append, List.length_cons]
    omega

theorem readBytes_escape (s rest : List UInt8) (fuel : Nat) (h : s.length < fuel) :
    readBytes fuel (s.flatMap escape ++ 34 :: rest) = some (s, rest) := by
  induction s generalizing fuel with
  | nil =>
    obtain ⟨fuel, rfl⟩ := Nat.exists_eq_succ_of_ne_zero (Nat.ne_of_gt h)
    rfl
  | cons b s ih =>
    obtain ⟨fuel, rfl⟩ := Nat.exists_eq_succ_of_ne_zero (Nat.ne_of_gt (Nat.zero_lt_of_lt h))
    rw [List.flatMap_cons, List.append_assoc, readBytes, if_neg (escape_head b _),
      readByte_escape]
    show (readBytes fuel (s.flatMap escape ++ 34 :: rest) >>= fun (bs, s) => some (b :: bs, s)) = _
    rw [ih fuel (Nat.lt_of_succ_lt_succ h)]
    rfl

theorem readQuoted_escape (s rest : List UInt8) :
    readQuoted (s.flatMap escape ++ 34 :: rest) = some (s, rest) := by
  refine readBytes_escape s rest _ ?_
  have hs := length_flatMap_escape s
  rw [List.length_append, List.length_cons]
  omega

theorem quote_append (s rest : List UInt8) :
    quote s ++ rest = 34 :: (s.flatMap escape ++ 34 :: rest) := by
  unfold quote
  rw [List.append_assoc, List.append_assoc]
  rfl

/-! ## values -/

/-- the parts of an array or of an object up to its closing sign, from the first one on -/
def readParts {α : Type} (close : UInt8) (more : List UInt8 → Option (List α × List UInt8))
    (s : List UInt8) : Option (List α × List UInt8) :=
  match skipBlanks s with
  | [] => none
  | sign :: rest => if sign = close then some ([], rest) else more s

def readRest {α : Type} (close : UInt8) (part : α)
    (more : List UInt8 → Option (List α × List UInt8)) (s : List UInt8) :
    Option (List α × List UInt8) :=
  match skipBlanks s with
  | [] => none
  | sign :: rest =>
    if sign = 44 then (more rest).map fun (parts, s) => (part :: parts, s)
    else if sign = close then some ([part], rest)
    else none

mutual

def read : Nat → List UInt8 → Option (Json × List UInt8)
  | 0, _ => none
  | fuel + 1, s =>
    match skipBlanks s with
    | [] => none
    | sign :: s =>
      if sign = 34 then (readQuoted s).map fun (text, s) => (.string text, s)
      else if sign = 91 then
        (readParts 93 (readElements fuel) s).map fun (elements, s) => (.array elements, s)
      else if sign = 123 then
        (readParts 125 (readMembers fuel) s).map fun (members, s) => (.object members, s)
      else none

def readElements : Nat → List UInt8 → Option (List Json × List UInt8)
  | 0, _ => none
  | fuel + 1, s =>
    (read fuel s).bind fun (element, s) => readRest 93 element (readElements fuel) s

def readMembers : Nat → List UInt8 → Option (List (List UInt8 × Json) × List UInt8)
  | 0, _ => none
  | fuel + 1, s =>
    (readKey (skipBlanks s)).bind fun (key, s) =>
      (read fuel s).bind fun (value, s) => readRest 125 (key, value) (readMembers fuel) s

end

section
variable {α : Type} {close : UInt8} {more : List UInt8 → Option (List α × List UInt8)}

theorem readParts_more {s : List UInt8} {sign : UInt8} {t : List UInt8}
    (h : skipBlanks s = sign :: t) (hsign : sign ≠ close) : readParts close more s = more s := by
  unfold readParts
  rw [h]
  exact if_neg hsign

theorem readRest_comma (part : α) (s : List UInt8) : readRest close part more (44 :: s) =
    (more s).map fun (parts, s) => (part :: parts, s) := rfl

theorem readRest_close (part : α) (blanks : Nat) (s : List UInt8) (hblank : isBlank close = false)
    (hclose : close ≠ 44) :
    readRest close part more (line blanks ++ close :: s) = some ([part], s) := by
  unfold readRest
  rw [skipBlanks_line, skipBlanks_cons hblank]
  exact (if_neg hclose).trans (if_pos rfl)

end

/-- blanks before a value do not matter -/
theorem read_congr {s t : List UInt8} (h : skipBlanks s = skipBlanks t) (fuel : Nat) :
    read fuel s = read fuel t := by
  cases fuel with
  | zero => rw [read, read]
  | succ fuel => rw [read, read, h]

theorem read_space (fuel : Nat) (s : List UInt8) : read fuel (32 :: s) = read fuel s :=
  read_congr (show skipBlanks (32 :: s) = skipBlanks s from rfl) fuel

theorem read_line (fuel blanks : Nat) (s : List UInt8) :
    read fuel (line blanks ++ s) = read fuel s :=
  read_congr (skipBlanks_line blanks s) fuel

theorem read_string (fuel : Nat) (s : List UInt8) : read (fuel + 1) (34 :: s) =
    (readQuoted s).map fun (text, s) => (.string text, s) := rfl

theorem read_array (fuel : Nat) (s : List UInt8) : read (fuel + 1) (91 :: s) =
    (readParts 93 (readElements fuel) s).map fun (elements, s) => (.array elements, s) := rfl

theorem read_object (fuel : Nat) (s : List UInt8) : read (fuel + 1) (123 :: s) =
    (readParts 125 (readMembers fuel) s).map fun (members, s) => (.object members, s) := rfl

mutual

def weight : Json → Nat
  | .string _ => 1
  | .array elements => 1 + elementsWeight elements
  | .object members => 1 + membersWeight members

def elementsWeight : List Json → Nat
  | [] => 0
  | element :: elements => 1 + element.weight + elementsWeight elements

def membersWeight : List (List UInt8 × Json) → Nat
  | [] => 0
  | (_, value) :: members => 1 + value.weight + membersWeight members

end

/-! ### the parts of a text -/

theorem skipBlanks_quote (key s : List UInt8) : skipBlanks (quote key ++ s) = quote key ++ s := by
  rw [quote_append]
  exact skipBlanks_cons rfl _

theorem readKey_quote (key s : List UInt8) :
    readKey (quote key ++ (bytes ": " ++ s)) = some (key, 32 :: s) := by
  rw [quote_append]
  show (readQuoted (key.flatMap escape ++ 34 :: (bytes ": " ++ s)) >>= fun (key, s) => _) = _
  rw [readQuoted_escape]
  rfl

/-- the first sign of a text says what value it is -/
theorem text_head (indent blanks : Nat) (json : Json) :
    ∃ sign s, json.text indent blanks = sign :: s ∧ (sign = 34 ∨ sign = 91 ∨ sign = 123) := by
  cases json with
  | string s => exact ⟨34, _, rfl, .inl rfl⟩
  | array elements =>
    rw [text]
    split_ifs
    · exact ⟨91, _, rfl, .inr (.inl rfl)⟩
    · exact ⟨91, _, rfl, .inr (.inl rfl)⟩
  | object members =>
    rw [text]
    split_ifs
    · exact ⟨123, _, rfl, .inr (.inr rfl)⟩
    · exact ⟨123, _, rfl, .inr (.inr rfl)⟩

section
variable (indent blanks : Nat) (tail : List UInt8)

theorem text_array (element : Json) (elements : List Json) :
    text indent blanks (.array (element :: elements)) ++ tail
      = 91 :: (elementTexts indent (blanks + indent) (element :: elements)
        ++ (line blanks ++ 93 :: tail)) := by
  rw [text, if_neg (by exact Bool.false_ne_true)]
  simp only [List.append_assoc]
  rfl

theorem text_object (m : List UInt8 × Json) (members : List (List UInt8 × Json)) :
    text indent blanks (.object (m :: members)) ++ tail
      = 123 :: (memberTexts indent (blanks + indent) (m :: members)
        ++ (line blanks ++ 125 :: tail)) := by
  rw [text, if_neg (by exact Bool.false_ne_true)]
  simp only [List.append_assoc]
  rfl

theorem elementTexts_singleton (element : Json) :
    elementTexts indent blanks [element] ++ tail
      = line blanks ++ (element.text indent blanks ++ tail) := by
  simp only [elementTexts, List.isEmpty_nil, if_true, List.append_nil, List.append_assoc]

theorem elementTexts_cons (element next : Json) (elements : List Json) :
    elementTexts indent blanks (element :: next :: elements) ++ tail
      = line blanks ++ (element.text indent blanks
        ++ 44 :: (elementTexts indent blanks (next :: elements) ++ tail)) := by
  rw [elementTexts, if_neg (by exact Bool.false_ne_true)]
  simp only [List.append_assoc]
  rfl

theorem memberTexts_singleton (key : List UInt8) (value : Json) :
    memberTexts indent blanks [(key, value)] ++ tail
      = line blanks ++ (quote key ++ (bytes ": " ++ (value.text indent blanks ++ tail))) := by
  simp only [memberTexts, List.isEmpty_nil, if_true, List.append_nil, List.append_assoc]

theorem memberTexts_cons (key : List UInt8) (value : Json) (next : List UInt8 × Json)
    (members : List (List UInt8 × Json)) :
    memberTexts indent blanks ((key, value) :: next :: members) ++ tail
      = line blanks ++ (quote key ++ (bytes ": " ++ (value.text indent blanks
        ++ 44 :: (memberTexts indent blanks (next :: members) ++ tail)))) := by
  rw [memberTexts, if_neg (by exact Bool.false_ne_true)]
  simp only [List.append_assoc]
  rfl

theorem elementTexts_head (element : Json) (elements : List Json) : ∃ sign s,
    skipBlanks (elementTexts indent blanks (element :: elements) ++ tail) = sign :: s ∧
      sign ≠ 93 := by
  obtain ⟨sign, s, htext, hsign⟩ := text_head indent blanks element
  have hshape : ∃ t, elementTexts indent blanks (element :: elements) ++ tail
      = line blanks ++ sign :: t := by
    cases elements with
    | nil => exact ⟨_, by rw [elementTexts_singleton, htext]; rfl⟩
    | cons next elements => exact ⟨_, by rw [elementTexts_cons, htext]; rfl⟩
  obtain ⟨t, heq⟩ := hshape
  refine ⟨sign, t, ?_, ?_⟩
  · rw [heq, skipBlanks_line]
    obtain rfl | rfl | rfl := hsign <;> rfl
  · obtain rfl | rfl | rfl := hsign <;> decide

theorem memberTexts_head (m : List UInt8 × Json) (members : List (List UInt8 × Json)) : ∃ s,
    skipBlanks (memberTexts indent blanks (m :: members) ++ tail) = 34 :: s := by
  cases members with
  | nil => exact ⟨_, by rw [memberTexts_singleton, skipBlanks_line]; rfl⟩
  | cons next members => exact ⟨_, by rw [memberTexts_cons, skipBlanks_line]; rfl⟩

end

mutual

/-- **The reader gives back the value whose text it reads**, with any strings in it, and leaves
what stands behind the text. -/
theorem read_text (indent blanks : Nat) (rest : List UInt8) (json : Json) (fuel : Nat)
    (h : json.weight ≤ fuel) : read fuel (json.text indent blanks ++ rest) = some (json, rest) := by
  cases json with
  | string s =>
    obtain ⟨fuel, rfl⟩ := Nat.exists_eq_succ_of_ne_zero (Nat.ne_of_gt h)
    rw [text, quote_append, read_string, readQuoted_escape]
    rfl
  | array elements =>
    rw [weight] at h
    obtain ⟨fuel, rfl⟩ := Nat.exists_eq_succ_of_ne_zero (n := fuel) (by omega)
    cases elements with
    | nil => rfl
    | cons element elements =>
      obtain ⟨sign, s, hs, hsign⟩ := elementTexts_head indent (blanks + indent)
        (line blanks ++ 93 :: rest) element elements
      rw [text_array, read_array, readParts_more hs hsign,
        readElements_text indent _ blanks rest element elements fuel (by omega)]
      rfl
  | object members =>
    rw [weight] at h
    obtain ⟨fuel, rfl⟩ := Nat.exists_eq_succ_of_ne_zero (n := fuel) (by omega)
    cases members with
    | nil => rfl
    | cons m members =>
      obtain ⟨s, hs⟩ := memberTexts_head indent (blanks + indent) (line blanks ++ 125 :: rest)
        m members
      rw [text_object, read_object, readParts_more hs (by decide),
        readMembers_text indent _ blanks rest m members fuel (by omega)]
      rfl
termination_by fuel

theorem readElements_text (indent blanks outer : Nat) (rest : List UInt8) (element : Json)
    (elements : List Json) (fuel : Nat) (h : elementsWeight (element :: elements) ≤ fuel) :
    readElements fuel (elementTexts indent blanks (element :: elements)
      ++ (line outer ++ 93 :: rest)) = some (element :: elements, rest) := by
  rw [elementsWeight] at h
  obtain ⟨fuel, rfl⟩ := Nat.exists_eq_succ_of_ne_zero (n := fuel) (by omega)
  rw [readElements]
  cases elements with
  | nil =>
    rw [elementTexts_singleton, read_line, read_text indent blanks _ element fuel (by omega)]
    exact readRest_close element outer rest rfl (by decide)
  | cons next elements =>
    rw [elementTexts_cons, read_line, read_text indent blanks _ element fuel (by omega)]
    show readRest 93 element (readElements fuel) (44 :: _) = _
    rw [readRest_comma, readElements_text indent blanks outer rest next elements fuel (by omega)]
    rfl
termination_by fuel

theorem readMembers_text (indent blanks outer : Nat) (rest : List UInt8) (m : List UInt8 × Json)
    (members : List (List UInt8 × Json)) (fuel : Nat) (h : membersWeight (m :: members) ≤ fuel) :
    readMembers fuel (memberTexts indent blanks (m :: members)
      ++ (line outer ++ 125 :: rest)) = some (m :: members, rest) := by
  obtain ⟨key, value⟩ := m
  rw [membersWeight] at h
  obtain ⟨fuel, rfl⟩ := Nat.exists_eq_succ_of_ne_zero (n := fuel) (by omega)
  rw [readMembers]
  cases members with
  | nil =>
    rw [memberTexts_singleton, skipBlanks_line, skipBlanks_quote, readKey_quote]
    show (read fuel (32 :: _)).bind _ = _
    rw [read_space, read_text indent blanks _ value fuel (by omega)]
    exact readRest_close (key, value) outer rest rfl (by decide)
  | cons next members =>
    rw [memberTexts_cons, skipBlanks_line, skipBlanks_quote, readKey_quote]
    show (read fuel (32 :: _)).bind _ = _
    rw [read_space, read_text indent blanks _ value fuel (by omega)]
    show readRest 125 (key, value) (readMembers fuel) (44 :: _) = _
    rw [readRest_comma, readMembers_text indent blanks outer rest next members fuel (by omega)]
    rfl
termination_by fuel

end

/-! ## more text behind a value -/

section
variable {s rest : List UInt8} (t : List UInt8)

theorem skipBlanks_append {sign : UInt8} (h : skipBlanks s = sign :: rest) :
    skipBlanks (s ++ t) = sign :: (rest ++ t) := by
  unfold skipBlanks at h ⊢
  rw [List.dropWhile_append, h]
  rfl

theorem skipBlanks_append_nil (h : skipBlanks s = []) : skipBlanks (s ++ t) = skipBlanks t := by
  unfold skipBlanks at h ⊢
  rw [List.dropWhile_append, h]
  rfl

theorem skipBlanks_head {sign : UInt8} (h : (skipBlanks s).head? = some sign) :
    (skipBlanks (s ++ t)).head? = some sign ∧
      (skipBlanks (s ++ t)).tail = (skipBlanks s).tail ++ t := by
  cases heq : skipBlanks s with
  | nil => rw [heq] at h; cases h
  | cons b r =>
    rw [heq] at h
    rw [skipBlanks_append t heq]
    exact ⟨h, rfl⟩

theorem map_append {α : Type} {x : Option α} {a : α}
    (h : x.map (fun a => (a, s)) = some (a, rest)) :
    x.map (fun a => (a, s ++ t)) = some (a, rest ++ t) := by
  cases x with
  | none => cases h
  | some a' => cases h; rfl

theorem readHex_append {b : UInt8} (h : readHex s = some (b, rest)) :
    readHex (s ++ t) = some (b, rest ++ t) := by
  match s, h with
  | _ :: _ :: _ :: _ :: _, h => exact map_append t h

theorem readByte_append {b : UInt8} (h : readByte s = some (b, rest)) :
    readByte (s ++ t) = some (b, rest ++ t) := by
  match s, h with
  | c :: s, h =>
    show readByte (c :: (s ++ t)) = _
    rw [readByte_cons] at h ⊢
    by_cases hc : c = 92
    · rw [if_pos hc] at h ⊢
      match s, h with
      | sign :: s, h =>
        show readEscape (sign :: (s ++ t)) = _
        rw [readEscape_cons] at h ⊢
        split_ifs at h ⊢
        · exact readHex_append t h
        · exact map_append t h
    · rw [if_neg hc] at h ⊢
      split_ifs at h ⊢
      cases h
      rfl

theorem readBytes_append {bs : List UInt8} {fuel fuel' : Nat} (hfuel : fuel ≤ fuel')
    (h : readBytes fuel s = some (bs, rest)) :
    readBytes fuel' (s ++ t) = some (bs, rest ++ t) := by
  induction fuel generalizing s bs fuel' with
  | zero => cases h
  | succ fuel ih =>
    obtain ⟨fuel', rfl⟩ := Nat.exists_eq_succ_of_ne_zero (n := fuel') (by omega)
    rw [readBytes] at h ⊢
    cases s with
    | nil => cases h
    | cons c s =>
      by_cases hc : c = 34
      · rw [hc] at h ⊢
        cases h
        rfl
      · have hhead : ∀ r : List UInt8, (c :: r).head? ≠ some 34 := fun _ h => hc (Option.some.inj h)
        rw [if_neg (hhead s)] at h
        rw [List.cons_append, if_neg (hhead (s ++ t))]
        obtain ⟨⟨b, s'⟩, hb, h⟩ := Option.bind_eq_some_iff.mp h
        obtain ⟨⟨bs', s''⟩, hbs, h⟩ := Option.bind_eq_some_iff.mp h
        cases h
        rw [← List.cons_append, readByte_append t hb]
        show (readBytes fuel' (s' ++ t) >>= fun (bs, s) => some (b :: bs, s)) = _
        rw [ih (Nat.le_of_succ_le_succ hfuel) hbs]
        rfl

theorem readQuoted_append {bs : List UInt8} (h : readQuoted s = some (bs, rest)) :
    readQuoted (s ++ t) = some (bs, rest ++ t) :=
  readBytes_append t (by rw [List.length_append]; exact Nat.le_add_right ..) h

theorem readKey_append {key : List UInt8} (h : readKey s = some (key, rest)) :
    readKey (s ++ t) = some (key, rest ++ t) := by
  match s, h with
  | sign :: s, h =>
    show readKey (sign :: (s ++ t)) = _
    rw [readKey_cons] at h ⊢
    by_cases hsign : sign = 34
    · rw [if_pos hsign] at h ⊢
      obtain ⟨⟨key', s'⟩, hkey, h⟩ := Option.bind_eq_some_iff.mp h
      rw [readQuoted_append t hkey]
      by_cases hcolon : (skipBlanks s').head? = some 58
      · replace h : (if (skipBlanks s').head? = some 58 then some (key', (skipBlanks s').tail)
          else none) = some (key, rest) := h
        rw [if_pos hcolon] at h
        cases h
        obtain ⟨hhead, htail⟩ := skipBlanks_head t hcolon
        show (if (skipBlanks (s' ++ t)).head? = some 58 then
          some (key, (skipBlanks (s' ++ t)).tail) else none) = _
        rw [if_pos hhead, htail]
      · exact absurd (h.symm.trans (if_neg hcolon)) nofun
    · rw [if_neg hsign] at h
      cases h

end

/-- `g` reads what `f` reads, also where more text follows -/
def Extends {α : Type} (f g : List UInt8 → Option (α × List UInt8)) : Prop :=
  ∀ ⦃s rest : List UInt8⦄ ⦃a : α⦄ (t : List UInt8), f s = some (a, rest) →
    g (s ++ t) = some (a, rest ++ t)

theorem readQuoted_extends : Extends readQuoted readQuoted :=
  fun _ _ _ t h => readQuoted_append t h

theorem Extends.map {α β : Type} {f g : List UInt8 → Option (α × List UInt8)} (k : α → β)
    (h : Extends f g) : Extends (fun s => (f s).map fun (a, s) => (k a, s))
      (fun s => (g s).map fun (a, s) => (k a, s)) := by
  intro s rest b t hf
  obtain ⟨⟨a, s'⟩, ha, heq⟩ := Option.map_eq_some_iff.mp hf
  cases heq
  show (g (s ++ t)).map _ = _
  rw [h t ha]
  rfl

theorem readParts_extends {α : Type} {close : UInt8}
    {more more' : List UInt8 → Option (List α × List UInt8)} (h : Extends more more') :
    Extends (readParts close more) (readParts close more') := by
  intro s rest parts t hf
  unfold readParts at hf ⊢
  cases hs : skipBlanks s with
  | nil => rw [hs] at hf; cases hf
  | cons sign r =>
    rw [hs] at hf
    rw [skipBlanks_append t hs]
    replace hf : (if sign = close then some ([], r) else more s) = some (parts, rest) := hf
    show (if sign = close then some ([], r ++ t) else more' (s ++ t)) = _
    split_ifs at hf ⊢
    · cases hf
      rfl
    · exact h t hf

theorem readRest_extends {α : Type} {close : UInt8} (part : α)
    {more more' : List UInt8 → Option (List α × List UInt8)} (h : Extends more more') :
    Extends (readRest close part more) (readRest close part more') := by
  intro s rest parts t hf
  unfold readRest at hf ⊢
  cases hs : skipBlanks s with
  | nil => rw [hs] at hf; cases hf
  | cons sign r =>
    rw [hs] at hf
    rw [skipBlanks_append t hs]
    replace hf : (if sign = 44 then (more r).map fun (parts, s) => (part :: parts, s)
      else if sign = close then some ([part], r) else none) = some (parts, rest) := hf
    show (if sign = 44 then (more' (r ++ t)).map fun (parts, s) => (part :: parts, s)
      else if sign = close then some ([part], r ++ t) else none) = _
    split_ifs at hf ⊢
    · exact h.map (part :: ·) t hf
    · cases hf
      rfl

mutual

/-- a value is read the same way where more text follows, with any more fuel -/
theorem read_extends {fuel fuel' : Nat} (h : fuel ≤ fuel') : Extends (read fuel) (read fuel') := by
  intro s rest json t hf
  cases fuel with
  | zero => rw [read] at hf; cases hf
  | succ fuel =>
    obtain ⟨fuel', rfl⟩ := Nat.exists_eq_succ_of_ne_zero (n := fuel') (by omega)
    have hfuel : fuel ≤ fuel' := Nat.le_of_succ_le_succ h
    rw [read] at hf ⊢
    cases hs : skipBlanks s with
    | nil => rw [hs] at hf; cases hf
    | cons sign r =>
      rw [hs] at hf
      rw [skipBlanks_append t hs]
      dsimp only at hf ⊢
      split_ifs at hf ⊢
      · exact readQuoted_extends.map Json.string t hf
      · exact (readParts_extends (readElements_extends hfuel)).map Json.array t hf
      · exact (readParts_extends (readMembers_extends hfuel)).map Json.object t hf
termination_by fuel

theorem readElements_extends {fuel fuel' : Nat} (h : fuel ≤ fuel') :
    Extends (readElements fuel) (readElements fuel') := by
  intro s rest elements t hf
  cases fuel with
  | zero => rw [readElements] at hf; cases hf
  | succ fuel =>
    obtain ⟨fuel', rfl⟩ := Nat.exists_eq_succ_of_ne_zero (n := fuel') (by omega)
    have hfuel : fuel ≤ fuel' := Nat.le_of_succ_le_succ h
    rw [readElements] at hf ⊢
    obtain ⟨⟨element, s'⟩, helement, hrest⟩ := Option.bind_eq_some_iff.mp hf
    rw [read_extends hfuel t helement]
    exact readRest_extends element (readElements_extends hfuel) t hrest
termination_by fuel

theorem readMembers_extends {fuel fuel' : Nat} (h : fuel ≤ fuel') :
    Extends (readMembers fuel) (readMembers fuel') := by
  intro s rest members t hf
  cases fuel with
  | zero => rw [readMembers] at hf; cases hf
  | succ fuel =>
    obtain ⟨fuel', rfl⟩ := Nat.exists_eq_succ_of_ne_zero (n := fuel') (by omega)
    have hfuel : fuel ≤ fuel' := Nat.le_of_succ_le_succ h
    rw [readMembers] at hf ⊢
    obtain ⟨⟨key, s'⟩, hkey, hf⟩ := Option.bind_eq_some_iff.mp hf
    obtain ⟨⟨value, s''⟩, hvalue, hrest⟩ := Option.bind_eq_some_iff.mp hf
    have hblanks : skipBlanks (s ++ t) = skipBlanks s ++ t := by
      cases hs : skipBlanks s with
      | nil => rw [hs] at hkey; cases hkey
      | cons sign r => rw [skipBlanks_append t hs]; rfl
    rw [hblanks, readKey_append t hkey]
    show (read fuel' (s' ++ t)).bind _ = _
    rw [read_extends hfuel t hvalue]
    exact readRest_extends (key, value) (readMembers_extends hfuel) t hrest
termination_by fuel

end

/-! ## all values of a text -/

/-- the values that stand one behind the other, at most `count` of them -/
def readValues (fuel : Nat) : Nat → List UInt8 → Option (List Json)
  | 0, s => if skipBlanks s = [] then some [] else none
  | count + 1, s =>
    if skipBlanks s = [] then some []
    else (read fuel s).bind fun (json, s) => (readValues fuel count s).map (json :: ·)

def readAll (s : List UInt8) : Option (List Json) := readValues s.length s.length s

mutual

theorem weight_le_length (indent blanks : Nat) (json : Json) :
    json.weight + 1 ≤ (json.text indent blanks).length := by
  cases json with
  | string s =>
    rw [weight, text, quote, List.length_append, List.length_append]
    exact Nat.add_le_add (Nat.le_add_right 1 _) (Nat.le_refl 1)
  | array elements =>
    have h := elementsWeight_le_length indent (blanks + indent) elements
    rw [weight, text]
    split_ifs with hempty
    · rw [List.isEmpty_iff.mp hempty]
      exact Nat.le_refl 2
    · simp only [List.length_append]
      show 1 + elementsWeight elements + 1 ≤ 1 + _ + _ + 1
      omega
  | object members =>
    have h := membersWeight_le_length indent (blanks + indent) members
    rw [weight, text]
    split_ifs with hempty
    · rw [List.isEmpty_iff.mp hempty]
      exact Nat.le_refl 2
    · simp only [List.length_append]
      show 1 + membersWeight members + 1 ≤ 1 + _ + _ + 1
      omega

theorem elementsWeight_le_length (indent blanks : Nat) (elements : List Json) :
    elementsWeight elements ≤ (elementTexts indent blanks elements).length := by
  cases elements with
  | nil => exact Nat.zero_le _
  | cons element elements =>
    have hvalue := weight_le_length indent blanks element
    have hrest := elementsWeight_le_length indent blanks elements
    rw [elementsWeight, elementTexts]
    simp only [List.length_append]
    omega

theorem membersWeight_le_length (indent blanks : Nat) (members : List (List UInt8 × Json)) :
    membersWeight members ≤ (memberTexts indent blanks members).length := by
  cases members with
  | nil => exact Nat.zero_le _
  | cons m members =>
    obtain ⟨key, value⟩ := m
    have hvalue := weight_le_length indent blanks value
    have hrest := membersWeight_le_length indent blanks members
    rw [membersWeight, memberTexts]
    simp only [List.length_append]
    omega

end

theorem readValues_nil (fuel count : Nat) {s : List UInt8} (h : skipBlanks s = []) :
    readValues fuel count s = some [] := by
  cases count with
  | zero => rw [readValues, if_pos h]
  | succ count => rw [readValues, if_pos h]

theorem readValues_mono {fuel fuel' count count' : Nat} {s t : List UInt8} {values : List Json}
    (h : readValues fuel count s = some values) (hfuel : fuel ≤ fuel') (hcount : count ≤ count')
    (hblanks : skipBlanks t = skipBlanks s) : readValues fuel' count' t = some values := by
  induction count generalizing s t values count' with
  | zero =>
    rw [readValues] at h
    split_ifs at h with hs
    cases h
    exact readValues_nil fuel' count' (hblanks.trans hs)
  | succ count ih =>
    rw [readValues] at h
    by_cases hs : skipBlanks s = []
    · rw [if_pos hs] at h
      cases h
      exact readValues_nil fuel' count' (hblanks.trans hs)
    · rw [if_neg hs] at h
      obtain ⟨⟨value, s'⟩, hvalue, h⟩ := Option.bind_eq_some_iff.mp h
      obtain ⟨rest, hrest, heq⟩ := Option.map_eq_some_iff.mp h
      obtain ⟨count', rfl⟩ := Nat.exists_eq_succ_of_ne_zero (n := count') (by omega)
      have hread := read_extends hfuel [] hvalue
      rw [List.append_nil, List.append_nil] at hread
      cases heq
      rw [readValues, if_neg (by rw [hblanks]; exact hs), read_congr hblanks, hread]
      show (readValues fuel' count' s').map (value :: ·) = _
      rw [ih hrest (Nat.le_of_succ_le_succ hcount) rfl]
      rfl

theorem readValues_append {fuel fuel' more count count' counted : Nat} {s t : List UInt8}
    {values added : List Json} (h : readValues fuel count s = some values)
    (ht : readValues more counted t = some added) (hfuel : fuel ≤ fuel') (hmore : more ≤ fuel')
    (hcount : count + counted ≤ count') :
    readValues fuel' count' (s ++ t) = some (values ++ added) := by
  induction count generalizing s values count' with
  | zero =>
    rw [readValues] at h
    split_ifs at h with hs
    cases h
    exact readValues_mono ht hmore (by omega) (skipBlanks_append_nil t hs)
  | succ count ih =>
    rw [readValues] at h
    by_cases hs : skipBlanks s = []
    · rw [if_pos hs] at h
      cases h
      exact readValues_mono ht hmore (by omega) (skipBlanks_append_nil t hs)
    · rw [if_neg hs] at h
      obtain ⟨⟨value, s'⟩, hvalue, h⟩ := Option.bind_eq_some_iff.mp h
      obtain ⟨rest, hrest, heq⟩ := Option.map_eq_some_iff.mp h
      obtain ⟨count', rfl⟩ := Nat.exists_eq_succ_of_ne_zero (n := count') (by omega)
      obtain ⟨sign, r, hsign⟩ := List.exists_cons_of_ne_nil hs
      have hblanks := skipBlanks_append t hsign
      cases heq
      rw [readValues, if_neg (by rw [hblanks]; exact List.cons_ne_nil _ _),
        read_extends hfuel t hvalue]
      show (readValues fuel' count' (s' ++ t)).map (value :: ·) = _
      rw [ih hrest (by omega)]
      rfl

/-- **Texts one behind the other** read as what the first one reads as, and then what the second
one does. -/
theorem readAll_append {s t : List UInt8} {values added : List Json}
    (h : readAll s = some values) (ht : readAll t = some added) :
    readAll (s ++ t) = some (values ++ added) := by
  have hlength : (s ++ t).length = s.length + t.length := List.length_append
  exact readValues_append h ht (by omega) (by omega) (Nat.le_of_eq hlength.symm)

theorem readValues_single {fuel count : Nat} {s rest : List UInt8} {json : Json}
    (h : read fuel s = some (json, rest)) (hs : skipBlanks s ≠ []) (hrest : skipBlanks rest = [])
    (hcount : 0 < count) : readValues fuel count s = some [json] := by
  obtain ⟨count, rfl⟩ := Nat.exists_eq_succ_of_ne_zero (Nat.ne_of_gt hcount)
  rw [readValues, if_neg hs, h]
  show (readValues fuel count rest).map (json :: ·) = _
  rw [readValues_nil fuel count hrest]
  rfl

theorem readAll_text (json : Json) (indent : Nat) :
    readAll (json.text indent 0) = some [json] := by
  obtain ⟨sign, t, htext, hsign⟩ := text_head indent 0 json
  have hhead : skipBlanks (json.text indent 0) ≠ [] := by
    rw [htext]
    obtain rfl | rfl | rfl := hsign <;> exact List.cons_ne_nil _ _
  have hweight := weight_le_length indent 0 json
  have hread := read_text indent 0 [] json (json.text indent 0).length (by omega)
  rw [List.append_nil] at hread
  exact readValues_single hread hhead rfl (by omega)

/-! ## functions that give texts -/

/-- a text reads back as the value that it was given for -/
def ReadsBack (dump : Nat → Json → Option (List UInt8)) : Prop :=
  ∀ ⦃indent : Nat⦄ ⦃json : Json⦄ ⦃text : List UInt8⦄, dump indent json = some text →
    readAll text = some [json]

theorem dump_readsBack : ReadsBack dump := by
  intro indent json text h
  unfold dump at h
  split_ifs at h
  cases h
  exact readAll_text json indent

end Json
