import Evget.Event.Named
import Mathlib.Data.List.Basic

/-!
# The screen dimensions of the command line

The callback of `--screen-dimensions` splits its value at the first `x` and converts both sides with
`std::stoul`.  Only a value without an `x` is refused with an error of the parser.  What `stoul`
throws is not one, so it leaves `Parse`; and `stoul` accepts blanks, signs and trailing text, and
numbers that the cast to 32 bits then reduces.

* `stoul`                     the conversion;
* `Cli.setScreenDimensions`   the callback;
* `Cli.parse`                 `Parse`, given this option;
* `Dimensions`                the format `WIDTHxHEIGHT`;
* `Cli.parse_format_iff`      when the format decides the result.
-/

namespace Evget
open SQLite

/-! ## the callback -/

def fromDecimal (digits : List UInt8) : Nat :=
  digits.foldl (fun n b => 10 * n + (b.toNat - 48)) 0

/-- `std::stoul`: blanks, a sign and digits, and then anything; a negative number is taken modulo
`2 ^ 64` -/
def stoul (value : List UInt8) : Except Thrown UInt64 :=
  let rest := value.dropWhile isSpace
  let negative := rest.head? = some 45
  let rest := if negative ∨ rest.head? = some 43 then rest.tail else rest
  let digits := rest.takeWhile isDigit
  if digits.isEmpty then .error .invalidArgument
  else if 18446744073709551615 < fromDecimal digits then .error .outOfRange
  else
    let magnitude := UInt64.ofNat (fromDecimal digits)
    .ok (if negative then -magnitude else magnitude)

structure ValidationError where
  name : String
  message : String
deriving DecidableEq

/-- what the callback raises: an error of the parser, or another exception -/
inductive Raised where
  | parseError (e : ValidationError)
  | thrown (e : Thrown)
deriving DecidableEq

structure Cli where
  screenDimensions_ : Option (UInt32 × UInt32)
deriving DecidableEq

namespace Cli

def setScreenDimensions (value : List UInt8) (self : Cli) : Except Raised Cli :=
  match value.idxOf? 120 with
  | none => .error (.parseError
      ⟨"--screen-dimensions", "expected format WIDTHxHEIGHT (e.g. 1920x1080)"⟩)
  | some pos =>
    match stoul (value.take pos) with
    | .error e => .error (.thrown e)
    | .ok width =>
      match stoul (value.drop (pos + 1)) with
      | .error e => .error (.thrown e)
      | .ok height =>
        .ok { self with screenDimensions_ := some (width.toUInt32, height.toUInt32) }

/-- `Parse` with a value for the option: an error of the parser becomes its exit code, and any other
exception leaves `Parse` -/
def parse (exit : ValidationError → Int) (value : List UInt8) (self : Cli) :
    Except Thrown (Except Int Cli) :=
  match self.setScreenDimensions value with
  | .ok cli => .ok (.ok cli)
  | .error (.parseError e) => .ok (.error (exit e))
  | .error (.thrown e) => .error e

end Cli

/-! ## the format -/

structure Numeral (digits : List UInt8) (n : UInt32) : Prop where
  nonempty : digits ≠ []
  digit : ∀ b ∈ digits, isDigit b = true
  number : fromDecimal digits = n.toNat

def Dimensions (value : List UInt8) (width height : UInt32) : Prop :=
  ∃ ws hs, value = ws ++ 120 :: hs ∧ Numeral ws width ∧ Numeral hs height

theorem isDigit_bounds {b : UInt8} (h : isDigit b = true) : 48 ≤ b.toNat ∧ b.toNat ≤ 57 := by
  unfold isDigit at h
  rw [Bool.and_eq_true, decide_eq_true_eq, decide_eq_true_eq] at h
  exact ⟨h.1, h.2⟩

theorem isSpace_of_isDigit {b : UInt8} (h : isDigit b = true) : isSpace b = false := by
  obtain ⟨hlow, hhigh⟩ := isDigit_bounds h
  unfold isSpace
  have hne : b ≠ 32 := by
    rintro rfl
    exact absurd hlow (by decide)
  have hnot : ¬ b ≤ 13 := by
    intro hle
    have : b.toNat ≤ 13 := hle
    omega
  simp [hne, hnot]

theorem Numeral.stoul {digits : List UInt8} {n : UInt32} (h : Numeral digits n) :
    stoul digits = .ok (UInt64.ofNat n.toNat) := by
  obtain ⟨hne, hdigit, hnumber⟩ := h
  have htake : digits.takeWhile isDigit = digits := by
    rw [List.takeWhile_eq_self_iff]
    exact hdigit
  cases digits with
  | nil => exact absurd rfl hne
  | cons b rest =>
    have hb := hdigit b List.mem_cons_self
    have hdrop : (b :: rest).dropWhile isSpace = b :: rest :=
      List.dropWhile_cons_of_neg (by simp [isSpace_of_isDigit hb])
    obtain ⟨hlow, hhigh⟩ := isDigit_bounds hb
    have hminus : b ≠ 45 := by
      rintro rfl
      exact absurd hlow (by decide)
    have hplus : b ≠ 43 := by
      rintro rfl
      exact absurd hlow (by decide)
    have hbound := n.toNat_lt
    have hrange : ¬ 18446744073709551615 < n.toNat := by omega
    simp [Evget.stoul, hdrop, hminus, hplus, htake, hnumber, hrange]

/-- the conversions of both sides give the numbers of the format -/
theorem setScreenDimensions_of_dimensions {value : List UInt8} {width height : UInt32}
    (h : Dimensions value width height) (self : Cli) :
    self.setScreenDimensions value =
      .ok { self with screenDimensions_ := some (width, height) } := by
  obtain ⟨ws, hs, rfl, hws, hhs⟩ := h
  have hfind : (ws ++ 120 :: hs).idxOf? 120 = some ws.length := by
    rw [List.idxOf?_eq_some_iff]
    refine ⟨by simp, by simp, ?_⟩
    intro j hj
    have hdigit := hws.digit ws[j] (List.getElem_mem hj)
    rw [List.getElem_append_left hj]
    intro heq
    obtain ⟨-, hhigh⟩ := isDigit_bounds hdigit
    simp [show ws[j] = 120 by simpa using heq] at hhigh
  unfold Cli.setScreenDimensions
  rw [hfind]
  simp [hws.stoul, hhs.stoul]

/-! ## the format decides -/

namespace Cli

/-- `Parse` accepts the format, with its numbers, and nothing else, and throws nothing -/
def ParsesFormat (exit : ValidationError → Int) (value : List UInt8) (self : Cli) : Prop :=
  (∀ width height, Dimensions value width height → self.parse exit value =
      .ok (.ok { self with screenDimensions_ := some (width, height) })) ∧
    ((¬ ∃ width height, Dimensions value width height) →
      ∃ e, self.parse exit value = .ok (.error (exit e)))

theorem setScreenDimensions_of_mem {value : List UInt8} (h : 120 ∈ value) (self : Cli) :
    (∃ cli, self.setScreenDimensions value = .ok cli) ∨
      ∃ e, self.setScreenDimensions value = .error (.thrown e) := by
  have hfind : ∃ pos, value.idxOf? 120 = some pos := by
    rw [← Option.isSome_iff_exists, List.isSome_idxOf?]
    exact h
  obtain ⟨pos, hpos⟩ := hfind
  cases hwidth : stoul (value.take pos) with
  | error e => exact .inr ⟨e, by simp only [setScreenDimensions, hpos, hwidth]⟩
  | ok width =>
    cases hheight : stoul (value.drop (pos + 1)) with
    | error e => exact .inr ⟨e, by simp only [setScreenDimensions, hpos, hwidth, hheight]⟩
    | ok height => exact .inl ⟨_, by simp only [setScreenDimensions, hpos, hwidth, hheight]; rfl⟩

/-- a value with an `x` is not refused with an exit code -/
theorem parse_of_mem {exit : ValidationError → Int} {value : List UInt8} (h : 120 ∈ value)
    (self : Cli) (code : Int) : self.parse exit value ≠ .ok (.error code) := by
  intro hcode
  rw [parse] at hcode
  obtain ⟨cli, hset⟩ | ⟨e, hset⟩ := setScreenDimensions_of_mem h self
  · rw [hset] at hcode
    cases hcode
  · rw [hset] at hcode
    cases hcode

/-- **The format of the screen dimensions.**  Every value of the format gives its numbers, and every
value without an `x` the exit code.  A value with an `x` that has not the format is accepted, or an
exception leaves `Parse`. -/
theorem parse_format_iff (exit : ValidationError → Int) (value : List UInt8) (self : Cli) :
    self.ParsesFormat exit value ↔
      120 ∉ value ∨ ∃ width height, Dimensions value width height := by
  constructor
  · rintro ⟨-, hrefused⟩
    by_cases hformat : ∃ width height, Dimensions value width height
    · exact .inr hformat
    · refine .inl fun hmem => ?_
      obtain ⟨e, he⟩ := hrefused hformat
      exact parse_of_mem hmem self _ he
  · intro h
    have haccepts : ∀ width height, Dimensions value width height → self.parse exit value =
        .ok (.ok { self with screenDimensions_ := some (width, height) }) := by
      intro width height hformat
      rw [parse, setScreenDimensions_of_dimensions hformat]
    refine ⟨haccepts, fun hnot => ?_⟩
    rcases h with hmem | hformat
    · have hfind : value.idxOf? 120 = none := by
        rw [List.idxOf?_eq_none_iff]
        exact hmem
      exact ⟨_, by rw [parse, setScreenDimensions, hfind]⟩
    · exact absurd hformat hnot

/-- of `1920x` nothing is left for the height, and the exception of `stoul` leaves `Parse` -/
theorem missing_height_throws :
    (Cli.mk none).parse (fun _ => 105) (bytes "1920x") = .error .invalidArgument ∧
      ¬ (Cli.mk none).ParsesFormat (fun _ => 105) (bytes "1920x") := by
  have hthrows : (Cli.mk none).parse (fun _ => 105) (bytes "1920x") = .error .invalidArgument := by
    decide
  refine ⟨hthrows, ?_⟩
  rintro ⟨haccepts, hrefused⟩
  by_cases hformat : ∃ width height, Dimensions (bytes "1920x") width height
  · obtain ⟨width, height, h⟩ := hformat
    have haccepted := haccepts width height h
    rw [hthrows] at haccepted
    cases haccepted
  · obtain ⟨e, he⟩ := hrefused hformat
    rw [hthrows] at he
    cases he

end Cli
end Evget
