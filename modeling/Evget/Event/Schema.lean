import Evget.Lib.Sqlite
import Mathlib.Data.Rat.Floor

/-!
# The texts of event fields

Every field of an event is stored as a text.  A field that was never set is the empty text.

* `DeviceType`, `ButtonAction`, `ModifierValue`   the enumerations, stored as numbers;
* `fromInt`, `fromString`, `fromInterval`, `fromTimestamp`, `fromDouble`, `toUnderlyingOptional`
                                                  the text of an optional value.
-/

namespace Evget
open SQLite

inductive DeviceType where
  | mouse | keyboard | touchpad | touchscreen | tablet | unknown
deriving DecidableEq, Repr

inductive ButtonAction where
  | press | release | repeat
deriving DecidableEq, Repr

inductive ModifierValue where
  | shift | capsLock | control | alt | numLock | mod3 | super | mod5
deriving DecidableEq, Repr

/-- `std::to_underlying` -/
class Underlying (E : Type) where
  underlying : E → Nat

instance : Underlying DeviceType where
  underlying
    | .mouse => 0
    | .keyboard => 1
    | .touchpad => 2
    | .touchscreen => 3
    | .tablet => 4
    | .unknown => 5

instance : Underlying ButtonAction where
  underlying
    | .press => 0
    | .release => 1
    | .repeat => 2

instance : Underlying ModifierValue where
  underlying
    | .shift => 0
    | .capsLock => 1
    | .control => 2
    | .alt => 3
    | .numLock => 4
    | .mod3 => 5
    | .super => 6
    | .mod5 => 7

/-- a `double`: a sign and a magnitude, or one of the values that are no numbers -/
inductive Double where
  | finite (negative : Bool) (magnitude : Rat)
  | infinite (negative : Bool)
  | nan (negative : Bool)
deriving DecidableEq, Repr

/-! ## texts -/

/-- `std::to_string` of an integer -/
def decimal (n : Int) : List UInt8 := bytes (toString n)

def padded (width n : Nat) : List UInt8 :=
  List.replicate (width - (Nat.toDigits 10 n).length) 48 ++ bytes (toString n)

/-- the nearest integer, and of two the even one -/
def roundEven (x : Rat) : Int :=
  let floor := x.floor
  let rest := x - floor
  if rest < 1 / 2 then floor
  else if 1 / 2 < rest then floor + 1
  else if floor % 2 = 0 then floor else floor + 1

/-- `std::to_string` of a `double`: six decimals -/
def Double.text (x : Double) : List UInt8 :=
  let sign (negative : Bool) := if negative then bytes "-" else []
  match x with
  | .finite negative magnitude =>
    let n := (roundEven (magnitude * 1000000)).toNat
    sign negative ++ bytes (toString (n / 1000000)) ++ bytes "." ++ padded 6 (n % 1000000)
  | .infinite negative => sign negative ++ bytes "inf"
  | .nan negative => sign negative ++ bytes "nan"

/-- the Gregorian date of a number of days since 1970-01-01: year, month and day -/
def civil (days : Int) : Int × Nat × Nat :=
  -- years begin in March here, and eras of 400 years on the first of March of the year 0
  let z := days + 719468
  let era := z / 146097
  let doe := (z % 146097).toNat
  let yoe := (doe - doe / 1460 + doe / 36524 - doe / 146096) / 365
  let doy := doe - (365 * yoe + yoe / 4 - yoe / 100)
  let mp := (5 * doy + 2) / 153
  let month := if mp < 10 then mp + 3 else mp - 9
  let year := era * 400 + yoe
  (if month ≤ 2 then year + 1 else year, month, doy - (153 * mp + 2) / 5 + 1)

def optionalToString {T : Type} (value : Option T) (f : T → List UInt8) : List UInt8 :=
  match value with
  | none => []
  | some x => f x

def toUnderlying {E : Type} [Underlying E] (value : E) : List UInt8 :=
  decimal (Underlying.underlying value)

def toUnderlyingOptional {E : Type} [Underlying E] (value : Option E) : List UInt8 :=
  optionalToString value toUnderlying

def fromString (value : Option (List UInt8)) : List UInt8 := optionalToString value id

def fromInt (value : Option Int) : List UInt8 := optionalToString value decimal

/-- an interval is a number of microseconds -/
def fromInterval (value : Option Int) : List UInt8 := optionalToString value decimal

def fromDouble (value : Option Double) : List UInt8 := optionalToString value Double.text

/-- `{:%Y-%m-%dT%H:%M:%S%z}`; a timestamp is a number of nanoseconds of the system clock, whose
64 bits end in the year 2262 -/
def fromTimestamp (value : Option Int) : List UInt8 :=
  optionalToString value fun nanoseconds =>
    let seconds := nanoseconds / 1000000000
    let (year, month, day) := civil (seconds / 86400)
    let time := (seconds % 86400).toNat
    padded 4 year.toNat ++ bytes "-" ++ padded 2 month ++ bytes "-" ++ padded 2 day ++ bytes "T"
      ++ padded 2 (time / 3600) ++ bytes ":" ++ padded 2 (time / 60 % 60) ++ bytes ":"
      ++ padded 2 (time % 60) ++ bytes "." ++ padded 9 (nanoseconds % 1000000000).toNat
      ++ bytes "+0000"

example : fromTimestamp (some 1709210096789000001)
    = bytes "2024-02-29T12:34:56.789000001+0000" := by decide

example : fromDouble (some (.finite true (1 / 3))) = bytes "-0.333333" := by decide +kernel

end Evget
