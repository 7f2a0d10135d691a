import Evget.Event.Schema
import Std.Data.String.ToInt

/-!
# Texts of numbers

* `Plain`               visible ASCII bytes; every text of a number or of a time is plain;
* `decimal_injective`   different numbers have different texts.
-/

namespace Evget
open SQLite

def Plain (text : List UInt8) : Prop := ∀ b ∈ text, 32 ≤ b ∧ b < 127

instance (text : List UInt8) : Decidable (Plain text) := inferInstanceAs (Decidable (∀ _ ∈ _, _))

theorem plain_append {a b : List UInt8} : Plain (a ++ b) ↔ Plain a ∧ Plain b := by
  unfold Plain
  exact List.forall_mem_append

theorem Plain.append {a b : List UInt8} (ha : Plain a) (hb : Plain b) : Plain (a ++ b) :=
  plain_append.mpr ⟨ha, hb⟩

theorem plain_replicate (n : Nat) : Plain (List.replicate n 48) := by
  intro b hb
  rw [List.eq_of_mem_replicate hb]
  decide

theorem mem_repr {n : Int} {c : Char} (h : c ∈ (Int.repr n).toList) :
    c = '-' ∨ c.isDigit = true := by
  cases n with
  | ofNat m =>
    rw [show Int.repr (Int.ofNat m) = m.repr from rfl, Nat.toList_repr] at h
    exact .inr (Nat.isDigit_of_mem_toDigits (by decide) (by decide) h)
  | negSucc m =>
    rw [show Int.repr (Int.negSucc m) = "-" ++ (m + 1).repr from rfl, String.toList_append,
      Nat.toList_repr] at h
    rcases List.mem_append.mp h with h | h
    · exact .inl (List.mem_singleton.mp h)
    · exact .inr (Nat.isDigit_of_mem_toDigits (by decide) (by decide) h)

theorem toNat_of_repr {n : Int} {c : Char} (h : c ∈ (Int.repr n).toList) :
    45 ≤ c.toNat ∧ c.toNat ≤ 57 := by
  rcases mem_repr h with rfl | h
  · decide
  · exact ⟨Nat.le_trans (by decide) (Char.isDigit_iff_toNat.mp h).1,
      (Char.isDigit_iff_toNat.mp h).2⟩

theorem plain_decimal (n : Int) : Plain (decimal n) := by
  intro b hb
  obtain ⟨c, hc, rfl⟩ := List.mem_map.mp hb
  obtain ⟨h, h'⟩ := toNat_of_repr hc
  have hb : (UInt8.ofNat c.toNat).toNat = c.toNat :=
    UInt8.toNat_ofNat_of_lt' (Nat.lt_of_le_of_lt h' (by decide))
  rw [UInt8.le_iff_toNat_le, UInt8.lt_iff_toNat_lt, hb]
  exact ⟨Nat.le_trans (by decide) h, Nat.lt_of_le_of_lt h' (by decide)⟩

theorem plain_toString (n : Nat) : Plain (bytes (toString n)) := plain_decimal n

theorem plain_padded (width n : Nat) : Plain (padded width n) :=
  (plain_replicate _).append (plain_toString n)

theorem Double.plain_text (x : Double) : Plain x.text := by
  have hsign : ∀ negative : Bool, Plain (if negative then bytes "-" else []) := by decide +kernel
  cases x with
  | finite negative magnitude =>
    exact (((hsign negative).append (plain_toString _)).append (by decide +kernel)).append
      (plain_padded 6 _)
  | infinite negative => exact (hsign negative).append (by decide +kernel)
  | nan negative => exact (hsign negative).append (by decide +kernel)

theorem plain_optionalToString {T : Type} {f : T → List UInt8} (h : ∀ x, Plain (f x))
    (value : Option T) : Plain (optionalToString value f) := by
  cases value with
  | none => exact List.forall_mem_nil _
  | some x => exact h x

theorem plain_fromInterval (value : Option Int) : Plain (fromInterval value) :=
  plain_optionalToString plain_decimal value

theorem plain_fromInt (value : Option Int) : Plain (fromInt value) :=
  plain_optionalToString plain_decimal value

theorem plain_fromDouble (value : Option Double) : Plain (fromDouble value) :=
  plain_optionalToString Double.plain_text value

theorem plain_fromTimestamp (value : Option Int) : Plain (fromTimestamp value) := by
  refine plain_optionalToString (fun nanoseconds => ?_) value
  rcases hdate : civil (nanoseconds / 1000000000 / 86400) with ⟨year, month, day⟩
  simp only [hdate, plain_append, plain_padded, and_true, true_and]
  decide +kernel

@[simp] theorem fromInterval_some (n : Int) : fromInterval (some n) = decimal n := rfl

theorem decimal_injective {m n : Int} (h : decimal m = decimal n) : m = n := by
  have hback : ∀ k : Int, (decimal k).map (fun b => Char.ofNat b.toNat) = (Int.repr k).toList := by
    intro k
    show ((Int.repr k).toList.map _).map _ = _
    rw [List.map_map]
    refine (List.map_congr_left fun c hc => ?_).trans (List.map_id _)
    obtain ⟨-, h'⟩ := toNat_of_repr hc
    show Char.ofNat (UInt8.ofNat c.toNat).toNat = c
    rw [UInt8.toNat_ofNat_of_lt' (Nat.lt_of_le_of_lt h' (by decide)), Char.ofNat_toNat]
  apply Int.repr_injective
  apply String.toList_injective
  rw [← hback, ← hback, h]

end Evget
