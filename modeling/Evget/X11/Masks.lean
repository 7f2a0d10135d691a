import Evget.X11.Switches

/-!
# Event masks

A mask is an array of bytes with one bit for every index: bit `i % 8` of byte `i / 8`.  `SetMask`
sets the bits of a list of events, and `OnMasks` calls its function for every bit that is set.

* `xiSetMask`, `setMask`    the writer;
* `testBit_setBit`          a bit of a byte after a bit was set;
* `xiMaskIsSet_setMask`     a bit of a mask after bits were set;
* `onMasks_setMask`         the reader sees what the writer has set.
-/

namespace Evget.X11

/-- `XISetMask` -/
def xiSetMask (mask : List UInt8) (event : Nat) : List UInt8 :=
  mask.modify (event / 8) fun byte => byte ||| 1 <<< UInt8.ofNat (event % 8)

def setMask (mask : List UInt8) (events : List Nat) : List UInt8 := events.foldl xiSetMask mask

/-! ## bits -/

theorem toNat_shiftLeft_one {k : Nat} (hk : k < 8) :
    (1 <<< UInt8.ofNat k : UInt8).toNat = 2 ^ k := by
  have hall : ∀ k < 8, (1 <<< UInt8.ofNat k : UInt8).toNat = 2 ^ k := by decide
  exact hall k hk

theorem testBit_setBit (byte : UInt8) {k : Nat} (hk : k < 8) (j : Nat) :
    (byte ||| 1 <<< UInt8.ofNat k).toNat.testBit j =
      (decide (k = j) || byte.toNat.testBit j) := by
  rw [UInt8.toNat_or, Nat.testBit_or, toNat_shiftLeft_one hk, Nat.testBit_two_pow, Bool.or_comm]

/-! ## masks -/

@[simp] theorem length_xiSetMask (mask : List UInt8) (event : Nat) :
    (xiSetMask mask event).length = mask.length := List.length_modify ..

@[simp] theorem length_setMask (mask : List UInt8) (events : List Nat) :
    (setMask mask events).length = mask.length := by
  induction events generalizing mask with
  | nil => rfl
  | cons event events ih =>
    show (setMask (xiSetMask mask event) events).length = _
    rw [ih, length_xiSetMask]

theorem xiMaskIsSet_xiSetMask {mask : List UInt8} {event : Nat} (h : event < 8 * mask.length)
    (i : Nat) :
    xiMaskIsSet (xiSetMask mask event) i = (decide (event = i) || xiMaskIsSet mask i) := by
  have hbyte : event / 8 < mask.length := by omega
  have hbit : event % 8 < 8 := by omega
  unfold xiMaskIsSet xiSetMask
  by_cases hsame : event / 8 = i / 8
  · have hindex : event % 8 = i % 8 ↔ event = i := by omega
    have hget : (mask.modify (event / 8) fun byte => byte ||| 1 <<< UInt8.ofNat (event % 8)).getD
        (i / 8) 0 = mask.getD (i / 8) 0 ||| 1 <<< UInt8.ofNat (event % 8) := by
      rw [← hsame]
      simp [List.getD_eq_getElem?_getD, hbyte]
    rw [hget, testBit_setBit _ hbit]
    simp only [hindex]
  · have hindex : event ≠ i := by
      rintro rfl
      exact hsame rfl
    simp [List.getD_eq_getElem?_getD, hsame, hindex]

/-- a bit is set afterwards when it is listed or was set before -/
theorem xiMaskIsSet_setMask {mask : List UInt8} {events : List Nat}
    (h : ∀ event ∈ events, event < 8 * mask.length) (i : Nat) :
    xiMaskIsSet (setMask mask events) i = (decide (i ∈ events) || xiMaskIsSet mask i) := by
  induction events generalizing mask with
  | nil => simp [setMask]
  | cons event events ih =>
    obtain ⟨hevent, hevents⟩ := List.forall_mem_cons.mp h
    show xiMaskIsSet (setMask (xiSetMask mask event) events) i = _
    rw [ih (by simpa using hevents), xiMaskIsSet_xiSetMask hevent]
    by_cases hi : event = i
    · simp [hi]
    · simp [hi, Ne.symm hi]

theorem xiMaskIsSet_zeros (n i : Nat) : xiMaskIsSet (List.replicate n 0) i = false := by
  unfold xiMaskIsSet
  by_cases h : i / 8 < n
  · simp [List.getD_eq_getElem?_getD, h]
  · simp [List.getD_eq_getElem?_getD, h]

theorem mem_onMasks (mask : List UInt8) (n i : Nat) :
    i ∈ onMasks mask n ↔ i < 8 * n ∧ xiMaskIsSet mask i = true := by
  unfold onMasks
  rw [List.mem_filter, List.mem_range, Nat.mul_comm]

/-- the function is called once for every index, in increasing order -/
theorem onMasks_pairwise (mask : List UInt8) (n : Nat) :
    (onMasks mask n).Pairwise (· < ·) := List.pairwise_lt_range.filter _

/-- **Masks.**  After `SetMask` on `n` zero bytes, `OnMasks` calls its function exactly for the
listed events, each once and in increasing order; and on any mask, bits that are not listed are left
as they were. -/
theorem onMasks_setMask (n : Nat) (events : List Nat) (h : ∀ event ∈ events, event < 8 * n) :
    (onMasks (setMask (List.replicate n 0) events) n).Pairwise (· < ·) ∧
      (∀ i, i ∈ onMasks (setMask (List.replicate n 0) events) n ↔ i ∈ events) ∧
      ∀ mask : List UInt8, mask.length = n → (setMask mask events).length = n ∧
        ∀ i, i ∉ events → xiMaskIsSet (setMask mask events) i = xiMaskIsSet mask i := by
  refine ⟨onMasks_pairwise _ _, fun i => ?_, fun mask hlength => ?_⟩
  · have hzeros : ∀ event ∈ events, event < 8 * (List.replicate n (0 : UInt8)).length := by
      simpa using h
    rw [mem_onMasks, xiMaskIsSet_setMask hzeros, xiMaskIsSet_zeros, Bool.or_false,
      decide_eq_true_eq]
    exact ⟨And.right, fun hi => ⟨h i hi, hi⟩⟩
  · refine ⟨by rw [length_setMask, hlength], fun i hi => ?_⟩
    rw [xiMaskIsSet_setMask (by rw [hlength]; exact h)]
    simp [hi]

theorem onMasks_sample :
    (∀ i, i ∈ onMasks (setMask (List.replicate 3 0) [17, 2, 17, 8]) 3 ↔ i ∈ [17, 2, 17, 8]) ∧
      onMasks (setMask (List.replicate 3 0) [17, 2, 17, 8]) 3 = [2, 8, 17] :=
  ⟨(onMasks_setMask 3 [17, 2, 17, 8] (by simp)).2.1, by decide⟩

end Evget.X11
