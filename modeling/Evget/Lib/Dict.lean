import Mathlib.Data.List.AList

/-!
# Dictionaries

`Dict K V` is a finite map with the lookups and insertions of a hash table: an insertion that keeps
what is there, one that replaces it, a lookup that fails, and one that inserts a default.

* `emplace`, `fetch`, `subscript`      the operations that `AList` does not have;
* `mem_emplace`, `subscript_fst`       what they do.
-/

abbrev Dict (K V : Type) := AList fun _ : K => V

namespace Dict
variable {K V : Type} [DecidableEq K]

/-- insert, unless the key is there -/
def emplace (key : K) (value : V) (m : Dict K V) : Dict K V :=
  if key ∈ m then m else m.insert key value

def fetch {ε : Type} (e : ε) (key : K) (m : Dict K V) : Except ε V :=
  match m.lookup key with
  | none => .error e
  | some value => .ok value

/-- the value of a key, which is inserted with a default when it is not there -/
def subscript (key : K) (default : V) (m : Dict K V) : V × Dict K V :=
  match m.lookup key with
  | none => (default, m.insert key default)
  | some value => (value, m)

@[simp] theorem mem_emplace {key k : K} {value : V} {m : Dict K V} :
    k ∈ m.emplace key value ↔ k = key ∨ k ∈ m := by
  unfold emplace
  by_cases h : key ∈ m
  · rw [if_pos h]
    constructor
    · exact .inr
    · rintro (rfl | hk)
      · exact h
      · exact hk
  · rw [if_neg h, AList.mem_insert]

theorem fetch_of_mem {ε : Type} {e : ε} {key : K} {m : Dict K V} (h : key ∈ m) :
    ∃ value, m.fetch e key = .ok value := by
  obtain ⟨value, hv⟩ := Option.isSome_iff_exists.mp (AList.lookup_isSome.mpr h)
  exact ⟨value, by rw [fetch, hv]⟩

theorem fetch_of_lookup {ε : Type} {e : ε} {key : K} {value : V} {m : Dict K V}
    (h : m.lookup key = some value) : m.fetch e key = .ok value := by
  rw [fetch, h]

theorem fetch_of_not_mem {ε : Type} {e : ε} {key : K} {m : Dict K V} (h : m.lookup key = none) :
    m.fetch e key = .error e := by
  rw [fetch, h]

theorem lookup_of_fetch {ε : Type} {e : ε} {key : K} {value : V} {m : Dict K V}
    (h : m.fetch e key = .ok value) : m.lookup key = some value := by
  cases hlookup : m.lookup key with
  | none =>
    rw [fetch_of_not_mem hlookup] at h
    cases h
  | some found =>
    rw [fetch_of_lookup hlookup] at h
    cases h
    rfl

@[simp] theorem subscript_fst {key : K} {default : V} {m : Dict K V} :
    (m.subscript key default).1 = (m.lookup key).getD default := by
  unfold subscript
  cases m.lookup key <;> rfl

theorem subscript_other {key k : K} {default : V} {m : Dict K V} (h : k ≠ key) :
    (m.subscript key default).2.lookup k = m.lookup k := by
  unfold subscript
  cases m.lookup key with
  | none => exact AList.lookup_insert_ne h
  | some value => rfl

theorem lookup_insert_update (m : Dict K V) (key : K) (value : V) (k : K) :
    (m.insert key value).lookup k = Function.update m.lookup key (some value) k := by
  by_cases h : k = key
  · rw [h, AList.lookup_insert, Function.update_self]
  · rw [AList.lookup_insert_ne h, Function.update_of_ne h]

theorem lookup_erase_update (m : Dict K V) (key k : K) :
    (AList.erase key m).lookup k = Function.update m.lookup key none k := by
  by_cases h : k = key
  · rw [h, AList.lookup_erase, Function.update_self]
  · rw [AList.lookup_erase_ne h, Function.update_of_ne h]

theorem lookup_emplace (m : Dict K V) (key : K) (value : V) (k : K) :
    (m.emplace key value).lookup k = (m.lookup k).or (if key = k then some value else none) := by
  unfold emplace
  by_cases h : key ∈ m
  · rw [if_pos h]
    by_cases hk : key = k
    · obtain ⟨found, hfound⟩ := Option.isSome_iff_exists.mp (AList.lookup_isSome.mpr (hk ▸ h))
      rw [hfound, Option.some_or]
    · rw [if_neg hk, Option.or_none]
  · rw [if_neg h, lookup_insert_update]
    by_cases hk : key = k
    · rw [if_pos hk, ← hk, Function.update_self, AList.lookup_eq_none.mpr h, Option.none_or]
    · rw [if_neg hk, Option.or_none, Function.update_of_ne (Ne.symm hk)]

theorem lookup_insert_nested {J : Type} [DecidableEq J] (m : Dict K (Dict J V)) (key : K)
    (inner : J) (value : V) (k : K) (j : J) :
    ((m.insert key (((m.lookup key).getD ∅).insert inner value)).lookup k).bind
        (fun values => values.lookup j)
      = (if key = k then if inner = j then some value else none else none).or
          ((m.lookup k).bind fun values => values.lookup j) := by
  by_cases hk : key = k
  · rw [if_pos hk, hk, AList.lookup_insert, Option.bind_some, lookup_insert_update]
    by_cases hj : inner = j
    · rw [if_pos hj, hj, Function.update_self, Option.some_or]
    · rw [if_neg hj, Function.update_of_ne (Ne.symm hj), Option.none_or]
      cases m.lookup k <;> rfl
  · rw [if_neg hk, AList.lookup_insert_ne (Ne.symm hk), Option.none_or]

end Dict
