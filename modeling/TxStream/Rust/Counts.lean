import Mathlib.Algebra.GroupWithZero.Nat
import Mathlib.Tactic.Common
import TxStream.Rust.Machine

/-!
# Counters in a map

`*map.entry(key).or_default() += 1` for a `BTreeMap` of `u64` counters. The sum panics
where a counter is full, so that counting is partial; `Counted keys map` says what the
map holds after it was done for a list of keys. A list with fewer than `2 ^ 64` keys
fills no counter, however they are distributed.

Main results:

* `Counted.countOne` — one more key is counted, and the panic is not reached.
* `Counted.mem_toList` — the entries that a loop over the map sees.
-/

namespace Rust

section Definitions

variable {α : Type} [Ord α]

/-- `*map.entry(key).or_default() += 1`; `none` where the counter of the key is full. -/
def countOne (map : Std.TreeMap α UInt64) (key : α) : Option (Std.TreeMap α UInt64) := do
  return map.insert key (← u64CheckedAdd (map.getD key 0) 1)

/-- All counters together. -/
def total (map : Std.TreeMap α UInt64) : Nat :=
  (map.toList.map fun entry => entry.2.toNat).sum

/-- The map counts these keys, which are few enough for any counter: a key that occurs
has its number of occurrences, no other key is there, and together the counters are
the number of keys. -/
structure Counted [DecidableEq α] (keys : List α) (map : Std.TreeMap α UInt64) : Prop where
  length_lt : keys.length < 2 ^ 64
  getElem?_eq : ∀ a, map[a]? = if a ∈ keys then some (UInt64.ofNat (keys.count a)) else none
  total_eq : total map = keys.length

end Definitions

variable {α : Type} [Ord α] [DecidableEq α] [Std.TransOrd α] [Std.LawfulEqOrd α]

/-- The entries behind an insertion, with equality of keys for their order. -/
theorem getElem?_insert (map : Std.TreeMap α UInt64) (key a : α) (n : UInt64) :
    (map.insert key n)[a]? = if key = a then some n else map[a]? := by
  rw [Std.TreeMap.getElem?_insert]
  by_cases hKey : key = a
  · subst hKey
    rw [if_pos Std.ReflCmp.compare_self, if_pos rfl]
  · rw [if_neg (fun h => hKey (Std.LawfulEqCmp.eq_of_compare h)), if_neg hKey]

omit [DecidableEq α] in
/-- No key is listed twice. -/
theorem nodup_toList (map : Std.TreeMap α UInt64) : map.toList.Nodup := by
  refine List.Pairwise.imp ?_ Std.TreeMap.distinct_keys_toList
  rintro entry entry' hDistinct rfl
  exact hDistinct Std.ReflCmp.compare_self

/-- The entry of one key, and the others. -/
theorem perm_filter (map : Std.TreeMap α UInt64) {key : α} {n : UInt64}
    (h : map[key]? = some n) :
    map.toList.Perm ((key, n) :: map.toList.filter fun entry => ¬ key == entry.1) := by
  refine (List.perm_ext_iff_of_nodup (nodup_toList map) ?_).mpr ?_
  · refine List.nodup_cons.mpr ⟨fun hMem => ?_, (nodup_toList map).filter _⟩
    simp at hMem
  · rintro ⟨a, m⟩
    rw [List.mem_cons, List.mem_filter, Std.TreeMap.mem_toList_iff_getElem?_eq_some]
    by_cases hKey : key = a
    · subst hKey
      rw [h]
      simp [eq_comm]
    · simp [hKey, Ne.symm hKey]

/-- A counter that is raised by one raises the sum of all by one. -/
theorem total_insert (map : Std.TreeMap α UInt64) (key : α) {n : UInt64}
    (h : n.toNat = (map.getD key 0).toNat + 1) : total (map.insert key n) = total map + 1 := by
  have hInsert := @Std.TreeMap.toList_insert_perm α UInt64 compare map _ _ _ key n
  rw [total, (hInsert.map _).sum_nat, List.map_cons, List.sum_cons, h,
    Std.TreeMap.getD_eq_getD_getElem?]
  cases hKey : map[key]? with
  -- the key is there: its counter is replaced, and the others stay
  | some m =>
    rw [total, ((perm_filter map hKey).map _).sum_nat, List.map_cons, List.sum_cons,
      Option.getD_some]
    dsimp only
    omega
  -- the key is new, and its counter was zero
  | none =>
    have hAll : map.toList.filter (fun entry => ¬ key == entry.1) = map.toList := by
      refine List.filter_eq_self.mpr fun entry hMem => ?_
      have hSome := Std.TreeMap.mem_toList_iff_getElem?_eq_some.mp hMem
      simp only [beq_iff_eq, decide_not, Bool.not_eq_true', decide_eq_false_iff_not]
      rintro rfl
      exact nomatch hKey.symm.trans hSome
    have hZero : (0 : UInt64).toNat = 0 := rfl
    rw [hAll, Option.getD_none, hZero, total]
    omega

namespace Counted

variable {keys : List α} {map : Std.TreeMap α UInt64}

omit [Std.LawfulEqOrd α] in
/-- An empty map has counted nothing. -/
theorem empty : Counted ([] : List α) ∅ where
  length_lt := Nat.two_pow_pos 64
  getElem?_eq := fun _ => Std.TreeMap.getElem?_emptyc
  total_eq := rfl

omit [Std.TransOrd α] [Std.LawfulEqOrd α] in
/-- No key occurs more often than there are keys. -/
theorem count_lt (h : Counted keys map) (key : α) : keys.count key < 2 ^ 64 :=
  Nat.lt_of_le_of_lt List.count_le_length h.length_lt

omit [Std.LawfulEqOrd α] in
/-- The counter of any key, also of one that has not occurred. -/
theorem toNat_getD (h : Counted keys map) (key : α) :
    (map.getD key 0).toNat = keys.count key := by
  rw [Std.TreeMap.getD_eq_getD_getElem?, h.getElem?_eq]
  by_cases hMem : key ∈ keys
  · rw [if_pos hMem, Option.getD_some]
    exact UInt64.toNat_ofNat_of_lt' (h.count_lt key)
  · rw [if_neg hMem, List.count_eq_zero.mpr hMem]
    rfl

/-- **One more key.** With fewer than `2 ^ 64` keys the sum does not overflow. -/
theorem countOne (h : Counted keys map) (key : α) (hRoom : keys.length + 1 < 2 ^ 64) :
    ∃ map', countOne map key = some map' ∧ Counted (keys ++ [key]) map' := by
  have hCounter := h.toNat_getD key
  have hCount : keys.count key ≤ keys.length := List.count_le_length
  obtain ⟨hAdd, hNext⟩ := u64CheckedAdd_one (show (map.getD key 0).toNat + 1 < 2 ^ 64 by omega)
  refine ⟨map.insert key (map.getD key 0 + 1), ?_, ?_, fun a => ?_, ?_⟩
  · rw [Rust.countOne, hAdd]
    rfl
  · rwa [List.length_append, List.length_singleton]
  · rw [getElem?_insert, h.getElem?_eq]
    by_cases hKey : key = a
    · subst hKey
      have hMem : key ∈ keys ++ [key] := List.mem_append_right _ (List.mem_singleton.mpr rfl)
      rw [if_pos rfl, if_pos hMem, List.count_append, List.count_singleton_self, ← hCounter,
        ← hNext, UInt64.ofNat_toNat]
    · -- the counters of other keys stay as they are
      have hSame : (keys ++ [key]).count a = keys.count a := by
        rw [List.count_append, List.count_singleton, if_neg (by simpa using hKey), Nat.add_zero]
      have hMem : a ∈ keys ++ [key] ↔ a ∈ keys := by
        simp [Ne.symm hKey]
      rw [if_neg hKey, hSame]
      simp only [hMem]
  · rw [total_insert map key hNext, h.total_eq, List.length_append, List.length_singleton]

/-- What a loop over the map sees. -/
theorem mem_toList (h : Counted keys map) {key : α} {n : UInt64} :
    (key, n) ∈ map.toList ↔ key ∈ keys ∧ n.toNat = keys.count key := by
  rw [Std.TreeMap.mem_toList_iff_getElem?_eq_some, h.getElem?_eq]
  by_cases hMem : key ∈ keys
  · rw [if_pos hMem, Option.some_inj, ← UInt64.toNat_inj,
      UInt64.toNat_ofNat_of_lt' (h.count_lt key)]
    simp [hMem, eq_comm]
  · simp [hMem]

end Counted

end Rust
