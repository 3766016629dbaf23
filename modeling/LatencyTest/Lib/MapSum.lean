import Mathlib

/-!
Sums over the entries of an ordered map. A counter that a program keeps next to
a map is usually the sum of a weight over the entries; the lemmas here split the
entry of one key off such a sum, and show that it is a sum over any finite set of
keys that covers the map.
-/

namespace LatencyTest.Lib

variable {κ ν : Type} [Ord κ]

section Lookup

variable [Std.TransOrd κ] [Std.LawfulEqOrd κ]

theorem toList_keys_pairwise (map : Std.TreeMap κ ν) :
    map.toList.Pairwise fun a b => a.1 ≠ b.1 :=
  List.Pairwise.imp (fun distinct eq => distinct (by rw [eq]; exact Std.ReflCmp.compare_self))
    Std.TreeMap.distinct_keys_toList

theorem toList_nodup (map : Std.TreeMap κ ν) : map.toList.Nodup :=
  (toList_keys_pairwise map).imp fun distinct eq => distinct (congrArg Prod.fst eq)

/-- Lookup in a map into which one key was written. -/
theorem getElem?_insert [DecidableEq κ] (map : Std.TreeMap κ ν) (k a : κ) (v : ν) :
    (map.insert k v)[a]? = if a = k then some v else map[a]? := by
  rw [Std.TreeMap.getElem?_insert]
  by_cases eq : a = k
  · subst eq
    simp
  · have : compare k a ≠ .eq := fun h => eq (Std.LawfulEqCmp.eq_of_compare h).symm
    simp [this, eq]

/-- Lookup in a map from which one key was removed. -/
theorem getElem?_erase [DecidableEq κ] (map : Std.TreeMap κ ν) (k a : κ) :
    (map.erase k)[a]? = if a = k then none else map[a]? := by
  rw [Std.TreeMap.getElem?_erase]
  by_cases eq : a = k
  · subst eq
    simp
  · have : compare k a ≠ .eq := fun h => eq (Std.LawfulEqCmp.eq_of_compare h).symm
    simp [this, eq]

/-- Maps with the same lookups have the same entries, up to order. -/
theorem toList_perm {map other : Std.TreeMap κ ν} (same : ∀ k : κ, map[k]? = other[k]?) :
    map.toList.Perm other.toList := by
  rw [List.perm_ext_iff_of_nodup (toList_nodup map) (toList_nodup other)]
  rintro ⟨k, v⟩
  simp only [Std.TreeMap.mem_toList_iff_getElem?_eq_some, same]

/-- An entry can be split off the list of entries. -/
theorem toList_perm_cons_erase {map : Std.TreeMap κ ν} {k : κ} {v : ν} (h : map[k]? = some v) :
    map.toList.Perm ((k, v) :: (map.erase k).toList) := by
  classical
  have fresh : (k, v) ∉ (map.erase k).toList := by
    rw [Std.TreeMap.mem_toList_iff_getElem?_eq_some, getElem?_erase]
    simp
  rw [List.perm_ext_iff_of_nodup (toList_nodup map)
    (List.nodup_cons.mpr ⟨fresh, toList_nodup _⟩)]
  rintro ⟨a, w⟩
  simp only [List.mem_cons, Std.TreeMap.mem_toList_iff_getElem?_eq_some, getElem?_erase,
    Prod.mk.injEq]
  by_cases eq : a = k
  · subst eq
    simp [h, eq_comm]
  · simp [eq]

end Lookup

section Sums

variable {M : Type} [AddCommMonoid M]

/-- The sum of a weight over the entries of a map. -/
def entrySum (weight : ν → M) (map : Std.TreeMap κ ν) : M :=
  (map.toList.map fun entry => weight entry.2).sum

/-- The weight of one optional entry. -/
def entryWeight (weight : ν → M) : Option ν → M
  | none => 0
  | some value => weight value

@[simp] theorem entryWeight_none (weight : ν → M) : entryWeight weight none = 0 := rfl

@[simp] theorem entryWeight_some (weight : ν → M) (value : ν) :
    entryWeight weight (some value) = weight value := rfl

theorem entrySum_congr [Std.TransOrd κ] [Std.LawfulEqOrd κ] {map other : Std.TreeMap κ ν}
    (weight : ν → M)
    (same : ∀ k : κ, map[k]? = other[k]?) : entrySum weight map = entrySum weight other :=
  ((toList_perm same).map _).sum_eq

/-- Additive functions commute with the sum. -/
theorem map_entrySum {N : Type} [AddCommMonoid N] (hom : M →+ N) (weight : ν → M)
    (map : Std.TreeMap κ ν) : hom (entrySum weight map) = entrySum (hom ∘ weight) map := by
  rw [entrySum, map_list_sum, List.map_map]
  rfl

@[simp] theorem entrySum_zero (map : Std.TreeMap κ ν) : entrySum (fun _ => (0 : M)) map = 0 := by
  simp [entrySum]

@[simp] theorem entrySum_empty (weight : ν → M) :
    entrySum weight (∅ : Std.TreeMap κ ν) = 0 := by
  rfl

variable [Std.TransOrd κ] [Std.LawfulEqOrd κ]

/-- The sum is the weight at one key plus the sum without that key. -/
theorem entrySum_eq_add_erase (weight : ν → M) (map : Std.TreeMap κ ν) (k : κ) :
    entrySum weight map = entryWeight weight map[k]? + entrySum weight (map.erase k) := by
  classical
  cases h : map[k]? with
  | none =>
      rw [entryWeight_none, zero_add]
      apply entrySum_congr weight
      intro a
      rw [getElem?_erase]
      split
      · rename_i eq
        rw [eq, h]
      · rfl
  | some v =>
      rw [entryWeight_some]
      simpa [entrySum] using ((toList_perm_cons_erase h).map fun entry => weight entry.2).sum_eq

/-- The sum over the entries is the sum over any covering set of keys. -/
theorem entrySum_eq_sum (weight : ν → M) (map : Std.TreeMap κ ν) (keys : Finset κ)
    (covers : ∀ k : κ, k ∉ keys → map[k]? = none) :
    entrySum weight map = ∑ k ∈ keys, entryWeight weight map[k]? := by
  classical
  induction keys using Finset.induction generalizing map with
  | empty =>
      have same : ∀ k : κ, map[k]? = (∅ : Std.TreeMap κ ν)[k]? := fun k => by
        rw [covers k (by simp)]
        simp
      rw [entrySum_congr weight same, entrySum_empty, Finset.sum_empty]
  | insert k keys fresh ih =>
      rw [entrySum_eq_add_erase weight map k, Finset.sum_insert fresh, ih (map.erase k)]
      · congr 1
        apply Finset.sum_congr rfl
        intro a mem
        rw [getElem?_erase, if_neg (fun eq : a = k => fresh (eq ▸ mem))]
      · intro a notMem
        rw [getElem?_erase]
        split
        · rfl
        · rename_i ne
          exact covers a (by simp [ne, notMem])

/-- The sum over a map whose values were mapped. -/
theorem entrySum_map {ν' : Type} (weight : ν → M) {map : Std.TreeMap κ ν}
    {source : Std.TreeMap κ ν'} (f : ν' → ν) (mapped : ∀ k : κ, map[k]? = (source[k]?).map f) :
    entrySum weight map = entrySum (weight ∘ f) source := by
  classical
  let keys := (source.toList.map Prod.fst).toFinset
  have covers : ∀ k : κ, k ∉ keys → source[k]? = none := by
    intro k notMem
    rw [Option.eq_none_iff_forall_ne_some]
    intro value found
    have mem := Std.TreeMap.mem_toList_iff_getElem?_eq_some.mpr found
    exact notMem (List.mem_toFinset.mpr (List.mem_map_of_mem mem))
  rw [entrySum_eq_sum weight map keys (fun k notMem => by rw [mapped, covers k notMem]; rfl),
    entrySum_eq_sum (weight ∘ f) source keys covers]
  apply Finset.sum_congr rfl
  intro k _
  rw [mapped]
  cases source[k]? with
  | none => rfl
  | some value => rfl

theorem entrySum_of_no_entry (weight : ν → M) {map : Std.TreeMap κ ν}
    (none : ∀ k : κ, map[k]? = none) : entrySum weight map = 0 := by
  classical
  rw [entrySum_eq_sum weight map ∅ (fun k _ => none k), Finset.sum_empty]

/-- A sum of naturals is zero when every entry weighs nothing. -/
theorem entrySum_eq_zero_iff {weight : ν → Nat} {map : Std.TreeMap κ ν} :
    entrySum weight map = 0 ↔ ∀ (k : κ) value, map[k]? = some value → weight value = 0 := by
  rw [entrySum, List.sum_eq_zero_iff]
  constructor
  · intro all k value found
    exact all _ (List.mem_map.mpr
      ⟨(k, value), Std.TreeMap.mem_toList_iff_getElem?_eq_some.mpr found, rfl⟩)
  · intro all n mem
    obtain ⟨entry, here, rfl⟩ := List.mem_map.mp mem
    exact all entry.1 entry.2 (Std.TreeMap.mem_toList_iff_getElem?_eq_some.mp here)

/-- Weights that agree on the entries have the same sum. -/
theorem entrySum_congr_weight {weight weight' : ν → M} {map : Std.TreeMap κ ν}
    (same : ∀ (k : κ) value, map[k]? = some value → weight value = weight' value) :
    entrySum weight map = entrySum weight' map := by
  apply congrArg List.sum
  apply List.map_congr_left
  intro entry mem
  exact same entry.1 entry.2 (Std.TreeMap.mem_toList_iff_getElem?_eq_some.mp mem)

end Sums

end LatencyTest.Lib
