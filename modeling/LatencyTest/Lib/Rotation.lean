import Mathlib

/-!
Rotations through a cycle of `base` positions: consecutive numbers reduced modulo
`base`. A rotation of at most `base` steps repeats no position, a full turn visits
every position once, and windows of `quantity` steps that follow each other visit
every position equally often once they close up, which they do after
`base / gcd quantity base` windows (`count_windows`). A list visited from a position
on is the rotated list.
-/

namespace LatencyTest.Lib

/-- The positions of `count` consecutive steps. -/
def rotation (base first count : Nat) : List Nat :=
  (List.range count).map fun i => (first + i) % base

@[simp] theorem rotation_length (base first count : Nat) :
    (rotation base first count).length = count := by
  simp [rotation]

/-- Steps continue where the ones before them ended. -/
theorem rotation_add (base first count more : Nat) :
    rotation base first (count + more) =
      rotation base first count ++ rotation base (first + count) more := by
  simp [rotation, List.range_add, Function.comp_def, Nat.add_assoc]

/-- The first step matters modulo the length of the cycle only. -/
theorem rotation_mod (base first count : Nat) :
    rotation base (first % base) count = rotation base first count := by
  simp [rotation, Nat.mod_add_mod]

/-- A rotation starts at its first step. -/
theorem rotation_head? {base first count : Nat} (positive : 0 < count) :
    (rotation base first count).head? = some (first % base) := by
  obtain ⟨count, rfl⟩ := Nat.exists_eq_succ_of_ne_zero positive.ne'
  simp [rotation, List.range_succ_eq_map]

/-- The step after the last one continues the rotation. -/
theorem rotation_getLast? {base first count : Nat} (positive : 0 < count) :
    ∃ last, (rotation base first count).getLast? = some last ∧
      (last + 1) % base = (first + count) % base := by
  obtain ⟨count, rfl⟩ := Nat.exists_eq_succ_of_ne_zero positive.ne'
  refine ⟨(first + count) % base, by simp [rotation, List.range_succ], ?_⟩
  rw [Nat.mod_add_mod, Nat.succ_eq_add_one, Nat.add_assoc]

theorem rotation_lt {base first count position : Nat} (positive : 0 < base)
    (mem : position ∈ rotation base first count) : position < base := by
  obtain ⟨i, -, rfl⟩ := List.mem_map.mp mem
  exact Nat.mod_lt _ positive

/-- At most one turn repeats no position. -/
theorem rotation_nodup {base first count : Nat} (covers : count ≤ base) :
    (rotation base first count).Nodup := by
  refine List.Nodup.map_on ?_ List.nodup_range
  intro i hi j hj eq
  have inBase : ∀ k ∈ List.range count, k < base :=
    fun k mem => (List.mem_range.mp mem).trans_le covers
  exact Nat.ModEq.eq_of_lt_of_lt (Nat.ModEq.add_left_cancel' first eq) (inBase i hi) (inBase j hj)

/-- A full turn visits every position once. -/
theorem rotation_perm {base first : Nat} (positive : 0 < base) :
    (rotation base first base).Perm (List.range base) := by
  have inRange : rotation base first base ⊆ List.range base :=
    fun position mem => List.mem_range.mpr (rotation_lt positive mem)
  refine (List.subperm_of_subset (rotation_nodup le_rfl) inRange).perm_of_length_le ?_
  simp

/-- Whole turns visit every position equally often. -/
theorem count_rotation {base first position : Nat} (inBase : position < base) (turns : Nat) :
    (rotation base first (turns * base)).count position = turns := by
  have positive : 0 < base := Nat.zero_lt_of_lt inBase
  induction turns with
  | zero => simp [rotation]
  | succ turns ih =>
      have once : (rotation base (first + turns * base) base).count position = 1 := by
        rw [(rotation_perm positive).count_eq]
        exact List.count_eq_one_of_mem List.nodup_range (List.mem_range.mpr inBase)
      rw [Nat.succ_mul, rotation_add, List.count_append, ih, once]

/-- Windows that follow each other are one rotation. -/
theorem flatten_windows (base first quantity windows : Nat) :
    ((List.range windows).map fun k => rotation base (first + k * quantity) quantity).flatten =
      rotation base first (windows * quantity) := by
  induction windows with
  | zero => simp [rotation]
  | succ windows ih =>
      rw [List.range_succ, List.map_append, List.flatten_append, ih, List.map_singleton,
        List.flatten_singleton, Nat.succ_mul, rotation_add]

/-- The windows close up after whole turns, and have then visited every position
equally often. -/
theorem count_windows {base first quantity position : Nat} (inBase : position < base) :
    ((List.range (base / quantity.gcd base)).map fun k =>
        rotation base (first + k * quantity) quantity).flatten.count position =
      quantity / quantity.gcd base := by
  have divides := Nat.gcd_dvd quantity base
  have turns : base / quantity.gcd base * quantity = quantity / quantity.gcd base * base := by
    rw [Nat.div_mul_right_comm divides.2, Nat.div_mul_right_comm divides.1, Nat.mul_comm]
  rw [flatten_windows, turns, count_rotation inBase]

/-- Visiting every position in turn is reading the list. -/
theorem filterMap_positions {α : Type} (xs : List α) :
    ((List.range xs.length).filterMap fun i => xs[i]?) = xs := by
  induction xs with
  | nil => rfl
  | cons x xs ih =>
      rw [List.length_cons, List.range_succ_eq_map, List.filterMap_cons, List.filterMap_map]
      simpa using ih

/-- Visiting every position from `first` on, around the cycle, rotates the list. -/
theorem filterMap_rotate {α : Type} (xs : List α) (first : Nat) :
    ((List.range xs.length).filterMap fun i => xs[(i + first) % xs.length]?) =
      xs.rotate first := by
  have turned := filterMap_positions (xs.rotate first)
  rw [List.length_rotate] at turned
  rw [← turned]
  refine List.filterMap_congr fun i mem => ?_
  exact (List.getElem?_rotate (List.mem_range.mp mem)).symm

end LatencyTest.Lib
