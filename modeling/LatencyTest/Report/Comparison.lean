import LatencyTest.Core.Statistics

/-!
The comparison of runs (`compareRuns`, `src/monitoring.cpp`), with the arithmetic of
`double` read exactly. Its median takes the middle values by the parity of their number;
it is the percentile at one half.
-/

namespace LatencyTest

/-- Minimum, median, and maximum across independent benchmark runs. -/
structure RunComparison where
  runs : Nat := 0
  minimum : ℚ := 0
  median : ℚ := 0
  maximum : ℚ := 0
deriving DecidableEq

/-- The middle value, or the mean of the two middle values. -/
def medianOf (sorted : List ℚ) : Option ℚ :=
  let middle := sorted.length / 2
  if sorted.length % 2 ≠ 0 then sorted[middle]?
  else
    sorted[middle - 1]?.bind fun below => sorted[middle]?.map fun above => (below + above) / 2

/-- Calculates a run-level range and median; `none` is an index outside the values. -/
def compareRuns (values : List ℚ) : Option RunComparison :=
  if values = [] then some {}
  else do
    let sorted := values.insertionSort (· ≤ ·)
    let median ← medianOf sorted
    let minimum ← sorted.head?
    let maximum ← sorted.getLast?
    return { runs := values.length, minimum := minimum, median := median, maximum := maximum }

/-! ### Integers -/

/-- The values of the runs. -/
def runValues (values : List Int) : List ℚ := values.map fun value : Int => (value : ℚ)

/-- Sorting integers and sorting them as numbers is the same. -/
theorem insertionSort_runValues (values : List Int) :
    (runValues values).insertionSort (· ≤ ·) = runValues (sortValues values) :=
  (List.map_insertionSort (fun a b : Int => a ≤ b) (fun a b : ℚ => a ≤ b) _ values
    fun _ _ _ _ => Int.cast_le.symm).symm

/-- The median by parity is the interpolation halfway between the first and the last rank. -/
theorem percentileOf_half {xs : List Int} (nonempty : xs ≠ []) :
    (if xs.length % 2 ≠ 0 then byRank xs (xs.length / 2)
      else (byRank xs (xs.length / 2 - 1) + byRank xs (xs.length / 2)) / 2) =
      percentileOf xs (1 / 2) := by
  have rank : rankOf xs (1 / 2) = ((xs.length : ℚ) - 1) / 2 := by
    rw [rankOf, min_eq_right (by norm_num), max_eq_right (by norm_num)]
    ring
  have length := List.length_pos_iff.mpr nonempty
  rw [percentileOf, rank]
  obtain ⟨m, even | odd⟩ := xs.length.even_or_odd'
  · obtain ⟨k, rfl⟩ := Nat.exists_eq_succ_of_ne_zero (by omega : m ≠ 0)
    have half : ((xs.length : ℚ) - 1) / 2 = (k : ℚ) + 1 / 2 := by
      rw [even]
      push_cast
      ring
    rw [half, Lib.interpolate_half, if_neg (by omega), even]
    simp
  · have whole : ((xs.length : ℚ) - 1) / 2 = (m : ℚ) := by
      rw [odd]
      push_cast
      ring
    rw [whole, Lib.interpolate_natCast, if_pos (by omega), odd]
    congr 1
    omega

theorem runValues_getElem? {xs : List Int} {k : Nat} (inside : k < xs.length) :
    (runValues xs)[k]? = some (byRank xs k) := by
  rw [runValues, List.getElem?_map, List.getElem?_eq_getElem inside, byRank_getElem inside]
  rfl

/-- The median of sorted integers is the percentile at one half. -/
theorem medianOf_runValues {xs : List Int} (nonempty : xs ≠ []) :
    medianOf (runValues xs) = some (percentileOf xs (1 / 2)) := by
  have length := List.length_pos_iff.mpr nonempty
  have same : (runValues xs).length = xs.length := List.length_map _
  rw [← percentileOf_half nonempty, medianOf, same]
  split
  · exact runValues_getElem? (by omega)
  · rw [runValues_getElem? (by omega), runValues_getElem? (by omega)]
    rfl

theorem head?_runValues {xs : List Int} (nonempty : xs ≠ []) :
    (runValues xs).head? = some (percentileOf xs 0) := by
  rw [percentileOf_zero nonempty, runValues, List.head?_map, List.head?_eq_some_head nonempty]
  rfl

theorem getLast?_runValues {xs : List Int} (nonempty : xs ≠ []) :
    (runValues xs).getLast? = some (percentileOf xs 1) := by
  rw [percentileOf_one nonempty, runValues, List.getLast?_map,
    List.getLast?_eq_some_getLast nonempty]
  rfl

/-- The comparison of runs with integer values. -/
theorem compareRuns_eq {values : List Int} (nonempty : values ≠ []) :
    compareRuns (runValues values) = some
      { runs := values.length
        minimum := percentileOf (sortValues values) 0
        median := percentileOf (sortValues values) (1 / 2)
        maximum := percentileOf (sortValues values) 1 } := by
  have sorted := sortValues_ne_nil nonempty
  have given : runValues values ≠ [] := by simpa [runValues] using nonempty
  have runs : (runValues values).length = values.length := List.length_map _
  rw [compareRuns, if_neg given, insertionSort_runValues]
  simp only [medianOf_runValues sorted, head?_runValues sorted, getLast?_runValues sorted, runs]
  rfl

/-- The order of the values does not matter to their comparison. -/
theorem compareRuns_perm {values other : List ℚ} (perm : values.Perm other) :
    compareRuns values = compareRuns other := by
  have sorted := insertionSort_eq_of_perm perm
  simp only [compareRuns, eq_nil_iff_of_perm perm, sorted, perm.length_eq]

/-- The two medians agree: with exact differences, the median of a comparison of runs is the
inclusive percentile at one half of the sorted values, and it is the one that `percentileInc`
computes wherever that does not overflow. The comparison has the number of the values, the
least and the greatest of them, in whatever order they are. -/
theorem medians_agree {values : List Int} (nonempty : values ≠ []) :
    ∃ comparison, compareRuns (runValues values) = some comparison ∧
      percentileIncBy exactDifference (sortValues values) (1 / 2) =
        some (.finite comparison.median) ∧
      (∀ value, percentileInc (sortValues values) (1 / 2) = some value →
        value = .finite comparison.median) ∧
      comparison.runs = values.length ∧
      (∃ least ∈ values, comparison.minimum = least ∧ ∀ value ∈ values, least ≤ value) ∧
      (∃ greatest ∈ values, comparison.maximum = greatest ∧ ∀ value ∈ values, value ≤ greatest) ∧
      ∀ other, other.Perm (runValues values) → compareRuns other = some comparison := by
  have sorted := sortValues_ne_nil nonempty
  have perm := sortValues_perm values
  have computed := compareRuns_eq nonempty
  have bounds : ∀ value ∈ values, percentileOf (sortValues values) 0 ≤ value ∧
      (value : ℚ) ≤ percentileOf (sortValues values) 1 := fun value mem =>
    percentileOf_bounds sorted (sortValues_sorted values) value (perm.mem_iff.mpr mem)
  refine ⟨_, computed, percentileIncBy_exactDifference sorted _,
    fun value => percentileInc_exact sorted, rfl, ?_, ?_, ?_⟩
  · refine ⟨_, perm.mem_iff.mp (List.head_mem sorted), percentileOf_zero sorted, ?_⟩
    intro value mem
    have bound := (bounds value mem).1
    rw [percentileOf_zero sorted] at bound
    exact_mod_cast bound
  · refine ⟨_, perm.mem_iff.mp (List.getLast_mem sorted), percentileOf_one sorted, ?_⟩
    intro value mem
    have bound := (bounds value mem).2
    rw [percentileOf_one sorted] at bound
    exact_mod_cast bound
  · intro other same
    rw [compareRuns_perm same, computed]

/-- An even number of runs. -/
theorem medians_agree_four :
    ∃ comparison, compareRuns (runValues [9, 1, 5, 3]) = some comparison ∧
      percentileIncBy exactDifference (sortValues [9, 1, 5, 3]) (1 / 2) =
        some (.finite comparison.median) := by
  obtain ⟨comparison, computed, median, -⟩ := medians_agree (List.cons_ne_nil 9 [1, 5, 3])
  exact ⟨comparison, computed, median⟩

end LatencyTest
