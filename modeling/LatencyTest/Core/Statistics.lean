import LatencyTest.Core.Wire
import LatencyTest.Lib.Checked
import LatencyTest.Lib.Interpolation

/-!
Statistics of latencies (`percentileInc`, `calculateStatistics` and `isUpperOutlier`,
`src/core.cpp`), with the arithmetic of `double` read exactly. The difference of two
neighbouring latencies is one of `int64_t`, before it is converted, so it can overflow; it
is a parameter of the percentile, which is also read with exact differences.
-/

namespace LatencyTest

open Lib (Signed checked interpolate)

/-- The difference of two `int64_t`. -/
def difference64 (high low : Int) : Option Int := checked 63 (high - low)

def exactDifference (high low : Int) : Option Int := some (high - low)

/-- The percentile between the first and the last value. -/
def percentileBetween (difference : Int → Int → Option Int) (sortedValues : List Int)
    (percentile : ℚ) : Option ℚ := do
  let index := ((sortedValues.length : ℚ) - 1) * percentile
  let lower := ⌊index⌋₊
  let upper := ⌈index⌉₊
  let fraction := index - lower
  let low ← sortedValues[lower]?
  let high ← sortedValues[upper]?
  let rise ← difference high low
  return low + fraction * rise

/-- The inclusive percentile of sorted values, with the given difference. -/
def percentileIncBy (difference : Int → Int → Option Int) (sortedValues : List Int)
    (percentile : ℚ) : Option Double :=
  if sortedValues = [] then some .nonFinite
  else if percentile ≤ 0 then sortedValues.head?.map fun front => .finite front
  else if 1 ≤ percentile then sortedValues.getLast?.map fun back => .finite back
  else (percentileBetween difference sortedValues percentile).map .finite

def percentileInc : List Int → ℚ → Option Double := percentileIncBy difference64

/-- The statistics of a list of latencies. -/
structure Statistics where
  count : Nat := 0
  minimum : ℚ := 0
  mean : ℚ := 0
  p50 : ℚ := 0
  p90 : ℚ := 0
  p95 : ℚ := 0
  p99 : ℚ := 0
  p999 : ℚ := 0
  maximum : ℚ := 0
  q1 : ℚ := 0
  q3 : ℚ := 0
  iqr : ℚ := 0
  outlierThreshold : ℚ := 0
  outlierCount : Nat := 0
deriving DecidableEq

def Double.toRat? : Double → Option ℚ
  | .finite value => some value
  | .nonFinite => none

/-- `std::ranges::sort` -/
def sortValues (values : List Int) : List Int := values.insertionSort (· ≤ ·)

/-- Descriptive statistics. Values that are not empty have finite percentiles. -/
def calculateStatistics (values : List Int) : Option Statistics :=
  if values = [] then some {}
  else do
    let sorted := sortValues values
    let percentile (rank : ℚ) := (percentileInc sorted rank).bind Double.toRat?
    let minimum ← sorted.head?
    let maximum ← sorted.getLast?
    let p50 ← percentile (50 / 100)
    let p90 ← percentile (90 / 100)
    let p95 ← percentile (95 / 100)
    let p99 ← percentile (99 / 100)
    let p999 ← percentile (999 / 1000)
    let q1 ← percentile (25 / 100)
    let q3 ← percentile (75 / 100)
    let iqr := q3 - q1
    let outlierThreshold := q3 + 3 / 2 * iqr
    return {
      count := values.length
      minimum := minimum
      mean := (sorted.sum : ℚ) / sorted.length
      p50 := p50
      p90 := p90
      p95 := p95
      p99 := p99
      p999 := p999
      maximum := maximum
      q1 := q1
      q3 := q3
      iqr := iqr
      outlierThreshold := outlierThreshold
      outlierCount := sorted.countP fun value : Int => outlierThreshold < value }

def isUpperOutlier (value : Int) (statistics : Statistics) : Bool :=
  statistics.count ≠ 0 && decide (statistics.outlierThreshold < value)

/-! ### Percentiles as interpolation -/

/-- The values by rank, the last one for every greater rank. -/
def byRank (xs : List Int) (rank : Nat) : ℚ := (xs.getD (min rank (xs.length - 1)) 0 : Int)

/-- The rank of a percentile. -/
def rankOf (xs : List Int) (percentile : ℚ) : ℚ :=
  ((xs.length : ℚ) - 1) * max 0 (min 1 percentile)

section Sorted

variable {xs : List Int}

theorem byRank_getElem {rank : Nat} (inside : rank < xs.length) : byRank xs rank = xs[rank] := by
  rw [byRank, Nat.min_eq_left (by omega), List.getD_eq_getElem _ _ inside]

theorem byRank_mono (sorted : xs.SortedLE) : Monotone (byRank xs) := by
  intro i j le
  rcases xs.length.eq_zero_or_pos with empty | positive
  · simp [byRank, List.eq_nil_of_length_eq_zero empty]
  · unfold byRank
    rw [List.getD_eq_getElem _ _ (by omega), List.getD_eq_getElem _ _ (by omega)]
    exact_mod_cast sorted.getElem_le_getElem_of_le (by omega)

variable (nonempty : xs ≠ [])

include nonempty

theorem length_sub_one_nonneg : (0 : ℚ) ≤ (xs.length : ℚ) - 1 := by
  have positive : (1 : ℚ) ≤ xs.length := by exact_mod_cast List.length_pos_iff.mpr nonempty
  linarith

theorem rankOf_mono : Monotone (rankOf xs) := by
  intro p q le
  exact mul_le_mul_of_nonneg_left (max_le_max_left 0 (min_le_min_left 1 le))
    (length_sub_one_nonneg nonempty)

theorem rankOf_nonneg (percentile : ℚ) : 0 ≤ rankOf xs percentile :=
  mul_nonneg (length_sub_one_nonneg nonempty) (le_max_left _ _)

/-- Both ranks around a percentile are positions of the list. -/
theorem rank_lt_length (percentile : ℚ) :
    ⌊rankOf xs percentile⌋₊ < xs.length ∧ ⌈rankOf xs percentile⌉₊ < xs.length := by
  have positive := List.length_pos_iff.mpr nonempty
  have bounded : rankOf xs percentile ≤ ((xs.length - 1 : Nat) : ℚ) := by
    rw [Nat.cast_sub (by omega), Nat.cast_one]
    apply mul_le_of_le_one_right (length_sub_one_nonneg nonempty)
    exact max_le zero_le_one (min_le_left _ _)
  have ceil := Nat.ceil_le.mpr bounded
  have floor := Nat.floor_le_ceil (rankOf xs percentile)
  omega

/-- Between the first and the last value, a percentile is what the difference of the values
around its rank makes of it. -/
theorem percentileBetween_eq (difference : Int → Int → Option Int) {percentile : ℚ}
    (positive : 0 < percentile) (below : percentile < 1) :
    ∃ (floor : ⌊rankOf xs percentile⌋₊ < xs.length) (ceil : ⌈rankOf xs percentile⌉₊ < xs.length),
      percentileBetween difference xs percentile =
        (difference xs[⌈rankOf xs percentile⌉₊] xs[⌊rankOf xs percentile⌋₊]).map
          fun rise : Int => (xs[⌊rankOf xs percentile⌋₊] : ℚ) +
            (rankOf xs percentile - ⌊rankOf xs percentile⌋₊) * (rise : ℚ) := by
  obtain ⟨floor, ceil⟩ := rank_lt_length nonempty percentile
  refine ⟨floor, ceil, ?_⟩
  have index : ((xs.length : ℚ) - 1) * percentile = rankOf xs percentile := by
    rw [rankOf, min_eq_right below.le, max_eq_right positive.le]
  rw [percentileBetween, index]
  simp only [Option.bind_eq_bind, List.getElem?_eq_getElem floor, List.getElem?_eq_getElem ceil,
    Option.bind_some]
  exact Option.map_eq_bind.symm

/-- With exact differences of neighbours, a percentile is an interpolation by rank. -/
theorem percentileIncBy_eq {difference : Int → Int → Option Int}
    (exact : ∀ i j, ∀ (lower : i < xs.length) (upper : j < xs.length), i ≤ j → j ≤ i + 1 →
      difference xs[j] xs[i] = some (xs[j] - xs[i])) (percentile : ℚ) :
    percentileIncBy difference xs percentile =
      some (.finite (interpolate (byRank xs) (rankOf xs percentile))) := by
  have length := List.length_pos_iff.mpr nonempty
  rw [percentileIncBy, if_neg nonempty]
  split
  · rename_i first
    have rank : rankOf xs percentile = (0 : Nat) := by
      rw [rankOf, max_eq_left ((min_le_right _ _).trans first), mul_zero, Nat.cast_zero]
    rw [rank, Lib.interpolate_natCast, byRank_getElem length, List.head?_eq_getElem?,
      List.getElem?_eq_getElem length]
    rfl
  · rename_i positive
    split
    · rename_i last
      have rank : rankOf xs percentile = (xs.length - 1 : Nat) := by
        rw [rankOf, min_eq_left last, max_eq_right zero_le_one, mul_one, Nat.cast_sub length,
          Nat.cast_one]
      rw [rank, Lib.interpolate_natCast, byRank_getElem (by omega), List.getLast?_eq_getElem?,
        List.getElem?_eq_getElem (by omega)]
      rfl
    · rename_i below
      obtain ⟨floor, ceil, between⟩ :=
        percentileBetween_eq nonempty difference (not_le.mp positive) (not_le.mp below)
      rw [between, exact _ _ floor ceil (Nat.floor_le_ceil _) (Nat.ceil_le_floor_add_one _),
        interpolate, byRank_getElem floor, byRank_getElem ceil]
      simp

end Sorted

/-! ### Neighbours -/

/-- Neighbouring values differ by less than `2 ^ 63`. -/
def NeighboursFit (xs : List Int) : Prop := xs.IsChain fun low high => high - low < 2 ^ 63

instance (xs : List Int) : Decidable (NeighboursFit xs) :=
  inferInstanceAs (Decidable (xs.IsChain _))

/-- The differences of neighbours that fit are exact. -/
theorem difference64_exact {xs : List Int} (sorted : xs.SortedLE) (fit : NeighboursFit xs)
    (i j : Nat) (lower : i < xs.length) (upper : j < xs.length) (le : i ≤ j) (near : j ≤ i + 1) :
    difference64 xs[j] xs[i] = some (xs[j] - xs[i]) := by
  have ordered : xs[i] ≤ xs[j] := sorted.getElem_le_getElem_of_le le
  have small : xs[j] - xs[i] < 2 ^ 63 := by
    rcases Nat.eq_or_lt_of_le near with rfl | same
    · exact List.isChain_iff_getElem.mp fit i upper
    · have eq : j = i := by omega
      subst eq
      rw [sub_self]
      norm_num
  exact Lib.checked_of_signed ((Lib.signed_of_nonneg (sub_nonneg.mpr ordered)).mpr small)

/-- The percentile halfway between two ranks has their neighbours' difference. -/
theorem neighboursFit_of_percentiles {xs : List Int}
    (defined : ∀ percentile, (percentileInc xs percentile).isSome = true) : NeighboursFit xs := by
  apply List.isChain_iff_getElem.mpr
  intro k inside
  have nonempty : xs ≠ [] := List.ne_nil_of_length_pos (by omega)
  have last : (0 : ℚ) < (xs.length : ℚ) - 1 := by
    have two : (2 : ℚ) ≤ xs.length := by exact_mod_cast (by omega : 2 ≤ xs.length)
    linarith
  have position : (k : ℚ) + 1 / 2 < (xs.length : ℚ) - 1 := by
    have two : (k : ℚ) + 2 ≤ xs.length := by exact_mod_cast (by omega : k + 2 ≤ xs.length)
    linarith
  have positive : 0 < ((k : ℚ) + 1 / 2) / ((xs.length : ℚ) - 1) := by positivity
  have below : ((k : ℚ) + 1 / 2) / ((xs.length : ℚ) - 1) < 1 := (div_lt_one last).mpr position
  have rank : rankOf xs (((k : ℚ) + 1 / 2) / ((xs.length : ℚ) - 1)) = (k : ℚ) + 1 / 2 := by
    rw [rankOf, min_eq_right below.le, max_eq_right positive.le, mul_div_cancel₀ _ last.ne']
  obtain ⟨floor, ceil, between⟩ := percentileBetween_eq nonempty difference64 positive below
  have computed := defined (((k : ℚ) + 1 / 2) / ((xs.length : ℚ) - 1))
  rw [percentileInc, percentileIncBy, if_neg nonempty, if_neg (not_le.mpr positive),
    if_neg (not_le.mpr below), between, Option.isSome_map, Option.isSome_map] at computed
  have signed := Lib.isSome_checked.mp computed
  simp only [rank, Lib.floor_add_half, Lib.ceil_add_half] at signed
  exact signed.2

/-! ### The order of percentiles -/

/-- A percentile with exact differences. -/
def percentileOf (xs : List Int) (percentile : ℚ) : ℚ :=
  interpolate (byRank xs) (rankOf xs percentile)

/-- The percentile of a rank is the value of that rank. -/
theorem percentileOf_rank {xs : List Int} (two : 1 < xs.length) {k : Nat}
    (inside : k < xs.length) :
    percentileOf xs ((k : ℚ) / ((xs.length : ℚ) - 1)) = xs[k] := by
  have last : (0 : ℚ) < (xs.length : ℚ) - 1 := by
    have two : (1 : ℚ) < xs.length := by exact_mod_cast two
    linarith
  have within : (k : ℚ) ≤ (xs.length : ℚ) - 1 := by
    have next : (k : ℚ) + 1 ≤ xs.length := by exact_mod_cast inside
    linarith
  have rank : rankOf xs ((k : ℚ) / ((xs.length : ℚ) - 1)) = k := by
    rw [rankOf, min_eq_right ((div_le_one last).mpr within), max_eq_right (by positivity),
      mul_div_cancel₀ _ last.ne']
  rw [percentileOf, rank, Lib.interpolate_natCast, byRank_getElem inside]

section Order

variable {xs : List Int} (nonempty : xs ≠ [])

include nonempty

theorem percentileOf_mono (sorted : xs.SortedLE) : Monotone (percentileOf xs) := by
  intro p q le
  exact Lib.interpolate_mono (byRank_mono sorted) (rankOf_nonneg nonempty p)
    (rankOf_mono nonempty le)

theorem percentileOf_zero : percentileOf xs 0 = xs.head nonempty := by
  have rank : rankOf xs 0 = (0 : Nat) := by simp [rankOf]
  rw [percentileOf, rank, Lib.interpolate_natCast,
    byRank_getElem (List.length_pos_iff.mpr nonempty), List.head_eq_getElem]

theorem percentileOf_one : percentileOf xs 1 = xs.getLast nonempty := by
  have length := List.length_pos_iff.mpr nonempty
  have rank : rankOf xs 1 = (xs.length - 1 : Nat) := by
    rw [rankOf, min_self, max_eq_right zero_le_one, mul_one, Nat.cast_sub length, Nat.cast_one]
  rw [percentileOf, rank, Lib.interpolate_natCast, byRank_getElem (by omega),
    List.getLast_eq_getElem]

/-- All values lie between the first and the last percentile. -/
theorem percentileOf_bounds (sorted : xs.SortedLE) :
    ∀ x ∈ xs, percentileOf xs 0 ≤ x ∧ (x : ℚ) ≤ percentileOf xs 1 := by
  intro x mem
  obtain ⟨k, inside, rfl⟩ := List.getElem_of_mem mem
  rw [percentileOf_zero nonempty, percentileOf_one nonempty, List.head_eq_getElem,
    List.getLast_eq_getElem]
  constructor
  · exact_mod_cast sorted.getElem_le_getElem_of_le (Nat.zero_le k)
  · exact_mod_cast sorted.getElem_le_getElem_of_le (Nat.le_sub_one_of_lt inside)

theorem percentileIncBy_exactDifference (percentile : ℚ) :
    percentileIncBy exactDifference xs percentile =
      some (.finite (percentileOf xs percentile)) :=
  percentileIncBy_eq nonempty (fun _ _ _ _ _ _ => rfl) percentile

/-- A percentile that is computed without overflow is exact. -/
theorem percentileInc_exact {percentile : ℚ} {value : Double}
    (computed : percentileInc xs percentile = some value) :
    value = .finite (percentileOf xs percentile) := by
  have exact : percentileIncBy exactDifference xs percentile = some value := by
    unfold percentileInc percentileIncBy at computed
    unfold percentileIncBy
    split_ifs at computed ⊢ with empty first last
    · exact computed
    · exact computed
    · exact computed
    · obtain ⟨_, _, between⟩ := percentileBetween_eq nonempty difference64
        (not_le.mp first) (not_le.mp last)
      obtain ⟨_, _, between'⟩ := percentileBetween_eq nonempty exactDifference
        (not_le.mp first) (not_le.mp last)
      rw [between, Option.map_eq_some_iff] at computed
      obtain ⟨_, risen, rfl⟩ := computed
      obtain ⟨rise, fits, rfl⟩ := Option.map_eq_some_iff.mp risen
      obtain ⟨-, rfl⟩ := Lib.checked_eq_some.mp fits
      rw [between']
      rfl
  rw [percentileIncBy_exactDifference nonempty] at exact
  exact (Option.some.inj exact).symm

theorem percentileInc_eq (sorted : xs.SortedLE) (fit : NeighboursFit xs) (percentile : ℚ) :
    percentileInc xs percentile = some (.finite (percentileOf xs percentile)) :=
  percentileIncBy_eq nonempty (difference64_exact sorted fit) percentile

end Order

/-- What holds of the percentiles of sorted values: both indices are inside the list, every
percentile is a number, a greater percentile is no smaller, and those of the ranks are the
values. -/
structure PercentilesSound (xs : List Int) : Prop where
  inside : ∀ percentile : ℚ, 0 < percentile → percentile < 1 →
    ⌊((xs.length : ℚ) - 1) * percentile⌋₊ < xs.length ∧
      ⌈((xs.length : ℚ) - 1) * percentile⌉₊ < xs.length
  defined : ∀ percentile, ∃ value, percentileInc xs percentile = some (.finite value)
  monotone : ∀ p q v w, p ≤ q → percentileInc xs p = some (.finite v) →
    percentileInc xs q = some (.finite w) → v ≤ w
  ranked : ∀ k (inside : k < xs.length), 1 < xs.length →
    percentileInc xs ((k : ℚ) / ((xs.length : ℚ) - 1)) = some (.finite xs[k])

theorem percentilesSound {xs : List Int} (nonempty : xs ≠ []) (sorted : xs.SortedLE)
    (fit : NeighboursFit xs) : PercentilesSound xs := by
  constructor
  · intro percentile positive below
    have rank : ((xs.length : ℚ) - 1) * percentile = rankOf xs percentile := by
      rw [rankOf, min_eq_right below.le, max_eq_right positive.le]
    rw [rank]
    exact rank_lt_length nonempty percentile
  · intro percentile
    exact ⟨_, percentileInc_eq nonempty sorted fit percentile⟩
  · intro p q v w le first second
    rw [percentileInc_eq nonempty sorted fit] at first second
    cases first
    cases second
    exact percentileOf_mono nonempty sorted le
  · intro k inside two
    rw [percentileInc_eq nonempty sorted fit, percentileOf_rank two inside]

/-! ### Statistics -/

theorem sortValues_perm (values : List Int) : (sortValues values).Perm values :=
  List.perm_insertionSort _ values

theorem sortValues_sorted (values : List Int) : (sortValues values).SortedLE :=
  List.sortedLE_insertionSort

/-- Sorting forgets the order. -/
theorem insertionSort_eq_of_perm {α : Type} [LinearOrder α] {xs ys : List α}
    (perm : xs.Perm ys) : xs.insertionSort (· ≤ ·) = ys.insertionSort (· ≤ ·) :=
  List.Perm.eq_of_sortedLE List.sortedLE_insertionSort List.sortedLE_insertionSort
    ((List.perm_insertionSort _ xs).trans (perm.trans (List.perm_insertionSort _ ys).symm))

theorem eq_nil_iff_of_perm {α : Type} {xs ys : List α} (perm : xs.Perm ys) :
    xs = [] ↔ ys = [] := by
  rw [← List.length_eq_zero_iff, perm.length_eq, List.length_eq_zero_iff]

theorem sortValues_ne_nil {values : List Int} (nonempty : values ≠ []) : sortValues values ≠ [] :=
  fun empty => nonempty (List.Perm.nil_eq (empty ▸ sortValues_perm values)).symm

/-- The same values in another order have the same statistics. -/
theorem calculateStatistics_perm {values other : List Int} (perm : values.Perm other) :
    calculateStatistics values = calculateStatistics other := by
  have sorted : sortValues values = sortValues other := insertionSort_eq_of_perm perm
  simp only [calculateStatistics, eq_nil_iff_of_perm perm, sorted, perm.length_eq]

/-- What holds of the statistics of values: they are in order, the mean lies within the
range, and the outliers counted are those that `isUpperOutlier` finds. -/
structure Statistics.Sound (values : List Int) (statistics : Statistics) : Prop where
  count : statistics.count = values.length
  range : ∀ value ∈ values, statistics.minimum ≤ value ∧ (value : ℚ) ≤ statistics.maximum
  minimum_le : statistics.minimum ≤ statistics.q1
  q1_le : statistics.q1 ≤ statistics.p50
  p50_le : statistics.p50 ≤ statistics.q3
  q3_le : statistics.q3 ≤ statistics.p90
  p90_le : statistics.p90 ≤ statistics.p95
  p95_le : statistics.p95 ≤ statistics.p99
  p99_le : statistics.p99 ≤ statistics.p999
  p999_le : statistics.p999 ≤ statistics.maximum
  minimum_le_mean : statistics.minimum ≤ statistics.mean
  mean_le_maximum : statistics.mean ≤ statistics.maximum
  outliers : statistics.outlierCount = values.countP (isUpperOutlier · statistics)

/-- A mean lies between the bounds of its values. -/
theorem mean_bounds {xs : List Int} (nonempty : xs ≠ []) {low high : ℚ}
    (bounded : ∀ x ∈ xs, low ≤ x ∧ (x : ℚ) ≤ high) :
    low ≤ (xs.sum : ℚ) / xs.length ∧ (xs.sum : ℚ) / xs.length ≤ high := by
  have positive : (0 : ℚ) < xs.length := by exact_mod_cast List.length_pos_iff.mpr nonempty
  have total : ((xs.sum : Int) : ℚ) = (xs.map fun x : Int => (x : ℚ)).sum :=
    Int.cast_list_sum xs
  rw [le_div_iff₀ positive, div_le_iff₀ positive, total]
  constructor
  · have bound := List.card_nsmul_le_sum (xs.map fun x : Int => (x : ℚ)) low
      (by simpa using fun x mem => (bounded x mem).1)
    rw [List.length_map, nsmul_eq_mul] at bound
    linarith
  · have bound := List.sum_le_card_nsmul (xs.map fun x : Int => (x : ℚ)) high
      (by simpa using fun x mem => (bounded x mem).2)
    rw [List.length_map, nsmul_eq_mul] at bound
    linarith

/-- The statistics of values whose sorted neighbours fit. -/
def exactStatistics (values : List Int) : Statistics :=
  let percentile := percentileOf (sortValues values)
  let iqr := percentile (75 / 100) - percentile (25 / 100)
  let outlierThreshold := percentile (75 / 100) + 3 / 2 * iqr
  { count := values.length
    minimum := percentile 0
    mean := ((sortValues values).sum : ℚ) / (sortValues values).length
    p50 := percentile (50 / 100)
    p90 := percentile (90 / 100)
    p95 := percentile (95 / 100)
    p99 := percentile (99 / 100)
    p999 := percentile (999 / 1000)
    maximum := percentile 1
    q1 := percentile (25 / 100)
    q3 := percentile (75 / 100)
    iqr := iqr
    outlierThreshold := outlierThreshold
    outlierCount := (sortValues values).countP fun value : Int => outlierThreshold < value }

theorem calculateStatistics_eq {values : List Int} (nonempty : values ≠ [])
    (fit : NeighboursFit (sortValues values)) :
    calculateStatistics values = some (exactStatistics values) := by
  have some := sortValues_ne_nil nonempty
  have percentile := percentileInc_eq some (sortValues_sorted values) fit
  rw [calculateStatistics, if_neg nonempty]
  simp only [percentile, List.head?_eq_some_head some, List.getLast?_eq_some_getLast some]
  rw [exactStatistics, percentileOf_zero some, percentileOf_one some]
  rfl

theorem exactStatistics_sound {values : List Int} (nonempty : values ≠ []) :
    (exactStatistics values).Sound values := by
  have some := sortValues_ne_nil nonempty
  have sorted := sortValues_sorted values
  have grows := percentileOf_mono some sorted
  have range : ∀ value ∈ values, percentileOf (sortValues values) 0 ≤ value ∧
      (value : ℚ) ≤ percentileOf (sortValues values) 1 := by
    intro value mem
    exact percentileOf_bounds some sorted value ((sortValues_perm values).mem_iff.mpr mem)
  have mean := mean_bounds some (percentileOf_bounds some sorted)
  constructor
  · rfl
  · exact range
  · exact grows (by norm_num)
  · exact grows (by norm_num)
  · exact grows (by norm_num)
  · exact grows (by norm_num)
  · exact grows (by norm_num)
  · exact grows (by norm_num)
  · exact grows (by norm_num)
  · exact grows (by norm_num)
  · exact mean.1
  · exact mean.2
  · have counted : (exactStatistics values).count ≠ 0 :=
      fun none => nonempty (List.length_eq_zero_iff.mp none)
    have threshold : ∀ value : Int, isUpperOutlier value (exactStatistics values) =
        decide ((exactStatistics values).outlierThreshold < value) := by
      intro value
      simp [isUpperOutlier, counted]
    simp only [threshold]
    rw [← (sortValues_perm values).countP_eq]
    rfl

/-- The statistics of values and their percentiles are sound, in whatever order the values
are. -/
structure StatisticsHold (values : List Int) : Prop where
  statistics : ∃ statistics, calculateStatistics values = some statistics ∧
    statistics.Sound values ∧
    ∀ other, other.Perm values → calculateStatistics other = some statistics
  percentiles : PercentilesSound (sortValues values)

/-- Statistics are ordered, bounded and independent of the order of the values exactly when
neighbours of the sorted values differ by less than `2 ^ 63`, so that their difference is an
`int64_t`. -/
theorem statistics_hold_iff {values : List Int} (nonempty : values ≠ []) :
    StatisticsHold values ↔ NeighboursFit (sortValues values) := by
  constructor
  · intro hold
    refine neighboursFit_of_percentiles fun percentile => ?_
    obtain ⟨value, defined⟩ := hold.percentiles.defined percentile
    rw [defined]
    rfl
  · intro fit
    have computed := calculateStatistics_eq nonempty fit
    refine ⟨⟨_, computed, exactStatistics_sound nonempty, ?_⟩,
      percentilesSound (sortValues_ne_nil nonempty) (sortValues_sorted values) fit⟩
    intro other perm
    rw [calculateStatistics_perm perm, computed]

/-- A list with an outlier. -/
theorem statistics_hold_outlier : StatisticsHold [100, 1, 2, 1, 2] :=
  (statistics_hold_iff (List.cons_ne_nil _ _)).mpr (by decide)

/-- The extreme values of `int64_t` have no median: their difference overflows. -/
theorem extremes_without_median :
    (∀ value ∈ [-2 ^ 63, 2 ^ 63 - 1], Signed 63 value) ∧
      percentileInc (sortValues [-2 ^ 63, 2 ^ 63 - 1]) (50 / 100) = none ∧
      ¬ StatisticsHold [-2 ^ 63, 2 ^ 63 - 1] := by
  have undefined : percentileInc (sortValues [-2 ^ 63, 2 ^ 63 - 1]) (50 / 100) = none := by
    decide +kernel
  refine ⟨by decide, undefined, fun hold => ?_⟩
  obtain ⟨value, defined⟩ := hold.percentiles.defined (50 / 100)
  rw [undefined] at defined
  cases defined

end LatencyTest
