import Mathlib

/-!
Linear interpolation between the values at whole numbers. Where the values grow, so does
their interpolation, across the ends of the segments too, and on each segment it lies
between the values at its ends.
-/

namespace LatencyTest.Lib

variable {K : Type*} [Field K] [LinearOrder K] [IsStrictOrderedRing K] [FloorSemiring K]

/-- The value at a position, on the line between those at the whole numbers around it. -/
def interpolate (f : ℕ → K) (x : K) : K := f ⌊x⌋₊ + (x - ⌊x⌋₊) * (f ⌈x⌉₊ - f ⌊x⌋₊)

@[simp] theorem interpolate_natCast (f : ℕ → K) (k : ℕ) : interpolate f (k : K) = f k := by
  simp [interpolate]

theorem floor_add_half (k : ℕ) : ⌊(k : K) + 1 / 2⌋₊ = k := by
  have half : (0 : K) < 1 / 2 := by norm_num
  have below : (1 / 2 : K) < 1 := by norm_num
  exact (Nat.floor_eq_iff (by positivity)).mpr ⟨by linarith, by linarith⟩

theorem ceil_add_half (k : ℕ) : ⌈(k : K) + 1 / 2⌉₊ = k + 1 := by
  have half : (0 : K) < 1 / 2 := by norm_num
  have below : (1 / 2 : K) < 1 := by norm_num
  rw [Nat.ceil_eq_iff (Nat.succ_ne_zero k), Nat.succ_sub_one]
  push_cast
  constructor <;> linarith

/-- Halfway between two whole numbers is the mean of their values. -/
theorem interpolate_half (f : ℕ → K) (k : ℕ) :
    interpolate f ((k : K) + 1 / 2) = (f k + f (k + 1)) / 2 := by
  rw [interpolate, floor_add_half, ceil_add_half]
  ring

/-- On a segment the interpolation lies between the values at its ends. -/
theorem interpolate_mem {f : ℕ → K} (grows : Monotone f) {x : K} (nonneg : 0 ≤ x) :
    f ⌊x⌋₊ ≤ interpolate f x ∧ interpolate f x ≤ f ⌈x⌉₊ := by
  have fraction : 0 ≤ x - ⌊x⌋₊ := sub_nonneg.mpr (Nat.floor_le nonneg)
  have fraction' : x - ⌊x⌋₊ ≤ 1 := by linarith [Nat.lt_floor_add_one x]
  have rise : 0 ≤ f ⌈x⌉₊ - f ⌊x⌋₊ := sub_nonneg.mpr (grows (Nat.floor_le_ceil x))
  constructor
  · exact le_add_of_nonneg_right (mul_nonneg fraction rise)
  · have bounded := mul_le_of_le_one_left rise fraction'
    rw [interpolate]
    linarith

/-- Interpolation grows, within a segment and from one to the next. -/
theorem interpolate_mono {f : ℕ → K} (grows : Monotone f) {x y : K} (nonneg : 0 ≤ x)
    (le : x ≤ y) : interpolate f x ≤ interpolate f y := by
  rcases Nat.lt_or_ge ⌊y⌋₊ ⌈x⌉₊ with same | later
  · -- both are inside one segment, so only the fraction grows
    have floor : ⌊y⌋₊ = ⌊x⌋₊ := by
      have near := Nat.ceil_le_floor_add_one x
      have ordered := Nat.floor_mono le
      omega
    have ceil : ⌈y⌉₊ = ⌈x⌉₊ := by
      have near := Nat.ceil_le_floor_add_one y
      have ordered := Nat.ceil_mono le
      omega
    have rise : 0 ≤ f ⌈x⌉₊ - f ⌊x⌋₊ := sub_nonneg.mpr (grows (Nat.floor_le_ceil x))
    have fraction : x - ⌊x⌋₊ ≤ y - ⌊x⌋₊ := sub_le_sub_right le _
    rw [interpolate, interpolate, floor, ceil]
    exact add_le_add_right (mul_le_mul_of_nonneg_right fraction rise) _
  · calc interpolate f x ≤ f ⌈x⌉₊ := (interpolate_mem grows nonneg).2
      _ ≤ f ⌊y⌋₊ := grows later
      _ ≤ interpolate f y := (interpolate_mem grows (nonneg.trans le)).1

end LatencyTest.Lib
