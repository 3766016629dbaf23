import Mathlib

/-!
Lists of equally long blocks, one for every number below a count. An element is found at
the number of its block times the length of a block, plus its position.
-/

namespace LatencyTest.Lib

variable {α : Type} {block : Nat → List α} {size : Nat}

theorem length_flatMap_range (length : ∀ k, (block k).length = size) (count : Nat) :
    ((List.range count).flatMap block).length = count * size := by
  simp [List.length_flatMap, length]

/-- A block is taken out between those before and after it. -/
theorem take_drop_flatMap_range (length : ∀ k, (block k).length = size) {k count : Nat}
    (inRange : k < count) :
    (((List.range count).flatMap block).drop (k * size)).take size = block k := by
  obtain ⟨more, rfl⟩ := Nat.exists_eq_add_of_lt inRange
  rw [Nat.add_assoc, List.range_add, List.flatMap_append,
    List.drop_left' (length_flatMap_range length k), List.range_succ_eq_map, List.map_cons,
    List.flatMap_cons, Nat.add_zero, List.take_left' (length k)]

end LatencyTest.Lib
