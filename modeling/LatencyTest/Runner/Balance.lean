import LatencyTest.Runner.Plan
import LatencyTest.Lib.Blocks

/-!
The order of a plan. Every repetition is a block of the plan that starts one profile later
than the block before it, so that the profiles and their positions form a Latin square over
as many repetitions as there are profiles.
-/

namespace LatencyTest.Runner

/-- The index of the profile at a position of a block, both from zero on. -/
def profileIndex (profiles block position : Nat) : Nat := (position + block) % profiles

/-! ### Blocks -/

/-- The plan of a suite is balanced: a block for every repetition, with every profile once,
and over as many consecutive repetitions as there are profiles, every profile once at every
position. -/
structure Balanced (suite : BenchmarkSuite) (overrides : BenchmarkOverrides)
    (plan : List BenchmarkRun) : Prop where
  length : plan.length = suite.repetitions * suite.profiles.length
  run : ∀ block < suite.repetitions, ∀ position < suite.profiles.length,
    ∃ profile, suite.profiles[profileIndex suite.profiles.length block position]? = some profile ∧
      plan[block * suite.profiles.length + position]? =
        some (resolve suite overrides (block + 1) profile)
  block : ∀ block < suite.repetitions,
    ((plan.drop (block * suite.profiles.length)).take suite.profiles.length).Perm
      (suite.profiles.map (resolve suite overrides (block + 1)))
  once : ∀ block < suite.repetitions, ∀ index < suite.profiles.length,
    ∃! position, position < suite.profiles.length ∧
      profileIndex suite.profiles.length block position = index
  turn : ∀ first, first + suite.profiles.length ≤ suite.repetitions →
    ∀ index < suite.profiles.length, ∀ position < suite.profiles.length,
      ∃! block, first ≤ block ∧ block < first + suite.profiles.length ∧
        profileIndex suite.profiles.length block position = index

end LatencyTest.Runner
