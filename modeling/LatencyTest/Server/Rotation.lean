import LatencyTest.Server.Publications

/-!
The rotation of consecutive publications through the active base symbols. Each
publication selects the window of a pool's quantity that follows the one before
it, so the windows visit every active base symbol equally often once they close up.
-/

namespace LatencyTest

/-- Consecutive publications of a task, each with the TimeAndSale symbols then
subscribed and its time, and what each selects from the pools. -/
inductive PublishRun (api : DxApi) (limit : Nat) :
    ActiveTask → List (Finset Text × Int) → List (Nat → List Choice) → ActiveTask → Prop where
  | nil (active : ActiveTask) : PublishRun api limit active [] [] active
  | cons {active last : ActiveTask} {round : Finset Text × Int} {result : Published}
      {rounds : List (Finset Text × Int)} {choices : Nat → List Choice}
      {selections : List (Nat → List Choice)}
      (published : publish api limit round.1 round.2 active = some result)
      (selected : IsPublication api limit round.1 round.2 active choices result)
      (rest : PublishRun api limit result.active rounds selections last) :
      PublishRun api limit active (round :: rounds) (choices :: selections) last

/-- The base indices each publication selects from a pool, in order. -/
def baseIndices (base poolIndex : Nat) (selections : List (Nat → List Choice)) :
    List (List Nat) :=
  selections.map fun choices => (choices poolIndex).map (·.index % base)

/-- Publishing never fails, so there is a run for every series of rounds. -/
theorem publishRun_ok (api : DxApi) (limit : Nat) {active : ActiveTask}
    (wellFormed : active.WellFormed) (rounds : List (Finset Text × Int)) :
    ∃ selections last, PublishRun api limit active rounds selections last := by
  induction rounds generalizing active with
  | nil => exact ⟨[], active, .nil active⟩
  | cons round rounds ih =>
      obtain ⟨choices, result, published, selected⟩ :=
        publish_ok api limit round.1 round.2 wellFormed
      obtain ⟨selections, last, rest⟩ := ih selected.wellFormed
      exact ⟨choices :: selections, last, .cons published selected rest⟩

/-- One publication selects the window that starts at its number times the quantity. -/
theorem IsPublication.window {api : DxApi} {limit : Nat} {subscribed : Finset Text} {nowNs : Int}
    {active : ActiveTask} {choices : Nat → List Choice} {result : Published}
    (h : IsPublication api limit subscribed nowNs active choices result) {poolIndex : Nat}
    {item : PatternItem} (found : active.pattern.items[poolIndex]? = some item)
    (fits : active.publications.toNat * item.quantity < sizeLimit) :
    (choices poolIndex).map (·.index % active.activeSymbolCount) =
      Lib.rotation active.activeSymbolCount (active.publications.toNat * item.quantity)
        item.quantity := by
  rw [(h.rotates poolIndex item found).rotation, firstIndex, sizeMul_eq fits]
  exact Lib.rotation_mod _ _ _

/-- Consecutive publications select consecutive windows. -/
theorem PublishRun.windows {api : DxApi} {limit : Nat} {active last : ActiveTask}
    {rounds : List (Finset Text × Int)} {selections : List (Nat → List Choice)}
    (run : PublishRun api limit active rounds selections last) {poolIndex : Nat}
    {item : PatternItem} (found : active.pattern.items[poolIndex]? = some item)
    (positive : 0 < item.quantity)
    (fits : ∀ k < rounds.length, (active.publications.toNat + k) * item.quantity < sizeLimit) :
    baseIndices active.activeSymbolCount poolIndex selections =
      (List.range rounds.length).map fun k =>
        Lib.rotation active.activeSymbolCount
          (active.publications.toNat * item.quantity + k * item.quantity) item.quantity := by
  induction run with
  | nil => rfl
  | @cons active last round result rounds choices selections published selected rest ih =>
      have first := selected.window found (by simpa using fits 0 (by simp))
      -- The next number is no wrap as long as the product of a later round fits.
      have number : 0 < rounds.length →
          result.active.publications.toNat = active.publications.toNat + 1 := by
        intro more
        have bound := fits 1 (by simp [more])
        have small : active.publications.toNat + 1 < sizeLimit :=
          (Nat.le_mul_of_pos_right _ positive).trans_lt bound
        rw [selected.publications, UInt64.toNat_add]
        exact Nat.mod_eq_of_lt small
      have later := ih (by rw [selected.pattern]; exact found) (by
        intro k more
        rw [number (Nat.zero_lt_of_lt more), Nat.add_assoc, Nat.add_comm 1 k]
        exact fits (k + 1) (by simpa using more))
      rw [selected.activeSymbolCount] at later
      rw [baseIndices, List.map_cons, ← baseIndices, later, first, List.length_cons,
        List.range_succ_eq_map, List.map_cons, List.map_map, Nat.zero_mul, Nat.add_zero]
      congr 1
      refine List.map_congr_left fun k mem => ?_
      rw [number (Nat.zero_lt_of_lt (List.mem_range.mp mem)), Function.comp_apply,
        Nat.succ_eq_add_one]
      congr 1
      ring

/-- Fair rotation. From any publication number on, as long as the product with the
quantity fits: consecutive publications start where the previous one ended, and
`base / gcd quantity base` of them select each base index equally often. -/
theorem fair_rotation (api : DxApi) (limit : Nat) {active : ActiveTask}
    (wellFormed : active.WellFormed) {poolIndex : Nat} {item : PatternItem}
    (found : active.pattern.items[poolIndex]? = some item)
    (rounds : List (Finset Text × Int))
    (fits : ∀ k < rounds.length, (active.publications.toNat + k) * item.quantity < 2 ^ 64) :
    (∃ selections last, PublishRun api limit active rounds selections last) ∧
      ∀ selections last, PublishRun api limit active rounds selections last →
        let indices := baseIndices active.activeSymbolCount poolIndex selections
        indices.length = rounds.length ∧
        (∀ window ∈ indices, window.length = item.quantity ∧
          ∀ index ∈ window, index < active.activeSymbolCount) ∧
        (∀ k, k + 1 < rounds.length → ∃ final, (indices[k]?.bind List.getLast?) = some final ∧
          (indices[k + 1]?.bind List.head?) = some ((final + 1) % active.activeSymbolCount)) ∧
        (rounds.length = active.activeSymbolCount / item.quantity.gcd active.activeSymbolCount →
          ∀ index < active.activeSymbolCount, indices.flatten.count index =
            item.quantity / item.quantity.gcd active.activeSymbolCount) := by
  refine ⟨publishRun_ok api limit wellFormed rounds, ?_⟩
  intro selections last run indices
  have positive : 0 < item.quantity :=
    wellFormed.admissible.items.quantity_pos item (List.mem_of_getElem? found)
  have windows : indices = (List.range rounds.length).map fun k =>
      Lib.rotation active.activeSymbolCount
        (active.publications.toNat * item.quantity + k * item.quantity) item.quantity :=
    run.windows found positive fits
  have window (k : Nat) (more : k < rounds.length) : indices[k]? =
      some (Lib.rotation active.activeSymbolCount
        (active.publications.toNat * item.quantity + k * item.quantity) item.quantity) := by
    rw [windows, List.getElem?_map, List.getElem?_range more, Option.map_some]
  refine ⟨by simp [windows], ?_, ?_, ?_⟩
  · intro window mem
    rw [windows] at mem
    obtain ⟨k, -, rfl⟩ := List.mem_map.mp mem
    exact ⟨Lib.rotation_length _ _ _, fun index => Lib.rotation_lt wellFormed.count_pos⟩
  · intro k more
    obtain ⟨final, isLast, next⟩ := @Lib.rotation_getLast? active.activeSymbolCount
      (active.publications.toNat * item.quantity + k * item.quantity) _ positive
    refine ⟨final, ?_, ?_⟩
    · rw [window k (by omega), Option.bind_some, isLast]
    · rw [window (k + 1) more, Option.bind_some, Lib.rotation_head? positive, next, Nat.succ_mul,
        Nat.add_assoc]
  · intro closes index inBase
    rw [windows, closes]
    exact Lib.count_windows inBase

/-- Two quotes a publication over three base symbols: three publications select
each symbol twice. -/
theorem fair_rotation_two_of_three :
    let active := startTask ⟨"SUB:Q2#3".toList, ⟨[⟨.quote, 2⟩], 1000, some 3, 0, none⟩, 3, [], []⟩
    ∃ selections last,
      PublishRun .release 8 active [(∅, 1000000), (∅, 2000000), (∅, 3000000)] selections last ∧
      ∀ index < 3, (baseIndices 3 0 selections).flatten.count index = 2 := by
  intro active
  have parsed : parseTask "SUB:Q2#3".toList = .ok ⟨[⟨.quote, 2⟩], 1000, some 3, 0, none⟩ := by
    decide +kernel
  have resolved : resolveActiveSymbolCount none ⟨[⟨.quote, 2⟩], 1000, some 3, 0, none⟩ = .ok 3 :=
    rfl
  have admitted : PendingTask.WellFormed
      ⟨"SUB:Q2#3".toList, ⟨[⟨.quote, 2⟩], 1000, some 3, 0, none⟩, 3, [], []⟩ :=
    pendingTask_wellFormed parsed resolved (by decide)
  have wellFormed : active.WellFormed := startTask_wellFormed admitted
  have found : active.pattern.items[0]? = some ⟨.quote, 2⟩ := rfl
  obtain ⟨⟨selections, last, run⟩, fair⟩ := fair_rotation .release 8 wellFormed
    found [(∅, 1000000), (∅, 2000000), (∅, 3000000)]
    (by
      intro k more
      have bound : k < 3 := more
      have start : active.publications.toNat = 0 := rfl
      rw [start]
      simp only
      omega)
  have counts := (fair selections last run).2.2.2
  have coprime : Nat.gcd 2 3 = 1 := by norm_num
  change 3 = 3 / Nat.gcd 2 3 → ∀ index < 3, (baseIndices 3 0 selections).flatten.count index =
    2 / Nat.gcd 2 3 at counts
  rw [coprime] at counts
  exact ⟨selections, last, run, counts rfl⟩

end LatencyTest
