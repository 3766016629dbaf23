import LatencyTest.Client.Evidence

/-!
Runs with nothing pending. After the last window every group of a run is finished,
so the totals are a sum of contributions, and a counter that is zero is zero for
every group. Without missing batches all publications are complete
(`Gathers.complete`); without anomalies every delivered event has a latency, and
every batch with a marker and events has one (`Gathers.measured_exactly`).
-/

namespace LatencyTest

open Lib (entrySum)

namespace Ledger

def missingHom : Ledger →+ Nat where
  toFun := Ledger.missing
  map_zero' := rfl
  map_add' _ _ := rfl

/-- The publications that were not full. -/
def broken : Ledger →+ Nat where
  toFun ledger := ledger.delivery.partialPublications + ledger.delivery.emptyPublications
  map_zero' := rfl
  map_add' a b := by
    rw [add_delivery, DeliveryCounters.add_partialPublications,
      DeliveryCounters.add_emptyPublications]
    omega

def fullHom : Ledger →+ Nat where
  toFun ledger := ledger.delivery.fullPublications
  map_zero' := rfl
  map_add' _ _ := rfl

/-- The latencies recorded for the events of one kind. -/
def sampled (kind : RegularKind) : Ledger →+ Nat where
  toFun ledger := (ledger.eventSamples kind).card
  map_zero' := rfl
  map_add' _ _ := Multiset.card_add _ _

def deliveredHom (kind : RegularKind) : Ledger →+ Nat where
  toFun ledger := ledger.delivery.delivered kind
  map_zero' := rfl
  map_add' _ _ := rfl

end Ledger

/-- Counters of publications that are all complete. -/
structure DeliveryCounters.Complete (d : DeliveryCounters) : Prop where
  published : ∀ kind, d.published kind = d.delivered kind
  listenerDeficit : ∀ kind, d.listenerDeficit kind = 0
  excess : ∀ kind, d.excess kind = 0
  partialPublications : d.partialPublications = 0
  emptyPublications : d.emptyPublications = 0
  uncorrelatedEvents : d.uncorrelatedEvents = 0

namespace DeliveryCounters

theorem complete_zero : Complete 0 :=
  ⟨fun _ => rfl, fun _ => rfl, fun _ => rfl, rfl, rfl, rfl⟩

theorem Complete.add {a b : DeliveryCounters} (h : Complete a) (h' : Complete b) :
    Complete (a + b) := by
  constructor
  · intro kind
    rw [add_published, add_delivered, h.published, h'.published]
  · intro kind
    rw [add_listenerDeficit, h.listenerDeficit, h'.listenerDeficit]
  · intro kind
    rw [add_excess, h.excess, h'.excess]
  · rw [add_partialPublications, h.partialPublications, h'.partialPublications]
  · rw [add_emptyPublications, h.emptyPublications, h'.emptyPublications]
  · rw [add_uncorrelatedEvents, h.uncorrelatedEvents, h'.uncorrelatedEvents]

end DeliveryCounters

/-! ### One finished group -/

namespace Group

/-- Whether a group has a marker and exactly the expected events. -/
def Complete (expectedByKind : RegularKind → Nat) (group : Group) : Prop :=
  group.markers ≠ [] ∧ group.receivedByKind = expectedByKind

instance (expectedByKind : RegularKind → Nat) (group : Group) :
    Decidable (group.Complete expectedByKind) :=
  inferInstanceAs (Decidable (_ ∧ _))

theorem card_samples_le (group : Group) (kind : RegularKind) :
    (group.samples kind).card ≤ if group.markers = [] then 0 else group.receivedByKind kind := by
  unfold samples
  cases group.markers with
  | nil => exact le_rfl
  | cons timestamp markers =>
      rw [if_neg (List.cons_ne_nil timestamp markers), List.head?_cons]
      dsimp only
      rw [Multiset.coe_card]
      exact (List.length_filter_le _ _).trans_eq (List.length_map _)

theorem card_batchSamples_le (group : Group) :
    group.batchSamples.card ≤ if group.markers ≠ [] ∧ group.events ≠ [] then 1 else 0 := by
  unfold batchSamples
  cases group.markers with
  | nil => exact le_rfl
  | cons timestamp markers =>
      rw [List.head?_cons]
      dsimp only
      split
      · exact Nat.zero_le _
      · rename_i received
        rw [if_pos ⟨List.cons_ne_nil timestamp markers, received⟩]
        exact Multiset.card_le_card (Multiset.filter_le _ _)

/-- A group has no events when it has none of any kind. -/
theorem events_eq_nil_iff (group : Group) :
    group.events = [] ↔ ∑ kind, group.receivedByKind kind = 0 := by
  rw [sum_receivedByKind, List.length_eq_zero_iff]

end Group

namespace Rules

variable (rules : Rules) {group : Group}

theorem replay_complete_iff {expectedByKind : RegularKind → Nat} :
    (PendingBatch.replay group).complete expectedByKind = true ↔
      group.receivedByKind = expectedByKind := by
  rw [PendingBatch.complete, decide_eq_true_iff, PendingBatch.replay_receivedByKind, funext_iff]

/-- The delivery counters of a finished group. -/
theorem contribution_counters (nonempty : group ≠ []) :
    (rules.contribution group).delivery =
      if group.markers = [] then { uncorrelatedEvents := group.events.length }
      else { published := rules.expectedByKind } +
        (PendingBatch.replay group).settlement rules.expectedByKind := by
  rw [rules.contribution_eq nonempty, closing_drained, Ledger.add_delivery, Ledger.add_delivery,
    PendingBatch.emitted_delivery, add_zero, announced, PendingBatch.replay_timestamp]
  cases group.markers with
  | nil => simp [missed, PendingBatch.replay_received]
  | cons timestamp markers => simp [missed]

/-- A finished group counts as missing unless it is complete or may be conflated. -/
theorem contribution_missing (nonempty : group ≠ []) :
    (rules.contribution group).missing =
      if group.Complete rules.expectedByKind ∨ rules.allowConflation = true then 0 else 1 := by
  rw [rules.contribution_eq nonempty, closing_drained, Ledger.add_missing, Ledger.add_missing,
    announced_missing, PendingBatch.emitted_missing, PendingBatch.replay_timestamp]
  cases stamped : group.markers with
  | nil =>
      have incomplete : ¬ group.Complete rules.expectedByKind := fun complete => complete.1 stamped
      simp [missed, incomplete]
  | cons timestamp markers =>
      have complete : group.Complete rules.expectedByKind ↔
          (PendingBatch.replay group).complete rules.expectedByKind = true := by
        rw [replay_complete_iff, Group.Complete, stamped]
        exact and_iff_right (List.cons_ne_nil timestamp markers)
      simp [missed, complete, PendingBatch.batchSample_missing]

/-- A complete group is delivered as it was published. -/
theorem contribution_complete (nonempty : group ≠ [])
    (complete : group.Complete rules.expectedByKind) :
    (rules.contribution group).delivery.Complete := by
  obtain ⟨marked, received⟩ := complete
  have same : ∀ kind, (PendingBatch.replay group).receivedByKind kind =
      rules.expectedByKind kind := by
    intro kind
    rw [PendingBatch.replay_receivedByKind, received]
  have full : (PendingBatch.replay group).complete rules.expectedByKind = true :=
    replay_complete_iff.mpr received
  rw [rules.contribution_counters nonempty, if_neg marked]
  constructor <;> simp [PendingBatch.settlement, same, full]

/-- A finished group with a marker is full if it is complete and broken if not. -/
theorem contribution_outcome (nonempty : group ≠ []) :
    (rules.contribution group).fullHom =
        (if group.Complete rules.expectedByKind then 1 else 0) ∧
      (rules.contribution group).broken =
        if group.markers = [] ∨ group.Complete rules.expectedByKind then 0 else 1 := by
  simp only [Ledger.fullHom, Ledger.broken, AddMonoidHom.coe_mk, ZeroHom.coe_mk,
    rules.contribution_counters nonempty, Group.Complete]
  by_cases marked : group.markers = []
  · simp [marked]
  · by_cases complete : group.receivedByKind = rules.expectedByKind
    · have full := replay_complete_iff.mpr complete
      simp [marked, complete, full, PendingBatch.settlement]
    · have broken := mt replay_complete_iff.mp complete
      rw [Bool.not_eq_true] at broken
      by_cases empty : (PendingBatch.replay group).received = 0
      · simp [marked, complete, broken, empty, PendingBatch.settlement]
      · simp [marked, complete, broken, empty, PendingBatch.settlement]

end Rules

/-! ### The totals -/

namespace Collector

variable {c : Collector} {b : Batches}

theorem Gathers.nothing_gathered (h : Gathers c b) (settled : ∀ k : Int, c.pending[k]? = none)
    (k : Int) : b.pending[k]? = none := by
  have here := h.batches k
  rw [settled k] at here
  exact Option.map_eq_none_iff.mp here.symm

/-- With nothing pending the ledger is what the finished groups contributed. -/
theorem Gathers.settled (h : Gathers c b) (settled : ∀ k : Int, c.pending[k]? = none)
    (hom : Ledger →+ Nat) :
    hom c.ledger = (b.finished.map fun group => hom (c.rules.contribution group)).sum := by
  have none := h.nothing_gathered settled
  rw [h.ledger, Batches.map_total, Batches.total, Lib.entrySum_of_no_entry _ none, add_zero]
  rfl

/-- A counter that is zero is zero for every group. -/
theorem Gathers.contribution_eq_zero (h : Gathers c b)
    (settled : ∀ k : Int, c.pending[k]? = none) (hom : Ledger →+ Nat) (zero : hom c.ledger = 0)
    {group : Group} (mem : group ∈ b.finished) : hom (c.rules.contribution group) = 0 := by
  rw [h.settled settled hom, List.sum_eq_zero_iff] at zero
  exact zero _ (List.mem_map_of_mem mem)

/-- Without missing batches every group is complete, unless updates are conflated. -/
theorem Gathers.group_complete (h : Gathers c b) (settled : ∀ k : Int, c.pending[k]? = none)
    (streaming : c.allowConflation = false) (missing : c.missingTotal = 0) {group : Group}
    (mem : group ∈ b.finished) : group.Complete c.expectedByKind := by
  have found : (c.rules.contribution group).missing = 0 :=
    h.contribution_eq_zero settled Ledger.missingHom missing mem
  rw [c.rules.contribution_missing (h.nonempty mem)] at found
  by_contra incomplete
  have refused : ¬ (group.Complete c.rules.expectedByKind ∨ c.rules.allowConflation = true) := by
    rintro (complete | conflated)
    · exact incomplete complete
    · exact absurd (streaming.symm.trans conflated) Bool.false_ne_true
  rw [if_neg refused] at found
  exact one_ne_zero found

theorem Gathers.complete (h : Gathers c b) (settled : ∀ k : Int, c.pending[k]? = none)
    (streaming : c.allowConflation = false) (missing : c.missingTotal = 0) :
    c.deliveryTotal.Complete := by
  have none := h.nothing_gathered settled
  have ledger : c.ledger = (b.finished.map c.rules.contribution).sum := by
    rw [h.ledger, Batches.total, Lib.entrySum_of_no_entry _ none, add_zero]
  have delivery : c.deliveryTotal = c.ledger.delivery := rfl
  rw [delivery, ledger]
  apply List.sum_induction (fun ledger : Ledger => ledger.delivery.Complete)
  · intro x y left right
    exact left.add right
  · exact DeliveryCounters.complete_zero
  · intro contribution mem
    obtain ⟨group, here, rfl⟩ := List.mem_map.mp mem
    exact c.rules.contribution_complete (h.nonempty here)
      (h.group_complete settled streaming missing here)

/-- With nothing pending, a kind has no more latencies than delivered events. -/
theorem Gathers.events_le_delivered (h : Gathers c b) (settled : ∀ k : Int, c.pending[k]? = none)
    (kind : RegularKind) :
    (c.eventGlobalByKind kind).length ≤ c.deliveryTotal.delivered kind := by
  have samples := h.settled settled (Ledger.sampled kind)
  have delivered := h.settled settled (Ledger.deliveredHom kind)
  have bound : (b.finished.map fun group =>
      Ledger.sampled kind (c.rules.contribution group)).sum ≤
        (b.finished.map fun group =>
          Ledger.deliveredHom kind (c.rules.contribution group)).sum := by
    apply List.sum_le_sum
    intro group mem
    have sampled : Ledger.sampled kind (c.rules.contribution group) =
        (group.samples kind).card :=
      congrArg Multiset.card (c.rules.contribution_samples group kind)
    have counted : Ledger.deliveredHom kind (c.rules.contribution group) =
        if group.markers = [] then 0 else group.receivedByKind kind :=
      c.rules.contribution_delivered (h.nonempty mem) kind
    rw [sampled, counted]
    exact group.card_samples_le kind
  rw [← samples, ← delivered] at bound
  exact bound

/-- There are no more batch latencies than finished batches with a marker and events. -/
theorem Gathers.batches_le_finished (h : Gathers c b) :
    c.batchGlobal.length ≤ finishedMarked b := by
  have samples := congrArg Multiset.cardHom h.batchSamples
  rw [map_list_sum, List.map_map] at samples
  have length : c.batchGlobal.length =
      (b.finished.map (Multiset.cardHom ∘ Group.batchSamples)).sum := samples
  rw [length, finishedMarked_eq_sum]
  exact List.sum_le_sum fun group _ => group.card_batchSamples_le

/-- Without anomalies every delivered event has a latency, and so has every batch
with a marker and events. -/
theorem Gathers.measured_exactly (h : Gathers c b) (settled : ∀ k : Int, c.pending[k]? = none)
    (exact : c.negativeTotal = 0) :
    (∀ kind, (c.eventGlobalByKind kind).length = c.deliveryTotal.delivered kind) ∧
      c.batchGlobal.length = finishedMarked b := by
  have events := h.events_le_delivered settled
  have batches := h.batches_le_finished
  have measured := h.events_measured
  have waiting : entrySum measuredEvents c.pending = 0 := Lib.entrySum_of_no_entry _ settled
  have measurements : c.ledger.measurements = ∑ kind, (c.eventGlobalByKind kind).length +
      c.batchGlobal.length + c.negativeTotal := rfl
  have delivered : c.ledger.deliveredEvents = ∑ kind, c.deliveryTotal.delivered kind := rfl
  rw [measurements, delivered, waiting, exact] at measured
  -- Both counts are bounded above, and their sum is the sum of the bounds.
  have bound : ∑ kind, (c.eventGlobalByKind kind).length ≤
      ∑ kind, c.deliveryTotal.delivered kind := Finset.sum_le_sum fun kind _ => events kind
  have sums : ∑ kind, (c.eventGlobalByKind kind).length =
      ∑ kind, c.deliveryTotal.delivered kind := by omega
  constructor
  · intro kind
    exact (Finset.sum_eq_sum_iff_of_le fun kind _ => events kind).mp sums kind
      (Finset.mem_univ kind)
  · omega

/-- When every publication is full, a batch is measured if the task expects events. -/
theorem Gathers.finishedMarked_pos_iff (h : Gathers c b)
    (settled : ∀ k : Int, c.pending[k]? = none) (counted : 0 < c.deliveryTotal.fullPublications)
    (whole : c.deliveryTotal.partialPublications = 0)
    (nonempty : c.deliveryTotal.emptyPublications = 0) :
    0 < finishedMarked b ↔ ∑ kind, c.expectedByKind kind ≠ 0 := by
  have unbroken : c.ledger.broken = 0 := by
    have sum : c.ledger.broken =
        c.deliveryTotal.partialPublications + c.deliveryTotal.emptyPublications := rfl
    rw [sum, whole, nonempty]
  have complete : ∀ group ∈ b.finished, group.markers ≠ [] → group.Complete c.expectedByKind := by
    intro group mem marked
    have found := h.contribution_eq_zero settled Ledger.broken unbroken mem
    have rules : c.rules.expectedByKind = c.expectedByKind := rfl
    rw [(c.rules.contribution_outcome (h.nonempty mem)).2, rules] at found
    by_contra incomplete
    rw [if_neg (not_or.mpr ⟨marked, incomplete⟩)] at found
    exact absurd found one_ne_zero
  have expected : ∀ group ∈ b.finished, group.markers ≠ [] →
      (group.events = [] ↔ ∑ kind, c.expectedByKind kind = 0) := by
    intro group mem marked
    rw [group.events_eq_nil_iff, (complete group mem marked).2]
  rw [finishedMarked, List.length_pos_iff_exists_mem]
  constructor
  · rintro ⟨group, mem⟩
    obtain ⟨mem, counts⟩ := List.mem_filter.mp mem
    obtain ⟨marked, received⟩ := of_decide_eq_true counts
    exact mt (expected group mem marked).mpr received
  · intro regular
    have full : 0 < c.ledger.fullHom := counted
    rw [h.settled settled Ledger.fullHom] at full
    obtain ⟨_, here, positive⟩ := List.exists_mem_ne_zero_of_sum_ne_zero full.ne'
    obtain ⟨group, mem, rfl⟩ := List.mem_map.mp here
    rw [(c.rules.contribution_outcome (h.nonempty mem)).1] at positive
    have marked : group.markers ≠ [] := by
      intro none
      exact positive (if_neg fun complete => complete.1 none)
    refine ⟨group, List.mem_filter.mpr ⟨mem, decide_eq_true ⟨marked, ?_⟩⟩⟩
    exact mt (expected group mem marked).mp regular

end Collector

end LatencyTest
