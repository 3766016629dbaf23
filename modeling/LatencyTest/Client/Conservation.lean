import LatencyTest.Client.Batches
import LatencyTest.Client.Windows

/-!
Conservation of events. An accepted event waits in its batch until a marker comes,
is emitted once, as a sample or a clock anomaly, and is counted when its batch is
finished, as delivered or as uncorrelated. Both counts are sums over the groups of
the run (`Gathers`), so they are settled for one group at a time.
-/

namespace LatencyTest

open Lib (entrySum entryWeight)

/-! ### One group -/

/-- The elements of a list are those of the one kind or another. -/
theorem sum_length_filter_kind {α : Type} (kindOf : α → RegularKind) (elements : List α) :
    ∑ kind, (elements.filter (kindOf · = kind)).length = elements.length := by
  induction elements with
  | nil => simp
  | cons element elements ih =>
      have split : ∀ kind, ((element :: elements).filter (kindOf · = kind)).length =
          (if kindOf element = kind then 1 else 0) +
            (elements.filter (kindOf · = kind)).length := by
        intro kind
        by_cases same : kindOf element = kind
        · simp [same, Nat.add_comm]
        · simp [same]
      simp only [split, Finset.sum_add_distrib, ih, List.length_cons, Finset.sum_ite_eq,
        Finset.mem_univ, if_true]
      omega

namespace Group

/-- Every event has one kind. -/
theorem sum_receivedByKind (group : Group) :
    ∑ kind, group.receivedByKind kind = group.events.length :=
  sum_length_filter_kind PendingEvent.kind group.events

end Group

namespace Ledger

/-- The events counted as delivered or as uncorrelated. -/
def settledEvents : Ledger →+ Nat where
  toFun ledger := ∑ kind, ledger.delivery.delivered kind + ledger.delivery.uncorrelatedEvents
  map_zero' := by simp
  map_add' a b := by
    simp only [add_delivery, DeliveryCounters.add_delivered,
      DeliveryCounters.add_uncorrelatedEvents, Finset.sum_add_distrib]
    omega

/-- The events counted as delivered. -/
def deliveredEvents : Ledger →+ Nat where
  toFun ledger := ∑ kind, ledger.delivery.delivered kind
  map_zero' := by simp
  map_add' a b := by
    simp only [add_delivery, DeliveryCounters.add_delivered, Finset.sum_add_distrib]

/-- The latencies recorded, and the clock anomalies. -/
def measurements : Ledger →+ Nat where
  toFun ledger :=
    ∑ kind, (ledger.eventSamples kind).card + ledger.batchSamples.card + ledger.negative
  map_zero' := by simp
  map_add' a b := by
    simp only [add_eventSamples, add_batchSamples, add_negative, Multiset.card_add,
      Finset.sum_add_distrib]
    omega

end Ledger

/-- An event with a known publication time is a sample or an anomaly. -/
theorem emission_singleton (publishTime : Int) (event : PendingEvent) :
    emission publishTime [event] =
      if event.observed - publishTime < 0 then { negative := 1 }
      else { eventSamples := fun kind =>
        if event.kind = kind then {event.observed - publishTime} else 0 } := by
  rcases lt_or_ge event.observed publishTime with early | late
  · rw [if_pos (sub_neg.mpr early)]
    ext1
    · rfl
    · funext kind
      by_cases same : event.kind = kind <;> simp [emission, same, early]
    · rfl
    · simp [emission, List.filter_cons, early]
    · rfl
  · rw [if_neg (not_lt.mpr (sub_nonneg.mpr late))]
    ext1
    · rfl
    · funext kind
      by_cases same : event.kind = kind <;> simp [emission, List.filter_cons, same, late]
    · rfl
    · simp [emission, List.filter_cons, not_lt.mpr late]
    · rfl

theorem measurements_emission (publishTime : Int) (events : List PendingEvent) :
    (emission publishTime events).measurements = events.length := by
  induction events with
  | nil => rfl
  | cons event events ih =>
      have one : (emission publishTime [event]).measurements = 1 := by
        rw [emission_singleton]
        split
        · simp [Ledger.measurements]
        · simp [Ledger.measurements, apply_ite Multiset.card]
      rw [← List.singleton_append, emission_append, map_add, one, ih, List.length_append,
        List.length_singleton]

namespace PendingBatch

theorem measurements_emitted (batch : PendingBatch) :
    batch.emitted.measurements = if batch.timestamp.isSome then batch.events.length else 0 := by
  unfold emitted
  cases batch.timestamp with
  | none => rfl
  | some publishTime => exact measurements_emission publishTime batch.events

theorem measurements_batchSample (batch : PendingBatch) (publishTime : Int) :
    (batch.batchSample publishTime).measurements = if batch.received = 0 then 0 else 1 := by
  unfold batchSample
  split
  · rfl
  · split <;> simp [Ledger.measurements]

theorem batchSample_missing (batch : PendingBatch) (publishTime : Int) :
    (batch.batchSample publishTime).missing = 0 := by
  unfold batchSample
  split
  · rfl
  · split <;> rfl

end PendingBatch

namespace Group

/-- The whole-batch latency of a group that has a marker and events. -/
def batchSamples (group : Group) : Multiset Int :=
  match group.markers.head? with
  | none => 0
  | some timestamp =>
      if group.events = [] then 0
      else Multiset.filter (0 ≤ ·) {(PendingBatch.replay group).lastObserved - timestamp}

end Group

namespace Rules

variable (rules : Rules) {group : Group}

theorem contribution_eq (nonempty : group ≠ []) :
    rules.contribution group = rules.announced (PendingBatch.replay group) +
      (PendingBatch.replay group).emitted + rules.closing (PendingBatch.replay group).drained :=
  if_neg nonempty

/-- Before its batch is finished a group has announced and emitted, nothing else. -/
theorem ledgerAfter_unfinished
    (unfinished : (PendingBatch.replay group).ready rules.expectedByKind = false) :
    rules.ledgerAfter group =
      rules.announced (PendingBatch.replay group) + (PendingBatch.replay group).emitted := by
  simp [ledgerAfter, unfinished]

@[simp] theorem measurements_announced (batch : PendingBatch) :
    (rules.announced batch).measurements = 0 := by
  unfold announced
  split <;> rfl

@[simp] theorem measurements_missed (complete : Bool) :
    (rules.missed complete).measurements = 0 := rfl

@[simp] theorem delivered_announced (batch : PendingBatch) (kind : RegularKind) :
    (rules.announced batch).delivery.delivered kind = 0 := by
  unfold announced
  split <;> rfl

@[simp] theorem uncorrelated_announced (batch : PendingBatch) :
    (rules.announced batch).delivery.uncorrelatedEvents = 0 := by
  unfold announced
  split <;> rfl

/-- A finished group delivered its events if it has a marker. -/
theorem contribution_delivered (nonempty : group ≠ []) (kind : RegularKind) :
    (rules.contribution group).delivery.delivered kind =
      if group.markers = [] then 0 else group.receivedByKind kind := by
  rw [rules.contribution_eq nonempty, closing_drained, PendingBatch.replay_timestamp]
  cases group.markers with
  | nil => simp
  | cons timestamp markers =>
      simp [PendingBatch.settlement, PendingBatch.replay_receivedByKind]

/-- Without a marker its events are uncorrelated. -/
theorem contribution_uncorrelated (nonempty : group ≠ []) :
    (rules.contribution group).delivery.uncorrelatedEvents =
      if group.markers = [] then group.events.length else 0 := by
  rw [rules.contribution_eq nonempty, closing_drained, PendingBatch.replay_timestamp]
  cases group.markers with
  | nil => simp [PendingBatch.replay_received]
  | cons timestamp markers => simp [PendingBatch.settlement]

theorem deliveredEvents_contribution (nonempty : group ≠ []) :
    (rules.contribution group).deliveredEvents =
      if group.markers = [] then 0 else group.events.length := by
  simp only [Ledger.deliveredEvents, AddMonoidHom.coe_mk, ZeroHom.coe_mk,
    rules.contribution_delivered nonempty]
  split
  · simp
  · exact group.sum_receivedByKind

theorem settledEvents_contribution (nonempty : group ≠ []) :
    (rules.contribution group).settledEvents = group.events.length := by
  have delivered := rules.deliveredEvents_contribution nonempty
  simp only [Ledger.deliveredEvents, AddMonoidHom.coe_mk, ZeroHom.coe_mk] at delivered
  simp only [Ledger.settledEvents, AddMonoidHom.coe_mk, ZeroHom.coe_mk, delivered,
    rules.contribution_uncorrelated nonempty]
  split
  · rw [Nat.zero_add]
  · rw [Nat.add_zero]

theorem deliveredEvents_ledgerAfter
    (unfinished : (PendingBatch.replay group).ready rules.expectedByKind = false) :
    (rules.ledgerAfter group).deliveredEvents = 0 := by
  rw [rules.ledgerAfter_unfinished unfinished]
  simp [Ledger.deliveredEvents]

theorem settledEvents_ledgerAfter
    (unfinished : (PendingBatch.replay group).ready rules.expectedByKind = false) :
    (rules.ledgerAfter group).settledEvents = 0 := by
  rw [rules.ledgerAfter_unfinished unfinished]
  simp [Ledger.settledEvents]

/-- The events of a group are measured as soon as it has a marker. -/
theorem measurements_ledgerAfter
    (unfinished : (PendingBatch.replay group).ready rules.expectedByKind = false) :
    (rules.ledgerAfter group).measurements =
      if group.markers = [] then 0 else group.events.length := by
  rw [rules.ledgerAfter_unfinished unfinished, map_add, measurements_announced,
    PendingBatch.measurements_emitted, PendingBatch.replay_timestamp, PendingBatch.replay_events,
    Nat.zero_add]
  cases group.markers with
  | nil => rfl
  | cons timestamp markers => rfl

/-- Finishing it measures the batch as well, if there was an event. -/
theorem measurements_contribution (nonempty : group ≠ []) :
    (rules.contribution group).measurements =
      if group.markers = [] then 0
      else group.events.length + if group.events = [] then 0 else 1 := by
  rw [rules.contribution_eq nonempty, closing_drained, map_add, map_add, measurements_announced,
    PendingBatch.measurements_emitted, PendingBatch.replay_timestamp, PendingBatch.replay_events]
  cases group.markers with
  | nil => rfl
  | cons timestamp markers =>
      have settled : Ledger.measurements
          { delivery := (PendingBatch.replay group).settlement rules.expectedByKind } = 0 := rfl
      simp only [List.head?_cons, Option.isSome_some, if_true, map_add, settled,
        measurements_missed, PendingBatch.measurements_batchSample, PendingBatch.replay_received,
        List.length_eq_zero_iff, reduceCtorEq, if_false, Nat.zero_add]

/-- The samples of a group do not depend on when they were emitted. -/
theorem ledgerAfter_samples
    (unfinished : (PendingBatch.replay group).ready rules.expectedByKind = false)
    (kind : RegularKind) : (rules.ledgerAfter group).eventSamples kind = group.samples kind := by
  rw [rules.ledgerAfter_unfinished unfinished, Ledger.add_eventSamples, announced_eventSamples,
    zero_add, PendingBatch.emitted, PendingBatch.replay_timestamp, Group.samples]
  cases group.markers.head? with
  | none => rfl
  | some timestamp => simp [emission, PendingBatch.replay_events]

theorem contribution_batchSamples (nonempty : group ≠ []) :
    (rules.contribution group).batchSamples = group.batchSamples := by
  rw [rules.contribution_eq nonempty, closing_drained, PendingBatch.replay_timestamp,
    Group.batchSamples]
  have quiet : (rules.announced (PendingBatch.replay group)).batchSamples = 0 := by
    unfold announced
    split <;> rfl
  have emitted : (PendingBatch.replay group).emitted.batchSamples = 0 := by
    unfold PendingBatch.emitted
    cases (PendingBatch.replay group).timestamp <;> rfl
  cases group.markers.head? with
  | none => simp [quiet, emitted, missed]
  | some timestamp =>
      simp only [Ledger.add_batchSamples, quiet, emitted, missed, PendingBatch.batchSample,
        PendingBatch.replay_received, List.length_eq_zero_iff, zero_add]
      by_cases empty : group.events = []
      · simp [empty]
      · rcases lt_or_ge (PendingBatch.replay group).lastObserved timestamp with early | late
        · simp [empty, early, Multiset.filter_singleton]
        · simp [empty, not_lt.mpr late, late, Multiset.filter_singleton]

theorem ledgerAfter_batchSamples
    (unfinished : (PendingBatch.replay group).ready rules.expectedByKind = false) :
    (rules.ledgerAfter group).batchSamples = 0 := by
  rw [rules.ledgerAfter_unfinished unfinished, announced, PendingBatch.emitted]
  cases (PendingBatch.replay group).timestamp <;> rfl

end Rules

namespace Batches

/-- The events of a run that are in some group. -/
def events (b : Batches) : Nat :=
  b.total (fun group => group.events.length) fun group => group.events.length

end Batches

namespace Collector

/-! ### Accepted events -/

/-- The calls of `addEvent` that pass `acceptBatch`, for one event. -/
def acceptedBy (api : DxApi) (c : Collector) (event : Event) : Nat :=
  match event with
  | .textMessage _ => 0
  | event =>
      match (describe api event).bind Description.sequence with
      | none => 0
      | some sequence => if c.acceptBatch sequence then 1 else 0

/-- For the events of a callback, each in the state its predecessors leave. -/
def acceptedIn (api : DxApi) (observed : Int) (c : Collector) : List Event → Nat
  | [] => 0
  | event :: events =>
      c.acceptedBy api event + acceptedIn api observed (handleEvent api observed c event) events

def acceptedInCall (api : DxApi) (c : Collector) : Call → Nat
  | .handle events _ observed _ =>
      if c.measuring then acceptedIn api observed (c.receiveProfiles events).countCallback events
      else 0
  | _ => 0

/-- The events that `addEvent` accepts in a run. -/
def accepted (api : DxApi) (c : Collector) : List Call → Nat
  | [] => 0
  | call :: calls => c.acceptedInCall api call + accepted api (c.call api call) calls

theorem accepted_append (api : DxApi) (c : Collector) (xs ys : List Call) :
    accepted api c (xs ++ ys) = accepted api c xs + accepted api (c.run api xs) ys := by
  induction xs generalizing c with
  | nil => exact (Nat.zero_add _).symm
  | cons call xs ih =>
      rw [List.cons_append, accepted, accepted, ih, Nat.add_assoc]
      rfl

/-- The batches a run accepts events for are the ones its groups grow by. -/
theorem events_accept (rules : Rules) (b : Batches) (sequence : Int) (item : Item) :
    (b.accept rules sequence item).events = b.events + (Group.events [item]).length :=
  Batches.total_accept_self b (fun group => group.events.length) rfl rules sequence fun group => by
    rw [Group.events_append, List.length_append]

/-- An event without an item is not accepted. -/
theorem acceptedBy_none {api : DxApi} {observed : Int} (c : Collector) {event : Event}
    (carried : itemOf api observed event = none) : c.acceptedBy api event = 0 := by
  have unidentified := itemOf_sequence api observed event
  rw [carried, Option.map_none] at unidentified
  cases event with
  | textMessage marker => rfl
  | _ event =>
      dsimp only [sequenceOf] at unidentified
      dsimp only [acceptedBy]
      rw [← unidentified]

/-- An accepted item is an event that counts, or a marker. -/
theorem acceptedBy_some {api : DxApi} {observed : Int} (c : Collector) {event : Event}
    {sequence : Int} {item : Item} (carried : itemOf api observed event = some (sequence, item)) :
    c.acceptedBy api event =
      if c.acceptBatch sequence then (Group.events [item]).length else 0 := by
  have identified := itemOf_sequence api observed event
  rw [carried, Option.map_some] at identified
  have market : ∀ {event : Event}, marketItem api observed event = some (sequence, item) →
      (Group.events [item]).length = 1 := by
    intro event found
    obtain ⟨description, -, mapped⟩ := Option.bind_eq_some_iff.mp found
    obtain ⟨_, -, same⟩ := Option.map_eq_some_iff.mp mapped
    cases same
    rfl
  cases event with
  | textMessage marker =>
      obtain ⟨timestamp, -, same⟩ := Option.map_eq_some_iff.mp carried
      cases same
      exact (ite_self 0).symm
  | _ event =>
      dsimp only [sequenceOf] at identified
      dsimp only [acceptedBy]
      rw [← identified, market carried]

theorem events_gatherEvent (api : DxApi) (observed : Int) (c : Collector) (b : Batches)
    (event : Event) :
    (gatherEvent api observed c b event).events = b.events + c.acceptedBy api event := by
  unfold gatherEvent
  cases carried : itemOf api observed event with
  | none => rw [acceptedBy_none c carried, Nat.add_zero]
  | some entry =>
      obtain ⟨sequence, item⟩ := entry
      rw [acceptedBy_some c carried]
      dsimp only
      split
      · exact events_accept c.rules b sequence item
      · rfl

theorem events_gatherEvents (api : DxApi) (observed : Int) (c : Collector) (b : Batches)
    (events : List Event) :
    (gatherEvents api observed c b events).events =
      b.events + acceptedIn api observed c events := by
  induction events generalizing c b with
  | nil => rfl
  | cons event events ih => rw [gatherEvents, ih, events_gatherEvent, acceptedIn, Nat.add_assoc]

theorem events_foldl_close (b : Batches) (sequences : List Int) :
    (sequences.foldl Batches.close b).events = b.events := by
  induction sequences generalizing b with
  | nil => rfl
  | cons sequence sequences ih =>
      rw [List.foldl_cons, ih]
      exact Batches.total_close_self b _ rfl sequence

theorem events_gather (api : DxApi) (c : Collector) (b : Batches) {calls : List Call}
    (noBegin : .beginMeasurement ∉ calls) :
    (gather api c b calls).events = b.events + accepted api c calls := by
  induction calls generalizing c b with
  | nil => rfl
  | cons call calls ih =>
      obtain ⟨ne, noBegin⟩ := not_or.mp (mt List.mem_cons.mpr noBegin)
      have one : (gatherCall api c b call).events = b.events + c.acceptedInCall api call := by
        cases call with
        | handle events marketCallback observed duration =>
            rw [gatherCall, acceptedInCall]
            split
            · exact events_gatherEvents api observed _ b events
            · rfl
        | beginMeasurement => exact absurd rfl ne
        | endMeasurement => rfl
        | takeWindow expireAll now => exact events_foldl_close b _
      rw [gather, ih _ _ noBegin, one, accepted, Nat.add_assoc]

/-- Nothing is accepted before the measurement. -/
theorem accepted_idle (api : DxApi) {c : Collector} (idle : Idle c) {calls : List Call}
    (noBegin : .beginMeasurement ∉ calls) : accepted api c calls = 0 := by
  induction calls generalizing c with
  | nil => rfl
  | cons call calls ih =>
      obtain ⟨ne, noBegin⟩ := not_or.mp (mt List.mem_cons.mpr noBegin)
      have none : c.acceptedInCall api call = 0 := by
        cases call with
        | handle events marketCallback observed duration =>
            rw [acceptedInCall, idle.measuring]
            rfl
        | _ => rfl
      rw [accepted, none, ih (idle_call api idle (Ne.symm ne)).1 noBegin]

/-- The events of the groups of a history that begins once are the accepted ones. -/
theorem events_history (api : DxApi) (pattern : TaskPattern) (timeout : Int)
    (allowConflation : Bool) {warmUp rest : List Call}
    (once : .beginMeasurement ∉ warmUp ++ rest) :
    let fresh := create pattern timeout allowConflation
    (gather api fresh {} (warmUp ++ .beginMeasurement :: rest)).events =
      accepted api fresh (warmUp ++ .beginMeasurement :: rest) := by
  intro fresh
  obtain ⟨before, after⟩ := not_or.mp (mt List.mem_append.mpr once)
  have idle := idle_create pattern timeout allowConflation
  rw [gather_append, gather_idle api idle before, accepted_append,
    accepted_idle api idle before, Nat.zero_add, gather, accepted]
  exact events_gather api _ _ after

/-! ### The collector and its groups -/

/-- The events of a pending batch that are measured already. -/
def measuredEvents (batch : PendingBatch) : Nat :=
  if batch.timestamp.isSome then batch.received else 0

/-- The finished batches with a marker and at least one event. -/
def finishedMarked (b : Batches) : Nat :=
  (b.finished.filter fun group => group.markers ≠ [] ∧ group.events ≠ []).length

theorem finishedMarked_eq_sum (b : Batches) :
    finishedMarked b = (b.finished.map fun group =>
      if group.markers ≠ [] ∧ group.events ≠ [] then 1 else 0).sum := by
  rw [finishedMarked]
  induction b.finished with
  | nil => rfl
  | cons group groups ih =>
      rw [List.map_cons, List.sum_cons, ← ih, List.filter_cons]
      by_cases counts : group.markers ≠ [] ∧ group.events ≠ []
      · simp [counts, Nat.add_comm]
      · simp only [counts, if_false, decide_false, Bool.false_eq_true, Nat.zero_add]

theorem drained_received (batch : PendingBatch) : batch.drained.received = batch.received := by
  unfold PendingBatch.drained
  cases batch.timestamp <;> rfl

variable {c : Collector} {b : Batches}

/-- Finished groups are live, and so not empty. -/
theorem Gathers.nonempty (h : Gathers c b) {group : Group} (mem : group ∈ b.finished) :
    group ≠ [] :=
  (h.live group (Batches.mem_groups.mpr (.inl mem))).1

/-- A sum over the pending batches is a sum over the pending groups. -/
theorem Gathers.entrySum_pending (h : Gathers c b) (weight : PendingBatch → Nat) :
    entrySum weight c.pending =
      entrySum (fun group => weight (PendingBatch.replay group).drained) b.pending :=
  Lib.entrySum_map weight _ h.batches

theorem Gathers.received_pending (h : Gathers c b) :
    entrySum PendingBatch.received c.pending = entrySum (fun group => group.events.length)
      b.pending := by
  rw [h.entrySum_pending]
  apply Lib.entrySum_congr_weight
  intro k group found
  rw [drained_received, PendingBatch.replay_received]

theorem Gathers.measured_pending (h : Gathers c b) :
    entrySum measuredEvents c.pending =
      entrySum (fun group => if group.markers = [] then 0 else group.events.length) b.pending := by
  rw [h.entrySum_pending]
  apply Lib.entrySum_congr_weight
  intro k group found
  rw [measuredEvents, drained_received,
    (drained_settlement (PendingBatch.replay group) c.expectedByKind).2.2.1,
    PendingBatch.replay_timestamp, PendingBatch.replay_received]
  cases group.markers with
  | nil => rfl
  | cons timestamp markers => rfl

/-- Accepted events are delivered, uncorrelated or pending. -/
theorem Gathers.events_settled (h : Gathers c b) :
    b.events = c.ledger.settledEvents + entrySum PendingBatch.received c.pending := by
  have settled : c.ledger.settledEvents =
      b.total (fun group => group.events.length) fun _ => 0 := by
    rw [h.ledger, Batches.map_total]
    apply Batches.total_congr
    · intro group mem
      exact c.rules.settledEvents_contribution (h.nonempty mem)
    · intro k group found
      exact c.rules.settledEvents_ledgerAfter (h.pending k group found).unfinished
  rw [settled, h.received_pending, Batches.total, Lib.entrySum_zero, Nat.add_zero]
  rfl

/-- Every event with a known publication time is measured once, and every finished
batch that has one once more. -/
theorem Gathers.events_measured (h : Gathers c b) :
    c.ledger.measurements =
      c.ledger.deliveredEvents + entrySum measuredEvents c.pending + finishedMarked b := by
  let marked : Group → Nat := fun group =>
    if group.markers = [] then 0 else group.events.length
  let sampled : Group → Nat := fun group =>
    if group.markers ≠ [] ∧ group.events ≠ [] then 1 else 0
  have measured : c.ledger.measurements = b.total (fun group => marked group + sampled group)
      marked := by
    rw [h.ledger, Batches.map_total]
    apply Batches.total_congr
    · intro group mem
      rw [Function.comp_apply, c.rules.measurements_contribution (h.nonempty mem)]
      by_cases unmarked : group.markers = []
      · simp [marked, sampled, unmarked]
      · by_cases empty : group.events = [] <;> simp [marked, sampled, unmarked, empty]
    · intro k group found
      exact c.rules.measurements_ledgerAfter (h.pending k group found).unfinished
  have delivered : c.ledger.deliveredEvents = b.total marked fun _ => 0 := by
    rw [h.ledger, Batches.map_total]
    apply Batches.total_congr
    · intro group mem
      exact c.rules.deliveredEvents_contribution (h.nonempty mem)
    · intro k group found
      exact c.rules.deliveredEvents_ledgerAfter (h.pending k group found).unfinished
  have counted : (b.finished.map sampled).sum = finishedMarked b := (finishedMarked_eq_sum b).symm
  have pending : entrySum measuredEvents c.pending = entrySum marked b.pending :=
    h.measured_pending
  rw [measured, delivered, pending, ← counted, Batches.total, Batches.total,
    Lib.entrySum_zero, List.sum_map_add]
  omega

/-- The samples of the events are those of the groups. -/
theorem Gathers.samples (h : Gathers c b) (kind : RegularKind) :
    (c.eventGlobalByKind kind : Multiset Int) = (b.groups.map (Group.samples kind)).sum := by
  have samples : c.ledger.eventSamples kind =
      b.total (Group.samples kind) (Group.samples kind) := by
    rw [h.ledger]
    exact (Batches.map_total _ _ b (Ledger.eventSamplesHom kind)).trans
      (Batches.total_congr (fun group _ => c.rules.contribution_samples group kind)
        fun k group found =>
          c.rules.ledgerAfter_samples (h.pending k group found).unfinished kind)
  exact samples.trans (Batches.total_self b _)

/-- The samples of the batches are those of the finished groups. -/
theorem Gathers.batchSamples (h : Gathers c b) :
    (c.batchGlobal : Multiset Int) = (b.finished.map Group.batchSamples).sum := by
  have samples : c.ledger.batchSamples = b.total Group.batchSamples fun _ => 0 := by
    rw [h.ledger]
    exact (Batches.map_total _ _ b Ledger.batchSamplesHom).trans
      (Batches.total_congr
        (fun group mem => c.rules.contribution_batchSamples (h.nonempty mem))
        fun k group found => c.rules.ledgerAfter_batchSamples (h.pending k group found).unfinished)
  rw [Batches.total, Lib.entrySum_zero, add_zero] at samples
  exact samples

theorem mem_sum_map {groups : List Group} {samples : Group → Multiset Int} {latency : Int}
    (mem : latency ∈ (groups.map samples).sum) : ∃ group ∈ groups, latency ∈ samples group := by
  induction groups with
  | nil => exact absurd mem (Multiset.notMem_zero latency)
  | cons group groups ih =>
      rw [List.map_cons, List.sum_cons, Multiset.mem_add] at mem
      rcases mem with here | later
      · exact ⟨group, List.mem_cons_self, here⟩
      · obtain ⟨other, mem, found⟩ := ih later
        exact ⟨other, List.mem_cons_of_mem _ mem, found⟩

/-- A stored latency of an event is the time from the marker of its batch. -/
theorem Gathers.latency (h : Gathers c b) {kind : RegularKind} {latency : Int}
    (stored : latency ∈ c.eventGlobalByKind kind) :
    ∃ group ∈ b.groups, ∃ timestamp ∈ group.markers.head?, ∃ event ∈ group.events,
      event.kind = kind ∧ latency = event.observed - timestamp ∧ 0 ≤ latency := by
  rw [← Multiset.mem_coe, h.samples kind] at stored
  obtain ⟨group, mem, found⟩ := mem_sum_map stored
  unfold Group.samples at found
  cases marked : group.markers.head? with
  | none =>
      rw [marked] at found
      exact absurd found (Multiset.notMem_zero latency)
  | some timestamp =>
      rw [marked] at found
      obtain ⟨difference, nonneg⟩ := List.mem_filter.mp (Multiset.mem_coe.mp found)
      obtain ⟨event, kept, rfl⟩ := List.mem_map.mp difference
      obtain ⟨received, same⟩ := List.mem_filter.mp kept
      exact ⟨group, mem, timestamp, marked, event, received, of_decide_eq_true same, rfl,
        of_decide_eq_true nonneg⟩

/-- A stored latency of a batch is the time from its marker to its last item. -/
theorem Gathers.batchLatency (h : Gathers c b) {latency : Int} (stored : latency ∈ c.batchGlobal) :
    ∃ group ∈ b.finished, ∃ timestamp ∈ group.markers.head?,
      latency = (PendingBatch.replay group).lastObserved - timestamp ∧ 0 ≤ latency := by
  rw [← Multiset.mem_coe, h.batchSamples] at stored
  obtain ⟨group, mem, found⟩ := mem_sum_map stored
  unfold Group.batchSamples at found
  cases marked : group.markers.head? with
  | none =>
      rw [marked] at found
      exact absurd found (Multiset.notMem_zero latency)
  | some timestamp =>
      rw [marked] at found
      dsimp only at found
      split at found
      · exact absurd found (Multiset.notMem_zero latency)
      · obtain ⟨here, nonneg⟩ := Multiset.mem_filter.mp found
        exact ⟨group, mem, timestamp, marked, Multiset.mem_singleton.mp here, nonneg⟩

/-- A sample of a window is the difference of its two times. -/
theorem sound_of_mem {windows : List Window} (sound : (windows.map Window.measured).sum.Sound)
    {w : Window} (mem : w ∈ windows) : w.measured.Sound := by
  intro sample here
  apply sound
  rw [Measured.sum_append Measured.events rfl (fun _ _ => rfl),
    Measured.sum_append Measured.batches rfl (fun _ _ => rfl), List.mem_append]
  rcases List.mem_append.mp here with event | batch
  · exact .inl (List.mem_flatMap.mpr ⟨w, mem, event⟩)
  · exact .inr (List.mem_flatMap.mpr ⟨w, mem, batch⟩)

/-- Events are conserved: an accepted event is delivered, uncorrelated or pending,
and one with a known publication time is one latency or one clock anomaly. -/
theorem event_conservation (api : DxApi) (pattern : TaskPattern) (timeout : Int)
    (allowConflation : Bool) (warmUp rest : List Call)
    (once : .beginMeasurement ∉ warmUp ++ rest) :
    let fresh := create pattern timeout allowConflation
    let calls := warmUp ++ .beginMeasurement :: rest
    let c := fresh.run api calls
    let b := gather api fresh {} calls
    accepted api fresh calls = ∑ kind, c.deliveryTotal.delivered kind +
        c.deliveryTotal.uncorrelatedEvents + entrySum PendingBatch.received c.pending ∧
      ∑ kind, (c.eventGlobalByKind kind).length + c.batchGlobal.length + c.negativeTotal =
        ∑ kind, c.deliveryTotal.delivered kind + entrySum measuredEvents c.pending +
          finishedMarked b ∧
      (∀ kind, ∀ latency ∈ c.eventGlobalByKind kind,
        ∃ group ∈ b.groups, ∃ timestamp ∈ group.markers.head?, ∃ event ∈ group.events,
          event.kind = kind ∧ latency = event.observed - timestamp ∧ 0 ≤ latency) ∧
      (∀ latency ∈ c.batchGlobal,
        ∃ group ∈ b.finished, ∃ timestamp ∈ group.markers.head?,
          latency = (PendingBatch.replay group).lastObserved - timestamp ∧ 0 ≤ latency) ∧
      ∀ w ∈ fresh.windows api calls ++ [c.window], ∀ sample ∈ w.events ++ w.batches,
        sample.latencyNs = sample.observedAtNs - sample.publishTimeNs ∧ 0 ≤ sample.latencyNs := by
  intro fresh calls c b
  have gathers : Gathers c b := gathers_history api pattern timeout allowConflation once
  have partitioned := partitioned_history api pattern timeout allowConflation once
  refine ⟨?_, ?_, ?_, ?_, ?_⟩
  · have events := events_history api pattern timeout allowConflation once
    exact events.symm.trans gathers.events_settled
  · exact gathers.events_measured
  · intro kind latency stored
    exact gathers.latency stored
  · intro latency stored
    exact gathers.batchLatency stored
  · intro w mem sample here
    have joined : ((fresh.windows api calls ++ [c.window]).map Window.measured).sum =
        ((fresh.windows api calls).map Window.measured).sum + c.window.measured := by
      rw [List.map_append, List.sum_append, List.map_singleton, List.sum_singleton]
    exact sound_of_mem (joined ▸ partitioned.sound) mem sample here

private def pairTask : TaskPattern := { items := [⟨.trade, 2⟩] }

private def pairTrade (sequence : Int) : Event :=
  .trade { eventSymbol := "SYM00".toList, sequence := sequence, timeNanos := 100 }

private def pairCalls : List Call :=
  [.handle [pairTrade 5, .textMessage
      { eventSymbol := "LATENCY_MARKER:".toList, text := "LATENCY_BATCH:100".toList,
        sequence := 5 }] true 150 1,
    .handle [pairTrade 5, pairTrade 6] true 160 1]

/-- A finished publication of two events, the first before its marker, and an event
that still waits for one. -/
theorem event_conservation_pair :
    let fresh := create pairTask 1000 false
    let calls := [] ++ .beginMeasurement :: pairCalls
    let c := fresh.run .release calls
    accepted .release fresh calls = 3 ∧ c.eventGlobalByKind .trade = [50, 60] ∧
      c.batchGlobal = [60] ∧
      accepted .release fresh calls = ∑ kind, c.deliveryTotal.delivered kind +
        c.deliveryTotal.uncorrelatedEvents + entrySum PendingBatch.received c.pending := by
  dsimp only
  obtain ⟨conserved, -⟩ := event_conservation .release pairTask 1000 false [] pairCalls
    (by simp [pairCalls])
  refine ⟨?_, ?_, ?_, conserved⟩
  · decide +kernel
  · decide +kernel
  · decide +kernel

end Collector

end LatencyTest
