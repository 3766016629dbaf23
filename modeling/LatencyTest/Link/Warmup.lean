import LatencyTest.Client.Runs
import LatencyTest.Link.Identity

/-!
The warm-up filter and the sequences of the publisher. The client refuses every
sequence that it observed before the measurement, for the rest of the run, while
the publisher's sequences repeat. So the filter refuses exactly what was observed
before, up to the sequence: a measured publication is lost when an earlier one of
the same sequence fell into the warm-up.
-/

namespace LatencyTest

open Collector (sequenceOf)

/-! ### The publications of one task -/

/-- The sequence of publication number `n` of a task, counted from one. -/
def publicationSequence (api : DxApi) (n : Nat) : Nat := n % 2 ^ 32 % api.maxSequence

/-- `events` is publication number `n` of a task that publishes in these rounds. -/
def PublicationOf (api : DxApi) (limit : Nat) (task : ActiveTask)
    (rounds : List (Finset Text × Int)) (n : Nat) (events : List Event) : Prop :=
  ∃ before round after active result, rounds = before ++ round :: after ∧
    n = before.length + 1 ∧ publishAll api limit task before = some active ∧
    publish api limit round.1 round.2 active = some result ∧ events = result.events

/-- What a stamped event identifies is its stamp. -/
theorem sequenceOf_stamped (api : DxApi) {stamp : Stamp} {event : Event}
    (fixed : stampEvent stamp event = event) (market : event.recordKey.1 ≠ none) {sequence : Int}
    (identified : sequenceOf api event = some sequence) : sequence = stamp.sequence := by
  cases event with
  | quote quote =>
      have bidSize : quote.bidSize = .finite stamp.sequence :=
        (congrArg Quote.bidSize (Event.quote.inj fixed)).symm
      simp only [sequenceOf, describe, bidSize] at identified
      split at identified
      · cases identified
      · simpa [trunc_intCast] using identified.symm
  | trade trade =>
      have value := congrArg Trade.sequence (Event.trade.inj fixed)
      cases identified
      exact value.symm
  | tradeEth trade =>
      have value := congrArg Trade.sequence (Event.tradeEth.inj fixed)
      cases identified
      exact value.symm
  | summary summary =>
      have value := congrArg Summary.dayId (Event.summary.inj fixed)
      cases identified
      exact value.symm
  | timeAndSale event => cases identified
  | profile symbol => exact absurd rfl market
  | textMessage message => exact absurd rfl market

/-- Every item of a publication that identifies a sequence identifies that of its
marker. -/
theorem IsPublication.sequenceOf {api : DxApi} {limit : Nat} {subscribed : Finset Text}
    {nowNs : Int} {active : ActiveTask} {choices : Nat → List Choice} {result : Published}
    (h : IsPublication api limit subscribed nowNs active choices result) {event : Event}
    (mem : event ∈ result.events) {sequence : Int}
    (identified : Collector.sequenceOf api event = some sequence) :
    sequence = result.active.marker.sequence := by
  obtain ⟨selected, events, stamped⟩ := h.events
  rw [events, List.mem_append, List.mem_singleton] at mem
  rcases mem with market | rfl
  · obtain ⟨choice, -, fixed, key⟩ := Choice.Published.exists_choice stamped market
    rw [sequenceOf_stamped api fixed (by simp [key]) identified, h.marker_sequence]
    rfl
  · simp only [Collector.sequenceOf, Option.map_eq_some_iff] at identified
    obtain ⟨-, -, rfl⟩ := identified
    rfl

/-- The items of publication number `n` identify its sequence, or nothing. -/
theorem PublicationOf.sequenceOf {api : DxApi} {limit : Nat} {pending : PendingTask}
    (wellFormed : pending.WellFormed) {rounds : List (Finset Text × Int)} {n : Nat}
    {events : List Event} (h : PublicationOf api limit (startTask pending) rounds n events)
    {event : Event} (mem : event ∈ events) {sequence : Int}
    (identified : Collector.sequenceOf api event = some sequence) :
    sequence = publicationSequence api n := by
  obtain ⟨before, round, after, active, result, rfl, rfl, reached, published, rfl⟩ := h
  have started := startTask_wellFormed wellFormed
  obtain ⟨active', reached', kept, -⟩ := publishAll_ok api limit started before
  cases reached.symm.trans reached'
  obtain ⟨choices, result', done, publication⟩ := publish_ok api limit round.1 round.2 kept
  cases published.symm.trans done
  have tick : (active.tick + 1).toNat = (before.length + 1) % 2 ^ 32 := by
    rw [publishAll_tick started reached]
    have zero : (startTask pending).tick = 0 := rfl
    have one : UInt32.ofNat before.length + 1 = UInt32.ofNat (before.length + 1) := by
      rw [UInt32.ofNat_add]
      rfl
    rw [zero, UInt32.zero_add, one, UInt32.toNat_ofNat']
  rw [publication.sequenceOf mem identified, publication.marker_sequence, tick]
  rfl

/-! ### What the client observes -/

/-- A call on the collector between two measurement boundaries; every event is
named with the number of its publication. -/
inductive Observation where
  | handle (items : List (Nat × Event)) (marketCallback : Bool) (observed duration : Int)
  | takeWindow (expireAll : Bool) (now : Int)

namespace Observation

/-- The call without the numbers. -/
def call : Observation → Collector.Call
  | .handle items marketCallback observed duration =>
      .handle (items.map Prod.snd) marketCallback observed duration
  | .takeWindow expireAll now => .takeWindow expireAll now

def items : Observation → List (Nat × Event)
  | .handle items .. => items
  | .takeWindow .. => []

end Observation

/-- All items of a phase. -/
def observedItems (phase : List Observation) : List (Nat × Event) := phase.flatMap Observation.items

namespace Collector

/-- The collector inside a callback, after the first of its events. -/
def duringCallback (api : DxApi) (c : Collector) (events processed : List Event)
    (observed : Int) : Collector :=
  processed.foldl (handleEvent api observed) (c.receiveProfiles events).countCallback

/-- Whether an item of publication number `n` that identifies a sequence is refused
during the phase that starts at `c`. -/
def Rejects (api : DxApi) (c : Collector) (phase : List Observation) (n : Nat) (event : Event) :
    Prop :=
  ∃ before processed rest marketCallback observed duration after sequence,
    phase = before ++ .handle (processed ++ (n, event) :: rest) marketCallback observed duration ::
      after ∧
    sequenceOf api event = some sequence ∧
    (duringCallback api (c.run api (before.map Observation.call))
      ((processed ++ (n, event) :: rest).map Prod.snd) (processed.map Prod.snd)
      observed).acceptBatch sequence = false

/-- A collector between the measurement boundaries, with this blacklist. -/
structure Measuring (c : Collector) (blacklisted : Finset Int) : Prop where
  measuring : c.measuring = true
  accepting : c.acceptingNewBatches = true
  blacklist : c.preMeasurementSequences = blacklisted

/-- Between the boundaries exactly the blacklisted sequences are refused. -/
theorem Measuring.acceptBatch {c : Collector} {blacklisted : Finset Int}
    (h : Measuring c blacklisted) (sequence : Int) :
    c.acceptBatch sequence = false ↔ sequence ∈ blacklisted := by
  unfold Collector.acceptBatch
  rw [h.blacklist, h.accepting, Bool.true_or]
  by_cases mem : sequence ∈ blacklisted <;> simp [mem]

theorem Measuring.run {api : DxApi} {c : Collector} {blacklisted : Finset Int}
    (h : Measuring c blacklisted) (phase : List Observation) :
    Measuring (c.run api (phase.map Observation.call)) blacklisted := by
  induction phase generalizing c with
  | nil => exact h
  | cons observation phase ih =>
      have noBegin : observation.call ≠ .beginMeasurement := by
        cases observation <;> exact nofun
      obtain ⟨followed, accepting⟩ := call_follows api h.measuring noBegin
      refine ih ⟨followed.measuring.trans h.measuring, ?_,
        followed.preMeasurementSequences.trans h.blacklist⟩
      rw [accepting]
      cases observation <;> exact h.accepting

theorem Measuring.duringCallback {api : DxApi} {c : Collector} {blacklisted : Finset Int}
    (h : Measuring c blacklisted) (events processed : List Event) (observed : Int) :
    Measuring (Collector.duringCallback api c events processed observed) blacklisted := by
  obtain ⟨followed, accepting⟩ := foldl_handleEvent_follows api observed
    (c.receiveProfiles events).countCallback processed
  exact ⟨followed.measuring.trans h.measuring, accepting.trans h.accepting,
    followed.preMeasurementSequences.trans h.blacklist⟩

/-- An item is refused during a phase exactly when its sequence is blacklisted. -/
theorem Measuring.rejects {api : DxApi} {c : Collector} {blacklisted : Finset Int}
    (h : Measuring c blacklisted) {phase : List Observation} {n : Nat} {event : Event} :
    Rejects api c phase n event ↔ (n, event) ∈ observedItems phase ∧
      ∃ sequence ∈ blacklisted, sequenceOf api event = some sequence := by
  constructor
  · rintro ⟨before, processed, rest, marketCallback, observed, duration, after, sequence, rfl,
      identified, refused⟩
    rw [((h.run before).duringCallback _ _ _).acceptBatch] at refused
    refine ⟨?_, sequence, refused, identified⟩
    simp [observedItems, Observation.items]
  · rintro ⟨mem, sequence, blacklisted, identified⟩
    obtain ⟨observation, inPhase, item⟩ := List.mem_flatMap.mp mem
    obtain ⟨before, after, rfl⟩ := List.append_of_mem inPhase
    cases observation with
    | takeWindow => cases item
    | handle items marketCallback observed duration =>
        obtain ⟨processed, rest, rfl⟩ := List.append_of_mem (show (n, event) ∈ items from item)
        exact ⟨before, processed, rest, marketCallback, observed, duration, after, sequence, rfl,
          identified, (((h.run before).duringCallback _ _ _).acceptBatch sequence).mpr blacklisted⟩

theorem itemsOf_fst (api : DxApi) (observed : Int) (events : List Event) :
    (itemsOf api observed events).map Prod.fst = events.filterMap (sequenceOf api) := by
  rw [itemsOf, List.map_filterMap]
  exact List.filterMap_congr fun event _ => itemOf_sequence api observed event

/-- The sequences of a warm-up are those its items identify. -/
theorem mem_sequences (api : DxApi) (phase : List Observation) (sequence : Int) :
    sequence ∈ sequences api (phase.map Observation.call) ↔
      ∃ item ∈ observedItems phase, sequenceOf api item.2 = some sequence := by
  induction phase with
  | nil => simp [sequences, items, observedItems]
  | cons observation phase ih =>
      have split : sequences api ((observation :: phase).map Observation.call) =
          sequences api [observation.call] ∪ sequences api (phase.map Observation.call) := by
        rw [List.map_cons, ← List.singleton_append, sequences, items_append, List.map_append,
          List.toFinset_append]
        rfl
      have first : sequence ∈ sequences api [observation.call] ↔
          ∃ item ∈ observation.items, sequenceOf api item.2 = some sequence := by
        cases observation with
        | takeWindow => simp [sequences, items, Observation.call, Observation.items]
        | handle named marketCallback observed duration =>
            simp only [sequences, items, Observation.call, List.flatMap_singleton,
              List.mem_toFinset, itemsOf_fst, List.mem_filterMap, List.mem_map, Observation.items]
            constructor
            · rintro ⟨event, ⟨item, mem, rfl⟩, identified⟩
              exact ⟨item, mem, identified⟩
            · rintro ⟨item, mem, identified⟩
              exact ⟨item.2, ⟨item, mem, rfl⟩, identified⟩
      rw [split, Finset.mem_union, first, ih]
      simp only [observedItems, List.flatMap_cons, List.mem_append, or_and_right, exists_or]

/-- When the measurement begins, the blacklist has what the warm-up identified. -/
theorem measuring_of_warmup (api : DxApi) (pattern : TaskPattern) (timeout : Int)
    (allowConflation : Bool) (warmup : List Observation) :
    Measuring ((create pattern timeout allowConflation).run api
      (warmup.map Observation.call ++ [.beginMeasurement]))
      (sequences api (warmup.map Observation.call)) := by
  have noBegin : .beginMeasurement ∉ warmup.map Observation.call := by
    intro mem
    obtain ⟨observation, -, same⟩ := List.mem_map.mp mem
    cases observation <;> cases same
  have begun := begun_of_run api pattern timeout allowConflation noBegin
  exact ⟨begun.measuring, begun.acceptingNewBatches, begun.blacklisted_eq⟩

end Collector

/-! ### The filter -/

section Filter

variable (api : DxApi) (limit : Nat) {pending : PendingTask} (rounds : List (Finset Text × Int))

/-- Every observed item belongs to the publication it is named with. -/
def Delivered (pending : PendingTask) (phase : List Observation) : Prop :=
  ∀ item ∈ observedItems phase,
    ∃ events, PublicationOf api limit (startTask pending) rounds item.1 events ∧ item.2 ∈ events

/-- Whether an item identifies a sequence at all. -/
def Identifies (event : Event) : Prop := (sequenceOf api event).isSome = true

/-- A run of one task into one collector: of the items measured, those are refused
that share their sequence with an item of the warm-up. -/
theorem rejects_iff (wellFormed : pending.WellFormed) (timeout : Int) (allowConflation : Bool)
    {warmup measured : List Observation} (early : Delivered api limit rounds pending warmup)
    (late : Delivered api limit rounds pending measured) {n : Nat} {event : Event} :
    Collector.Rejects api ((Collector.create pending.pattern timeout allowConflation).run api
        (warmup.map Observation.call ++ [.beginMeasurement])) measured n event ↔
      (n, event) ∈ observedItems measured ∧ Identifies api event ∧
        ∃ item ∈ observedItems warmup, Identifies api item.2 ∧
          publicationSequence api item.1 = publicationSequence api n := by
  have sequence_of : ∀ {phase : List Observation}, Delivered api limit rounds pending phase →
      ∀ item ∈ observedItems phase, ∀ sequence, sequenceOf api item.2 = some sequence →
        sequence = publicationSequence api item.1 := by
    intro phase delivered item mem sequence identified
    obtain ⟨events, published, inside⟩ := delivered item mem
    exact published.sequenceOf wellFormed inside identified
  rw [(Collector.measuring_of_warmup api _ timeout allowConflation warmup).rejects]
  apply and_congr_right
  intro mem
  constructor
  · rintro ⟨sequence, blacklisted, identified⟩
    obtain ⟨item, observed, same⟩ := (Collector.mem_sequences api warmup sequence).mp blacklisted
    refine ⟨by simp [Identifies, identified], item, observed, by simp [Identifies, same], ?_⟩
    have first := sequence_of early item observed sequence same
    have second := sequence_of late _ mem sequence identified
    exact_mod_cast first.symm.trans second
  · rintro ⟨identifies, item, observed, identifies', same⟩
    obtain ⟨sequence, identified⟩ := Option.isSome_iff_exists.mp identifies
    obtain ⟨sequence', identified'⟩ := Option.isSome_iff_exists.mp identifies'
    refine ⟨sequence, (Collector.mem_sequences api warmup sequence).mpr
      ⟨item, observed, ?_⟩, identified⟩
    rw [identified', sequence_of early item observed sequence' identified',
      sequence_of late _ mem sequence identified, same]

/-- In a run of one task into one collector, only publications of which an item fell
into the warm-up lose measured items to the warm-up filter, exactly when no measured
publication other than these has the sequence of one of them. -/
theorem warmup_filter_iff (wellFormed : pending.WellFormed) (timeout : Int)
    (allowConflation : Bool) {warmup measured : List Observation}
    (early : Delivered api limit rounds pending warmup)
    (late : Delivered api limit rounds pending measured) :
    (∀ n event, Collector.Rejects api
        ((Collector.create pending.pattern timeout allowConflation).run api
          (warmup.map Observation.call ++ [.beginMeasurement])) measured n event →
      n ∈ (observedItems warmup).map Prod.fst) ↔
    ∀ old ∈ observedItems warmup, ∀ new ∈ observedItems measured,
      Identifies api old.2 → Identifies api new.2 →
      new.1 ∉ (observedItems warmup).map Prod.fst →
      publicationSequence api old.1 ≠ publicationSequence api new.1 := by
  constructor
  · intro law old inWarmup new inMeasured identifies identifies' fresh same
    exact fresh (law new.1 new.2 ((rejects_iff api limit rounds wellFormed timeout allowConflation
      early late).mpr ⟨inMeasured, identifies', old, inWarmup, identifies, same⟩))
  · intro apart n event rejects
    obtain ⟨inMeasured, identifies', old, inWarmup, identifies, same⟩ :=
      (rejects_iff api limit rounds wellFormed timeout allowConflation early late).mp rejects
    by_contra fresh
    exact apart old inWarmup (n, event) inMeasured identifies identifies' fresh same

end Filter

/-- A callback with the items of one publication. -/
theorem PublicationOf.delivered {api : DxApi} {limit : Nat} {pending : PendingTask}
    {rounds : List (Finset Text × Int)} {n : Nat} {events : List Event}
    (h : PublicationOf api limit (startTask pending) rounds n events) (marketCallback : Bool)
    (observed duration : Int) : Delivered api limit rounds pending
      [.handle (events.map (n, ·)) marketCallback observed duration] := by
  intro item mem
  simp only [observedItems, Observation.items, List.flatMap_singleton, List.mem_map] at mem
  obtain ⟨event, inside, rfl⟩ := mem
  exact ⟨events, h, inside⟩

/-- Every round of a task publishes its marker. -/
theorem publicationOf_round (api : DxApi) (limit : Nat) {pending : PendingTask}
    (wellFormed : pending.WellFormed) (before after : List (Finset Text × Int))
    (round : Finset Text × Int) :
    ∃ events marker,
      PublicationOf api limit (startTask pending) (before ++ round :: after) (before.length + 1)
        events ∧
      .textMessage marker ∈ events ∧
      marker.text = "LATENCY_BATCH:".toList ++ formatInt round.2 := by
  obtain ⟨active, reached, kept, -⟩ :=
    publishAll_ok api limit (startTask_wellFormed wellFormed) before
  obtain ⟨choices, result, published, h⟩ := publish_ok api limit round.1 round.2 kept
  refine ⟨result.events, result.active.marker, ⟨before, round, after, active, result, rfl, rfl,
    reached, published, rfl⟩, List.mem_of_getLast? h.marker_last, ?_⟩
  rw [h.marker]

/-- Publication 1 is observed in the warm-up, publication 4194304 only during the
measurement. Both have sequence 1, and the marker of the second is refused. -/
theorem measured_publication_refused :
    let pending : PendingTask := ⟨"SUB:Q1".toList, { items := [⟨.quote, 1⟩] }, 1, [], []⟩
    let rounds : List (Finset Text × Int) :=
      (∅, 1000000) :: (List.replicate 4194302 (∅, 1000000) ++ [(∅, 1000000)])
    ∃ first last marker, PublicationOf .release 1000 (startTask pending) rounds 1 first ∧
      PublicationOf .release 1000 (startTask pending) rounds 4194304 last ∧ marker ∈ last ∧
      Collector.Rejects .release ((Collector.create pending.pattern 1000 false).run .release
          ([Observation.handle (first.map (1, ·)) true 2000000 0].map Observation.call ++
            [.beginMeasurement]))
        [.handle (last.map (4194304, ·)) true 3000000 0] 4194304 marker := by
  intro pending rounds
  obtain ⟨first, marker, published, mem, text⟩ :=
    publicationOf_round .release 1000 quotePending_wellFormed []
      (List.replicate 4194302 (∅, 1000000) ++ [(∅, 1000000)]) (∅, 1000000)
  obtain ⟨last, marker', published', mem', text'⟩ :=
    publicationOf_round .release 1000 quotePending_wellFormed
      ((∅, 1000000) :: List.replicate 4194302 (∅, 1000000)) [] (∅, 1000000)
  rw [List.length_cons, List.length_replicate] at published'
  have timestamp : markerTimestamp ("LATENCY_BATCH:".toList ++ formatInt 1000000) =
      some 1000000 := markerTimestamp_formatInt (by decide) (by decide)
  have identifies : ∀ {marker : TextMessage},
      marker.text = "LATENCY_BATCH:".toList ++ formatInt 1000000 →
      Identifies .release (.textMessage marker) := by
    intro marker text
    rw [Identifies, Collector.sequenceOf, text, timestamp]
    rfl
  have wrapped : publicationSequence .release 1 = publicationSequence .release 4194304 := by decide
  refine ⟨first, last, .textMessage marker', published, published', mem', ?_⟩
  refine (rejects_iff .release 1000 rounds quotePending_wellFormed 1000 false
    (published.delivered true 2000000 0) (published'.delivered true 3000000 0)).mpr
    ⟨?_, identifies text', (1, .textMessage marker), ?_, identifies text, wrapped⟩
  · simpa [observedItems, Observation.items] using mem'
  · simpa [observedItems, Observation.items] using mem

/-- The first publication in the warm-up and the second in the measurement: nothing
of the second is refused. -/
theorem warmup_filter_iff_second :
    let pending : PendingTask := ⟨"SUB:Q1".toList, { items := [⟨.quote, 1⟩] }, 1, [], []⟩
    let rounds : List (Finset Text × Int) := [(∅, 1000000), (∅, 2000000)]
    ∃ first second, PublicationOf .release 1000 (startTask pending) rounds 1 first ∧
      PublicationOf .release 1000 (startTask pending) rounds 2 second ∧
      ∀ event, ¬ Collector.Rejects .release
        ((Collector.create pending.pattern 1000 false).run .release
          ([Observation.handle (first.map (1, ·)) true 2000000 0].map Observation.call ++
            [.beginMeasurement]))
        [.handle (second.map (2, ·)) true 3000000 0] 2 event := by
  intro pending rounds
  obtain ⟨first, -, published, -⟩ :=
    publicationOf_round .release 1000 quotePending_wellFormed [] [(∅, 2000000)] (∅, 1000000)
  obtain ⟨second, -, published', -⟩ :=
    publicationOf_round .release 1000 quotePending_wellFormed [(∅, 1000000)] [] (∅, 2000000)
  refine ⟨first, second, published, published', ?_⟩
  intro event rejects
  have apart : publicationSequence .release 1 ≠ publicationSequence .release 2 := by decide
  have law := (warmup_filter_iff .release 1000 rounds quotePending_wellFormed 1000 false
    (published.delivered true 2000000 0) (published'.delivered true 3000000 0)).mpr ?_
  · have old := law 2 event rejects
    simp [observedItems, Observation.items] at old
  · intro old inWarmup new inMeasured _ _ _
    obtain ⟨-, -, rfl⟩ : ∃ event ∈ first, (1, event) = old := by
      simpa [observedItems, Observation.items] using inWarmup
    obtain ⟨-, -, rfl⟩ : ∃ event ∈ second, (2, event) = new := by
      simpa [observedItems, Observation.items] using inMeasured
    exact apart

end LatencyTest
