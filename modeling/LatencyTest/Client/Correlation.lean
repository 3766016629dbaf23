import LatencyTest.Client.Publication

/-!
The collector refines the publication machine. Every operation of the collector
is described once, by what it changes: the configuration never, the pending
batch of one sequence, the ledger by a known amount (`Gains`, `Advances`). From
these descriptions each callback is a run of `publicationMachine` over the items
it carries, and so is the expiry loop of `takeWindow`.
-/

namespace LatencyTest

open Lib (entrySum entryWeight KeyedMachine)

namespace Collector

def ledger (c : Collector) : Ledger where
  delivery := c.deliveryTotal
  eventSamples kind := c.eventGlobalByKind kind
  batchSamples := c.batchGlobal
  negative := c.negativeTotal
  missing := c.missingTotal

def rules (c : Collector) : Rules := ⟨c.expectedByKind, c.allowConflation⟩

/-- The two collectors correlate by the same configuration and in the same phase. -/
structure SamePhase (c c' : Collector) : Prop where
  expectedByKind : c'.expectedByKind = c.expectedByKind
  batchTimeout : c'.batchTimeout = c.batchTimeout
  allowConflation : c'.allowConflation = c.allowConflation
  measuring : c'.measuring = c.measuring
  acceptingNewBatches : c'.acceptingNewBatches = c.acceptingNewBatches
  preMeasurementSequences : c'.preMeasurementSequences = c.preMeasurementSequences

theorem SamePhase.refl (c : Collector) : SamePhase c c := ⟨rfl, rfl, rfl, rfl, rfl, rfl⟩

theorem SamePhase.trans {a b c : Collector} (h : SamePhase a b) (h' : SamePhase b c) :
    SamePhase a c :=
  ⟨h'.1.trans h.1, h'.2.trans h.2, h'.3.trans h.3, h'.4.trans h.4, h'.5.trans h.5, h'.6.trans h.6⟩

theorem SamePhase.rules_eq {c c' : Collector} (h : SamePhase c c') : c'.rules = c.rules := by
  simp only [rules, h.expectedByKind, h.allowConflation]

/-- The pending batches stay and the ledger grows by `gain`. -/
structure Gains (c c' : Collector) (gain : Ledger) : Prop where
  phase : SamePhase c c'
  pending : c'.pending = c.pending
  ledger : c'.ledger = c.ledger + gain

theorem Gains.refl (c : Collector) : Gains c c 0 := ⟨.refl c, rfl, (add_zero _).symm⟩

theorem Gains.trans {a b c : Collector} {gain gain' : Ledger} (h : Gains a b gain)
    (h' : Gains b c gain') : Gains a c (gain + gain') :=
  ⟨h.phase.trans h'.phase, h'.pending.trans h.pending, by rw [h'.ledger, h.ledger, add_assoc]⟩

/-- The batch of one sequence becomes `state` and the ledger grows by `gain`. -/
structure Advances (c c' : Collector) (sequence : Int) (state : Option PendingBatch)
    (gain : Ledger) : Prop where
  phase : SamePhase c c'
  pending : ∀ k : Int, c'.pending[k]? = if k = sequence then state else c.pending[k]?
  ledger : c'.ledger = c.ledger + gain

theorem Gains.advances {a b c : Collector} {sequence : Int} {state : Option PendingBatch}
    {gain gain' : Ledger} (h : Gains a b gain) (h' : Advances b c sequence state gain') :
    Advances a c sequence state (gain + gain') :=
  ⟨h.phase.trans h'.phase, fun k => by rw [h'.pending, h.pending],
    by rw [h'.ledger, h.ledger, add_assoc]⟩

/-! ### One operation each -/

theorem gains_deliver (c : Collector) (increments : DeliveryCounters) :
    Gains c (c.deliver increments) { delivery := increments } :=
  ⟨⟨rfl, rfl, rfl, rfl, rfl, rfl⟩, rfl, by ext1 <;> simp [ledger, deliver, funext_iff]⟩

theorem gains_countNegative (c : Collector) : Gains c c.countNegative { negative := 1 } :=
  ⟨⟨rfl, rfl, rfl, rfl, rfl, rfl⟩, rfl, by ext1 <;> simp [ledger, countNegative, funext_iff]⟩

/-- `finish` counts a batch as missing only when it is not complete. -/
theorem gains_countMissing (c : Collector) (complete : Bool) :
    Gains c (if complete then c else c.countMissing) (c.rules.missed complete) := by
  unfold countMissing Rules.missed
  cases complete with
  | true => exact ⟨.refl c, rfl, by ext1 <;> simp [ledger, funext_iff]⟩
  | false =>
      simp only [Bool.false_eq_true, ↓reduceIte, Bool.false_or]
      split
      · rename_i conflation
        exact ⟨.refl c, rfl, by ext1 <;> simp [ledger, rules, conflation, funext_iff]⟩
      · rename_i conflation
        exact ⟨⟨rfl, rfl, rfl, rfl, rfl, rfl⟩, rfl,
          by ext1 <;> simp [ledger, rules, conflation, funext_iff]⟩

/-- Recording one more sample, with the order forgotten. -/
theorem coe_snoc (samples : List Int) (sample : Int) :
    ((samples ++ [sample] : List Int) : Multiset Int) = samples + {sample} :=
  (Multiset.coe_add samples [sample]).symm

theorem gains_emitEvent (publishTime : Int) (c : Collector) (event : PendingEvent) :
    Gains c (emitEvent publishTime c event) (emission publishTime [event]) := by
  unfold emitEvent
  dsimp only
  split
  · rename_i early
    have gain : emission publishTime [event] = { negative := 1 } := by
      have before : event.observed < publishTime := by omega
      have late : ¬ publishTime ≤ event.observed := by omega
      ext1
      · rfl
      · funext kind
        by_cases same : event.kind = kind <;> simp [emission, same, late]
      · rfl
      · simp [emission, before]
      · rfl
    rw [gain]
    exact gains_countNegative c
  · rename_i notEarly
    refine ⟨⟨rfl, rfl, rfl, rfl, rfl, rfl⟩, rfl, ?_⟩
    have late : publishTime ≤ event.observed := by omega
    ext1
    · simp [ledger, emission]
    · funext kind
      by_cases same : event.kind = kind
      · subst same
        simp [ledger, emission, late, coe_snoc]
      · simp [ledger, emission, same, Function.update_of_ne (Ne.symm same)]
    · simp [ledger, emission]
    · simp [ledger, emission, late]
    · simp [ledger, emission]

theorem gains_foldl_emitEvent (publishTime : Int) (c : Collector) (events : List PendingEvent) :
    Gains c (events.foldl (emitEvent publishTime) c) (emission publishTime events) := by
  induction events generalizing c with
  | nil => simpa [emission_nil] using Gains.refl c
  | cons event events ih =>
      have split : emission publishTime (event :: events) =
          emission publishTime [event] + emission publishTime events :=
        emission_append publishTime [event] events
      rw [split]
      exact (gains_emitEvent publishTime c event).trans (ih _)

/-- `emitEvents` records what is known of the batch and drains it. -/
theorem emitEvents_spec (c : Collector) (batch : PendingBatch) :
    Gains c (c.emitEvents batch).1 batch.emitted ∧ (c.emitEvents batch).2 = batch.drained := by
  unfold emitEvents PendingBatch.emitted PendingBatch.drained
  cases batch.timestamp with
  | none => exact ⟨.refl c, rfl⟩
  | some publishTime => exact ⟨gains_foldl_emitEvent publishTime c batch.events, rfl⟩

theorem gains_sampleBatch (c : Collector) (batch : PendingBatch) (publishTime : Int) :
    Gains c (c.sampleBatch batch publishTime) (batch.batchSample publishTime) := by
  unfold sampleBatch PendingBatch.batchSample
  dsimp only
  split
  · exact .refl c
  · split
    · exact gains_countNegative c
    · exact ⟨⟨rfl, rfl, rfl, rfl, rfl, rfl⟩, rfl,
        by ext1 <;> simp [ledger, coe_snoc, funext_iff]⟩

theorem advances_erase (c : Collector) (sequence : Int) :
    Advances c (c.erase sequence) sequence none 0 :=
  ⟨⟨rfl, rfl, rfl, rfl, rfl, rfl⟩, fun k => Lib.getElem?_erase c.pending sequence k,
    (add_zero _).symm⟩

/-- Draining changes neither the counts nor the times of a batch. -/
theorem drained_settlement (batch : PendingBatch) (expected : RegularKind → Nat) :
    batch.drained.settlement expected = batch.settlement expected ∧
      batch.drained.complete expected = batch.complete expected ∧
      batch.drained.timestamp = batch.timestamp ∧
      (∀ publishTime, batch.drained.batchSample publishTime = batch.batchSample publishTime) := by
  unfold PendingBatch.drained
  cases h : batch.timestamp with
  | none => exact ⟨rfl, rfl, h, fun _ => rfl⟩
  | some publishTime => exact ⟨rfl, rfl, rfl, fun _ => rfl⟩

/-- `finish` removes the batch and adds its closing to the ledger. -/
theorem finish_spec (c : Collector) (sequence : Int) (batch : PendingBatch) :
    Advances c (c.finish sequence batch) sequence none (c.rules.closing batch) := by
  unfold finish Rules.closing
  cases stamped : batch.timestamp with
  | none =>
      have counted := gains_countMissing (c.deliver { uncorrelatedEvents := batch.received }) false
      have gain := ((gains_deliver c { uncorrelatedEvents := batch.received }).trans
        counted).advances (advances_erase _ sequence)
      rwa [add_zero] at gain
  | some publishTime =>
      obtain ⟨emitted, drained⟩ := emitEvents_spec c batch
      obtain ⟨settlement, complete, -, sample⟩ := drained_settlement batch c.expectedByKind
      dsimp only
      rw [drained]
      have same := emitted.phase
      generalize (c.emitEvents batch).1 = c₁ at emitted same ⊢
      rw [same.expectedByKind, settlement]
      have delivered := gains_deliver c₁ (batch.settlement c.expectedByKind)
      have ruled : (c₁.deliver (batch.settlement c.expectedByKind)).rules = c.rules :=
        (same.trans delivered.phase).rules_eq
      rw [(same.trans delivered.phase).expectedByKind, complete]
      have missed := gains_countMissing (c₁.deliver (batch.settlement c.expectedByKind))
        (batch.complete c.expectedByKind)
      rw [ruled] at missed
      have sampled := gains_sampleBatch
        (if batch.complete c.expectedByKind then c₁.deliver (batch.settlement c.expectedByKind)
          else (c₁.deliver (batch.settlement c.expectedByKind)).countMissing)
        batch.drained publishTime
      rw [sample] at sampled
      have all := (((emitted.trans delivered).trans missed).trans sampled).advances
        (advances_erase _ sequence)
      rwa [add_zero] at all

/-- `emitEvents` followed by `store`: the batch is settled. -/
theorem settle_spec (c : Collector) (sequence : Int) (batch : PendingBatch) (ready : Bool) :
    Advances c ((c.emitEvents batch).1.store sequence (c.emitEvents batch).2 ready) sequence
      (c.rules.settle batch ready).1 (c.rules.settle batch ready).2 := by
  obtain ⟨emitted, drained⟩ := emitEvents_spec c batch
  rw [drained]
  have ruled := emitted.phase.rules_eq
  generalize (c.emitEvents batch).1 = c₁ at emitted ruled ⊢
  have stored : Advances c₁ { c₁ with pending := c₁.pending.insert sequence batch.drained }
      sequence (some batch.drained) 0 :=
    ⟨⟨rfl, rfl, rfl, rfl, rfl, rfl⟩, fun k => Lib.getElem?_insert c₁.pending sequence k _,
      (add_zero _).symm⟩
  unfold store Rules.settle
  dsimp only
  cases ready with
  | false => simpa using emitted.advances stored
  | true =>
      simp only [↓reduceIte]
      have finished := finish_spec { c₁ with pending := c₁.pending.insert sequence batch.drained }
        sequence batch.drained
      refine ⟨emitted.phase.trans (stored.phase.trans finished.phase), ?_, ?_⟩
      · intro k
        rw [finished.pending]
        split
        · rfl
        · rename_i other
          rw [stored.pending, if_neg other, emitted.pending]
      · rw [finished.ledger, stored.ledger, emitted.ledger, add_zero, add_assoc, ← ruled]
        rfl

/-! ### Items -/

/-- The sequence and the item of a market event. -/
def marketItem (api : DxApi) (observed : Int) (event : Event) : Option (Int × Item) :=
  (describe api event).bind fun description =>
    description.sequence.map fun sequence =>
      (sequence, .event
        ⟨observed, description.sourceTimeMs, description.kind, description.symbol⟩)

/-- The sequence and the item an event carries, if it takes part in correlation. -/
def itemOf (api : DxApi) (observed : Int) (event : Event) : Option (Int × Item) :=
  match event with
  | .textMessage marker =>
      (markerTimestamp marker.text).map fun timestamp =>
        (marker.sequence, .marker timestamp observed)
  | event => marketItem api observed event

/-- An event takes part in correlation exactly when it identifies a sequence. -/
theorem itemOf_sequence (api : DxApi) (observed : Int) (event : Event) :
    (itemOf api observed event).map Prod.fst = sequenceOf api event := by
  cases event with
  | textMessage marker => cases h : markerTimestamp marker.text <;> simp [itemOf, sequenceOf, h]
  | _ event => simp [itemOf, marketItem, sequenceOf, Option.map_bind, Function.comp_def]

/-- What an event carries is never an expiry. -/
theorem itemOf_live {api : DxApi} {observed : Int} {event : Event} {carried : Int × Item}
    (h : itemOf api observed event = some carried) : carried.2 ≠ .expire := by
  have market : ∀ {event : Event}, marketItem api observed event = some carried →
      carried.2 ≠ .expire := by
    intro event found
    obtain ⟨description, -, mapped⟩ := Option.bind_eq_some_iff.mp found
    obtain ⟨sequence, -, rfl⟩ := Option.map_eq_some_iff.mp mapped
    simp
  cases event with
  | textMessage marker =>
      obtain ⟨timestamp, -, rfl⟩ := Option.map_eq_some_iff.mp h
      simp
  | _ event => exact market h

/-- The machine this collector refines. -/
def machine (c : Collector) : KeyedMachine Int (Option PendingBatch) Arrival Ledger :=
  publicationMachine c.rules c.preMeasurementSequences

def batches (c : Collector) (sequence : Int) : Option PendingBatch := c.pending[sequence]?

/-- The arrival of an item under the current phase. -/
def arrival (c : Collector) (item : Item) : Arrival := ⟨c.acceptingNewBatches, item⟩

/-- `acceptBatch` is the admission test of the machine. -/
theorem acceptBatch_iff (c : Collector) (sequence : Int) :
    c.acceptBatch sequence = true ↔
      sequence ∉ c.preMeasurementSequences ∧
        (c.acceptingNewBatches = true ∨ (c.batches sequence).isSome = true) := by
  unfold acceptBatch batches
  split
  · simp_all
  · simp_all [Std.TreeMap.isSome_getElem?_eq_contains]

/-- An accepted item changes the batch of its sequence by `Rules.accept`. -/
theorem step_accepted {c : Collector} {sequence : Int} {item : Item} (live : item ≠ .expire)
    (accepted : c.acceptBatch sequence = true) :
    c.machine.step sequence (c.batches sequence) (c.arrival item) =
      c.rules.accept (c.batches sequence) item := by
  exact step_admitted c.rules live ((acceptBatch_iff c sequence).mp accepted)

/-- A rejected item changes nothing. -/
theorem step_rejected {c : Collector} {sequence : Int} {item : Item} (live : item ≠ .expire)
    (rejected : c.acceptBatch sequence = false) :
    c.machine.step sequence (c.batches sequence) (c.arrival item) =
      (c.batches sequence, 0) := by
  exact step_barred c.rules live (mt (acceptBatch_iff c sequence).mpr (by simp [rejected]))

theorem advances_refl (c : Collector) (sequence : Int) :
    Advances c c sequence (c.batches sequence) 0 := by
  refine ⟨.refl c, ?_, (add_zero _).symm⟩
  intro k
  split
  · rename_i same
    rw [same, batches]
  · rfl

/-- One step of the collector follows one step of its machine. -/
def Steps (c c' : Collector) (sequence : Int) (item : Item) : Prop :=
  Advances c c' sequence (c.machine.step sequence (c.batches sequence) (c.arrival item)).1
    (c.machine.step sequence (c.batches sequence) (c.arrival item)).2

theorem addEvent_spec (c : Collector) (sequence : Int) (event : PendingEvent) :
    Steps c (c.addEvent sequence event) sequence (.event event) := by
  unfold Steps addEvent
  by_cases accepted : c.acceptBatch sequence = true
  · rw [step_accepted (by simp) accepted, if_neg (by simp [accepted])]
    let batch := ((c.batches sequence).getD {}).observeEvent event
    have drained : (c.emitEvents batch).2 = batch.drained := (emitEvents_spec c batch).2
    have same := (emitEvents_spec c batch).1.phase.expectedByKind
    obtain ⟨-, complete, stamped, -⟩ := drained_settlement batch c.expectedByKind
    have ready : ((c.emitEvents batch).2.timestamp.isSome &&
        (c.emitEvents batch).1.hasExpectedComposition (c.emitEvents batch).2) =
        (batch.timestamp.isSome && batch.complete c.expectedByKind) := by
      rw [hasExpectedComposition, drained, same, complete, stamped]
    have settled := settle_spec c sequence batch
      (batch.timestamp.isSome && batch.complete c.expectedByKind)
    rw [← ready] at settled
    simp only [Rules.accept, rules]
    rw [← ready]
    exact settled
  · rw [step_rejected (by simp) (by simpa using accepted), if_pos (by simpa using accepted)]
    exact advances_refl c sequence

theorem addMarker_spec (c : Collector) (sequence timestamp observed : Int) :
    Steps c (c.addMarker sequence timestamp observed) sequence (.marker timestamp observed) := by
  unfold Steps addMarker
  by_cases accepted : c.acceptBatch sequence = true
  · rw [step_accepted (by simp) accepted, if_neg (by simp [accepted])]
    let before := (c.batches sequence).getD {}
    let published : DeliveryCounters := { published := c.expectedByKind }
    let c₁ := if before.timestamp.isNone then c.deliver published else c
    have gained : Gains c c₁
        (if before.timestamp.isNone then { delivery := published } else 0) := by
      simp only [c₁]
      split
      · exact gains_deliver c published
      · exact .refl c
    let batch := before.observeMarker timestamp observed
    have drained : (c₁.emitEvents batch).2 = batch.drained := (emitEvents_spec c₁ batch).2
    have same := (emitEvents_spec c₁ batch).1.phase.expectedByKind
    obtain ⟨-, complete, -, -⟩ := drained_settlement batch c.expectedByKind
    have ready : (c₁.emitEvents batch).1.hasExpectedComposition (c₁.emitEvents batch).2 =
        batch.complete c.expectedByKind := by
      rw [hasExpectedComposition, drained, same, gained.phase.expectedByKind, complete]
    have settled :=
      gained.advances (settle_spec c₁ sequence batch (batch.complete c.expectedByKind))
    rw [gained.phase.rules_eq] at settled
    simp only [Rules.accept, rules] at settled ⊢
    rw [← ready] at settled ⊢
    exact settled
  · rw [step_rejected (by simp) (by simpa using accepted), if_pos (by simpa using accepted)]
    exact advances_refl c sequence

/-- The source-time selections are no part of correlation. -/
theorem gains_observeSourceTime (c : Collector) (description : Description) (observed : Int) :
    Gains c (c.observeSourceTime description observed) 0 := by
  unfold observeSourceTime
  split
  · exact ⟨⟨rfl, rfl, rfl, rfl, rfl, rfl⟩, rfl, (add_zero _).symm⟩
  · exact .refl c

/-- A gain of nothing leaves the machine's view unchanged. -/
theorem Gains.steps {a b c : Collector} {sequence : Int} {item : Item} (h : Gains a b 0)
    (h' : Steps b c sequence item) : Steps a c sequence item := by
  have same : b.machine = a.machine := by
    rw [machine, machine, h.phase.rules_eq, h.phase.preMeasurementSequences]
  have advanced := h.advances h'
  rw [same, zero_add] at advanced
  simpa only [Steps, batches, h.pending, arrival, h.phase.acceptingNewBatches] using advanced

/-- Following one event: nothing when it identifies no sequence, else one step. -/
def StepsBy (c c' : Collector) : Option (Int × Item) → Prop
  | none => Gains c c' 0
  | some (sequence, item) => Steps c c' sequence item

theorem handleMarketEvent_spec (api : DxApi) (observed : Int) (c : Collector) (event : Event) :
    StepsBy c (handleMarketEvent api observed c event) (marketItem api observed event) := by
  unfold handleMarketEvent marketItem
  cases describe api event with
  | none => exact .refl c
  | some description =>
      have noted := gains_observeSourceTime c description observed
      cases h : description.sequence with
      | none => simpa [h, StepsBy] using noted
      | some sequence => simpa [h, StepsBy] using noted.steps (addEvent_spec _ sequence _)

theorem handleEvent_spec (api : DxApi) (observed : Int) (c : Collector) (event : Event) :
    StepsBy c (handleEvent api observed c event) (itemOf api observed event) := by
  unfold itemOf handleEvent
  cases event with
  | textMessage marker =>
      dsimp only
      cases markerTimestamp marker.text with
      | none => exact Gains.refl c
      | some timestamp => exact addMarker_spec c marker.sequence timestamp observed
  | _ event => exact handleMarketEvent_spec api observed c _

/-! ### Runs -/

/-- From `c` to `c'` the collector followed its machine over `inputs`. -/
structure Follows (c c' : Collector) (inputs : List (Int × Arrival)) : Prop where
  rules : c'.rules = c.rules
  preMeasurementSequences : c'.preMeasurementSequences = c.preMeasurementSequences
  measuring : c'.measuring = c.measuring
  batchTimeout : c'.batchTimeout = c.batchTimeout
  batches : c'.batches = (c.machine.run c.batches inputs).1
  ledger : c'.ledger = c.ledger + (c.machine.run c.batches inputs).2

theorem Follows.machine_eq {c c' : Collector} {inputs : List (Int × Arrival)}
    (h : Follows c c' inputs) : c'.machine = c.machine := by
  rw [machine, machine, h.rules, h.preMeasurementSequences]

theorem Follows.refl (c : Collector) : Follows c c [] :=
  ⟨rfl, rfl, rfl, rfl, rfl, (add_zero _).symm⟩

theorem Follows.trans {a b c : Collector} {xs ys : List (Int × Arrival)} (h : Follows a b xs)
    (h' : Follows b c ys) : Follows a c (xs ++ ys) := by
  have joined := a.machine.run_append a.batches xs ys
  refine ⟨h'.rules.trans h.rules, h'.2.trans h.2, h'.3.trans h.3, h'.4.trans h.4, ?_, ?_⟩
  · rw [h'.batches, h.machine_eq, h.batches, joined]
  · rw [h'.ledger, h.ledger, h.machine_eq, h.batches, joined, add_assoc]

/-- A change outside correlation is followed by no input. -/
theorem Gains.follows {c c' : Collector} (h : Gains c c' 0) : Follows c c' [] :=
  ⟨h.phase.rules_eq, h.phase.preMeasurementSequences, h.phase.measuring, h.phase.batchTimeout,
    by funext k; simp only [Collector.batches, h.pending, KeyedMachine.run],
    by rw [h.ledger]; rfl⟩

/-- One step is followed by one input. -/
theorem Advances.follows {c c' : Collector} {sequence : Int} {arrival : Arrival}
    (h : Advances c c' sequence (c.machine.step sequence (c.batches sequence) arrival).1
      (c.machine.step sequence (c.batches sequence) arrival).2) :
    Follows c c' [(sequence, arrival)] := by
  refine ⟨h.phase.rules_eq, h.phase.preMeasurementSequences, h.phase.measuring,
    h.phase.batchTimeout, ?_, ?_⟩
  · funext k
    simp only [KeyedMachine.run, Collector.batches, h.pending, Function.update_apply]
  · simp only [KeyedMachine.run, h.ledger, add_zero]

/-- The items of one callback, in order. -/
def itemsOf (api : DxApi) (observed : Int) (events : List Event) : List (Int × Item) :=
  events.filterMap (itemOf api observed)

/-- Items arriving while new sequences are or are not accepted. -/
def arrivals (accepting : Bool) (items : List (Int × Item)) : List (Int × Arrival) :=
  items.map fun item => (item.1, ⟨accepting, item.2⟩)

/-- Processing the events of a callback follows the items it carries. -/
theorem foldl_handleEvent_follows (api : DxApi) (observed : Int) (c : Collector)
    (events : List Event) :
    Follows c (events.foldl (handleEvent api observed) c)
        (arrivals c.acceptingNewBatches (itemsOf api observed events)) ∧
      (events.foldl (handleEvent api observed) c).acceptingNewBatches = c.acceptingNewBatches := by
  induction events generalizing c with
  | nil => exact ⟨.refl c, rfl⟩
  | cons event events ih =>
      obtain ⟨rest, accepting⟩ := ih (handleEvent api observed c event)
      have first := handleEvent_spec api observed c event
      cases carried : itemOf api observed event with
      | none =>
          rw [carried] at first
          have same := first.phase.acceptingNewBatches
          rw [same] at rest accepting
          refine ⟨?_, accepting⟩
          simpa [arrivals, itemsOf, carried] using first.follows.trans rest
      | some item =>
          rw [carried] at first
          have same := first.phase.acceptingNewBatches
          rw [same] at rest accepting
          refine ⟨?_, accepting⟩
          simpa [arrivals, itemsOf, carried, arrival] using (Advances.follows first).trans rest

/-- Finishing a pending batch follows its expiry. -/
theorem finish_follows {c : Collector} {sequence : Int} {batch : PendingBatch}
    (found : c.pending[sequence]? = some batch) :
    Follows c (c.finish sequence batch) [(sequence, c.arrival .expire)] := by
  apply Advances.follows
  rw [batches, found]
  exact finish_spec c sequence batch

/-- The batches `takeWindow` finishes. -/
def expired (c : Collector) (expireAll : Bool) (now : Int) : List (Int × PendingBatch) :=
  c.pending.toList.filter fun entry => c.expires expireAll now entry.2

/-- The expiry of each of the entries. -/
def expiries (entries : List (Int × PendingBatch)) : List (Int × Item) :=
  entries.map fun entry => (entry.1, .expire)

/-- The expiry loop over entries of distinct sequences, all of them pending. -/
theorem foldl_finish_follows {c : Collector} {entries : List (Int × PendingBatch)}
    (expires : PendingBatch → Bool) (distinct : entries.Pairwise fun a b => a.1 ≠ b.1)
    (found : ∀ entry ∈ entries, c.pending[entry.1]? = some entry.2) :
    let after := entries.foldl
      (fun current entry => if expires entry.2 then current.finish entry.1 entry.2 else current) c
    Follows c after
        (arrivals c.acceptingNewBatches (expiries (entries.filter fun entry => expires entry.2))) ∧
      after.acceptingNewBatches = c.acceptingNewBatches := by
  induction entries generalizing c with
  | nil => exact ⟨.refl c, rfl⟩
  | cons entry entries ih =>
      obtain ⟨fresh, distinct⟩ := List.pairwise_cons.mp distinct
      have here := found entry List.mem_cons_self
      simp only [List.foldl_cons]
      by_cases due : expires entry.2 = true
      · have finished := finish_spec c entry.1 entry.2
        have still : ∀ other ∈ entries,
            (c.finish entry.1 entry.2).pending[other.1]? = some other.2 := fun other mem => by
          rw [finished.pending, if_neg (fresh other mem).symm]
          exact found other (List.mem_cons_of_mem _ mem)
        obtain ⟨rest, accepting⟩ := ih distinct still
        rw [finished.phase.acceptingNewBatches] at rest accepting
        rw [if_pos due, List.filter_cons_of_pos (by simpa using due)]
        exact ⟨(finish_follows here).trans rest, accepting⟩
      · rw [if_neg due, List.filter_cons_of_neg (by simpa using due)]
        exact ih distinct fun other mem => found other (List.mem_cons_of_mem _ mem)

theorem expirePending_follows (c : Collector) (expireAll : Bool) (now : Int) :
    Follows c (c.expirePending expireAll now)
        (arrivals c.acceptingNewBatches (expiries (c.expired expireAll now))) ∧
      (c.expirePending expireAll now).acceptingNewBatches = c.acceptingNewBatches :=
  foldl_finish_follows (c.expires expireAll now) (Lib.toList_keys_pairwise c.pending)
    fun _ mem => Std.TreeMap.mem_toList_iff_getElem?_eq_some.mp mem

/-- Expiring everything closes every pending batch. -/
theorem expirePending_all_ledger (c : Collector) (now : Int) :
    (c.expirePending true now).ledger = c.ledger + entrySum c.rules.closing c.pending := by
  have fold : ∀ (entries : List (Int × PendingBatch)) (current : Collector),
      (entries.foldl (fun current entry =>
        if c.expires true now entry.2 then current.finish entry.1 entry.2 else current)
        current).ledger =
      current.ledger + (entries.map fun entry => current.rules.closing entry.2).sum := by
    intro entries
    induction entries with
    | nil => simp
    | cons entry entries ih =>
        intro current
        have finished := finish_spec current entry.1 entry.2
        rw [List.foldl_cons, if_pos (by simp [expires]), ih, finished.ledger,
          finished.phase.rules_eq, List.map_cons, List.sum_cons, add_assoc]
  exact fold c.pending.toList c

end Collector

end LatencyTest
