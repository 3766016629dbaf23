import LatencyTest.Client.Runs

/-!
The balance of the delivery counters. They are written at different moments:
`published` when the first marker of a batch arrives, everything else when the
batch is finished, which may be a marker, an event or an expiry. `Accounted` is
what holds between the counters and the pending batches at any time, and every
operation of the collector keeps it, whatever arrives.
-/

namespace LatencyTest

open Lib (entrySum entryWeight)

/-- The publications whose outcome is decided. -/
def DeliveryCounters.settled (d : DeliveryCounters) : Nat :=
  d.fullPublications + d.partialPublications + d.emptyPublications

@[simp] theorem DeliveryCounters.settled_zero : (0 : DeliveryCounters).settled = 0 := rfl

@[simp] theorem DeliveryCounters.settled_add (a b : DeliveryCounters) :
    (a + b).settled = a.settled + b.settled := by
  simp only [settled, add_fullPublications, add_partialPublications, add_emptyPublications]
  omega

/-- One for a batch with a timestamp. -/
def PendingBatch.stamped (batch : PendingBatch) : Nat := if batch.timestamp.isSome then 1 else 0

/-- One for a batch without a timestamp. -/
def PendingBatch.unmarked (batch : PendingBatch) : Nat := if batch.timestamp.isSome then 0 else 1

/-! ### One step of a publication -/

/-- What a step of a publication may add to the ledger: `published` pays for the
batches that become stamped or settled, the outcomes for the settled ones. -/
structure Balanced (rules : Rules) (before after unmarked : Nat) (gain : Ledger) : Prop where
  published : ∀ kind, gain.delivery.published kind + rules.expectedByKind kind * before =
    rules.expectedByKind kind * (gain.delivery.settled + after)
  outcome : ∀ kind, gain.delivery.delivered kind + gain.delivery.listenerDeficit kind =
    rules.expectedByKind kind * gain.delivery.settled + gain.delivery.excess kind
  missing : gain.missing = if rules.allowConflation then 0
    else gain.delivery.partialPublications + gain.delivery.emptyPublications + unmarked

theorem Balanced.zero (rules : Rules) (stamped : Nat) : Balanced rules stamped stamped 0 0 :=
  ⟨fun kind => by simp, fun kind => by simp, by simp⟩

theorem Balanced.trans {rules : Rules} {a b c u v : Nat} {gain gain' : Ledger}
    (h : Balanced rules a b u gain) (h' : Balanced rules b c v gain') :
    Balanced rules a c (u + v) (gain + gain') := by
  refine ⟨?_, ?_, ?_⟩
  · intro kind
    have first := h.published kind
    have second := h'.published kind
    simp only [Ledger.add_delivery, DeliveryCounters.add_published, DeliveryCounters.settled_add]
    rw [Nat.mul_add] at first second ⊢
    rw [Nat.mul_add]
    omega
  · intro kind
    have first := h.outcome kind
    have second := h'.outcome kind
    simp only [Ledger.add_delivery, DeliveryCounters.add_delivered,
      DeliveryCounters.add_listenerDeficit, DeliveryCounters.add_excess,
      DeliveryCounters.settled_add, Nat.mul_add]
    omega
  · simp only [Ledger.add_missing, h.missing, h'.missing, Ledger.add_delivery,
      DeliveryCounters.add_partialPublications, DeliveryCounters.add_emptyPublications]
    split <;> omega

/-- Batches that a step does not touch do not unbalance it. -/
theorem Balanced.frame {rules : Rules} {a b u : Nat} {gain : Ledger}
    (h : Balanced rules a b u gain) (others : Nat) :
    Balanced rules (a + others) (b + others) u gain := by
  refine ⟨?_, h.outcome, h.missing⟩
  intro kind
  have published := h.published kind
  simp only [Nat.mul_add] at published ⊢
  omega

/-- A gain without delivery counters and missing batches moves nothing. -/
theorem Balanced.neutral (rules : Rules) (stamped : Nat) {gain : Ledger}
    (delivery : gain.delivery = 0) (missing : gain.missing = 0) :
    Balanced rules stamped stamped 0 gain :=
  ⟨fun kind => by simp [delivery], fun kind => by simp [delivery], by simp [delivery, missing]⟩

namespace Rules

variable (rules : Rules)

theorem emitted_balanced (batch : PendingBatch) (stamped : Nat) :
    Balanced rules stamped stamped 0 batch.emitted := by
  refine .neutral rules stamped ?_ ?_ <;>
  · unfold PendingBatch.emitted
    cases batch.timestamp <;> rfl

theorem batchSample_balanced (batch : PendingBatch) (publishTime : Int) (stamped : Nat) :
    Balanced rules stamped stamped 0 (batch.batchSample publishTime) := by
  refine .neutral rules stamped ?_ ?_ <;>
  · unfold PendingBatch.batchSample
    split
    · rfl
    · split <;> rfl

/-- A settlement decides one publication. -/
theorem settled_settlement (batch : PendingBatch) (expectedByKind : RegularKind → Nat) :
    (batch.settlement expectedByKind).settled = 1 := by
  unfold DeliveryCounters.settled PendingBatch.settlement
  by_cases complete : batch.complete expectedByKind = true <;>
    by_cases empty : batch.received = 0 <;> simp [complete, empty]

/-- The settlement of a stamped batch, together with its missing count. -/
theorem settlement_balanced (batch : PendingBatch) :
    Balanced rules 1 0 0 ({ delivery := batch.settlement rules.expectedByKind } +
      rules.missed (batch.complete rules.expectedByKind)) := by
  have decided := settled_settlement batch rules.expectedByKind
  refine ⟨?_, ?_, ?_⟩
  · intro kind
    simp only [Ledger.add_delivery, missed, add_zero, decided]
    simp [PendingBatch.settlement]
  · intro kind
    simp only [Ledger.add_delivery, missed, add_zero, decided]
    simp only [PendingBatch.settlement, Nat.mul_one]
    split <;> split <;> omega
  · by_cases complete : batch.complete rules.expectedByKind = true <;>
      by_cases empty : batch.received = 0 <;>
      cases conflation : rules.allowConflation <;>
      simp [missed, PendingBatch.settlement, complete, empty, conflation]

/-- Finishing a batch settles it if it is stamped. -/
theorem closing_balanced (batch : PendingBatch) :
    Balanced rules batch.stamped 0 batch.unmarked (rules.closing batch) := by
  unfold closing PendingBatch.stamped PendingBatch.unmarked
  cases batch.timestamp with
  | none =>
      refine ⟨fun kind => by simp [DeliveryCounters.settled, missed],
        fun kind => by simp [DeliveryCounters.settled, missed], ?_⟩
      cases conflation : rules.allowConflation <;> simp [missed, conflation]
  | some publishTime =>
      have emitted := rules.emitted_balanced batch 1
      have settled := rules.settlement_balanced batch
      have sampled := rules.batchSample_balanced batch publishTime 0
      simpa [add_assoc] using (emitted.trans settled).trans sampled

/-- The first marker announces the expected events of its batch. -/
theorem announced_balanced (batch : PendingBatch) :
    Balanced rules 0 batch.stamped 0 (rules.announced batch) := by
  unfold announced PendingBatch.stamped
  split
  · exact ⟨fun kind => by simp [DeliveryCounters.settled],
      fun kind => by simp [DeliveryCounters.settled], by simp⟩
  · exact .zero rules 0

theorem stamped_drained (batch : PendingBatch) : batch.drained.stamped = batch.stamped := by
  unfold PendingBatch.drained PendingBatch.stamped
  cases h : batch.timestamp with
  | none => simp [h]
  | some publishTime => rfl

/-- Only a stamped batch is settled by an item. -/
theorem settle_balanced (batch : PendingBatch) :
    let next := rules.settle batch (batch.ready rules.expectedByKind)
    Balanced rules batch.stamped (entryWeight PendingBatch.stamped next.1) 0 next.2 := by
  unfold settle
  have emitted := rules.emitted_balanced batch batch.stamped
  cases finished : batch.ready rules.expectedByKind with
  | false => simpa [stamped_drained] using emitted
  | true =>
      have known : batch.timestamp.isSome = true := by
        rw [PendingBatch.ready, Bool.and_eq_true] at finished
        exact finished.1
      have closed := rules.closing_balanced batch.drained
      have marked : batch.drained.unmarked = 0 := by
        unfold PendingBatch.unmarked PendingBatch.drained
        cases h : batch.timestamp <;> simp_all
      rw [stamped_drained, marked] at closed
      simpa using emitted.trans closed

/-- A batch keeps its stamp, and only a marker gives it one. -/
theorem stamped_observe (batch : PendingBatch) (item : Item) :
    Balanced rules batch.stamped (batch.observe item).stamped 0
      (if batch.timestamp.isNone then rules.announced (batch.observe item) else 0) := by
  cases h : batch.timestamp with
  | none =>
      have unstamped : batch.stamped = 0 := by simp [PendingBatch.stamped, h]
      rw [unstamped]
      exact rules.announced_balanced _
  | some publishTime =>
      have before : batch.stamped = 1 := by simp [PendingBatch.stamped, h]
      have after : (batch.observe item).stamped = 1 := by
        cases item <;>
          simp [PendingBatch.stamped, PendingBatch.observe, PendingBatch.observeMarker,
            PendingBatch.observeEvent, h]
      rw [before, after]
      exact .zero rules 1

/-- An accepted item is balanced, and never finishes an unmarked batch. -/
theorem accept_balanced (state : Option PendingBatch) {item : Item} (live : item ≠ .expire) :
    let next := rules.accept state item
    Balanced rules (entryWeight PendingBatch.stamped state)
      (entryWeight PendingBatch.stamped next.1) 0 next.2 := by
  have start : entryWeight PendingBatch.stamped state = (state.getD {}).stamped := by
    cases state <;> rfl
  rw [accept_eq rules state live, start]
  exact (rules.stamped_observe _ item).trans (rules.settle_balanced _)

end Rules

/-! ### The collector -/

namespace Collector

/-- The number of pending batches with a timestamp. -/
def stampedPending (c : Collector) : Nat := entrySum PendingBatch.stamped c.pending

/-- The counters of a collector balance with its pending batches, `unmarked`
batches having been finished without a marker. -/
def Accounted (c : Collector) (unmarked : Nat) : Prop :=
  Balanced c.rules 0 c.stampedPending unmarked c.ledger

theorem accounted_of_idle {c : Collector} (idle : Idle c) : Accounted c 0 := by
  have none : c.stampedPending = 0 := by
    rw [stampedPending, entrySum, idle.pending]
    rfl
  rw [Accounted, none, idle.ledger]
  exact .zero c.rules 0

theorem Gains.accounted {c c' : Collector} {unmarked : Nat} (h : Gains c c' 0)
    (accounted : Accounted c unmarked) : Accounted c' unmarked := by
  rw [Accounted, stampedPending, h.phase.rules_eq, h.pending, h.ledger, add_zero]
  exact accounted

/-- A balanced change of one batch is a balanced change of the collector. -/
theorem Advances.balanced {c c' : Collector} {sequence : Int} {state : Option PendingBatch}
    {gain : Ledger} {finished : Nat} (h : Advances c c' sequence state gain)
    (balanced : Balanced c.rules (entryWeight PendingBatch.stamped c.pending[sequence]?)
      (entryWeight PendingBatch.stamped state) finished gain) :
    Balanced c.rules c.stampedPending c'.stampedPending finished gain := by
  have others : entrySum PendingBatch.stamped (c'.pending.erase sequence) =
      entrySum PendingBatch.stamped (c.pending.erase sequence) :=
    Lib.entrySum_congr _ fun k => by
      rw [Lib.getElem?_erase, Lib.getElem?_erase, h.pending]
      split <;> rfl
  have before := Lib.entrySum_eq_add_erase PendingBatch.stamped c.pending sequence
  have after := Lib.entrySum_eq_add_erase PendingBatch.stamped c'.pending sequence
  rw [h.pending, if_pos rfl, others] at after
  have step := balanced.frame (entrySum PendingBatch.stamped (c.pending.erase sequence))
  rw [← before, ← after] at step
  exact step

theorem Advances.accounted {c c' : Collector} {sequence : Int} {state : Option PendingBatch}
    {gain : Ledger} {unmarked finished : Nat} (h : Advances c c' sequence state gain)
    (balanced : Balanced c.rules (entryWeight PendingBatch.stamped c.pending[sequence]?)
      (entryWeight PendingBatch.stamped state) finished gain)
    (accounted : Accounted c unmarked) : Accounted c' (unmarked + finished) := by
  rw [Accounted, h.phase.rules_eq, h.ledger]
  exact Balanced.trans accounted (h.balanced balanced)

/-- A live item is balanced. -/
theorem Steps.balanced {c c' : Collector} {sequence : Int} {item : Item}
    (h : Steps c c' sequence item) (live : item ≠ .expire) :
    Balanced c.rules c.stampedPending c'.stampedPending 0
      (c.machine.step sequence (c.batches sequence) (c.arrival item)).2 := by
  apply Advances.balanced h
  cases accepted : c.acceptBatch sequence with
  | true =>
      rw [step_accepted live accepted]
      exact c.rules.accept_balanced (c.batches sequence) live
  | false =>
      rw [step_rejected live accepted]
      exact .zero c.rules _

/-- A live item keeps the collector accounted for. -/
theorem Steps.accounted {c c' : Collector} {sequence : Int} {item : Item} {unmarked : Nat}
    (h : Steps c c' sequence item) (live : item ≠ .expire) (accounted : Accounted c unmarked) :
    Accounted c' unmarked := by
  rw [Accounted, h.phase.rules_eq, h.ledger]
  exact Balanced.trans accounted (h.balanced live)

theorem accounted_foldl_handleEvent (api : DxApi) (observed : Int) {c : Collector}
    {unmarked : Nat} (accounted : Accounted c unmarked) (events : List Event) :
    Accounted (events.foldl (handleEvent api observed) c) unmarked := by
  induction events generalizing c with
  | nil => exact accounted
  | cons event events ih =>
      have step := handleEvent_spec api observed c event
      cases carried : itemOf api observed event with
      | none =>
          rw [carried] at step
          exact ih (Gains.accounted step accounted)
      | some item =>
          rw [carried] at step
          exact ih (Steps.accounted step (itemOf_live carried) accounted)

/-- Finishing a pending batch counts it as unmarked if it has no timestamp. -/
theorem accounted_finish {c : Collector} {unmarked : Nat} (accounted : Accounted c unmarked)
    {sequence : Int} {batch : PendingBatch} (found : c.pending[sequence]? = some batch) :
    Accounted (c.finish sequence batch) (unmarked + batch.unmarked) := by
  refine Advances.accounted (finish_spec c sequence batch) ?_ accounted
  rw [found]
  exact c.rules.closing_balanced batch

/-- The batches without a marker that a window finishes. -/
def unmarkedExpired (c : Collector) (expireAll : Bool) (now : Int) : Nat :=
  ((c.expired expireAll now).map fun entry => entry.2.unmarked).sum

theorem accounted_foldl_finish {c : Collector} {unmarked : Nat} (accounted : Accounted c unmarked)
    {entries : List (Int × PendingBatch)} (expires : PendingBatch → Bool)
    (distinct : entries.Pairwise fun a b => a.1 ≠ b.1)
    (found : ∀ entry ∈ entries, c.pending[entry.1]? = some entry.2) :
    Accounted (entries.foldl
      (fun current entry => if expires entry.2 then current.finish entry.1 entry.2 else current) c)
      (unmarked + ((entries.filter fun entry => expires entry.2).map
        fun entry => entry.2.unmarked).sum) := by
  induction entries generalizing c unmarked with
  | nil => exact accounted
  | cons entry entries ih =>
      obtain ⟨fresh, distinct⟩ := List.pairwise_cons.mp distinct
      have here := found entry List.mem_cons_self
      rw [List.foldl_cons]
      by_cases due : expires entry.2 = true
      · have still : ∀ other ∈ entries,
            (c.finish entry.1 entry.2).pending[other.1]? = some other.2 := fun other mem => by
          rw [(finish_spec c entry.1 entry.2).pending, if_neg (fresh other mem).symm]
          exact found other (List.mem_cons_of_mem _ mem)
        rw [if_pos due, List.filter_cons_of_pos (by simpa using due), List.map_cons, List.sum_cons,
          ← add_assoc]
        exact ih (accounted_finish accounted here) distinct still
      · rw [if_neg due, List.filter_cons_of_neg (by simpa using due)]
        exact ih accounted distinct fun other mem => found other (List.mem_cons_of_mem _ mem)

theorem accounted_takeWindow {c : Collector} {unmarked : Nat} (accounted : Accounted c unmarked)
    (expireAll : Bool) (now : Int) :
    Accounted (c.takeWindow expireAll now).2 (unmarked + c.unmarkedExpired expireAll now) :=
  accounted_foldl_finish accounted (c.expires expireAll now) (Lib.toList_keys_pairwise c.pending)
    fun _ mem => Std.TreeMap.mem_toList_iff_getElem?_eq_some.mp mem

theorem accounted_handle (api : DxApi) {c : Collector} {unmarked : Nat}
    (accounted : Accounted c unmarked) (measuring : c.measuring = true) (events : List Event)
    (marketCallback : Bool) (observed duration : Int) :
    Accounted (c.handle api events marketCallback observed duration) unmarked := by
  have counted : Accounted (c.receiveProfiles events).countCallback unmarked := accounted
  have processed := accounted_foldl_handleEvent api observed counted events
  rw [handle_measuring api measuring]
  dsimp only
  split
  · exact processed
  · exact processed

/-! ### Whole runs -/

/-- The batches without a marker that a call finishes. Only a window can: an item
settles a batch when it has a timestamp (`Rules.accept_balanced`). -/
def unmarkedFinishedBy (c : Collector) : Call → Nat
  | .takeWindow expireAll now => c.unmarkedExpired expireAll now
  | _ => 0

/-- The batches without a marker that a run finishes. -/
def unmarkedFinished (api : DxApi) (c : Collector) : List Call → Nat
  | [] => 0
  | call :: calls => c.unmarkedFinishedBy call + unmarkedFinished api (c.call api call) calls

theorem unmarkedFinished_append (api : DxApi) (c : Collector) (xs ys : List Call) :
    unmarkedFinished api c (xs ++ ys) =
      unmarkedFinished api c xs + unmarkedFinished api (c.run api xs) ys := by
  induction xs generalizing c with
  | nil => simp [unmarkedFinished, run]
  | cons call xs ih => simp [unmarkedFinished, ih, run, add_assoc]

theorem accounted_run (api : DxApi) {c : Collector} {unmarked : Nat}
    (accounted : Accounted c unmarked) (measuring : c.measuring = true) {calls : List Call}
    (noBegin : .beginMeasurement ∉ calls) :
    Accounted (c.run api calls) (unmarked + unmarkedFinished api c calls) := by
  induction calls generalizing c unmarked with
  | nil => exact accounted
  | cons call calls ih =>
      obtain ⟨ne, noBegin⟩ := not_or.mp (mt List.mem_cons.mpr noBegin)
      have still := (call_follows api measuring (Ne.symm ne)).1.measuring.trans measuring
      rw [unmarkedFinished, ← add_assoc]
      refine ih ?_ still noBegin
      cases call with
      | handle events marketCallback observed duration =>
          exact accounted_handle api accounted measuring events marketCallback observed duration
      | beginMeasurement => exact absurd rfl ne
      | endMeasurement => exact accounted
      | takeWindow expireAll now => exact accounted_takeWindow accounted expireAll now

/-- Nothing is pending before the measurement, so no window finishes anything. -/
theorem unmarkedFinished_idle (api : DxApi) {c : Collector} (idle : Idle c) {calls : List Call}
    (noBegin : .beginMeasurement ∉ calls) : unmarkedFinished api c calls = 0 := by
  induction calls generalizing c with
  | nil => rfl
  | cons call calls ih =>
      obtain ⟨ne, noBegin⟩ := not_or.mp (mt List.mem_cons.mpr noBegin)
      rw [unmarkedFinished, ih (idle_call api idle (Ne.symm ne)).1 noBegin]
      cases call with
      | takeWindow expireAll now =>
          simp [unmarkedFinishedBy, unmarkedExpired, expired, idle.pending]
      | _ => rfl

/-- Every state reached with at most one `beginMeasurement` is accounted for. -/
theorem accounted_reachable (api : DxApi) (pattern : TaskPattern) (timeout : Int)
    (allowConflation : Bool) {calls : List Call}
    (once : (calls.filter Call.isBegin).length ≤ 1) :
    Accounted ((create pattern timeout allowConflation).run api calls)
      (unmarkedFinished api (create pattern timeout allowConflation) calls) := by
  have fresh := idle_create pattern timeout allowConflation
  by_cases begins : .beginMeasurement ∈ calls
  · obtain ⟨warmUp, rest, rfl, before⟩ := List.eq_append_cons_of_mem begins
    have after := once_after once
    obtain ⟨idle, rules, -, -⟩ := idle_run api fresh before
    let c := (create pattern timeout allowConflation).run api warmUp
    have empty : c.beginMeasurement.stampedPending = 0 := Lib.entrySum_empty PendingBatch.stamped
    have begun : Accounted c.beginMeasurement 0 := by
      have ledger : c.beginMeasurement.ledger = 0 := idle.ledger
      rw [Accounted, empty, ledger]
      exact .zero _ 0
    have reached := accounted_run api begun rfl after
    rw [unmarkedFinished_append, unmarkedFinished_idle api fresh before, run_append, zero_add]
    rw [zero_add] at reached
    have boundary : unmarkedFinished api c (.beginMeasurement :: rest) =
        unmarkedFinished api c.beginMeasurement rest := zero_add _
    rw [boundary]
    exact reached
  · rw [unmarkedFinished_idle api fresh begins]
    exact accounted_of_idle (idle_run api fresh begins).1

/-- The accounting identity of the delivery counters, in every reachable state. -/
theorem delivery_accounting (api : DxApi) (pattern : TaskPattern) (timeout : Int)
    (allowConflation : Bool) (calls : List Call)
    (once : (calls.filter Call.isBegin).length ≤ 1) :
    let fresh := create pattern timeout allowConflation
    let c := fresh.run api calls
    let d := c.deliveryTotal
    let settled := d.fullPublications + d.partialPublications + d.emptyPublications
    (∀ kind, d.published kind = fresh.expectedByKind kind * (settled + c.stampedPending) ∧
        d.delivered kind + d.listenerDeficit kind =
          fresh.expectedByKind kind * settled + d.excess kind) ∧
      (allowConflation = true → c.missingTotal = 0) ∧
      (allowConflation = false → c.missingTotal =
        d.partialPublications + d.emptyPublications + unmarkedFinished api fresh calls) := by
  intro fresh c d settled
  have accounted := accounted_reachable api pattern timeout allowConflation once
  have rules : c.rules = fresh.rules := run_rules api fresh calls
  rw [Accounted, rules] at accounted
  have published := accounted.published
  have outcome := accounted.outcome
  have missing := accounted.missing
  simp only [Nat.mul_zero, Nat.add_zero] at published
  refine ⟨?_, ?_, ?_⟩
  · intro kind
    exact ⟨published kind, outcome kind⟩
  · intro conflation
    exact missing.trans (if_pos conflation)
  · intro conflation
    refine missing.trans (if_neg ?_)
    rw [Bool.not_eq_true]
    exact conflation

/-- A marker of sequence 5 without events and an event of sequence 6 without a
marker both end as missing. -/
theorem delivery_accounting_two_missing :
    let pattern : TaskPattern := { items := [⟨.trade, 1⟩] }
    let marker : Event := .textMessage
      { eventSymbol := "LATENCY_MARKER:".toList, text := "LATENCY_BATCH:100".toList, sequence := 5 }
    let trade : Event := .trade { eventSymbol := "SYM00".toList, sequence := 6, timeNanos := 100 }
    let calls := [.beginMeasurement, .handle [marker, trade] true 150 1, .endMeasurement,
      .takeWindow true 200]
    ((create pattern 1000 false).run .release calls).missingTotal = 2 := by
  intro pattern marker trade calls
  have accounted := delivery_accounting .release pattern 1000 false calls (by decide)
  refine (accounted.2.2 rfl).trans ?_
  decide +kernel

end Collector

end LatencyTest
