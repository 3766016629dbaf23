import LatencyTest.Client.Session
import LatencyTest.Client.Accounting

/-!
Whether the reported windows add up to the final report. `main` reports the last
window only when it holds evidence: a sample, an anomaly or a missing batch. A step
that counts something leaves evidence with few exceptions (`Rules.Silent`), so what
an unreported window can lose is known (`reported_windows_complete_iff`).
-/

namespace LatencyTest

open Lib (entrySum entryWeight)

/-! ### Ledgers of windows -/

namespace DeliveryCounters

/-- The counters as a tuple, which is added component by component. -/
def tuple (d : DeliveryCounters) : (RegularKind → Nat) × (RegularKind → Nat) ×
    (RegularKind → Nat) × (RegularKind → Nat) × Nat × Nat × Nat × Nat :=
  (d.published, d.delivered, d.listenerDeficit, d.excess, d.fullPublications,
    d.partialPublications, d.emptyPublications, d.uncorrelatedEvents)

theorem tuple_add (a b : DeliveryCounters) : (a + b).tuple = a.tuple + b.tuple := rfl

theorem tuple_zero : tuple 0 = 0 := rfl

theorem tuple_injective : Function.Injective tuple := by
  intro a b same
  simp only [tuple, Prod.mk.injEq] at same
  exact DeliveryCounters.ext_iff.mpr same

theorem cancel {a b c : DeliveryCounters} (same : a + b = a + c) : b = c := by
  apply tuple_injective
  have sums := congrArg tuple same
  rw [tuple_add, tuple_add] at sums
  exact add_left_cancel sums

theorem eq_zero_of_add_eq_zero {a b : DeliveryCounters} (zero : a + b = 0) : a = 0 ∧ b = 0 := by
  have sums := congrArg tuple zero
  rw [tuple_add, tuple_zero, add_eq_zero] at sums
  exact ⟨tuple_injective sums.1, tuple_injective sums.2⟩

end DeliveryCounters

namespace Ledger

theorem cancel {a b c : Ledger} (same : a + b = a + c) : b = c := by
  obtain ⟨delivery, events, batches, negative, missing⟩ := Ledger.ext_iff.mp same
  ext1
  · exact DeliveryCounters.cancel delivery
  · funext kind
    exact add_left_cancel (congrFun events kind)
  · exact add_left_cancel batches
  · exact Nat.add_left_cancel negative
  · exact Nat.add_left_cancel missing

/-- What `main` looks for in the last window: samples, anomalies and missing batches. -/
def evidence : Ledger →+ Nat where
  toFun ledger := ledger.measurements + ledger.missing
  map_zero' := rfl
  map_add' a b := by
    rw [map_add, add_missing]
    omega

/-- The publications and events whose outcome is decided. -/
def outcomes : Ledger →+ Nat where
  toFun ledger := ledger.delivery.settled + ledger.delivery.uncorrelatedEvents
  map_zero' := rfl
  map_add' a b := by
    rw [add_delivery, DeliveryCounters.settled_add, DeliveryCounters.add_uncorrelatedEvents]
    omega

theorem outcomes_apply (ledger : Ledger) :
    ledger.outcomes = ledger.delivery.settled + ledger.delivery.uncorrelatedEvents := rfl

end Ledger

namespace Measured

/-- What was measured, with the order forgotten. -/
def ledger : Measured →+ Ledger where
  toFun m :=
    { delivery := m.delivery
      eventSamples := fun kind => m.latencies kind
      batchSamples := (m.batches.map Sample.latencyNs : List Int)
      negative := m.negative
      missing := m.missing }
  map_zero' := rfl
  map_add' a b := by
    ext1
    · rfl
    · funext kind
      simp
    · simp
    · rfl
    · rfl

theorem evidence_ledger (m : Measured) :
    m.ledger.evidence = m.events.length + m.batches.length + m.negative + m.missing := by
  have samples : ∑ kind, (m.latencies kind).length = m.events.length := by
    simp only [latencies, List.length_map]
    exact sum_length_filter_kind Sample.kind m.events
  have batches : (m.batches.map Sample.latencyNs).length = m.batches.length := List.length_map ..
  rw [← samples, ← batches]
  rfl

end Measured

theorem Window.shown_iff (w : Window) : w.shown ↔ w.measured.ledger.evidence ≠ 0 := by
  rw [Measured.evidence_ledger, Window.shown, ← List.length_pos_iff, ← List.length_pos_iff]
  dsimp only [Window.measured]
  omega

/-- What is added to the totals is added to the ledger. -/
theorem Collector.Adds.ledger {c c' : Collector} {m : Measured} (h : Collector.Adds c c' m) :
    c'.ledger = c.ledger + m.ledger := by
  ext1
  · exact h.delivery
  · funext kind
    exact congrArg Multiset.ofList (h.events kind)
  · exact congrArg Multiset.ofList h.batches
  · exact h.negative
  · exact h.missing

/-- A window grows by what its ledger gains. -/
theorem Collector.Grows.window_ledger {c c' : Collector} (h : Collector.Grows c c') {gain : Ledger}
    (gained : c'.ledger = c.ledger + gain) :
    c'.window.measured.ledger = c.window.measured.ledger + gain := by
  obtain ⟨m, adds⟩ := h
  have same : m.ledger = gain := Ledger.cancel (adds.ledger.symm.trans gained)
  rw [adds.window, map_add, same]

/-! ### One step -/

namespace PendingBatch

/-- A batch without events has none of any kind. -/
def Consistent (batch : PendingBatch) : Prop :=
  batch.received = 0 → ∀ kind, batch.receivedByKind kind = 0

theorem Consistent.observe {batch : PendingBatch} (h : batch.Consistent) (item : Item) :
    (batch.observe item).Consistent := by
  cases item with
  | marker timestamp observed => exact h
  | event event => exact fun empty => absurd empty (Nat.succ_ne_zero batch.received)
  | expire => exact h

theorem consistent_replay (group : Group) : (replay group).Consistent := by
  intro empty kind
  rw [replay_received, List.length_eq_zero_iff] at empty
  rw [replay_receivedByKind, Group.receivedByKind, empty]
  rfl

theorem Consistent.drained {batch : PendingBatch} (h : batch.Consistent) :
    batch.drained.Consistent := by
  unfold PendingBatch.drained
  cases batch.timestamp with
  | none => exact h
  | some publishTime => exact h

/-- A complete batch without events is settled as full, and nothing else. -/
theorem settlement_of_empty {batch : PendingBatch} {expectedByKind : RegularKind → Nat}
    (consistent : batch.Consistent) (complete : batch.complete expectedByKind = true)
    (empty : batch.received = 0) :
    batch.settlement expectedByKind = { fullPublications := 1 } ∧
      ∀ kind, expectedByKind kind = 0 := by
  have none := consistent empty
  have expected : ∀ kind, expectedByKind kind = 0 := by
    intro kind
    have same := of_decide_eq_true complete kind
    rw [← same, none kind]
  refine ⟨?_, expected⟩
  unfold settlement
  ext1 <;> first | (funext kind; simp [none, expected]) | simp [complete]

end PendingBatch

namespace Rules

/-- Without evidence a gain announces publications, or settles ones that expect no
event, and nothing else. -/
def Silent (rules : Rules) (gain : Ledger) : Prop :=
  gain.evidence = 0 →
    gain.delivery =
      { published := gain.delivery.published
        fullPublications := gain.delivery.fullPublications } ∧
    (gain.delivery.fullPublications ≠ 0 → ∀ kind, rules.expectedByKind kind = 0)

variable {rules : Rules}

theorem silent_zero : rules.Silent 0 := by
  intro _
  exact ⟨rfl, fun nonzero => absurd rfl nonzero⟩

theorem Silent.add {a b : Ledger} (h : rules.Silent a) (h' : rules.Silent b) :
    rules.Silent (a + b) := by
  intro none
  rw [map_add, Nat.add_eq_zero_iff] at none
  obtain ⟨first, expected⟩ := h none.1
  obtain ⟨second, expected'⟩ := h' none.2
  constructor
  · rw [Ledger.add_delivery, first, second]
    rfl
  · intro nonzero
    rw [Ledger.add_delivery, DeliveryCounters.add_fullPublications] at nonzero
    rcases Nat.eq_zero_or_pos a.delivery.fullPublications with zero | positive
    · rw [zero, Nat.zero_add] at nonzero
      exact expected' nonzero
    · exact expected positive.ne'

/-- A gain without delivery counters. -/
theorem silent_of_delivery {gain : Ledger} (delivery : gain.delivery = 0) : rules.Silent gain := by
  intro _
  rw [delivery]
  exact ⟨rfl, fun nonzero => absurd rfl nonzero⟩

theorem silent_announced (batch : PendingBatch) : rules.Silent (rules.announced batch) := by
  unfold announced
  split
  · intro _
    exact ⟨rfl, fun nonzero => absurd rfl nonzero⟩
  · exact silent_zero

/-- A batch that an item finishes leaves a sample if it received anything. -/
theorem silent_closing {batch : PendingBatch} (consistent : batch.Consistent)
    (ready : batch.ready rules.expectedByKind = true) :
    rules.Silent (rules.closing batch.drained) := by
  obtain ⟨stamped, complete⟩ := Bool.and_eq_true_iff.mp ready
  rw [closing_drained]
  cases known : batch.timestamp with
  | none =>
      rw [known] at stamped
      cases stamped
  | some publishTime =>
      intro none
      dsimp only at none ⊢
      rw [map_add] at none
      have sampled : (batch.batchSample publishTime).measurements = 0 :=
        (Nat.add_eq_zero_iff.mp (Nat.add_eq_zero_iff.mp none).2).1
      rw [PendingBatch.measurements_batchSample] at sampled
      have empty : batch.received = 0 := by
        by_contra received
        rw [if_neg received] at sampled
        cases sampled
      obtain ⟨settled, expected⟩ := PendingBatch.settlement_of_empty consistent complete empty
      rw [Ledger.add_delivery, Ledger.add_delivery, settled, missed_delivery,
        PendingBatch.batchSample_delivery, add_zero, add_zero]
      exact ⟨rfl, fun _ => expected⟩

theorem silent_settle {batch : PendingBatch} (consistent : batch.Consistent) :
    rules.Silent (rules.settle batch (batch.ready rules.expectedByKind)).2 := by
  have emitted : rules.Silent batch.emitted := silent_of_delivery batch.emitted_delivery
  unfold settle
  split
  · rename_i ready
    exact emitted.add (silent_closing consistent ready)
  · exact emitted

theorem silent_accept {state : Option PendingBatch} (consistent : (state.getD {}).Consistent)
    {item : Item} (live : item ≠ .expire) : rules.Silent (rules.accept state item).2 := by
  rw [accept_eq rules state live]
  dsimp only
  refine Silent.add ?_ (silent_settle (consistent.observe item))
  split
  · exact silent_announced _
  · exact silent_zero

end Rules

/-! ### The current window -/

namespace Collector

/-- A change between two windows: silent, and balanced with the pending batches. -/
def Quietly (c c' : Collector) : Prop :=
  ∃ gain, c'.rules = c.rules ∧ c'.ledger = c.ledger + gain ∧ c.rules.Silent gain ∧
    Balanced c.rules c.stampedPending c'.stampedPending 0 gain

theorem Gains.quietly {c c' : Collector} (h : Gains c c' 0) : Quietly c c' := by
  refine ⟨0, h.phase.rules_eq, h.ledger, Rules.silent_zero, ?_⟩
  rw [stampedPending, stampedPending, h.pending]
  exact .zero c.rules _

theorem Quietly.trans {a b c : Collector} (h : Quietly a b) (h' : Quietly b c) : Quietly a c := by
  obtain ⟨gain, rules, ledger, silent, balanced⟩ := h
  obtain ⟨gain', rules', ledger', silent', balanced'⟩ := h'
  rw [rules] at silent' balanced'
  exact ⟨gain + gain', rules'.trans rules, by rw [ledger', ledger, add_assoc],
    silent.add silent', balanced.trans balanced'⟩

theorem quietly_event {c : Collector} {b : Batches} (h : Gathers c b) (api : DxApi)
    (observed : Int) (event : Event) : Quietly c (handleEvent api observed c event) := by
  have step := handleEvent_spec api observed c event
  cases carried : itemOf api observed event with
  | none =>
      rw [carried] at step
      exact Gains.quietly step
  | some entry =>
      obtain ⟨sequence, item⟩ := entry
      rw [carried] at step
      have live := itemOf_live carried
      have advanced : Steps c (handleEvent api observed c event) sequence item := step
      refine ⟨_, advanced.phase.rules_eq, advanced.ledger, ?_, advanced.balanced live⟩
      cases accepted : c.acceptBatch sequence with
      | false =>
          rw [step_rejected live accepted]
          exact Rules.silent_zero
      | true =>
          rw [step_accepted live accepted]
          refine Rules.silent_accept ?_ live
          rw [batches, h.batches]
          cases b.pending[sequence]? with
          | none => exact fun _ _ => rfl
          | some group => exact (PendingBatch.consistent_replay group).drained

theorem quietly_events {c : Collector} {b : Batches} (h : Gathers c b) (api : DxApi)
    (observed : Int) (events : List Event) :
    Quietly c (events.foldl (handleEvent api observed) c) := by
  induction events generalizing c b with
  | nil => exact (Gains.refl c).quietly
  | cons event events ih =>
      have after := gathers_kept.event h api observed event
      exact (quietly_event h api observed event).trans (ih after)

theorem quietly_handle {c : Collector} {b : Batches} (h : Gathers c b) (api : DxApi)
    (measuring : c.measuring = true) (events : List Event) (marketCallback : Bool)
    (observed duration : Int) :
    Quietly c (c.handle api events marketCallback observed duration) := by
  have counted : Gains c (c.receiveProfiles events).countCallback 0 :=
    ⟨⟨rfl, rfl, rfl, rfl, rfl, rfl⟩, rfl, (add_zero _).symm⟩
  have processed := counted.quietly.trans
    (quietly_events (h.gains counted) api observed events)
  have recorded : ∀ d : Collector, Gains d (d.recordCallback events.length duration) 0 :=
    fun d => ⟨⟨rfl, rfl, rfl, rfl, rfl, rfl⟩, rfl, (add_zero _).symm⟩
  rw [handle_measuring api measuring]
  dsimp only
  split
  · exact processed.trans (recorded _).quietly
  · exact processed

/-- What the current window holds is silent, and balanced with the batches that were
pending when it began and those that are pending now. -/
structure WindowSilent (c : Collector) : Prop where
  silent : c.rules.Silent c.window.measured.ledger
  balanced : ∃ before, Balanced c.rules before c.stampedPending 0 c.window.measured.ledger

/-- An empty window. -/
theorem windowSilent_of_empty {c : Collector} (empty : c.window.measured = 0) :
    WindowSilent c := by
  constructor
  · rw [empty]
    exact Rules.silent_zero
  · refine ⟨c.stampedPending, ?_⟩
    rw [empty]
    exact .zero c.rules c.stampedPending

theorem WindowSilent.step {c c' : Collector} (h : WindowSilent c) (grows : Grows c c')
    (quietly : Quietly c c') : WindowSilent c' := by
  obtain ⟨gain, rules, ledger, silent, balanced⟩ := quietly
  obtain ⟨before, earlier⟩ := h.balanced
  have window := grows.window_ledger ledger
  constructor
  · rw [rules, window]
    exact h.silent.add silent
  · refine ⟨before, ?_⟩
    rw [rules, window]
    exact earlier.trans balanced

theorem windowSilent_call (api : DxApi) {c : Collector} {b : Batches} (h : Gathers c b)
    (measuring : c.measuring = true) (silent : WindowSilent c) {call : Call}
    (noBegin : call ≠ .beginMeasurement) : WindowSilent (c.call api call) := by
  cases call with
  | handle events marketCallback observed duration =>
      exact silent.step (grows_handle api c events marketCallback observed duration)
        (quietly_handle h api measuring events marketCallback observed duration)
  | beginMeasurement => exact absurd rfl noBegin
  | endMeasurement => exact ⟨silent.silent, silent.balanced⟩
  | takeWindow expireAll now => exact windowSilent_of_empty rfl

theorem windowSilent_run (api : DxApi) {c : Collector} {b : Batches} (h : Gathers c b)
    (measuring : c.measuring = true) (silent : WindowSilent c) {calls : List Call}
    (noBegin : .beginMeasurement ∉ calls) : WindowSilent (c.run api calls) := by
  induction calls generalizing c b with
  | nil => exact silent
  | cons call calls ih =>
      obtain ⟨ne, noBegin⟩ := not_or.mp (mt List.mem_cons.mpr noBegin)
      have still := (call_follows api measuring (Ne.symm ne)).1.measuring.trans measuring
      exact ih (gathers_kept.call h api measuring (Ne.symm ne)) still
        (windowSilent_call api h measuring silent (Ne.symm ne)) noBegin

theorem windowSilent_history (api : DxApi) (pattern : TaskPattern) (timeout : Int)
    (allowConflation : Bool) {warmUp rest : List Call}
    (once : .beginMeasurement ∉ warmUp ++ rest) :
    WindowSilent ((create pattern timeout allowConflation).run api
      (warmUp ++ .beginMeasurement :: rest)) := by
  obtain ⟨before, after⟩ := not_or.mp (mt List.mem_append.mpr once)
  have idle := (idle_run api (idle_create pattern timeout allowConflation) before).1
  rw [run_append]
  exact windowSilent_run api (gathers_begun (begun_of_idle idle)) rfl
    (windowSilent_of_empty rfl) after

/-- A silent window without evidence, whose batches are all gone, holds only the
publications that expect no event. -/
theorem WindowSilent.delivery_eq_zero {c : Collector} (h : WindowSilent c)
    (none : c.window.measured.ledger.evidence = 0) (stamped : c.stampedPending = 0)
    (full : c.window.delivery.fullPublications = 0) : c.window.delivery = 0 := by
  obtain ⟨only, -⟩ := h.silent none
  obtain ⟨before, balanced⟩ := h.balanced
  have delivery : c.window.measured.ledger.delivery = c.window.delivery := rfl
  rw [delivery, full] at only
  have settled : c.window.delivery.settled = 0 := by
    rw [only]
    rfl
  have published : c.window.delivery.published = fun _ => 0 := by
    funext kind
    have paid := balanced.published kind
    rw [delivery, settled, stamped] at paid
    omega
  rw [only, published]
  rfl

/-! ### The last window -/

/-- The last window is the current one and the closing of every pending batch. -/
theorem takeWindow_all_ledger (c : Collector) (now : Int) :
    (c.takeWindow true now).1.measured.ledger =
      c.window.measured.ledger + entrySum c.rules.closing c.pending :=
  (grows_expirePending c true now).window_ledger (expirePending_all_ledger c now)

/-- What a batch is while it is pending: it is incomplete, its events are emitted if
it has a marker, and it has events if it has none. -/
structure PendingShape (expectedByKind : RegularKind → Nat) (batch : PendingBatch) : Prop where
  marked : ∀ publishTime, batch.timestamp = some publishTime →
    batch.complete expectedByKind = false ∧ batch.events = []
  unmarked : batch.timestamp = none → batch.received ≠ 0

theorem Replays.shape {c : Collector} {b : Batches} (h : Replays c b) {sequence : Int}
    {batch : PendingBatch} (found : c.pending[sequence]? = some batch) :
    PendingShape c.expectedByKind batch := by
  obtain ⟨group, gathered, rfl⟩ := h.group_of_pending found
  obtain ⟨-, complete, stamped, -⟩ :=
    drained_settlement (PendingBatch.replay group) c.expectedByKind
  have pending := h.pending sequence group gathered
  have live := h.live group (Batches.mem_groups.mpr (.inr ⟨sequence, gathered⟩))
  constructor
  · intro publishTime known
    have unfinished := pending.unfinished
    rw [stamped] at known
    rw [PendingBatch.ready, known, Option.isSome_some, Bool.true_and] at unfinished
    refine ⟨complete.trans unfinished, ?_⟩
    unfold PendingBatch.drained
    rw [known]
  · intro none empty
    rw [stamped, PendingBatch.replay_timestamp, List.head?_eq_none_iff] at none
    rw [drained_received, PendingBatch.replay_received, List.length_eq_zero_iff] at empty
    cases group with
    | nil => exact pending.nonempty rfl
    | cons item items =>
        cases item with
        | marker timestamp observed => cases none
        | event event => cases empty
        | expire => exact live.2 .expire List.mem_cons_self rfl

theorem evidence_missed (rules : Rules) (complete : Bool) :
    (rules.missed complete).evidence = if complete || rules.allowConflation then 0 else 1 :=
  Nat.zero_add _

/-- Closing a pending batch leaves evidence when its absence counts as missing, and
when it has a marker and events. -/
theorem evidence_closing {rules : Rules} {batch : PendingBatch}
    (shape : PendingShape rules.expectedByKind batch) :
    (rules.closing batch).evidence = (if rules.allowConflation then 0 else 1) +
      if batch.timestamp.isSome ∧ batch.received ≠ 0 then 1 else 0 := by
  unfold Rules.closing
  cases known : batch.timestamp with
  | none =>
      have counted : Ledger.evidence
          { delivery := { uncorrelatedEvents := batch.received } } = 0 := rfl
      rw [map_add, evidence_missed, counted]
      simp
  | some publishTime =>
      obtain ⟨incomplete, emitted⟩ := shape.marked publishTime known
      have nothing : batch.emitted = 0 := by
        rw [PendingBatch.emitted, known, emitted]
        rfl
      have settled : Ledger.evidence { delivery := batch.settlement rules.expectedByKind } = 0 :=
        rfl
      have sampled : (batch.batchSample publishTime).evidence =
          if batch.received ≠ 0 then 1 else 0 := by
        have missing := PendingBatch.batchSample_missing batch publishTime
        have measured := PendingBatch.measurements_batchSample batch publishTime
        rw [ite_not]
        exact (congrArg (· + (batch.batchSample publishTime).missing) measured).trans
          (by rw [missing, Nat.add_zero])
      dsimp only
      rw [nothing, incomplete, zero_add, map_add, map_add, settled, evidence_missed, sampled]
      simp

/-- Closing a batch always decides something. -/
theorem outcomes_closing {rules : Rules} {batch : PendingBatch}
    (shape : PendingShape rules.expectedByKind batch) : (rules.closing batch).outcomes ≠ 0 := by
  unfold Rules.closing
  cases known : batch.timestamp with
  | none =>
      have received := shape.unmarked known
      rw [Ledger.outcomes_apply]
      simp [received]
  | some publishTime =>
      have decided := Rules.settled_settlement batch rules.expectedByKind
      rw [Ledger.outcomes_apply]
      simp [decided]

/-- Whether the last window loses no counter: the task runs on STREAM_FEED, or the
window is shown already, or closing a batch with a marker and events will show it,
or there is nothing to lose. -/
def FinalWindowSafe (c : Collector) : Prop :=
  c.allowConflation = false ∨ c.window.shown ∨
    (∃ (sequence : Int) (batch : PendingBatch), c.pending[sequence]? = some batch ∧
      batch.timestamp.isSome ∧ batch.received ≠ 0) ∨
    ((∀ sequence : Int, c.pending[sequence]? = none) ∧ c.window.delivery.fullPublications = 0)

/-- With nothing pending, a silent window without evidence is empty. -/
theorem WindowSilent.nothing_lost {c : Collector} (silent : WindowSilent c)
    (unseen : c.window.measured.ledger.evidence = 0) (empty : ∀ k : Int, c.pending[k]? = none)
    (full : c.window.delivery.fullPublications = 0) (now : Int) :
    (c.takeWindow true now).1.delivery = 0 := by
  have ledger := takeWindow_all_ledger c now
  rw [Lib.entrySum_of_no_entry _ empty, add_zero] at ledger
  have stamped : c.stampedPending = 0 := Lib.entrySum_of_no_entry _ empty
  exact (congrArg Ledger.delivery ledger).trans (silent.delivery_eq_zero unseen stamped full)

/-- A last window without counters settled no batch. -/
theorem Gathers.nothing_pending {c : Collector} {b : Batches} (h : Gathers c b)
    (zero : (entrySum c.rules.closing c.pending).delivery = 0) (sequence : Int) :
    c.pending[sequence]? = none := by
  have outcomes : (entrySum c.rules.closing c.pending).outcomes = 0 := by
    rw [Ledger.outcomes_apply, zero]
    rfl
  rw [Lib.map_entrySum, Lib.entrySum_eq_zero_iff] at outcomes
  rw [Option.eq_none_iff_forall_ne_some]
  intro batch found
  exact @outcomes_closing c.rules batch (h.replays.shape found) (outcomes sequence batch found)

/-- The last window, if it is not shown, loses nothing exactly when the collector it
is taken from is safe. -/
theorem last_window_lossless_iff {c : Collector} {b : Batches} (h : Gathers c b)
    (silent : WindowSilent c)
    (regular : c.allowConflation = false → ∃ kind, c.expectedByKind kind ≠ 0) (now : Int) :
    (¬ (c.takeWindow true now).1.shown → (c.takeWindow true now).1.delivery = 0) ↔
      FinalWindowSafe c := by
  have ledger := takeWindow_all_ledger c now
  have evidence := congrArg Ledger.evidence ledger
  rw [map_add, Lib.map_entrySum] at evidence
  have quiet : entrySum (Ledger.evidence ∘ c.rules.closing) c.pending = 0 ↔
      ∀ (sequence : Int) batch, c.pending[sequence]? = some batch →
        c.allowConflation = true ∧ (batch.timestamp.isSome → batch.received = 0) := by
    rw [Lib.entrySum_eq_zero_iff]
    apply forall₃_congr
    intro sequence batch found
    have same : c.rules.allowConflation = c.allowConflation := rfl
    rw [Function.comp_apply, @evidence_closing c.rules batch (h.replays.shape found), same]
    cases c.allowConflation <;> simp
  rw [Window.shown_iff, evidence, not_not, Nat.add_eq_zero_iff, quiet]
  constructor
  · intro lossless
    by_contra lossy
    obtain ⟨conflating, hidden, unmarked, left⟩ : c.allowConflation = true ∧
        ¬ c.window.shown ∧ (∀ (sequence : Int) batch, c.pending[sequence]? = some batch →
          batch.timestamp.isSome → batch.received = 0) ∧
        ¬ ((∀ sequence : Int, c.pending[sequence]? = none) ∧
          c.window.delivery.fullPublications = 0) := by
      simpa [FinalWindowSafe] using lossy
    rw [Window.shown_iff, not_not] at hidden
    have zero := lossless ⟨hidden, fun sequence batch found =>
      ⟨conflating, unmarked sequence batch found⟩⟩
    have sum : c.window.delivery + (entrySum c.rules.closing c.pending).delivery = 0 :=
      (congrArg Ledger.delivery ledger).symm.trans zero
    obtain ⟨held, closed⟩ := DeliveryCounters.eq_zero_of_add_eq_zero sum
    exact left ⟨h.nothing_pending closed, congrArg DeliveryCounters.fullPublications held⟩
  · rintro safe ⟨unseen, batches⟩
    rcases safe with streaming | shown | ⟨sequence, batch, found, stamped, received⟩ | ⟨empty, full⟩
    · have empty : ∀ sequence : Int, c.pending[sequence]? = none := by
        intro sequence
        rw [Option.eq_none_iff_forall_ne_some]
        intro batch found
        have conflating := (batches sequence batch found).1
        rw [streaming] at conflating
        cases conflating
      refine silent.nothing_lost unseen empty ?_ now
      obtain ⟨kind, expected⟩ := regular streaming
      by_contra full
      exact expected ((silent.silent unseen).2 full kind)
    · exact absurd unseen (c.window.shown_iff.mp shown)
    · exact absurd ((batches sequence batch found).2 stamped) received
    · exact silent.nothing_lost unseen empty full now

end Collector

namespace ClientRun

open Collector

variable (api : DxApi) {config : Config} {pattern : TaskPattern} (run : ClientRun)

theorem atFinal_rules : (run.atFinal api config pattern).rules =
    (collector config pattern).rules := run_rules api _ _

/-- A STREAM_FEED client expects some regular event. -/
theorem atFinal_regular (admitted : config.admission = .ok pattern)
    (streaming : (run.atFinal api config pattern).allowConflation = false) :
    ∃ kind, (run.atFinal api config pattern).expectedByKind kind ≠ 0 := by
  obtain ⟨parsed, timeSeries⟩ := Config.admission_ok admitted
  have rules := @atFinal_rules api config pattern run
  have conflation : (run.atFinal api config pattern).allowConflation =
      decide (config.role = .feed) := congrArg Rules.allowConflation rules
  have expected : (run.atFinal api config pattern).expectedByKind =
      fun kind => (pattern.quantity kind.toEventKind).getD 0 :=
    congrArg Rules.expectedByKind rules
  rw [conflation, decide_eq_false_iff_not] at streaming
  have regular : (pattern.quantity .timeAndSale).getD 0 = 0 :=
    by_contra fun other => streaming (timeSeries other)
  have positive := regularEventCount_pos parsed regular
  obtain ⟨kind, -, nonzero⟩ := Finset.exists_ne_zero_of_sum_ne_zero positive.ne'
  refine ⟨kind, ?_⟩
  rw [expected]
  exact nonzero

/-- The periodic windows and the last one make up the totals. -/
theorem windows_totals :
    (((collector config pattern).windows api run.calls).map Window.delivery).sum +
        (run.last api config pattern).delivery =
      (run.totals api config pattern).delivery := by
  have partitioned := partitioned_history api pattern config.batchTimeout
    (config.role = .feed) run.once
  let periodic := (collector config pattern).windows api run.calls
  let last := run.last api config pattern
  have taken : ((run.atFinal api config pattern).takeWindow true run.finalNow).2.deliveryTotal =
      (((periodic ++ [last]).map Window.measured).sum + 0).delivery :=
    (@partitioned_call api _ _ partitioned (.takeWindow true run.finalNow) (by simp)).delivery
  rw [add_zero, Measured.sum_add Measured.delivery rfl (fun _ _ => rfl), List.map_append,
    List.sum_append, List.map_singleton, List.sum_singleton] at taken
  have same := congrArg Ledger.delivery (run.totals_ledger api config pattern)
  exact taken.symm.trans same.symm

/-- The reported windows add up to the totals exactly when the last window loses
nothing, which the state it is taken from decides. -/
theorem reported_windows_complete_iff (admitted : config.admission = .ok pattern) :
    (((run.reported api config pattern).map Window.delivery).sum =
        (run.totals api config pattern).delivery ↔
      FinalWindowSafe (run.atFinal api config pattern)) ∧
    ((¬ (run.last api config pattern).shown → (run.last api config pattern).delivery = 0) ↔
      FinalWindowSafe (run.atFinal api config pattern)) := by
  have once := run.once
  have lossless : (¬ (run.last api config pattern).shown →
      (run.last api config pattern).delivery = 0) ↔
        FinalWindowSafe (run.atFinal api config pattern) :=
    last_window_lossless_iff
      (gathers_history api pattern config.batchTimeout (config.role = .feed) once)
      (windowSilent_history api pattern config.batchTimeout (config.role = .feed) once)
      (run.atFinal_regular api admitted) run.finalNow
  have totals := @windows_totals api config pattern run
  refine ⟨Iff.trans ?_ lossless, lossless⟩
  rw [← totals, reported, List.map_append, List.sum_append]
  constructor
  · intro same hidden
    rw [if_neg hidden, List.map_nil, List.sum_nil] at same
    exact (DeliveryCounters.cancel same).symm
  · intro lost
    split
    · rw [List.map_singleton, List.sum_singleton]
    · rename_i hidden
      rw [lost hidden, List.map_nil, List.sum_nil]

private def lastTask : TaskPattern := { items := [⟨.trade, 1⟩] }

private def lastConfig (role : ClientRole) : Config := { task := "SUB:T1".toList, role := role }

/-- A publication whose event never arrives, in the last window. -/
private def lastRun : ClientRun where
  warmUp := []
  measured := [.callback
    { events := [.textMessage
        { eventSymbol := "LATENCY_MARKER:".toList, text := "LATENCY_BATCH:100".toList,
          sequence := 5 }]
      marketCallback := false
      observed := 150
      duration := 1 }]
  tail := []
  finalNow := 200
  late := []

/-- On STREAM_FEED the publication counts as missing, and the last window is shown. -/
theorem reported_windows_complete_streaming :
    ((lastRun.reported .release (lastConfig .streamFeed) lastTask).map Window.delivery).sum =
        (lastRun.totals .release (lastConfig .streamFeed) lastTask).delivery ∧
      (lastRun.totals .release (lastConfig .streamFeed) lastTask).missing = 1 := by
  constructor
  · exact (reported_windows_complete_iff .release lastRun (by decide +kernel)).1.mpr
      (.inl (by decide +kernel))
  · decide +kernel

/-- On FEED it does not, the window is dropped, and the publication with it. -/
theorem reported_windows_lose_empty_publication :
    ¬ ∀ (api : DxApi) (config : Config) (pattern : TaskPattern), config.admission = .ok pattern →
      ∀ run : ClientRun, ((run.reported api config pattern).map Window.delivery).sum =
        (run.totals api config pattern).delivery := by
  intro claim
  have same := congrArg DeliveryCounters.emptyPublications
    (claim .release (lastConfig .feed) lastTask (by decide +kernel) lastRun)
  revert same
  decide +kernel

end ClientRun

end LatencyTest
