import LatencyTest.Client.Runs

/-!
What the totals of a measurement should be, by grouping: collect the items of
each publication sequence and account for the group as a whole
(`Group.delivery`, `Group.samples`). The collector never sees a group. It sees
interleaved items, finishes a batch as soon as it is complete, and forgets it.
`localRun_group` is the invariant of one sequence, `grouped_totals` the result
for a run: with at most one marker and at most the expected events per sequence,
the order of arrival does not matter.
-/

namespace LatencyTest

open Lib (KeyedMachine entrySum entryWeight)

/-! ### The specification -/

/-- The items of one publication sequence, in order of arrival. -/
abbrev Group := List Item

namespace Group

/-- The timestamps of the markers of a group. -/
def markers (group : Group) : List Int :=
  group.filterMap fun
    | .marker timestamp _ => some timestamp
    | _ => none

/-- The market events of a group. -/
def events (group : Group) : List PendingEvent :=
  group.filterMap fun
    | .event event => some event
    | _ => none

/-- How many events of a kind a group has. -/
def receivedByKind (group : Group) (kind : RegularKind) : Nat :=
  (group.events.filter (·.kind = kind)).length

/-- The delivery outcome of one publication, from all of its items. -/
def delivery (expectedByKind : RegularKind → Nat) (group : Group) : DeliveryCounters :=
  if group.markers = [] then { uncorrelatedEvents := group.events.length }
  else
    { published := expectedByKind
      delivered := group.receivedByKind
      listenerDeficit := fun kind => expectedByKind kind - group.receivedByKind kind
      fullPublications := if group.receivedByKind = expectedByKind then 1 else 0
      emptyPublications :=
        if group.receivedByKind ≠ expectedByKind ∧ group.events = [] then 1 else 0
      partialPublications :=
        if group.receivedByKind ≠ expectedByKind ∧ group.events ≠ [] then 1 else 0 }

/-- The latencies of the events of a marked publication. A negative difference
is a clock anomaly and no sample. -/
def samples (kind : RegularKind) (group : Group) : Multiset Int :=
  match group.markers.head? with
  | none => 0
  | some timestamp =>
      ((group.events.filter (·.kind = kind)).map (·.observed - timestamp)).filter (0 ≤ ·)

/-- The latencies of the events of a marked publication, anomalies included. -/
def differences (kind : RegularKind) (group : Group) : Multiset Int :=
  match group.markers.head? with
  | none => 0
  | some timestamp => (group.events.filter (·.kind = kind)).map (·.observed - timestamp)

/-- No more items than one publication has. -/
structure Within (expectedByKind : RegularKind → Nat) (group : Group) : Prop where
  markers : group.markers.length ≤ 1
  events : ∀ kind, group.receivedByKind kind ≤ expectedByKind kind

instance (expectedByKind : RegularKind → Nat) (group : Group) :
    Decidable (group.Within expectedByKind) :=
  decidable_of_iff (group.markers.length ≤ 1 ∧
    ∀ kind, group.receivedByKind kind ≤ expectedByKind kind)
    ⟨fun h => ⟨h.1, h.2⟩, fun h => ⟨h.1, h.2⟩⟩

/-! ### Replaying a group -/

@[simp] theorem markers_append (xs ys : Group) :
    markers (xs ++ ys) = markers xs ++ markers ys := by
  simp [markers]

@[simp] theorem events_append (xs ys : Group) : events (xs ++ ys) = events xs ++ events ys := by
  simp [events]

@[simp] theorem receivedByKind_append (xs ys : Group) (kind : RegularKind) :
    receivedByKind (xs ++ ys) kind = receivedByKind xs kind + receivedByKind ys kind := by
  simp [receivedByKind]

theorem receivedByKind_event (event : PendingEvent) (kind : RegularKind) :
    receivedByKind [.event event] kind = if event.kind = kind then 1 else 0 := by
  by_cases same : event.kind = kind <;> simp [receivedByKind, events, same]

end Group

namespace PendingBatch

/-- The batch of a whole group, with nothing emitted on the way. -/
def replay (group : Group) : PendingBatch := group.foldl observe {}

theorem replay_snoc (group : Group) (item : Item) :
    replay (group ++ [item]) = (replay group).observe item := by
  simp [replay]

theorem replay_timestamp (group : Group) : (replay group).timestamp = group.markers.head? := by
  induction group using List.reverseRecOn with
  | nil => rfl
  | append_singleton group item ih =>
      rw [replay_snoc, Group.markers_append, List.head?_append, ← ih]
      cases item with
      | marker timestamp observed =>
          simp only [observe, observeMarker]
          cases (replay group).timestamp <;> rfl
      | _ => simp [observe, observeEvent, Group.markers]

theorem replay_events (group : Group) : (replay group).events = group.events := by
  induction group using List.reverseRecOn with
  | nil => rfl
  | append_singleton group item ih =>
      rw [replay_snoc, Group.events_append, ← ih]
      cases item <;> simp [observe, observeMarker, observeEvent, Group.events]

theorem replay_received (group : Group) : (replay group).received = group.events.length := by
  induction group using List.reverseRecOn with
  | nil => rfl
  | append_singleton group item ih =>
      rw [replay_snoc, Group.events_append, List.length_append, ← ih]
      cases item <;> simp [observe, observeMarker, observeEvent, Group.events]

theorem replay_receivedByKind (group : Group) :
    (replay group).receivedByKind = group.receivedByKind := by
  induction group using List.reverseRecOn with
  | nil => rfl
  | append_singleton group item ih =>
      funext kind
      rw [replay_snoc, Group.receivedByKind_append, ← ih]
      cases item with
      | event event =>
          simp only [Group.receivedByKind_event, observe, observeEvent, Function.update_apply]
          by_cases same : event.kind = kind
          · simp [same]
          · simp [same, Ne.symm same]
      | _ => simp [observe, observeMarker, Group.receivedByKind, Group.events]

/-- Draining early and draining late record the same samples. -/
theorem observe_drained (batch : PendingBatch) (item : Item) :
    (batch.drained.observe item).drained = (batch.observe item).drained ∧
      batch.emitted + (batch.drained.observe item).emitted = (batch.observe item).emitted := by
  unfold drained emitted
  cases stamped : batch.timestamp with
  | none => simp
  | some publishTime =>
      cases item with
      | marker timestamp observed =>
          simp [observe, observeMarker, stamped, emission_nil]
      | event event =>
          simp [observe, observeEvent, stamped, emission_append]
      | expire => simp [observe, stamped, emission_nil]

end PendingBatch

/-! ### One sequence -/

namespace Rules

/-- What a group contributes once its batch is finished. -/
def contribution (rules : Rules) (group : Group) : Ledger :=
  let batch := PendingBatch.replay group
  if group = [] then 0 else rules.announced batch + batch.emitted + rules.closing batch.drained

/-- Closing a batch that is drained already does not emit. -/
theorem closing_drained (rules : Rules) (batch : PendingBatch) :
    rules.closing batch.drained =
      match batch.timestamp with
      | none => { delivery := { uncorrelatedEvents := batch.received } } + rules.missed false
      | some publishTime =>
          { delivery := batch.settlement rules.expectedByKind } +
            rules.missed (batch.complete rules.expectedByKind) + batch.batchSample publishTime := by
  obtain ⟨settlement, complete, stamped, sample⟩ :=
    Collector.drained_settlement batch rules.expectedByKind
  unfold closing
  rw [stamped]
  cases known : batch.timestamp with
  | none => simp [PendingBatch.drained, known]
  | some publishTime =>
      have nothing : batch.drained.emitted = 0 := by
        simp [PendingBatch.emitted, PendingBatch.drained, known, emission_nil]
      dsimp only
      rw [nothing, settlement, complete, sample, zero_add]

@[simp] theorem announced_eventSamples (rules : Rules) (batch : PendingBatch)
    (kind : RegularKind) : (rules.announced batch).eventSamples kind = 0 := by
  unfold announced
  split <;> rfl

@[simp] theorem announced_missing (rules : Rules) (batch : PendingBatch) :
    (rules.announced batch).missing = 0 := by
  unfold announced
  split <;> rfl

@[simp] theorem missed_delivery (rules : Rules) (complete : Bool) :
    (rules.missed complete).delivery = 0 := rfl

@[simp] theorem missed_eventSamples (rules : Rules) (complete : Bool) (kind : RegularKind) :
    (rules.missed complete).eventSamples kind = 0 := rfl

end Rules

namespace PendingBatch

@[simp] theorem emitted_delivery (batch : PendingBatch) : batch.emitted.delivery = 0 := by
  unfold emitted
  cases batch.timestamp <;> rfl

@[simp] theorem emitted_missing (batch : PendingBatch) : batch.emitted.missing = 0 := by
  unfold emitted
  cases batch.timestamp <;> rfl

@[simp] theorem batchSample_delivery (batch : PendingBatch) (publishTime : Int) :
    (batch.batchSample publishTime).delivery = 0 := by
  unfold batchSample
  split
  · rfl
  · split <;> rfl

@[simp] theorem batchSample_eventSamples (batch : PendingBatch) (publishTime : Int)
    (kind : RegularKind) : (batch.batchSample publishTime).eventSamples kind = 0 := by
  unfold batchSample
  split
  · rfl
  · split <;> rfl

/-- Within a publication the outcome of a batch is that of its group. -/
theorem replay_settlement {expectedByKind : RegularKind → Nat} {group : Group}
    (within : group.Within expectedByKind) (marked : group.markers ≠ []) :
    { published := expectedByKind } + (replay group).settlement expectedByKind =
      group.delivery expectedByKind := by
  have complete : (replay group).complete expectedByKind =
      decide (group.receivedByKind = expectedByKind) := by
    rw [PendingBatch.complete, replay_receivedByKind]
    exact decide_eq_decide.mpr funext_iff.symm
  unfold Group.delivery settlement
  rw [if_neg marked, complete, replay_received, replay_receivedByKind]
  ext1
  · rfl
  · funext kind
    simp
  · funext kind
    simp only [DeliveryCounters.add_listenerDeficit, Nat.zero_add]
    have bound := within.events kind
    split <;> omega
  · funext kind
    have bound := within.events kind
    simp [Nat.not_lt.mpr bound]
  all_goals simp

end PendingBatch

namespace Rules

/-- The delivery outcome of a replayed group is the one of the specification. -/
theorem contribution_delivery {rules : Rules} {group : Group}
    (within : group.Within rules.expectedByKind) :
    (rules.contribution group).delivery = group.delivery rules.expectedByKind := by
  unfold contribution
  split
  · rename_i empty
    subst empty
    rfl
  · dsimp only
    rw [closing_drained, announced, PendingBatch.replay_timestamp]
    cases marked : group.markers with
    | nil =>
        simp [Group.delivery, marked, PendingBatch.replay_received]
    | cons timestamp rest =>
        have outcome := PendingBatch.replay_settlement within (by simp [marked])
        simpa using outcome

theorem contribution_samples (rules : Rules) (group : Group) (kind : RegularKind) :
    (rules.contribution group).eventSamples kind = group.samples kind := by
  unfold contribution
  split
  · rename_i empty
    subst empty
    rfl
  · dsimp only
    rw [closing_drained, PendingBatch.emitted, PendingBatch.replay_timestamp, Group.samples]
    cases group.markers.head? with
    | none => simp
    | some timestamp => simp [emission, PendingBatch.replay_events]

/-- The batch of a sequence after a group of accepted items, or none once it is
finished. -/
def batchAfter (rules : Rules) (group : Group) : Option PendingBatch :=
  let batch := PendingBatch.replay group
  if group = [] ∨ batch.ready rules.expectedByKind then none else some batch.drained

/-- What the items of a group have added to the ledger so far. -/
def ledgerAfter (rules : Rules) (group : Group) : Ledger :=
  let batch := PendingBatch.replay group
  rules.announced batch + batch.emitted +
    if batch.ready rules.expectedByKind then rules.closing batch.drained else 0

theorem ledgerAfter_nil (rules : Rules) : rules.ledgerAfter [] = 0 := by
  rfl

/-- Closing what is left of a group completes its contribution. -/
theorem ledgerAfter_flush (rules : Rules) (group : Group) :
    rules.ledgerAfter group + entryWeight rules.closing (rules.batchAfter group) =
      rules.contribution group := by
  unfold batchAfter contribution
  by_cases empty : group = []
  · subst empty
    rw [ledgerAfter_nil]
    rfl
  · unfold ledgerAfter
    cases finished : (PendingBatch.replay group).ready rules.expectedByKind <;>
      simp [empty, finished]

end Rules

namespace Group.Within

variable {expectedByKind : RegularKind → Nat} {group : Group} {item : Item}

theorem init (within : Group.Within expectedByKind (group ++ [item])) :
    Group.Within expectedByKind group := by
  constructor
  · have bound := within.markers
    rw [Group.markers_append, List.length_append] at bound
    omega
  · intro kind
    have bound := within.events kind
    rw [Group.receivedByKind_append] at bound
    omega

/-- A publication that is finished has no room for another item. -/
theorem not_ready (live : item ≠ .expire)
    (within : Group.Within expectedByKind (group ++ [item])) :
    (PendingBatch.replay group).ready expectedByKind = false := by
  by_contra finished
  rw [Bool.not_eq_false, PendingBatch.ready, Bool.and_eq_true, PendingBatch.replay_timestamp,
    PendingBatch.complete, PendingBatch.replay_receivedByKind, decide_eq_true_eq] at finished
  obtain ⟨marked, complete⟩ := finished
  cases item with
  | expire => exact live rfl
  | marker timestamp observed =>
      have bound := within.markers
      rw [Group.markers_append, List.length_append] at bound
      have one : (Group.markers [.marker timestamp observed]).length = 1 := rfl
      have none : group.markers = [] := List.length_eq_zero_iff.mp (by omega)
      simp [none] at marked
  | event event =>
      have bound := within.events event.kind
      rw [Group.receivedByKind_append, Group.receivedByKind_event, if_pos rfl, complete] at bound
      omega

end Group.Within

namespace Rules

/-- Draining does not decide whether a batch is finished. -/
theorem ready_drained (batch : PendingBatch) (expectedByKind : RegularKind → Nat) :
    batch.drained.ready expectedByKind = batch.ready expectedByKind := by
  obtain ⟨-, complete, stamped, -⟩ := Collector.drained_settlement batch expectedByKind
  rw [PendingBatch.ready, PendingBatch.ready, complete, stamped]

/-- The announcement is made once, by the item that stamps the batch. -/
theorem announced_observe (rules : Rules) (batch : PendingBatch) (item : Item) :
    rules.announced batch +
        (if batch.drained.timestamp.isNone then rules.announced (batch.drained.observe item)
          else 0) = rules.announced (batch.observe item) := by
  cases stamped : batch.timestamp with
  | none => simp [PendingBatch.drained, announced, stamped]
  | some publishTime =>
      have still : (batch.observe item).timestamp.isSome = true := by
        cases item <;>
          simp [PendingBatch.observe, PendingBatch.observeMarker, PendingBatch.observeEvent,
            stamped]
      simp [PendingBatch.drained, announced, stamped, still]

theorem batchAfter_unfinished {rules : Rules} {group : Group} (nonempty : group ≠ [])
    (unfinished : (PendingBatch.replay group).ready rules.expectedByKind = false) :
    rules.batchAfter group = some (PendingBatch.replay group).drained :=
  if_neg (by simp [nonempty, unfinished])

/-- One more accepted item takes the batch and the ledger of a group to those of
the longer group. -/
theorem accept_batchAfter {rules : Rules} {group : Group} {item : Item} (live : item ≠ .expire)
    (unfinished : (PendingBatch.replay group).ready rules.expectedByKind = false) :
    (rules.accept (rules.batchAfter group) item).1 = rules.batchAfter (group ++ [item]) ∧
      rules.ledgerAfter group + (rules.accept (rules.batchAfter group) item).2 =
        rules.ledgerAfter (group ++ [item]) := by
  let batch := PendingBatch.replay group
  have current : (rules.batchAfter group).getD {} = batch.drained := by
    by_cases empty : group = []
    · subst empty
      rfl
    · rw [batchAfter_unfinished empty unfinished]
      rfl
  have ledger : rules.ledgerAfter group = rules.announced batch + batch.emitted := by
    simp [ledgerAfter, unfinished, batch]
  have nextBatch : rules.batchAfter (group ++ [item]) =
      if (batch.observe item).ready rules.expectedByKind then none
      else some (batch.observe item).drained := by
    simp [batchAfter, PendingBatch.replay_snoc, batch]
  have nextLedger : rules.ledgerAfter (group ++ [item]) =
      rules.announced (batch.observe item) + (batch.observe item).emitted +
        if (batch.observe item).ready rules.expectedByKind then
          rules.closing (batch.observe item).drained
        else 0 := by
    simp [ledgerAfter, PendingBatch.replay_snoc, batch]
  obtain ⟨drained, emitted⟩ := batch.observe_drained item
  have finished : (batch.drained.observe item).ready rules.expectedByKind =
      (batch.observe item).ready rules.expectedByKind := by
    rw [← ready_drained, drained, ready_drained]
  rw [accept_eq rules _ live, current, ledger, nextBatch, nextLedger]
  dsimp only [settle]
  rw [finished, drained, ← rules.announced_observe batch item, ← emitted]
  cases (batch.observe item).ready rules.expectedByKind with
  | true => exact ⟨rfl, by simp only [↓reduceIte]; abel⟩
  | false => exact ⟨rfl, by simp only [Bool.false_eq_true, ↓reduceIte]; abel⟩

end Rules

/-- Along the items of a publication that is accepted from its first item on, the
batch is the replayed group until it is finished. -/
theorem localRun_group {rules : Rules} {blacklisted : Finset Int} {sequence : Int}
    (fresh : sequence ∉ blacklisted) {arrivals : List Arrival}
    (live : ∀ arrival ∈ arrivals, arrival.item ≠ .expire)
    (first : ∀ arrival ∈ arrivals.head?, arrival.accepting = true)
    (within : Group.Within rules.expectedByKind (arrivals.map Arrival.item)) :
    (publicationMachine rules blacklisted).localRun sequence none arrivals =
      (rules.batchAfter (arrivals.map Arrival.item),
        rules.ledgerAfter (arrivals.map Arrival.item)) := by
  induction arrivals using List.reverseRecOn with
  | nil => rfl
  | append_singleton arrivals arrival ih =>
      rw [List.map_append, List.map_singleton] at within ⊢
      have alive := live arrival (by simp)
      have unfinished := within.not_ready alive
      have before := ih (fun other mem => live other (List.mem_append_left _ mem))
        (fun other mem => first other (by
          rw [List.head?_append]
          simp_all)) within.init
      have admitted : sequence ∉ blacklisted ∧ (arrival.accepting = true ∨
          (rules.batchAfter (arrivals.map Arrival.item)).isSome = true) := by
        refine ⟨fresh, ?_⟩
        cases arrivals with
        | nil => exact Or.inl (first arrival rfl)
        | cons head rest =>
            exact Or.inr (by rw [Rules.batchAfter_unfinished (by simp) unfinished]; rfl)
      have step := step_admitted rules alive admitted
      obtain ⟨state, ledger⟩ := Rules.accept_batchAfter alive unfinished
      rw [KeyedMachine.localRun_snoc, before]
      dsimp only
      rw [step, state, ledger]

/-- The items of a blacklisted sequence, or of one first seen after the stop
request, change nothing. -/
theorem localRun_rejected {rules : Rules} {blacklisted : Finset Int} {sequence : Int}
    {arrivals : List Arrival} (live : ∀ arrival ∈ arrivals, arrival.item ≠ .expire)
    (refused : sequence ∈ blacklisted ∨ ∀ arrival ∈ arrivals, arrival.accepting = false) :
    (publicationMachine rules blacklisted).localRun sequence none arrivals = (none, 0) := by
  induction arrivals with
  | nil => rfl
  | cons arrival arrivals ih =>
      have rest := ih (fun other mem => live other (List.mem_cons_of_mem _ mem))
        (refused.imp_right fun closed other mem => closed other (List.mem_cons_of_mem _ mem))
      have barred : ¬ (sequence ∉ blacklisted ∧
          (arrival.accepting = true ∨ (none : Option PendingBatch).isSome = true)) := by
        rintro ⟨fresh, accepting | pending⟩
        · rcases refused with known | closed
          · exact fresh known
          · simp [closed arrival List.mem_cons_self] at accepting
        · simp at pending
      rw [KeyedMachine.localRun, step_barred rules (live arrival List.mem_cons_self) barred]
      simp [rest]

/-! ### A whole measurement -/

namespace Collector

/-- The items of one sequence over a run. -/
def groupOf (api : DxApi) (calls : List Call) (sequence : Int) : Group :=
  KeyedMachine.inputsOf sequence (items api calls)

theorem groupOf_append (api : DxApi) (xs ys : List Call) (sequence : Int) :
    groupOf api (xs ++ ys) sequence = groupOf api xs sequence ++ groupOf api ys sequence := by
  simp [groupOf, items_append]

theorem groupOf_eq_nil {api : DxApi} {calls : List Call} {sequence : Int} :
    groupOf api calls sequence = [] ↔ sequence ∉ sequences api calls := by
  rw [groupOf, KeyedMachine.inputsOf_eq_nil, sequences, List.mem_toFinset]

/-- Only the sequences that occur need to stay within a publication. -/
theorem within_of_sequences {api : DxApi} {calls : List Call}
    {expectedByKind : RegularKind → Nat}
    (h : ∀ sequence ∈ sequences api calls, (groupOf api calls sequence).Within expectedByKind)
    (sequence : Int) : (groupOf api calls sequence).Within expectedByKind := by
  by_cases mem : sequence ∈ sequences api calls
  · exact h sequence mem
  · rw [groupOf_eq_nil.mpr mem]
    exact ⟨Nat.zero_le _, fun kind => Nat.zero_le _⟩

/-- Callbacks carry no expiry. -/
theorem groupOf_live (api : DxApi) (calls : List Call) (sequence : Int) {item : Item}
    (mem : item ∈ groupOf api calls sequence) : item ≠ .expire := by
  rintro rfl
  obtain ⟨⟨k, carried⟩, kept, rfl⟩ := List.mem_map.mp mem
  obtain ⟨call, -, here⟩ := List.mem_flatMap.mp (List.mem_filter.mp kept).1
  cases call with
  | handle events marketCallback observed duration =>
      obtain ⟨event, -, found⟩ := List.mem_filterMap.mp here
      exact itemOf_live found rfl
  | _ => simp at here

theorem inputsOf_arrivals (accepting : Bool) (sequence : Int) (carried : List (Int × Item)) :
    KeyedMachine.inputsOf sequence (arrivals accepting carried) =
      (KeyedMachine.inputsOf sequence carried).map fun item => ⟨accepting, item⟩ :=
  KeyedMachine.inputsOf_map _ sequence carried

/-- One sequence of a measurement, closed at its end: the contribution of its
group if it is new and first seen before the stop request, else nothing. -/
theorem localRun_measurement (rules : Rules) (blacklisted : Finset Int) (api : DxApi)
    (measured tail : List Call) (sequence : Int)
    (within : (groupOf api (measured ++ tail) sequence).Within rules.expectedByKind) :
    let result := (publicationMachine rules blacklisted).localRun sequence none
      (KeyedMachine.inputsOf sequence
        (arrivals true (items api measured) ++ arrivals false (items api tail)))
    result.2 + entryWeight rules.closing result.1 =
      if sequence ∈ sequences api measured \ blacklisted then
        rules.contribution (groupOf api (measured ++ tail) sequence)
      else 0 := by
  let before := groupOf api measured sequence
  let after := groupOf api tail sequence
  let arriving : List Arrival :=
    before.map (fun item => ⟨true, item⟩) ++ after.map fun item => ⟨false, item⟩
  have inputs : KeyedMachine.inputsOf sequence
      (arrivals true (items api measured) ++ arrivals false (items api tail)) = arriving := by
    rw [KeyedMachine.inputsOf_append, inputsOf_arrivals, inputsOf_arrivals]
    rfl
  have group : arriving.map Arrival.item = groupOf api (measured ++ tail) sequence := by
    rw [groupOf_append]
    simp [arriving, Function.comp_def, before, after]
  have live : ∀ arrival ∈ arriving, arrival.item ≠ .expire := fun arrival mem =>
    groupOf_live api (measured ++ tail) sequence
      (group ▸ List.mem_map_of_mem mem)
  rw [inputs]
  split
  · rename_i mem
    obtain ⟨seen, fresh⟩ := Finset.mem_sdiff.mp mem
    have first : ∀ arrival ∈ arriving.head?, arrival.accepting = true := by
      have nonempty : before ≠ [] := mt groupOf_eq_nil.mp (not_not.mpr seen)
      cases split : before with
      | nil => exact absurd split nonempty
      | cons item items => simp [arriving, split]
    dsimp only
    rw [localRun_group fresh live first (group ▸ within), group, rules.ledgerAfter_flush]
  · rename_i notMem
    have refused : sequence ∈ blacklisted ∨ ∀ arrival ∈ arriving, arrival.accepting = false := by
      by_cases known : sequence ∈ blacklisted
      · exact Or.inl known
      · have unseen : before = [] :=
          groupOf_eq_nil.mpr fun seen => notMem (Finset.mem_sdiff.mpr ⟨seen, known⟩)
        exact Or.inr (by simp [arriving, unseen])
    dsimp only
    rw [localRun_rejected live refused]
    simp

/-- A collector that begins follows the items of the two phases. -/
theorem measurement_follows (api : DxApi) {c : Collector} {rules : Rules}
    {blacklisted : Finset Int} (begun : Begun c rules blacklisted) {measured tail : List Call}
    (phases : ∀ call ∈ measured ++ tail, call.withinPhase)
    (quiet : NoExpiry api c (measured ++ .endMeasurement :: tail)) :
    Follows c (c.run api (measured ++ .endMeasurement :: tail))
      (arrivals true (items api measured) ++ arrivals false (items api tail)) := by
  have inMeasured : ∀ call ∈ measured, call.withinPhase :=
    fun call mem => phases call (by simp [mem])
  have inTail : ∀ call ∈ tail, call.withinPhase := fun call mem => phases call (by simp [mem])
  obtain ⟨quietMeasured, quietRest⟩ := quiet.append
  obtain ⟨first, -⟩ := inputsOfRun_quiet api begun.measuring inMeasured quietMeasured
  rw [begun.acceptingNewBatches] at first
  have noBegin : ∀ {calls : List Call}, (∀ call ∈ calls, call.withinPhase) →
      .beginMeasurement ∉ calls :=
    fun inside mem => absurd (inside _ mem) (by simp [Call.withinPhase])
  have followed := run_follows api begun.measuring (noBegin inMeasured)
  rw [first] at followed
  let stopping := c.run api measured
  have measuring : stopping.endMeasurement.measuring = true :=
    followed.measuring.trans begun.measuring
  have stopped := endMeasurement_follows stopping
  obtain ⟨second, -⟩ := inputsOfRun_quiet api measuring inTail quietRest.tail
  have followedTail := run_follows api measuring (noBegin inTail)
  rw [second] at followedTail
  have all := (followed.trans stopped).trans followedTail
  rw [List.append_nil] at all
  rw [run_append]
  exact all

/-- A collector that begins, follows some arrivals and then closes what is pending: its
ledger is the sum over their sequences. -/
theorem Follows.closed_ledger {c c' : Collector} {rules : Rules} {blacklisted : Finset Int}
    (begun : Begun c rules blacklisted) {carried : List (Int × Arrival)}
    (followed : Follows c c' carried) {keys : Finset Int}
    (covers : ∀ input ∈ carried, input.1 ∈ keys) (now : Int) :
    (c'.expirePending true now).ledger = ∑ sequence ∈ keys,
      let result := (publicationMachine rules blacklisted).localRun sequence none
        (KeyedMachine.inputsOf sequence carried)
      result.2 + entryWeight rules.closing result.1 := by
  let machine := publicationMachine rules blacklisted
  have same : c.machine = machine := by
    rw [Collector.machine, begun.rules_eq, begun.blacklisted_eq]
  have batches := followed.batches
  have ledger := followed.ledger
  rw [same, begun.batches] at batches ledger
  rw [begun.ledger, zero_add] at ledger
  have pending : ∀ sequence : Int, c'.pending[sequence]? =
      (machine.localRun sequence none (KeyedMachine.inputsOf sequence carried)).1 :=
    fun sequence => (congrFun batches sequence).trans (machine.run_state _ carried sequence)
  have coversPending : ∀ sequence : Int, sequence ∉ keys → c'.pending[sequence]? = none := by
    intro sequence notMem
    have none : KeyedMachine.inputsOf sequence carried = [] := by
      apply KeyedMachine.inputsOf_eq_nil.mpr
      intro mem
      obtain ⟨input, here, rfl⟩ := List.mem_map.mp mem
      exact notMem (covers input here)
    rw [pending, none]
    rfl
  rw [expirePending_all_ledger, followed.rules, begun.rules_eq, ledger,
    machine.run_output _ carried keys covers,
    Lib.entrySum_eq_sum _ c'.pending keys coversPending, ← Finset.sum_add_distrib]
  apply Finset.sum_congr rfl
  intro sequence _
  rw [pending]

theorem sequences_append (api : DxApi) (xs ys : List Call) :
    sequences api (xs ++ ys) = sequences api xs ∪ sequences api ys := by
  rw [sequences, items_append, List.map_append, List.toFinset_append]
  rfl

/-- The arrivals of some calls have their sequences. -/
theorem mem_sequences_of_arrival {api : DxApi} {calls : List Call} {accepting : Bool}
    {input : Int × Arrival} (mem : input ∈ arrivals accepting (items api calls)) :
    input.1 ∈ sequences api calls := by
  obtain ⟨item, here, rfl⟩ := List.mem_map.mp mem
  exact List.mem_toFinset.mpr (List.mem_map_of_mem here)

/-- The calls of a measurement: a warm-up, the measurement, and a tail after the
stop request. -/
def measurement (warmUp measured tail : List Call) : List Call :=
  warmUp ++ .beginMeasurement :: (measured ++ .endMeasurement :: tail)

/-- The ledger of a measurement closed by a final window is the sum of the
contributions of its new publications. -/
theorem measurement_ledger (api : DxApi) (pattern : TaskPattern) (timeout : Int)
    (allowConflation : Bool) {warmUp measured tail : List Call}
    (phases : ∀ call ∈ warmUp ++ measured ++ tail, call.withinPhase)
    (quiet : NoExpiry api (create pattern timeout allowConflation)
      (measurement warmUp measured tail))
    (within : ∀ sequence, (groupOf api (measured ++ tail) sequence).Within
      (create pattern timeout allowConflation).expectedByKind) (now : Int) :
    ((create pattern timeout allowConflation).run api
        (measurement warmUp measured tail ++ [.takeWindow true now])).ledger =
      ∑ sequence ∈ sequences api measured \ sequences api warmUp,
        (create pattern timeout allowConflation).rules.contribution
          (groupOf api (measured ++ tail) sequence) := by
  let fresh := create pattern timeout allowConflation
  let started := fresh.run api (warmUp ++ [.beginMeasurement])
  let finished := started.run api (measured ++ .endMeasurement :: tail)
  let carried := arrivals true (items api measured) ++ arrivals false (items api tail)
  let keys := sequences api (measured ++ tail)
  have begun : Begun started fresh.rules (sequences api warmUp) :=
    begun_of_run api pattern timeout allowConflation fun mem =>
      absurd (phases .beginMeasurement (by simp [mem])) (by simp [Call.withinPhase])
  have calls : measurement warmUp measured tail =
      (warmUp ++ [.beginMeasurement]) ++ (measured ++ .endMeasurement :: tail) := by
    simp [measurement]
  rw [calls] at quiet ⊢
  have inside : ∀ call ∈ measured ++ tail, call.withinPhase := by
    intro call mem
    apply phases call
    rw [List.append_assoc]
    exact List.mem_append_right _ mem
  have followed : Follows started finished carried :=
    measurement_follows api begun inside quiet.append.2
  have covers : ∀ input ∈ carried, input.1 ∈ keys := by
    intro input mem
    simp only [keys, sequences_append]
    rcases List.mem_append.mp mem with here | here
    · exact Finset.mem_union_left _ (mem_sequences_of_arrival here)
    · exact Finset.mem_union_right _ (mem_sequences_of_arrival here)
  have closed : fresh.run api ((warmUp ++ [.beginMeasurement]) ++
      (measured ++ .endMeasurement :: tail) ++ [.takeWindow true now]) =
      finished.run api [.takeWindow true now] := by
    rw [run_append, run_append]
  have new : keys ∩ (sequences api measured \ sequences api warmUp) =
      sequences api measured \ sequences api warmUp := by
    apply Finset.inter_eq_right.mpr
    intro sequence mem
    simp only [keys, sequences_append]
    exact Finset.mem_union_left _ (Finset.mem_sdiff.mp mem).1
  rw [closed, ← new, ← Finset.sum_ite_mem]
  refine (followed.closed_ledger begun covers now).trans (Finset.sum_congr rfl ?_)
  intro sequence _
  exact localRun_measurement fresh.rules _ api measured tail sequence (within sequence)

/-- The totals of a measurement, whatever the order of arrival: every publication
first seen between the boundaries and never before them counts with its whole
group, every other sequence with nothing. -/
theorem grouped_totals (api : DxApi) (pattern : TaskPattern) (timeout : Int)
    (allowConflation : Bool) (warmUp measured tail : List Call)
    (phases : ∀ call ∈ warmUp ++ measured ++ tail, call.withinPhase)
    (quiet : NoExpiry api (create pattern timeout allowConflation)
      (measurement warmUp measured tail))
    (within : ∀ sequence, (groupOf api (measured ++ tail) sequence).Within
      (create pattern timeout allowConflation).expectedByKind) (now : Int) :
    let fresh := create pattern timeout allowConflation
    let final := fresh.run api (measurement warmUp measured tail ++ [.takeWindow true now])
    let new := sequences api measured \ sequences api warmUp
    final.totals.delivery =
        ∑ sequence ∈ new, (groupOf api (measured ++ tail) sequence).delivery fresh.expectedByKind ∧
      ∀ kind, (final.totals.eventsByKind kind : Multiset Int) =
        ∑ sequence ∈ new, (groupOf api (measured ++ tail) sequence).samples kind := by
  intro fresh final new
  have ledger : final.ledger = ∑ sequence ∈ new,
      fresh.rules.contribution (groupOf api (measured ++ tail) sequence) :=
    measurement_ledger api pattern timeout allowConflation phases quiet within now
  constructor
  · have delivery := congrArg Ledger.deliveryHom ledger
    rw [map_sum] at delivery
    exact delivery.trans (Finset.sum_congr rfl fun sequence _ =>
      Rules.contribution_delivery (within sequence))
  · intro kind
    have samples := congrArg (Ledger.eventSamplesHom kind) ledger
    rw [map_sum] at samples
    exact samples.trans (Finset.sum_congr rfl fun sequence _ =>
      Rules.contribution_samples fresh.rules _ kind)

/-- One Trade per publication. -/
private def tradeTask : TaskPattern := { items := [⟨.trade, 1⟩] }

private def tradeEvent (sequence : Int) : Event :=
  .trade { eventSymbol := "SYM00".toList, sequence := sequence, timeNanos := 100 }

private def markerEvent (sequence : Int) : Event :=
  .textMessage
    { eventSymbol := "LATENCY_MARKER:".toList, text := "LATENCY_BATCH:100".toList,
      sequence := sequence }

/-- A warm-up with sequence 3, an event of sequence 5 before its marker, and a
late event of sequence 3. -/
theorem grouped_totals_event_first :
    let warmUp := [.handle [tradeEvent 3] true 90 1]
    let measured := [.handle [tradeEvent 5] true 150 1, .handle [markerEvent 5] false 160 1]
    let tail := [.handle [tradeEvent 3] true 170 1]
    let final := (create tradeTask 1000 false).run .release
      (measurement warmUp measured tail ++ [.takeWindow true 200])
    final.totals.delivery.fullPublications = 1 ∧
      (final.totals.eventsByKind .trade : Multiset Int) = {50} := by
  intro warmUp measured tail final
  have totals := grouped_totals .release tradeTask 1000 false warmUp measured tail (by decide)
    (noExpiry_of_no_window _ _ (by decide)) (within_of_sequences (by decide +kernel)) 200
  refine ⟨(congrArg DeliveryCounters.fullPublications totals.1).trans ?_,
    (totals.2 .trade).trans ?_⟩
  · decide +kernel
  · decide +kernel

/-- An event observed before the timestamp of its marker leaves no sample, so the
samples are not all the differences. -/
theorem differences_not_all_sampled :
    ¬ ∀ (api : DxApi) (pattern : TaskPattern) (timeout : Int) (allowConflation : Bool)
      (warmUp measured tail : List Call),
      (∀ call ∈ warmUp ++ measured ++ tail, call.withinPhase) →
      NoExpiry api (create pattern timeout allowConflation) (measurement warmUp measured tail) →
      (∀ sequence, (groupOf api (measured ++ tail) sequence).Within
        (create pattern timeout allowConflation).expectedByKind) →
      ∀ now kind,
        (((create pattern timeout allowConflation).run api
          (measurement warmUp measured tail ++ [.takeWindow true now])).totals.eventsByKind kind :
            Multiset Int) =
          ∑ sequence ∈ sequences api measured \ sequences api warmUp,
            (groupOf api (measured ++ tail) sequence).differences kind := by
  intro claim
  have sampled := claim .release tradeTask 1000 false []
    [.handle [markerEvent 5] false 60 1, .handle [tradeEvent 5] true 60 1] [] (by decide)
    (noExpiry_of_no_window _ _ (by decide)) (within_of_sequences (by decide +kernel)) 200 .trade
  revert sampled
  decide +kernel

end Collector

end LatencyTest
