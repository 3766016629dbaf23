import LatencyTest.Lib.Keyed
import LatencyTest.Client.Collector

/-!
The life of one publication, apart from all others. The collector keeps its
batches in one map and its totals in shared counters, but an item of a sequence
touches the entry of that sequence only. `publicationMachine` is that behaviour
for a single sequence; `Ledger` is what a run accumulates, order forgotten. The
collector refines the machine (`LatencyTest.Client.Correlation`), so statements
about whole runs reduce to statements about the items of one sequence.
-/

namespace LatencyTest

/-! ### Ledgers -/

namespace DeliveryCounters

@[simp] theorem zero_published (kind : RegularKind) :
    (0 : DeliveryCounters).published kind = 0 := rfl
@[simp] theorem zero_delivered (kind : RegularKind) :
    (0 : DeliveryCounters).delivered kind = 0 := rfl
@[simp] theorem zero_listenerDeficit (kind : RegularKind) :
    (0 : DeliveryCounters).listenerDeficit kind = 0 := rfl
@[simp] theorem zero_excess (kind : RegularKind) : (0 : DeliveryCounters).excess kind = 0 := rfl
@[simp] theorem zero_fullPublications : (0 : DeliveryCounters).fullPublications = 0 := rfl
@[simp] theorem zero_partialPublications : (0 : DeliveryCounters).partialPublications = 0 := rfl
@[simp] theorem zero_emptyPublications : (0 : DeliveryCounters).emptyPublications = 0 := rfl
@[simp] theorem zero_uncorrelatedEvents : (0 : DeliveryCounters).uncorrelatedEvents = 0 := rfl

variable (a b : DeliveryCounters)

@[simp] theorem add_published (kind : RegularKind) :
    (a + b).published kind = a.published kind + b.published kind := rfl
@[simp] theorem add_delivered (kind : RegularKind) :
    (a + b).delivered kind = a.delivered kind + b.delivered kind := rfl
@[simp] theorem add_listenerDeficit (kind : RegularKind) :
    (a + b).listenerDeficit kind = a.listenerDeficit kind + b.listenerDeficit kind := rfl
@[simp] theorem add_excess (kind : RegularKind) :
    (a + b).excess kind = a.excess kind + b.excess kind := rfl
@[simp] theorem add_fullPublications :
    (a + b).fullPublications = a.fullPublications + b.fullPublications := rfl
@[simp] theorem add_partialPublications :
    (a + b).partialPublications = a.partialPublications + b.partialPublications := rfl
@[simp] theorem add_emptyPublications :
    (a + b).emptyPublications = a.emptyPublications + b.emptyPublications := rfl
@[simp] theorem add_uncorrelatedEvents :
    (a + b).uncorrelatedEvents = a.uncorrelatedEvents + b.uncorrelatedEvents := rfl

instance : AddCommMonoid DeliveryCounters where
  add_assoc a b c := by ext <;> simp [add_assoc]
  zero_add a := by ext <;> simp
  add_zero a := by ext <;> simp
  add_comm a b := by ext <;> simp [add_comm]
  nsmul := nsmulRec

end DeliveryCounters

/-- The whole-run samples and counters of correlation, with the order of the
samples forgotten. -/
@[ext] structure Ledger where
  delivery : DeliveryCounters := 0
  eventSamples : RegularKind → Multiset Int := fun _ => 0
  batchSamples : Multiset Int := 0
  negative : Nat := 0
  missing : Nat := 0

namespace Ledger

instance : Zero Ledger := ⟨{}⟩

instance : Add Ledger where
  add a b :=
    { delivery := a.delivery + b.delivery
      eventSamples := fun kind => a.eventSamples kind + b.eventSamples kind
      batchSamples := a.batchSamples + b.batchSamples
      negative := a.negative + b.negative
      missing := a.missing + b.missing }

@[simp] theorem zero_delivery : (0 : Ledger).delivery = 0 := rfl
@[simp] theorem zero_eventSamples (kind : RegularKind) : (0 : Ledger).eventSamples kind = 0 := rfl
@[simp] theorem zero_batchSamples : (0 : Ledger).batchSamples = 0 := rfl
@[simp] theorem zero_negative : (0 : Ledger).negative = 0 := rfl
@[simp] theorem zero_missing : (0 : Ledger).missing = 0 := rfl

variable (a b : Ledger)

@[simp] theorem add_delivery : (a + b).delivery = a.delivery + b.delivery := rfl
@[simp] theorem add_eventSamples (kind : RegularKind) :
    (a + b).eventSamples kind = a.eventSamples kind + b.eventSamples kind := rfl
@[simp] theorem add_batchSamples : (a + b).batchSamples = a.batchSamples + b.batchSamples := rfl
@[simp] theorem add_negative : (a + b).negative = a.negative + b.negative := rfl
@[simp] theorem add_missing : (a + b).missing = a.missing + b.missing := rfl

instance : AddCommMonoid Ledger where
  add_assoc a b c := by ext1 <;> simp [add_assoc, funext_iff]
  zero_add a := by ext1 <;> simp [funext_iff]
  add_zero a := by ext1 <;> simp [funext_iff]
  add_comm a b := by ext1 <;> simp [add_comm, funext_iff]
  nsmul := nsmulRec

/-- Reading one component of a ledger respects sums. -/
def deliveryHom : Ledger →+ DeliveryCounters where
  toFun := Ledger.delivery
  map_zero' := rfl
  map_add' _ _ := rfl

def eventSamplesHom (kind : RegularKind) : Ledger →+ Multiset Int where
  toFun ledger := ledger.eventSamples kind
  map_zero' := rfl
  map_add' _ _ := rfl

def batchSamplesHom : Ledger →+ Multiset Int where
  toFun := Ledger.batchSamples
  map_zero' := rfl
  map_add' _ _ := rfl

end Ledger

/-! ### What one batch contributes -/

/-- The samples of buffered events once the publication time is known. Negative
differences are counted, not recorded. -/
def emission (publishTime : Int) (events : List PendingEvent) : Ledger where
  eventSamples kind :=
    ((events.filter (·.kind = kind)).map (·.observed - publishTime)).filter (0 ≤ ·)
  negative := (events.filter fun event => event.observed - publishTime < 0).length

theorem emission_nil (publishTime : Int) : emission publishTime [] = 0 := rfl

theorem emission_append (publishTime : Int) (xs ys : List PendingEvent) :
    emission publishTime (xs ++ ys) = emission publishTime xs + emission publishTime ys := by
  ext1 <;> simp [emission, funext_iff]

namespace PendingBatch

/-- The samples that become known when `emitEvents` sees this batch. -/
def emitted (batch : PendingBatch) : Ledger :=
  match batch.timestamp with
  | none => 0
  | some publishTime => emission publishTime batch.events

/-- The batch after `emitEvents`. -/
def drained (batch : PendingBatch) : PendingBatch :=
  match batch.timestamp with
  | none => batch
  | some _ => { batch with events := [] }

/-- The whole-batch sample taken by `finish`. -/
def batchSample (batch : PendingBatch) (publishTime : Int) : Ledger :=
  if batch.received = 0 then 0
  else if batch.lastObserved - publishTime < 0 then { negative := 1 }
  else { batchSamples := {batch.lastObserved - publishTime} }

end PendingBatch

/-! ### The machine -/

/-- The constant configuration of a collector that correlation depends on. -/
structure Rules where
  expectedByKind : RegularKind → Nat
  allowConflation : Bool

/-- An incomplete batch counts as missing unless updates may be conflated. -/
def Rules.missed (rules : Rules) (complete : Bool) : Ledger where
  missing := if complete || rules.allowConflation then 0 else 1

/-- What `finish` contributes. -/
def Rules.closing (rules : Rules) (batch : PendingBatch) : Ledger :=
  match batch.timestamp with
  | none => { delivery := { uncorrelatedEvents := batch.received } } + rules.missed false
  | some publishTime =>
      batch.emitted + { delivery := batch.settlement rules.expectedByKind } +
        rules.missed (batch.complete rules.expectedByKind) + batch.batchSample publishTime

/-- An item of one sequence, as correlation sees it. `expire` is the expiry of
the pending batch by `takeWindow`. -/
inductive Item where
  | marker (timestamp observed : Int)
  | event (event : PendingEvent)
  | expire

/-- An item together with whether new sequences are accepted when it arrives. -/
structure Arrival where
  accepting : Bool
  item : Item

/-- Emits what is known of a batch, then finishes it if it is ready. -/
def Rules.settle (rules : Rules) (batch : PendingBatch) (ready : Bool) :
    Option PendingBatch × Ledger :=
  if ready then (none, batch.emitted + rules.closing batch.drained)
  else (some batch.drained, batch.emitted)

/-- The effect of an accepted item on the batch of its sequence. -/
def Rules.accept (rules : Rules) (state : Option PendingBatch) : Item → Option PendingBatch × Ledger
  | .marker timestamp observed =>
      let before := state.getD {}
      let batch := before.observeMarker timestamp observed
      let next := rules.settle batch (batch.complete rules.expectedByKind)
      (next.1,
        (if before.timestamp.isNone then { delivery := { published := rules.expectedByKind } }
          else 0) + next.2)
  | .event event =>
      let batch := (state.getD {}).observeEvent event
      rules.settle batch (batch.timestamp.isSome && batch.complete rules.expectedByKind)
  | .expire => (none, Lib.entryWeight rules.closing state)

namespace PendingBatch

/-- What an item writes into the batch of its sequence. -/
def observe (batch : PendingBatch) : Item → PendingBatch
  | .marker timestamp observed => batch.observeMarker timestamp observed
  | .event event => batch.observeEvent event
  | .expire => batch

/-- Whether a batch is finished by an item: marked and complete. -/
def ready (batch : PendingBatch) (expectedByKind : RegularKind → Nat) : Bool :=
  batch.timestamp.isSome && batch.complete expectedByKind

end PendingBatch

namespace Rules

/-- What the first marker of a batch announces. -/
def announced (rules : Rules) (batch : PendingBatch) : Ledger :=
  if batch.timestamp.isSome then { delivery := { published := rules.expectedByKind } } else 0

/-- An accepted item other than an expiry settles the observed batch. -/
theorem accept_eq (rules : Rules) (state : Option PendingBatch) {item : Item}
    (live : item ≠ .expire) :
    rules.accept state item =
      let batch := (state.getD {}).observe item
      let next := rules.settle batch (batch.ready rules.expectedByKind)
      (next.1, (if (state.getD {}).timestamp.isNone then rules.announced batch else 0) +
        next.2) := by
  cases item with
  | expire => exact absurd rfl live
  | marker timestamp observed =>
      simp [accept, PendingBatch.observe, PendingBatch.ready, PendingBatch.observeMarker, announced]
  | event event =>
      cases stamped : (state.getD {}).timestamp <;>
        simp [accept, PendingBatch.observe, PendingBatch.ready, PendingBatch.observeEvent,
          announced, stamped]

end Rules

/-- One publication sequence: items of a blacklisted sequence are dropped, and so
are items of an unknown one once no new sequences are accepted. -/
def publicationMachine (rules : Rules) (blacklisted : Finset Int) :
    Lib.KeyedMachine Int (Option PendingBatch) Arrival Ledger where
  step sequence state arrival :=
    match arrival.item with
    | .expire => rules.accept state .expire
    | item =>
        if sequence ∉ blacklisted ∧ (arrival.accepting ∨ state.isSome) then rules.accept state item
        else (state, 0)

section Admission

variable (rules : Rules) {blacklisted : Finset Int} {sequence : Int} {state : Option PendingBatch}
  {arrival : Arrival}

theorem step_admitted (live : arrival.item ≠ .expire)
    (admitted : sequence ∉ blacklisted ∧ (arrival.accepting = true ∨ state.isSome = true)) :
    (publicationMachine rules blacklisted).step sequence state arrival =
      rules.accept state arrival.item := by
  obtain ⟨accepting, item⟩ := arrival
  cases item with
  | expire => exact absurd rfl live
  | marker timestamp observed => exact if_pos admitted
  | event event => exact if_pos admitted

theorem step_barred (live : arrival.item ≠ .expire)
    (barred : ¬ (sequence ∉ blacklisted ∧ (arrival.accepting = true ∨ state.isSome = true))) :
    (publicationMachine rules blacklisted).step sequence state arrival = (state, 0) := by
  obtain ⟨accepting, item⟩ := arrival
  cases item with
  | expire => exact absurd rfl live
  | marker timestamp observed => exact if_neg barred
  | event event => exact if_neg barred

end Admission

end LatencyTest
