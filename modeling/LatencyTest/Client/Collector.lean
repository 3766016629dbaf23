import LatencyTest.Lib.MapSum
import LatencyTest.Core.Wire
import LatencyTest.Core.SourceTime

/-!
The client's `Collector` (`src/client.cpp`): it correlates received events with
the marker of their publication and accumulates latency samples and delivery
counters, in a copy for the current window and a copy for the whole run.

Clocks are inputs: `observed` is `unixNanosNow()` at the start of a callback,
`duration` the steady-clock time the callback took, `now` the wall clock inside
`takeWindow`. Diagnostic output on `std::cerr` is not modelled, nor is storage
reservation. `std::map` is `Std.TreeMap`; sets that are only tested for
membership and counted are `Finset`.
-/

namespace LatencyTest

open Lib (fromCharsInt)

/-- The elements of `EVENT_KINDS`: the event kinds of the marker-correlated
market subscription. A TimeAndSale, for which `eventKindIndex` throws, is not one
of them. -/
inductive RegularKind where
  | quote
  | trade
  | tradeEth
  | summary
deriving DecidableEq, Repr

instance : Fintype RegularKind where
  elems := {.quote, .trade, .tradeEth, .summary}
  complete kind := by cases kind <;> decide

def RegularKind.toEventKind : RegularKind → EventKind
  | .quote => .quote
  | .trade => .trade
  | .tradeEth => .tradeEth
  | .summary => .summary

theorem RegularKind.toEventKind_injective : Function.Injective RegularKind.toEventKind := by
  intro a b same
  cases a <;> cases b <;> first | rfl | cases same

/-! ### Descriptions and markers -/

/-- The correlation fields of one supported market event. -/
structure Description where
  kind : RegularKind
  symbol : Text
  sequence : Option Int
  sourceTimeMs : Option Int
deriving DecidableEq

/-- `std::trunc`: the integer part, toward zero. -/
def trunc (value : ℚ) : Int := value.num.tdiv value.den

/-- Extracts the fields used to associate a market event with a publication. -/
def describe (api : DxApi) : Event → Option Description
  | .quote event =>
      match event.bidSize with
      | .nonFinite => none
      | .finite encodedSequence =>
          if encodedSequence ≤ 0 ∨ encodedSequence ≥ api.maxSequence ∨
              (trunc encodedSequence : ℚ) ≠ encodedSequence then none
          else some ⟨.quote, event.eventSymbol, some (trunc encodedSequence), none⟩
  | .trade event => some ⟨.trade, event.eventSymbol, some event.sequence, some event.getTime⟩
  | .tradeEth event =>
      some ⟨.tradeEth, event.eventSymbol, some event.sequence, some event.getTime⟩
  | .summary event => some ⟨.summary, event.eventSymbol, some event.dayId, none⟩
  | _ => none

def markerPrefix : Text := "LATENCY_BATCH:".toList

/-- The publication time carried by a marker text. -/
def markerTimestamp (text : Text) : Option Int :=
  if ¬ markerPrefix.isPrefixOf text then none
  else
    match (fromCharsInt (2 ^ 63 - 1) (text.drop markerPrefix.length)).whole with
    | none => none
    | some result => if result ≤ 0 then none else some result

/-! ### State -/

/-- A latency observation. All times are in nanoseconds. -/
structure Sample where
  observedAtNs : Int
  publishTimeNs : Int
  latencyNs : Int
  kind : RegularKind
  symbol : Text
deriving DecidableEq

/-- An event retained until its marker supplies the publication time. -/
structure PendingEvent where
  observed : Int
  publishTime : Option Int
  kind : RegularKind
  symbol : Text
deriving DecidableEq

/-- Everything observed so far of one publication sequence. -/
structure PendingBatch where
  timestamp : Option Int := none
  received : Nat := 0
  receivedByKind : RegularKind → Nat := fun _ => 0
  firstObserved : Int := 0
  lastObserved : Int := 0
  events : List PendingEvent := []
deriving DecidableEq

/-- What `addEvent` writes into a batch. -/
def PendingBatch.observeEvent (batch : PendingBatch) (event : PendingEvent) : PendingBatch :=
  { batch with
    firstObserved := if batch.received = 0 then event.observed else batch.firstObserved
    lastObserved := max batch.lastObserved event.observed
    received := batch.received + 1
    receivedByKind := Function.update batch.receivedByKind event.kind
      (batch.receivedByKind event.kind + 1)
    events := batch.events ++ [event] }

/-- What a marker writes into a batch: the first timestamp stays. -/
def PendingBatch.observeMarker (batch : PendingBatch) (timestamp observed : Int) : PendingBatch :=
  { batch with
    timestamp := some (batch.timestamp.getD timestamp)
    firstObserved := if batch.firstObserved = 0 then observed else batch.firstObserved
    lastObserved := max batch.lastObserved observed }

/-- Expected and observed delivery outcomes. -/
@[ext] structure DeliveryCounters where
  published : RegularKind → Nat := fun _ => 0
  delivered : RegularKind → Nat := fun _ => 0
  listenerDeficit : RegularKind → Nat := fun _ => 0
  excess : RegularKind → Nat := fun _ => 0
  fullPublications : Nat := 0
  partialPublications : Nat := 0
  emptyPublications : Nat := 0
  uncorrelatedEvents : Nat := 0
deriving DecidableEq

/-- Whether every kind was received exactly as often as expected. -/
def PendingBatch.complete (batch : PendingBatch) (expectedByKind : RegularKind → Nat) : Bool :=
  decide (∀ kind, batch.receivedByKind kind = expectedByKind kind)

/-- What `finish` adds to the delivery counters for a batch with a timestamp. -/
def PendingBatch.settlement (batch : PendingBatch) (expectedByKind : RegularKind → Nat) :
    DeliveryCounters where
  delivered := batch.receivedByKind
  listenerDeficit kind :=
    if batch.receivedByKind kind < expectedByKind kind then
      expectedByKind kind - batch.receivedByKind kind
    else 0
  excess kind :=
    if batch.receivedByKind kind > expectedByKind kind then
      batch.receivedByKind kind - expectedByKind kind
    else 0
  fullPublications := if batch.complete expectedByKind then 1 else 0
  emptyPublications := if ¬ batch.complete expectedByKind ∧ batch.received = 0 then 1 else 0
  partialPublications := if ¬ batch.complete expectedByKind ∧ batch.received ≠ 0 then 1 else 0

structure Collector where
  expectedByKind : RegularKind → Nat
  batchTimeout : Int
  allowConflation : Bool
  measuring : Bool := false
  sourceTimeMeasuring : Bool := false
  acceptingNewBatches : Bool := false
  preMeasurementSequences : Finset Int := ∅
  eventWindow : List Sample := []
  batchWindow : List Sample := []
  callbackSizeWindow : List Int := []
  callbackDurationWindow : List Int := []
  eventGlobalByKind : RegularKind → List Int := fun _ => []
  batchGlobal : List Int := []
  callbackSizeGlobal : List Int := []
  callbackDurationGlobal : List Int := []
  pending : Std.TreeMap Int PendingBatch := ∅
  callbacksWindow : Nat := 0
  callbacksTotal : Nat := 0
  negativeWindow : Nat := 0
  negativeTotal : Nat := 0
  missingWindow : Nat := 0
  missingTotal : Nat := 0
  profileSymbolsReceived : Finset Text := ∅
  activity : Nat := 0
  deliveryWindow : DeliveryCounters := {}
  deliveryTotal : DeliveryCounters := {}
  sourceTimeMethods : SourceTimeMethodComparison := {}

/-- The data of one reporting window. -/
structure Window where
  events : List Sample
  batches : List Sample
  callbackSizes : List Int
  callbackDurations : List Int
  callbacks : Nat
  negative : Nat
  missing : Nat
  pending : Nat
  delivery : DeliveryCounters

/-- Whole-run samples and counters. -/
structure Totals where
  eventsByKind : RegularKind → List Int
  batches : List Int
  callbackSizes : List Int
  callbackDurations : List Int
  callbacks : Nat
  negative : Nat
  missing : Nat
  pending : Nat
  profilesReceived : Nat
  delivery : DeliveryCounters
  sourceTimeMethods : SourceTimeMethodSnapshot

/-- Counters add componentwise. -/
instance : Zero DeliveryCounters := ⟨{}⟩

instance : Add DeliveryCounters where
  add a b :=
    { published := fun kind => a.published kind + b.published kind
      delivered := fun kind => a.delivered kind + b.delivered kind
      listenerDeficit := fun kind => a.listenerDeficit kind + b.listenerDeficit kind
      excess := fun kind => a.excess kind + b.excess kind
      fullPublications := a.fullPublications + b.fullPublications
      partialPublications := a.partialPublications + b.partialPublications
      emptyPublications := a.emptyPublications + b.emptyPublications
      uncorrelatedEvents := a.uncorrelatedEvents + b.uncorrelatedEvents }

namespace Collector

/-- The collector of a task before any callback. -/
def create (pattern : TaskPattern) (timeout : Int) (allowConflation : Bool) : Collector where
  expectedByKind kind := (pattern.quantity kind.toEventKind).getD 0
  batchTimeout := timeout
  allowConflation := allowConflation

/-- Adds to the window and to the whole-run copy of the delivery counters. -/
def deliver (c : Collector) (increments : DeliveryCounters) : Collector :=
  { c with
    deliveryWindow := c.deliveryWindow + increments
    deliveryTotal := c.deliveryTotal + increments }

/-- Counts a clock anomaly. -/
def countNegative (c : Collector) : Collector :=
  { c with negativeWindow := c.negativeWindow + 1, negativeTotal := c.negativeTotal + 1 }

/-- Counts an incomplete batch, unless the endpoint may conflate updates. -/
def countMissing (c : Collector) : Collector :=
  if c.allowConflation then c
  else { c with missingWindow := c.missingWindow + 1, missingTotal := c.missingTotal + 1 }

/-- The body of the loop of `emitEvents`. -/
def emitEvent (publishTime : Int) (c : Collector) (event : PendingEvent) : Collector :=
  let delta := event.observed - publishTime
  if delta < 0 then c.countNegative
  else
    { c with
      eventWindow := c.eventWindow ++
        [⟨event.observed, publishTime, delta, event.kind, event.symbol⟩]
      eventGlobalByKind := Function.update c.eventGlobalByKind event.kind
        (c.eventGlobalByKind event.kind ++ [delta]) }

/-- Turns the buffered events of a batch with a timestamp into samples. -/
def emitEvents (c : Collector) (batch : PendingBatch) : Collector × PendingBatch :=
  match batch.timestamp with
  | none => (c, batch)
  | some publishTime => (batch.events.foldl (emitEvent publishTime) c, { batch with events := [] })

/-- `std::ranges::equal` of the received and the expected counts. -/
def hasExpectedComposition (c : Collector) (batch : PendingBatch) : Bool :=
  batch.complete c.expectedByKind

/-- Records the whole-batch latency of a batch that received something. -/
def sampleBatch (c : Collector) (batch : PendingBatch) (publishTime : Int) : Collector :=
  if batch.received = 0 then c
  else
    let batchDelta := batch.lastObserved - publishTime
    if batchDelta < 0 then c.countNegative
    else
      { c with
        batchWindow := c.batchWindow ++
          [⟨batch.lastObserved, publishTime, batchDelta, .quote, []⟩]
        batchGlobal := c.batchGlobal ++ [batchDelta] }

/-- Removes a batch from the map. -/
def erase (c : Collector) (sequence : Int) : Collector :=
  { c with pending := c.pending.erase sequence }

/-- Accounts for the batch stored under `sequence` and removes it. -/
def finish (c : Collector) (sequence : Int) (batch : PendingBatch) : Collector :=
  match batch.timestamp with
  | none =>
      ((c.deliver { uncorrelatedEvents := batch.received }).countMissing).erase sequence
  | some publishTime =>
      let (c, batch) := c.emitEvents batch
      let c := c.deliver (batch.settlement c.expectedByKind)
      let c := if batch.complete c.expectedByKind then c else c.countMissing
      (c.sampleBatch batch publishTime).erase sequence

/-- Whether items of a sequence are taken into account: never after the sequence
was observed during warm-up, and after the stop request only while pending. -/
def acceptBatch (c : Collector) (sequence : Int) : Bool :=
  if sequence ∈ c.preMeasurementSequences then false
  else c.acceptingNewBatches || c.pending.contains sequence

/-- Stores a changed batch and finishes it when `ready`. -/
def store (c : Collector) (sequence : Int) (batch : PendingBatch) (ready : Bool) : Collector :=
  let c := { c with pending := c.pending.insert sequence batch }
  if ready then c.finish sequence batch else c

def addEvent (c : Collector) (sequence : Int) (event : PendingEvent) : Collector :=
  if ¬ c.acceptBatch sequence then c
  else
    let batch := ((c.pending[sequence]?).getD {}).observeEvent event
    let (c, batch) := c.emitEvents batch
    c.store sequence batch (batch.timestamp.isSome && c.hasExpectedComposition batch)

/-- The branch of `handle` for a marker with a valid timestamp. -/
def addMarker (c : Collector) (sequence timestamp observed : Int) : Collector :=
  if ¬ c.acceptBatch sequence then c
  else
    let batch := (c.pending[sequence]?).getD {}
    let c := if batch.timestamp.isNone then c.deliver { published := c.expectedByKind } else c
    let batch := batch.observeMarker timestamp observed
    let (c, batch) := c.emitEvents batch
    c.store sequence batch (c.hasExpectedComposition batch)

/-! ### Callbacks -/

/-- Feeds the source-time selections while they are enabled. -/
def observeSourceTime (c : Collector) (description : Description) (observed : Int) : Collector :=
  match c.sourceTimeMeasuring, description.sourceTimeMs with
  | true, some sourceTimeMs =>
      let methods := c.sourceTimeMethods.observe description.kind.toEventKind description.symbol
        sourceTimeMs observed
      { c with sourceTimeMethods := methods }
  | _, _ => c

/-- The part of the measuring loop of `handle` for events that are no markers. -/
def handleMarketEvent (api : DxApi) (observed : Int) (c : Collector) (event : Event) :
    Collector :=
  match describe api event with
  | none => c
  | some description =>
      let c := c.observeSourceTime description observed
      match description.sequence with
      | none => c
      | some sequence =>
          c.addEvent sequence
            ⟨observed, description.sourceTimeMs, description.kind, description.symbol⟩

/-- The body of the measuring loop of `handle`. -/
def handleEvent (api : DxApi) (observed : Int) (c : Collector) (event : Event) : Collector :=
  match event with
  | .textMessage marker =>
      match markerTimestamp marker.text with
      | none => c
      | some timestamp => c.addMarker marker.sequence timestamp observed
  | event => handleMarketEvent api observed c event

/-- The publication sequence an event identifies, if any: a marker with a valid
timestamp by its own sequence, a market event by its description. -/
def sequenceOf (api : DxApi) (event : Event) : Option Int :=
  match event with
  | .textMessage marker => (markerTimestamp marker.text).map fun _ => marker.sequence
  | event => (describe api event).bind Description.sequence

/-- The body of the loop of `handle` before the measurement. -/
def blacklist (api : DxApi) (sequences : Finset Int) (event : Event) : Finset Int :=
  match sequenceOf api event with
  | none => sequences
  | some sequence => insert sequence sequences

/-- Remembers the symbols of Profile events. -/
def receiveProfile (symbols : Finset Text) : Event → Finset Text
  | .profile eventSymbol => insert eventSymbol symbols
  | _ => symbols

/-- Remembers the Profile symbols of a callback. -/
def receiveProfiles (c : Collector) (events : List Event) : Collector :=
  { c with profileSymbolsReceived := events.foldl receiveProfile c.profileSymbolsReceived }

/-- Counts a callback as activity. -/
def countCallback (c : Collector) : Collector :=
  { c with
    activity := c.activity + 1
    callbacksWindow := c.callbacksWindow + 1
    callbacksTotal := c.callbacksTotal + 1 }

/-- Records the size and the duration of a market callback. -/
def recordCallback (c : Collector) (size duration : Int) : Collector :=
  { c with
    callbackSizeWindow := c.callbackSizeWindow ++ [size]
    callbackDurationWindow := c.callbackDurationWindow ++ [duration]
    callbackSizeGlobal := c.callbackSizeGlobal ++ [size]
    callbackDurationGlobal := c.callbackDurationGlobal ++ [duration] }

/-- One listener callback. -/
def handle (api : DxApi) (c : Collector) (events : List Event) (marketCallback : Bool)
    (observed duration : Int) : Collector :=
  let c := c.receiveProfiles events
  if ¬ c.measuring then
    { c with preMeasurementSequences := events.foldl (blacklist api) c.preMeasurementSequences }
  else
    let c := events.foldl (handleEvent api observed) c.countCallback
    if marketCallback then c.recordCallback events.length duration else c

/-- A callback before the measurement only fills the blacklist. -/
theorem handle_idle (api : DxApi) {c : Collector} (idle : c.measuring = false)
    (events : List Event) (marketCallback : Bool) (observed duration : Int) :
    c.handle api events marketCallback observed duration =
      { c.receiveProfiles events with
        preMeasurementSequences := events.foldl (blacklist api) c.preMeasurementSequences } :=
  if_pos (by simp [receiveProfiles, idle])

/-- A callback during the measurement processes its events in order. -/
theorem handle_measuring (api : DxApi) {c : Collector} (measuring : c.measuring = true)
    (events : List Event) (marketCallback : Bool) (observed duration : Int) :
    c.handle api events marketCallback observed duration =
      let after := events.foldl (handleEvent api observed) (c.receiveProfiles events).countCallback
      if marketCallback then after.recordCallback events.length duration else after :=
  if_neg (by simp [receiveProfiles, measuring])

/-! ### Measurement boundaries and windows -/

def beginMeasurement (c : Collector) : Collector :=
  { c with
    eventWindow := []
    batchWindow := []
    callbackSizeWindow := []
    callbackDurationWindow := []
    pending := ∅
    callbacksWindow := 0
    negativeWindow := 0
    missingWindow := 0
    deliveryWindow := {}
    sourceTimeMethods := c.sourceTimeMethods.reset
    acceptingNewBatches := true
    sourceTimeMeasuring := true
    measuring := true }

def endMeasurement (c : Collector) : Collector :=
  { c with acceptingNewBatches := false, sourceTimeMeasuring := false }

/-- Whether `takeWindow` finishes a batch: always, or when its reference time is
older than the batch timeout. -/
def expires (c : Collector) (expireAll : Bool) (now : Int) (batch : PendingBatch) : Bool :=
  expireAll || decide (batch.timestamp.getD batch.firstObserved < now - c.batchTimeout * 1000000)

/-- The expiry loop of `takeWindow`. Finishing a batch touches no other entry, so
the entries can be read off before the loop. -/
def expirePending (c : Collector) (expireAll : Bool) (now : Int) : Collector :=
  c.pending.toList.foldl
    (fun current entry =>
      if c.expires expireAll now entry.2 then current.finish entry.1 entry.2 else current) c

/-- The window as it stands. -/
def window (c : Collector) : Window where
  events := c.eventWindow
  batches := c.batchWindow
  callbackSizes := c.callbackSizeWindow
  callbackDurations := c.callbackDurationWindow
  callbacks := c.callbacksWindow
  negative := c.negativeWindow
  missing := c.missingWindow
  pending := c.pending.size
  delivery := c.deliveryWindow

def clearWindow (c : Collector) : Collector :=
  { c with
    eventWindow := []
    batchWindow := []
    callbackSizeWindow := []
    callbackDurationWindow := []
    callbacksWindow := 0
    negativeWindow := 0
    missingWindow := 0
    deliveryWindow := {} }

/-- Extracts and resets the current window, expiring overdue batches first. -/
def takeWindow (c : Collector) (expireAll : Bool) (now : Int) : Window × Collector :=
  let c := c.expirePending expireAll now
  (c.window, c.clearWindow)

def totals (c : Collector) : Totals where
  eventsByKind := c.eventGlobalByKind
  batches := c.batchGlobal
  callbackSizes := c.callbackSizeGlobal
  callbackDurations := c.callbackDurationGlobal
  callbacks := c.callbacksTotal
  negative := c.negativeTotal
  missing := c.missingTotal
  pending := c.pending.size
  profilesReceived := c.profileSymbolsReceived.card
  delivery := c.deliveryTotal
  sourceTimeMethods := c.sourceTimeMethods.data

/-! ### Runs -/

/-- A call on the collector with the clock values it reads. -/
inductive Call where
  | handle (events : List Event) (marketCallback : Bool) (observed duration : Int)
  | beginMeasurement
  | endMeasurement
  | takeWindow (expireAll : Bool) (now : Int)

def call (api : DxApi) (c : Collector) : Call → Collector
  | .handle events marketCallback observed duration =>
      c.handle api events marketCallback observed duration
  | .beginMeasurement => c.beginMeasurement
  | .endMeasurement => c.endMeasurement
  | .takeWindow expireAll now => (c.takeWindow expireAll now).2

/-- The collector after a sequence of calls. -/
def run (api : DxApi) (c : Collector) (calls : List Call) : Collector :=
  calls.foldl (call api) c

end Collector

end LatencyTest
