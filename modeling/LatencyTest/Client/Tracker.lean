import LatencyTest.Lib.Keyed
import LatencyTest.Core.Wire

/-!
The client's `TimeSeriesTracker` (`src/client.cpp`): the snapshot protocol of each
TimeAndSale symbol and the counters of snapshot and live events. The clock is an
input. Waiting is not modelled.

An event of a symbol reads and writes the state of that symbol only. `machine` is
this behaviour for one symbol, with the increments of the counters as its output,
and the tracker follows it (`handleAll_follows`), so the counters of a run are sums
over the symbols, whatever the interleaving and the callbacks. For one symbol, a
snapshot that is closed by its last event completes the symbol and what comes after
it is live (`localRun_snapshot`, `localRun_live`).
-/

namespace LatencyTest

/-! ### The source -/

/-- Tracks snapshot protocol state and seen indices for one symbol. -/
structure SymbolState where
  started : Bool := false
  complete : Bool := false
  indices : Finset Int := ∅
deriving DecidableEq

/-- The map from symbols to their states is its key set and its values, a fresh
state for every other symbol. -/
structure TimeSeriesTracker where
  observedSymbols : Finset Text := ∅
  symbols : Text → SymbolState := fun _ => {}
  subscribedAtNs : Int := 0
  firstObservedNs : Int := 0
  completedAtNs : Int := 0
  firstLiveNs : Int := 0
  expectedSymbols : Nat := 0
  completedSymbols : Nat := 0
  callbacks : Nat := 0
  snapshotCallbacks : Nat := 0
  snapshotEvents : Nat := 0
  snapshotBegins : Nat := 0
  snapshotEnds : Nat := 0
  snapshotSnips : Nat := 0
  snapshotRemovals : Nat := 0
  liveEvents : Nat := 0
  prematureLiveEvents : Nat := 0
  duplicateIndices : Nat := 0
  clockAnomalies : Nat := 0
  measuring : Bool := false
  liveLatencies : List Int := []

/-- Whether an event is part of the snapshot of its symbol. -/
def SymbolState.inSnapshot (state : SymbolState) (flags : EventFlags) : Bool :=
  flags.snapshotBegin || flags.snapshotEnd || flags.snapshotSnip ||
    (state.started && !state.complete)

namespace TimeSeriesTracker

/-- Marks the instant immediately before time-series symbols are subscribed. -/
def beginSnapshot (t : TimeSeriesTracker) (expectedSymbols : Nat) (subscribedAtNs : Int) :
    TimeSeriesTracker :=
  { t with expectedSymbols := expectedSymbols, subscribedAtNs := subscribedAtNs }

/-- The state of a symbol, which the first access creates. -/
def access (t : TimeSeriesTracker) (symbol : Text) (observed : Int) : TimeSeriesTracker :=
  { t with
    firstObservedNs := if t.firstObservedNs = 0 then observed else t.firstObservedNs
    observedSymbols := insert symbol t.observedSymbols }

def setState (t : TimeSeriesTracker) (symbol : Text) (state : SymbolState) : TimeSeriesTracker :=
  { t with symbols := Function.update t.symbols symbol state }

/-- SNAPSHOT_BEGIN. -/
def beginSymbol (t : TimeSeriesTracker) (symbol : Text) : TimeSeriesTracker :=
  { t.setState symbol { t.symbols symbol with started := true } with
    snapshotBegins := t.snapshotBegins + 1 }

/-- Counts an event of a snapshot; an index may occur only once. -/
def countSnapshot (api : DxApi) (t : TimeSeriesTracker) (event : TimeAndSale) :
    TimeSeriesTracker :=
  if event.eventFlags.removeEvent then { t with snapshotRemovals := t.snapshotRemovals + 1 }
  else
    let state := t.symbols event.eventSymbol
    let index := event.getIndex api
    { t.setState event.eventSymbol { state with indices := insert index state.indices } with
      snapshotEvents := t.snapshotEvents + 1
      duplicateIndices := t.duplicateIndices + if index ∈ state.indices then 1 else 0 }

/-- SNAPSHOT_END or SNAPSHOT_SNIP completes the symbol, the first time. -/
def completeSymbol (t : TimeSeriesTracker) (event : TimeAndSale) (observed : Int) :
    TimeSeriesTracker :=
  let state := t.symbols event.eventSymbol
  let flags := event.eventFlags
  if (flags.snapshotEnd || flags.snapshotSnip) && !state.complete then
    { t.setState event.eventSymbol { state with complete := true } with
      completedSymbols := t.completedSymbols + 1
      snapshotEnds := t.snapshotEnds + flags.snapshotEnd.toNat
      snapshotSnips := t.snapshotSnips + flags.snapshotSnip.toNat
      completedAtNs :=
        if t.completedSymbols + 1 = t.expectedSymbols then observed else t.completedAtNs }
  else t

/-- An event outside the snapshot of its symbol. -/
def countLive (t : TimeSeriesTracker) (event : TimeAndSale) (observed : Int) :
    TimeSeriesTracker :=
  if ¬ (t.symbols event.eventSymbol).complete then
    { t with prematureLiveEvents := t.prematureLiveEvents + 1 }
  else
    let t := { t with
      liveEvents := t.liveEvents + 1
      firstLiveNs := if t.firstLiveNs = 0 then observed else t.firstLiveNs }
    if t.measuring then
      let latency := observed - event.timeNanos
      if latency < 0 then { t with clockAnomalies := t.clockAnomalies + 1 }
      else { t with liveLatencies := t.liveLatencies ++ [latency] }
    else t

/-- The body of the loop of `handle` for a TimeAndSale event. The phase of the
symbol is read before SNAPSHOT_BEGIN starts it. -/
def observe (api : DxApi) (observed : Int) (t : TimeSeriesTracker) (event : TimeAndSale) :
    TimeSeriesTracker :=
  let t := t.access event.eventSymbol observed
  let inSnapshot := (t.symbols event.eventSymbol).inSnapshot event.eventFlags
  let t := if event.eventFlags.snapshotBegin then t.beginSymbol event.eventSymbol else t
  if inSnapshot then (t.countSnapshot api event).completeSymbol event observed
  else t.countLive event observed

/-- The loop of `handle`: the tracker, and whether a snapshot event occurred. -/
def observeAll (api : DxApi) (observed : Int) (t : TimeSeriesTracker) :
    List Event → TimeSeriesTracker × Bool
  | [] => (t, false)
  | .timeAndSale event :: events =>
      let rest := observeAll api observed (t.observe api observed event) events
      (rest.1, (t.symbols event.eventSymbol).inSnapshot event.eventFlags || rest.2)
  | _ :: events => observeAll api observed t events

/-- Processes one listener callback. -/
def handle (api : DxApi) (t : TimeSeriesTracker) (events : List Event) (observed : Int) :
    TimeSeriesTracker :=
  let result := observeAll api observed { t with callbacks := t.callbacks + 1 } events
  { result.1 with snapshotCallbacks := result.1.snapshotCallbacks + result.2.toNat }

/-- Whether every requested symbol has completed its initial snapshot. -/
def snapshotComplete (t : TimeSeriesTracker) : Bool :=
  t.expectedSymbols > 0 && t.completedSymbols ≥ t.expectedSymbols

/-- Begins collecting live latency samples. -/
def beginMeasurement (t : TimeSeriesTracker) : TimeSeriesTracker :=
  { t with measuring := true, liveLatencies := [] }

def endMeasurement (t : TimeSeriesTracker) : TimeSeriesTracker := { t with measuring := false }

end TimeSeriesTracker

/-! ### One symbol -/

/-- The counters of a tracker that events increment. -/
inductive TrackerCounter where
  | snapshotEvents
  | snapshotBegins
  | snapshotEnds
  | snapshotSnips
  | snapshotRemovals
  | liveEvents
  | prematureLiveEvents
  | duplicateIndices
  | completedSymbols
deriving DecidableEq

namespace TimeSeriesTracker

def counters (t : TimeSeriesTracker) : TrackerCounter → Nat
  | .snapshotEvents => t.snapshotEvents
  | .snapshotBegins => t.snapshotBegins
  | .snapshotEnds => t.snapshotEnds
  | .snapshotSnips => t.snapshotSnips
  | .snapshotRemovals => t.snapshotRemovals
  | .liveEvents => t.liveEvents
  | .prematureLiveEvents => t.prematureLiveEvents
  | .duplicateIndices => t.duplicateIndices
  | .completedSymbols => t.completedSymbols

end TimeSeriesTracker

namespace SymbolState

/-- The state after SNAPSHOT_BEGIN, if the flags have it. -/
def begun (state : SymbolState) (flags : EventFlags) : SymbolState :=
  { state with started := state.started || flags.snapshotBegin }

/-- The state after the index of an event that is not removed. -/
def recorded (api : DxApi) (state : SymbolState) (event : TimeAndSale) : SymbolState :=
  { state with
    indices := if event.eventFlags.removeEvent then state.indices
      else insert (event.getIndex api) state.indices }

/-- The state after SNAPSHOT_END or SNAPSHOT_SNIP, if the flags have one. -/
def closed (state : SymbolState) (flags : EventFlags) : SymbolState :=
  { state with complete := state.complete || (flags.snapshotEnd || flags.snapshotSnip) }

/-- Whether an event completes the snapshot of its symbol. -/
def completes (state : SymbolState) (flags : EventFlags) : Bool :=
  (flags.snapshotEnd || flags.snapshotSnip) && !state.complete

/-- The symbol after an event. -/
def next (api : DxApi) (state : SymbolState) (event : TimeAndSale) : SymbolState :=
  if state.inSnapshot event.eventFlags then
    ((state.begun event.eventFlags).recorded api event).closed event.eventFlags
  else state

/-- What an event adds to the counters. -/
def increments (api : DxApi) (state : SymbolState) (event : TimeAndSale) : TrackerCounter → Nat :=
  let flags := event.eventFlags
  let snapshot := state.inSnapshot flags
  fun
  | .snapshotEvents => (snapshot && !flags.removeEvent).toNat
  | .snapshotBegins => flags.snapshotBegin.toNat
  | .snapshotEnds => (state.completes flags && flags.snapshotEnd).toNat
  | .snapshotSnips => (state.completes flags && flags.snapshotSnip).toNat
  | .snapshotRemovals => (snapshot && flags.removeEvent).toNat
  | .liveEvents => (!snapshot && state.complete).toNat
  | .prematureLiveEvents => (!snapshot && !state.complete).toNat
  | .duplicateIndices =>
      (snapshot && !flags.removeEvent && decide (event.getIndex api ∈ state.indices)).toNat
  | .completedSymbols => (state.completes flags).toNat

/-- An event that does not complete a snapshot closes nothing. -/
theorem closed_of_not_completes {state : SymbolState} {flags : EventFlags}
    (proceeds : state.completes flags = false) : state.closed flags = state := by
  obtain ⟨started, complete, indices⟩ := state
  cases complete with
  | false =>
      have unflagged : (flags.snapshotEnd || flags.snapshotSnip) = false := by
        simpa [completes] using proceeds
      simp [closed, unflagged]
  | true => simp [closed]

/-- An event outside a snapshot begins nothing and completes nothing. -/
theorem live_flags {state : SymbolState} {flags : EventFlags}
    (live : state.inSnapshot flags = false) :
    flags.snapshotBegin = false ∧ state.completes flags = false := by
  simp only [inSnapshot, Bool.or_eq_false_iff] at live
  obtain ⟨⟨⟨begins, ends⟩, snips⟩, -⟩ := live
  exact ⟨begins, by simp [completes, ends, snips]⟩

/-- One symbol. -/
def machine (api : DxApi) :
    Lib.KeyedMachine Text SymbolState TimeAndSale (TrackerCounter → Nat) where
  step _ state event := (state.next api event, state.increments api event)

end SymbolState

namespace TimeSeriesTracker

/-- What a part of the loop body does: the new state of one symbol and what it adds
to the counters. -/
structure Does (t t' : TimeSeriesTracker) (symbol : Text) (state : SymbolState)
    (added : TrackerCounter → Nat) : Prop where
  symbols : t'.symbols = Function.update t.symbols symbol state
  counters : t'.counters = t.counters + added
  expectedSymbols : t'.expectedSymbols = t.expectedSymbols

theorem Does.trans {t t' t'' : TimeSeriesTracker} {symbol : Text} {state state' : SymbolState}
    {added added' : TrackerCounter → Nat} (first : Does t t' symbol state added)
    (second : Does t' t'' symbol state' added') : Does t t'' symbol state' (added + added') where
  symbols := by rw [second.symbols, first.symbols, Function.update_idem]
  counters := by rw [second.counters, first.counters, add_assoc]
  expectedSymbols := second.expectedSymbols.trans first.expectedSymbols

/-- Events that leave the state of the symbol alone. -/
theorem Does.of_unchanged {t t' : TimeSeriesTracker} {added : TrackerCounter → Nat}
    (symbol : Text) (symbols : t'.symbols = t.symbols) (counters : t'.counters = t.counters + added)
    (expectedSymbols : t'.expectedSymbols = t.expectedSymbols) :
    Does t t' symbol (t.symbols symbol) added where
  symbols := by rw [symbols, Function.update_eq_self]
  counters := counters
  expectedSymbols := expectedSymbols

theorem begin_does (t : TimeSeriesTracker) (symbol : Text) (flags : EventFlags) :
    Does t (if flags.snapshotBegin then t.beginSymbol symbol else t) symbol
      ((t.symbols symbol).begun flags)
      (Pi.single .snapshotBegins flags.snapshotBegin.toNat) := by
  unfold SymbolState.begun
  cases flags.snapshotBegin with
  | false =>
      rw [Bool.or_false]
      exact .of_unchanged symbol rfl (by simp) rfl
  | true =>
      rw [Bool.or_true]
      refine ⟨rfl, ?_, rfl⟩
      funext counter
      cases counter <;> rfl

theorem countSnapshot_does (api : DxApi) (t : TimeSeriesTracker) (event : TimeAndSale) :
    Does t (t.countSnapshot api event) event.eventSymbol
      ((t.symbols event.eventSymbol).recorded api event)
      (Pi.single .snapshotRemovals event.eventFlags.removeEvent.toNat +
        Pi.single .snapshotEvents (!event.eventFlags.removeEvent).toNat +
        Pi.single .duplicateIndices (!event.eventFlags.removeEvent &&
          decide (event.getIndex api ∈ (t.symbols event.eventSymbol).indices)).toNat) := by
  unfold countSnapshot SymbolState.recorded
  cases event.eventFlags.removeEvent with
  | true =>
      refine .of_unchanged _ rfl ?_ rfl
      funext counter
      cases counter <;> rfl
  | false =>
      refine ⟨rfl, ?_, rfl⟩
      by_cases seen : event.getIndex api ∈ (t.symbols event.eventSymbol).indices
      all_goals
        simp only [seen]
        funext counter
        cases counter <;> rfl

theorem completeSymbol_does (t : TimeSeriesTracker) (event : TimeAndSale) (observed : Int) :
    let state := t.symbols event.eventSymbol
    let flags := event.eventFlags
    Does t (t.completeSymbol event observed) event.eventSymbol (state.closed flags)
      (Pi.single .completedSymbols (state.completes flags).toNat +
        Pi.single .snapshotEnds (state.completes flags && flags.snapshotEnd).toNat +
        Pi.single .snapshotSnips (state.completes flags && flags.snapshotSnip).toNat) := by
  intro state flags
  have test : ((flags.snapshotEnd || flags.snapshotSnip) && !state.complete) =
      state.completes flags := rfl
  unfold completeSymbol
  dsimp only
  rw [test]
  cases completes : state.completes flags with
  | true =>
      rw [if_pos rfl]
      have final : state.closed flags = { state with complete := true } := by
        rw [SymbolState.closed, (Bool.and_eq_true_iff.mp completes).1, Bool.or_true]
      refine ⟨by rw [final]; rfl, ?_, rfl⟩
      funext counter
      cases counter <;> simp [counters, setState, flags]
  | false =>
      rw [if_neg Bool.false_ne_true, SymbolState.closed_of_not_completes completes]
      exact .of_unchanged _ rfl (by simp) rfl

theorem countLive_does (t : TimeSeriesTracker) (event : TimeAndSale) (observed : Int) :
    let state := t.symbols event.eventSymbol
    Does t (t.countLive event observed) event.eventSymbol state
      (Pi.single .liveEvents state.complete.toNat +
        Pi.single .prematureLiveEvents (!state.complete).toNat) := by
  intro state
  unfold countLive
  cases complete : state.complete with
  | false =>
      rw [if_pos Bool.false_ne_true]
      refine .of_unchanged _ rfl ?_ rfl
      funext counter
      cases counter <;> rfl
  | true =>
      rw [if_neg (not_not_intro rfl)]
      dsimp only
      split
      on_goal 1 => split
      all_goals
        refine .of_unchanged _ rfl ?_ rfl
        funext counter
        cases counter <;> rfl

/-- An event changes the state of its symbol and the counters as the machine says. -/
theorem observe_does (api : DxApi) (observed : Int) (t : TimeSeriesTracker) (event : TimeAndSale) :
    Does t (t.observe api observed event) event.eventSymbol
      ((t.symbols event.eventSymbol).next api event)
      ((t.symbols event.eventSymbol).increments api event) := by
  let state := t.symbols event.eventSymbol
  let flags := event.eventFlags
  let accessed := t.access event.eventSymbol observed
  let begun := if flags.snapshotBegin then accessed.beginSymbol event.eventSymbol else accessed
  have access : Does t accessed event.eventSymbol state 0 :=
    .of_unchanged _ rfl (add_zero _).symm rfl
  have started : Does t begun event.eventSymbol (state.begun flags) _ :=
    access.trans (begin_does accessed event.eventSymbol flags)
  have current : begun.symbols event.eventSymbol = state.begun flags := by
    rw [started.symbols, Function.update_self]
  have observe_eq : t.observe api observed event = if state.inSnapshot flags then
      (begun.countSnapshot api event).completeSymbol event observed
    else begun.countLive event observed := rfl
  rw [observe_eq]
  cases snapshot : state.inSnapshot flags with
  | true =>
      rw [if_pos rfl]
      have recorded := countSnapshot_does api begun event
      have closed := completeSymbol_does (begun.countSnapshot api event) event observed
      have done := (started.trans recorded).trans closed
      rw [recorded.symbols, Function.update_self, current] at done
      convert done using 1
      · rw [SymbolState.next, if_pos snapshot]
      · funext counter
        cases counter with
        | duplicateIndices =>
            simp [SymbolState.increments, SymbolState.begun, snapshot, state, flags]
            rfl
        | _ =>
            simp [SymbolState.increments, SymbolState.completes, SymbolState.begun,
              SymbolState.recorded, snapshot, state, flags]
  | false =>
      rw [if_neg Bool.false_ne_true]
      have done := started.trans (countLive_does begun event observed)
      obtain ⟨noBegin, proceeds⟩ := SymbolState.live_flags snapshot
      have same : state.begun flags = state := by
        rw [SymbolState.begun, noBegin, Bool.or_false]
      rw [current, same] at done
      convert done using 1
      · rw [SymbolState.next, if_neg (by simpa using snapshot)]
      · funext counter
        cases counter <;>
          simp [SymbolState.increments, proceeds, noBegin, snapshot, state, flags]

/-- The inputs of the machine in a callback: the TimeAndSale events with their
symbols. -/
def inputs (events : List Event) : List (Text × TimeAndSale) :=
  (timeAndSales events).map fun event => (event.eventSymbol, event)

theorem inputs_append (xs ys : List Event) : inputs (xs ++ ys) = inputs xs ++ inputs ys := by
  rw [inputs, timeAndSales_append, List.map_append]
  rfl

theorem inputsOf_inputs (symbol : Text) (events : List Event) :
    Lib.KeyedMachine.inputsOf symbol (inputs events) =
      (timeAndSales events).filter (·.eventSymbol = symbol) := by
  simp [Lib.KeyedMachine.inputsOf, inputs, List.filter_map, Function.comp_def]

/-- The trackers of a run: what the machine says, whatever the callbacks are. -/
structure Follows (api : DxApi) (t t' : TimeSeriesTracker) (inputs : List (Text × TimeAndSale)) :
    Prop where
  symbols : t'.symbols = ((SymbolState.machine api).run t.symbols inputs).1
  counters : t'.counters = t.counters + ((SymbolState.machine api).run t.symbols inputs).2
  expectedSymbols : t'.expectedSymbols = t.expectedSymbols

theorem Follows.trans {api : DxApi} {t t' t'' : TimeSeriesTracker}
    {xs ys : List (Text × TimeAndSale)} (first : Follows api t t' xs)
    (second : Follows api t' t'' ys) : Follows api t t'' (xs ++ ys) where
  symbols := by rw [second.symbols, first.symbols, Lib.KeyedMachine.run_append]
  counters := by
    rw [second.counters, first.counters, first.symbols, Lib.KeyedMachine.run_append, add_assoc]
  expectedSymbols := second.expectedSymbols.trans first.expectedSymbols

theorem observeAll_follows (api : DxApi) (observed : Int) (t : TimeSeriesTracker)
    (events : List Event) : Follows api t (t.observeAll api observed events).1 (inputs events) := by
  induction events generalizing t with
  | nil => exact ⟨rfl, (add_zero _).symm, rfl⟩
  | cons event events ih =>
      cases event with
      | timeAndSale event =>
          have step := observe_does api observed t event
          have here : Follows api t (t.observe api observed event)
              [(event.eventSymbol, event)] :=
            ⟨step.symbols, by rw [step.counters]; simp [Lib.KeyedMachine.run, SymbolState.machine],
              step.expectedSymbols⟩
          exact here.trans (ih _)
      | _ => exact ih t

/-- One callback. -/
theorem handle_follows (api : DxApi) (t : TimeSeriesTracker) (events : List Event)
    (observed : Int) : Follows api t (t.handle api events observed) (inputs events) := by
  have loop := observeAll_follows api observed { t with callbacks := t.callbacks + 1 } events
  refine ⟨loop.symbols, ?_, loop.expectedSymbols⟩
  have counted : (t.handle api events observed).counters =
      (observeAll api observed { t with callbacks := t.callbacks + 1 } events).1.counters := by
    funext counter
    cases counter <;> rfl
  rw [counted, loop.counters]
  congr 1

/-- The callbacks of a listener, each with the time it is observed. -/
def handleAll (api : DxApi) (t : TimeSeriesTracker) (callbacks : List (List Event × Int)) :
    TimeSeriesTracker :=
  callbacks.foldl (fun t callback => t.handle api callback.1 callback.2) t

/-- How the events are divided into callbacks does not matter. -/
theorem handleAll_follows (api : DxApi) (t : TimeSeriesTracker)
    (callbacks : List (List Event × Int)) :
    Follows api t (t.handleAll api callbacks) (inputs (callbacks.flatMap Prod.fst)) := by
  induction callbacks generalizing t with
  | nil => exact ⟨rfl, (add_zero _).symm, rfl⟩
  | cons callback callbacks ih =>
      rw [List.flatMap_cons, inputs_append]
      exact (handle_follows api t callback.1 callback.2).trans (ih _)

end TimeSeriesTracker

/-! ### One snapshot -/

/-- The events of a snapshot, or its last ones: the last event and no other carries
SNAPSHOT_END or SNAPSHOT_SNIP. -/
inductive Closes : List TimeAndSale → Prop where
  | last {event : TimeAndSale}
      (closing : (event.eventFlags.snapshotEnd || event.eventFlags.snapshotSnip) = true) :
      Closes [event]
  | cons {event : TimeAndSale} {events : List TimeAndSale}
      (proceeding : (event.eventFlags.snapshotEnd || event.eventFlags.snapshotSnip) = false)
      (rest : Closes events) : Closes (event :: events)

/-- The indices of the events of a snapshot that are not removed. -/
def indicesOf (api : DxApi) (events : List TimeAndSale) : List Int :=
  (events.filter fun event => !event.eventFlags.removeEvent).map (TimeAndSale.getIndex api)

/-- The flags of a snapshot, counted. -/
def flagCounts (events : List TimeAndSale) : TrackerCounter → Nat
  | .snapshotEvents => events.countP fun event => !event.eventFlags.removeEvent
  | .snapshotRemovals => events.countP (·.eventFlags.removeEvent)
  | .snapshotBegins => events.countP (·.eventFlags.snapshotBegin)
  | .snapshotEnds => events.countP (·.eventFlags.snapshotEnd)
  | .snapshotSnips => events.countP (·.eventFlags.snapshotSnip)
  | .completedSymbols =>
      events.countP fun event => event.eventFlags.snapshotEnd || event.eventFlags.snapshotSnip
  | _ => 0

theorem indicesOf_cons (api : DxApi) (event : TimeAndSale) (events : List TimeAndSale) :
    indicesOf api (event :: events) = indicesOf api [event] ++ indicesOf api events := by
  cases removed : event.eventFlags.removeEvent <;> simp [indicesOf, removed]

theorem flagCounts_cons (event : TimeAndSale) (events : List TimeAndSale) :
    flagCounts (event :: events) = flagCounts [event] + flagCounts events := by
  funext counter
  cases counter <;> simp [flagCounts, List.countP_cons, Nat.add_comm]

namespace SymbolState

/-- An event of an open snapshot whose index is new counts by its flags only. -/
theorem next_snapshot (api : DxApi) {state : SymbolState} {event : TimeAndSale}
    (incomplete : state.complete = false)
    (begun : state.started = true ∨ event.eventFlags.snapshotBegin = true)
    (fresh : ∀ index ∈ indicesOf api [event], index ∉ state.indices) :
    state.next api event =
        { started := true
          complete := event.eventFlags.snapshotEnd || event.eventFlags.snapshotSnip
          indices := state.indices ∪ (indicesOf api [event]).toFinset } ∧
      state.increments api event = flagCounts [event] := by
  have snapshot : state.inSnapshot event.eventFlags = true := by
    rcases begun with started | begins
    · simp [inSnapshot, started, incomplete]
    · simp [inSnapshot, begins]
  have started : (state.started || event.eventFlags.snapshotBegin) = true := by simpa using begun
  constructor
  · rw [next, if_pos snapshot]
    simp only [closed, recorded, SymbolState.begun, started, incomplete, Bool.false_or]
    cases removed : event.eventFlags.removeEvent with
    | true => simp [indicesOf, removed]
    | false => simp [indicesOf, removed]
  · funext counter
    cases counter with
    | duplicateIndices =>
        cases removed : event.eventFlags.removeEvent with
        | true => simp [increments, flagCounts, removed]
        | false =>
            have new := fresh (event.getIndex api) (by simp [indicesOf, removed])
            simp [increments, flagCounts, removed, new]
    | snapshotEnds =>
        cases ends : event.eventFlags.snapshotEnd <;>
          simp [increments, flagCounts, completes, incomplete, ends]
    | snapshotSnips =>
        cases snips : event.eventFlags.snapshotSnip <;>
          simp [increments, flagCounts, completes, incomplete, snips]
    | _ =>
        simp [increments, flagCounts, snapshot, completes, incomplete, Bool.toNat,
          Bool.cond_eq_ite]

/-- A closed snapshot with new and distinct indices completes its symbol and counts
by its flags. -/
theorem localRun_snapshot (api : DxApi) (symbol : Text) (state : SymbolState)
    {events : List TimeAndSale} (closes : Closes events) (incomplete : state.complete = false)
    (begun : state.started = true ∨
      ∃ first rest, events = first :: rest ∧ first.eventFlags.snapshotBegin = true)
    (distinct : (indicesOf api events).Nodup)
    (fresh : ∀ index ∈ indicesOf api events, index ∉ state.indices) :
    ((machine api).localRun symbol state events).1.complete = true ∧
      ((machine api).localRun symbol state events).2 = flagCounts events := by
  induction closes generalizing state with
  | @last event closing =>
      have begins : state.started = true ∨ event.eventFlags.snapshotBegin = true := by
        simpa using begun
      obtain ⟨next, increments⟩ := next_snapshot api incomplete begins fresh
      simp [Lib.KeyedMachine.localRun, machine, next, increments, closing]
  | @cons event events proceeding rest ih =>
      have begins : state.started = true ∨ event.eventFlags.snapshotBegin = true := by
        simpa using begun
      rw [indicesOf_cons, List.nodup_append] at distinct
      rw [indicesOf_cons] at fresh
      obtain ⟨-, distinctRest, apart⟩ := distinct
      obtain ⟨next, increments⟩ := next_snapshot api incomplete begins
        fun index mem => fresh index (List.mem_append_left _ mem)
      have freshRest : ∀ index ∈ indicesOf api events,
          index ∉ (state.next api event).indices := by
        intro index mem seen
        rw [next, Finset.mem_union, List.mem_toFinset] at seen
        rcases seen with before | here
        · exact fresh index (List.mem_append_right _ mem) before
        · exact apart index here index mem rfl
      obtain ⟨complete, counted⟩ :=
        ih _ (by rw [next]; exact proceeding) (.inl (by rw [next])) distinctRest freshRest
      rw [flagCounts_cons, ← increments, ← counted]
      exact ⟨complete, rfl⟩

/-- What comes without flags after the snapshot is live. -/
theorem localRun_live (api : DxApi) (symbol : Text) {state : SymbolState}
    {events : List TimeAndSale} (complete : state.complete = true)
    (plain : ∀ event ∈ events, event.eventFlags = {}) :
    (machine api).localRun symbol state events =
      (state, Pi.single .liveEvents events.length) := by
  induction events with
  | nil => simp [Lib.KeyedMachine.localRun]
  | cons event events ih =>
      have unflagged := plain event List.mem_cons_self
      have live : state.inSnapshot {} = false := by simp [inSnapshot, complete]
      have increments : state.increments api event = Pi.single .liveEvents 1 := by
        funext counter
        cases counter <;>
          simp [SymbolState.increments, live, complete, unflagged, completes]
      have unchanged : state.next api event = state := by
        rw [next, unflagged, live, if_neg Bool.false_ne_true]
      rw [Lib.KeyedMachine.localRun]
      simp only [machine, unchanged, increments] at ih ⊢
      rw [ih fun other mem => plain other (List.mem_cons_of_mem _ mem), ← Pi.single_add,
        List.length_cons, Nat.add_comm]

end SymbolState

end LatencyTest
