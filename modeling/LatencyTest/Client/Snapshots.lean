import LatencyTest.Client.Tracker

/-!
What the counters of a tracker say of its symbols. A run of calls is one run of the
symbol machine, so a counter is a sum over the symbols. A symbol is completed at
most once, by its first event with SNAPSHOT_END or SNAPSHOT_SNIP, and its first
event is premature unless it is flagged. The counters are totals: they tell how
many SNAPSHOT_BEGIN events there were, not whose they were.
-/

namespace LatencyTest

/-- A call on the tracker with the clock value it reads. -/
inductive TrackerCall where
  | handle (events : List Event) (observed : Int)
  | beginMeasurement
  | endMeasurement

/-- The events of a call. -/
def TrackerCall.events : TrackerCall → List Event
  | .handle events _ => events
  | _ => []

namespace TimeSeriesTracker

def call (api : DxApi) (t : TimeSeriesTracker) : TrackerCall → TimeSeriesTracker
  | .handle events observed => t.handle api events observed
  | .beginMeasurement => t.beginMeasurement
  | .endMeasurement => t.endMeasurement

def run (api : DxApi) (t : TimeSeriesTracker) (calls : List TrackerCall) : TimeSeriesTracker :=
  calls.foldl (call api) t

theorem call_follows (api : DxApi) (t : TimeSeriesTracker) (made : TrackerCall) :
    Follows api t (t.call api made) (inputs made.events) := by
  cases made with
  | handle events observed => exact handle_follows api t events observed
  | beginMeasurement => exact ⟨rfl, (add_zero _).symm, rfl⟩
  | endMeasurement => exact ⟨rfl, (add_zero _).symm, rfl⟩

theorem run_follows (api : DxApi) (t : TimeSeriesTracker) (calls : List TrackerCall) :
    Follows api t (t.run api calls) (inputs (calls.flatMap TrackerCall.events)) := by
  induction calls generalizing t with
  | nil => exact ⟨rfl, (add_zero _).symm, rfl⟩
  | cons made calls ih =>
      rw [List.flatMap_cons, inputs_append]
      exact (call_follows api t made).trans (ih _)

end TimeSeriesTracker

/-! ### One symbol -/

/-- Whether an event completes a symbol that is not complete yet. -/
def EventFlags.closes (flags : EventFlags) : Bool := flags.snapshotEnd || flags.snapshotSnip

/-- The event that completes a symbol, among its events. -/
def closing (events : List TimeAndSale) : Option TimeAndSale :=
  events.find? (·.eventFlags.closes)

theorem closes_of_closing {events : List TimeAndSale} {event : TimeAndSale}
    (found : closing events = some event) : event.eventFlags.closes = true :=
  @List.find?_some _ (fun event : TimeAndSale => event.eventFlags.closes) event events found

/-- The SNAPSHOT_BEGIN events. -/
def begins (events : List TimeAndSale) : Nat := events.countP (·.eventFlags.snapshotBegin)

/-- The flags of SNAPSHOT_END and SNAPSHOT_SNIP on an event. -/
def EventFlags.closings (flags : EventFlags) : Nat :=
  flags.snapshotEnd.toNat + flags.snapshotSnip.toNat

theorem EventFlags.closings_pos {flags : EventFlags} (closes : flags.closes = true) :
    0 < flags.closings := by
  rcases (Bool.or_eq_true_iff.mp closes) with ends | snips
  · simp [closings, ends]
  · simp [closings, snips]

namespace SymbolState

variable (api : DxApi) (symbol : Text)

theorem completes_eq (state : SymbolState) (flags : EventFlags) :
    state.completes flags = (flags.closes && !state.complete) := rfl

/-- An event completes a symbol exactly when it closes it. -/
theorem next_complete (state : SymbolState) (event : TimeAndSale) :
    (state.next api event).complete = (state.complete || event.eventFlags.closes) := by
  unfold next
  cases snapshot : state.inSnapshot event.eventFlags with
  | true => rfl
  | false =>
      rw [if_neg Bool.false_ne_true]
      simp only [inSnapshot, Bool.or_eq_false_iff] at snapshot
      obtain ⟨⟨⟨-, ends⟩, snips⟩, -⟩ := snapshot
      rw [EventFlags.closes, ends, snips, Bool.or_false, Bool.or_false]

theorem localRun_cons (state : SymbolState) (event : TimeAndSale) (events : List TimeAndSale)
    (counter : TrackerCounter) :
    ((machine api).localRun symbol state (event :: events)).2 counter =
      state.increments api event counter +
        ((machine api).localRun symbol (state.next api event) events).2 counter := rfl

/-- Every SNAPSHOT_BEGIN event is counted. -/
theorem localRun_begins (state : SymbolState) (events : List TimeAndSale) :
    ((machine api).localRun symbol state events).2 .snapshotBegins = begins events := by
  induction events generalizing state with
  | nil => rfl
  | cons event events ih =>
      rw [localRun_cons, ih, begins, begins, List.countP_cons, Nat.add_comm]
      congr 1
      cases begin : event.eventFlags.snapshotBegin <;> simp [increments, begin]

/-- A complete symbol is not completed again. -/
theorem localRun_complete {state : SymbolState} (complete : state.complete = true)
    (events : List TimeAndSale) {counter : TrackerCounter}
    (once : counter = .completedSymbols ∨ counter = .snapshotEnds ∨ counter = .snapshotSnips) :
    ((machine api).localRun symbol state events).2 counter = 0 := by
  induction events generalizing state with
  | nil => rfl
  | cons event events ih =>
      have still : (state.next api event).complete = true := by
        rw [next_complete, complete, Bool.true_or]
      have finished : state.completes event.eventFlags = false := by
        rw [completes_eq, complete, Bool.not_true, Bool.and_false]
      rw [localRun_cons, ih still, Nat.add_zero]
      rcases once with rfl | rfl | rfl <;> simp [increments, finished]

/-- An incomplete symbol is completed by its closing event, whose flags are counted. -/
theorem localRun_closing {state : SymbolState} (incomplete : state.complete = false)
    (events : List TimeAndSale) :
    let counters := ((machine api).localRun symbol state events).2
    counters .completedSymbols = (closing events).isSome.toNat ∧
      counters .snapshotEnds + counters .snapshotSnips =
        (closing events).elim 0 fun event => event.eventFlags.closings := by
  induction events generalizing state with
  | nil => exact ⟨rfl, rfl⟩
  | cons event events ih =>
      have after := next_complete api state event
      rw [incomplete, Bool.false_or] at after
      dsimp only
      simp only [localRun_cons]
      cases closes : event.eventFlags.closes with
      | true =>
          rw [closes] at after
          have found : closing (event :: events) = some event := List.find?_cons_of_pos closes
          have completes : state.completes event.eventFlags = true := by
            rw [completes_eq, closes, incomplete]
            rfl
          rw [localRun_complete api symbol after events (.inl rfl),
            localRun_complete api symbol after events (.inr (.inl rfl)),
            localRun_complete api symbol after events (.inr (.inr rfl)), found]
          simp [increments, completes, EventFlags.closings]
      | false =>
          rw [closes] at after
          have skipped : closing (event :: events) = closing events :=
            List.find?_cons_of_neg (by rw [closes]; exact Bool.false_ne_true)
          have proceeds : state.completes event.eventFlags = false := by
            rw [completes_eq, closes, Bool.false_and]
          obtain ⟨completed, closed⟩ := ih after
          rw [skipped, ← completed, ← closed]
          simp [increments, proceeds]

/-- Without premature events the first event of a symbol is flagged. -/
theorem localRun_first {events : List TimeAndSale}
    (timely : ((machine api).localRun symbol {} events).2 .prematureLiveEvents = 0)
    {first : TimeAndSale} (here : first ∈ events.head?) :
    first.eventFlags.snapshotBegin = true ∨ first.eventFlags.closes = true := by
  cases events with
  | nil => cases here
  | cons event events =>
      cases here
      rw [localRun_cons, Nat.add_eq_zero_iff] at timely
      have counted := timely.1
      by_contra plain
      obtain ⟨begins, closes⟩ := not_or.mp plain
      rw [Bool.not_eq_true] at begins closes
      obtain ⟨ends, snips⟩ := Bool.or_eq_false_iff.mp closes
      simp [increments, inSnapshot, begins, ends, snips] at counted

end SymbolState

/-! ### The totals -/

/-- Numbers that are at most one and add up to how many they are, are all one. -/
theorem eq_one_of_sum_eq_card {κ : Type} {keys : Finset κ} {f : κ → Nat}
    (bound : (∀ k ∈ keys, f k ≤ 1) ∨ ∀ k ∈ keys, 1 ≤ f k) (sum : ∑ k ∈ keys, f k = keys.card)
    {k : κ} (mem : k ∈ keys) : f k = 1 := by
  rw [Finset.card_eq_sum_ones] at sum
  rcases bound with atMost | atLeast
  · exact (Finset.sum_eq_sum_iff_of_le atMost).mp sum k mem
  · exact ((Finset.sum_eq_sum_iff_of_le atLeast).mp sum.symm k mem).symm

namespace TimeSeriesTracker

/-- A tracker whose counters pass the checks on the snapshots of the requested symbols. -/
structure Passes (t : TimeSeriesTracker) (requested : Nat) : Prop where
  completedSymbols : t.completedSymbols = requested
  snapshotBegins : t.snapshotBegins = requested
  closings : t.snapshotEnds + t.snapshotSnips = requested
  prematureLiveEvents : t.prematureLiveEvents = 0

/-- The events of a symbol in a run. -/
def received (calls : List TrackerCall) (symbol : Text) : List TimeAndSale :=
  (timeAndSales (calls.flatMap TrackerCall.events)).filter (·.eventSymbol = symbol)

variable (api : DxApi) {requested : Finset Text} {start : TimeSeriesTracker}
  {calls : List TrackerCall}

/-- A counter of a run is the sum over the requested symbols. -/
theorem counters_sum (covered : ∀ event ∈ timeAndSales (calls.flatMap TrackerCall.events),
      event.eventSymbol ∈ requested)
    (fresh : start.counters = 0) (empty : start.symbols = fun _ => {}) (counter : TrackerCounter) :
    (start.run api calls).counters counter = ∑ symbol ∈ requested,
      ((SymbolState.machine api).localRun symbol {} (received calls symbol)).2 counter := by
  have follows := run_follows api start calls
  have covers : ∀ input ∈ inputs (calls.flatMap TrackerCall.events), input.1 ∈ requested := by
    intro input mem
    obtain ⟨event, here, rfl⟩ := List.mem_map.mp mem
    exact covered event here
  rw [follows.counters, fresh, zero_add, Lib.KeyedMachine.run_output _ _ _ _ covers,
    Finset.sum_apply, empty]
  apply Finset.sum_congr rfl
  intro symbol mem
  rw [inputsOf_inputs]
  rfl

section Passing

variable (covered : ∀ event ∈ timeAndSales (calls.flatMap TrackerCall.events),
    event.eventSymbol ∈ requested)
  (fresh : start.counters = 0) (empty : start.symbols = fun _ => {})
  (passes : (start.run api calls).Passes requested.card)

include covered fresh empty passes

/-- Where the counters pass an event completes every requested symbol. -/
theorem passes_closed {symbol : Text} (mem : symbol ∈ requested) :
    ∃ event, closing (received calls symbol) = some event := by
  have closed := fun symbol =>
    (@SymbolState.localRun_closing api symbol {} rfl (received calls symbol)).1
  have completed : ((SymbolState.machine api).localRun symbol {}
      (received calls symbol)).2 .completedSymbols = 1 := by
    refine eq_one_of_sum_eq_card (.inl ?_)
      ((counters_sum api covered fresh empty .completedSymbols).symm.trans
        passes.completedSymbols) mem
    intro other _
    rw [closed other]
    exact Bool.toNat_le _
  have one := (closed symbol).symm.trans completed
  cases found : closing (received calls symbol) with
  | none =>
      rw [found] at one
      cases one
  | some event => exact ⟨event, rfl⟩

/-- The event that completes a symbol has one of SNAPSHOT_END and SNAPSHOT_SNIP. -/
theorem passes_closings {symbol : Text} (mem : symbol ∈ requested) :
    ∃ event ∈ closing (received calls symbol), event.eventFlags.closings = 1 := by
  let closings : Text → Nat := fun symbol =>
    let added := ((SymbolState.machine api).localRun symbol {} (received calls symbol)).2
    added .snapshotEnds + added .snapshotSnips
  have flags : ∀ {symbol event}, closing (received calls symbol) = some event →
      event.eventFlags.closings = closings symbol := by
    intro symbol event closes
    have counted := (@SymbolState.localRun_closing api symbol {} rfl (received calls symbol)).2
    rw [closes] at counted
    exact counted.symm
  have atLeast : ∀ other ∈ requested, 1 ≤ closings other := by
    intro other here
    obtain ⟨event, closes⟩ := passes_closed api covered fresh empty passes here
    exact (EventFlags.closings_pos (closes_of_closing closes)).trans_eq (flags closes)
  have total : ∑ symbol ∈ requested, closings symbol = requested.card := by
    rw [Finset.sum_add_distrib]
    exact (congrArg₂ (· + ·) (counters_sum api covered fresh empty .snapshotEnds).symm
      (counters_sum api covered fresh empty .snapshotSnips).symm).trans passes.closings
  obtain ⟨event, closes⟩ := passes_closed api covered fresh empty passes mem
  exact ⟨event, closes, (flags closes).trans (eq_one_of_sum_eq_card (.inr atLeast) total mem)⟩

/-- The first event of every requested symbol is flagged. -/
theorem passes_first {symbol : Text} (mem : symbol ∈ requested) :
    ∃ first ∈ (received calls symbol).head?,
      first.eventFlags.snapshotBegin = true ∨ first.eventFlags.closes = true := by
  obtain ⟨event, closes⟩ := passes_closed api covered fresh empty passes mem
  have timely := Finset.sum_eq_zero_iff.mp
    ((counters_sum api covered fresh empty .prematureLiveEvents).symm.trans
      passes.prematureLiveEvents) symbol mem
  cases events : received calls symbol with
  | nil =>
      rw [events] at closes
      cases closes
  | cons first rest =>
      rw [events] at timely
      exact ⟨first, rfl, SymbolState.localRun_first api symbol timely rfl⟩

/-- Counters that pass tell that every requested symbol was completed by an event
with one of SNAPSHOT_END and SNAPSHOT_SNIP, that its first event carries
SNAPSHOT_BEGIN or completes it, and how many SNAPSHOT_BEGIN events there were. -/
theorem passes_symbols :
    (∀ symbol ∈ requested,
      (∃ event ∈ closing (received calls symbol), event.eventFlags.closings = 1) ∧
      ∃ first ∈ (received calls symbol).head?,
        first.eventFlags.snapshotBegin = true ∨ first.eventFlags.closes = true) ∧
      ∑ symbol ∈ requested, begins (received calls symbol) = requested.card := by
  constructor
  · intro symbol mem
    exact ⟨passes_closings api covered fresh empty passes mem,
      passes_first api covered fresh empty passes mem⟩
  · have total := (counters_sum api covered fresh empty .snapshotBegins).symm.trans
      passes.snapshotBegins
    simp only [SymbolState.localRun_begins] at total
    exact total

end Passing

/-- Where the first event of every requested symbol carries SNAPSHOT_BEGIN, no other
event does. -/
theorem begins_once {events : Text → List TimeAndSale}
    (total : ∑ symbol ∈ requested, begins (events symbol) = requested.card)
    (first : ∀ symbol ∈ requested, ∃ event ∈ (events symbol).head?,
      event.eventFlags.snapshotBegin = true) {symbol : Text} (mem : symbol ∈ requested) :
    ∃ event rest, events symbol = event :: rest ∧ event.eventFlags.snapshotBegin = true ∧
      ∀ other ∈ rest, other.eventFlags.snapshotBegin = false := by
  have shape : ∀ symbol ∈ requested, ∃ event rest, events symbol = event :: rest ∧
      event.eventFlags.snapshotBegin = true ∧ begins (events symbol) = begins rest + 1 := by
    intro symbol mem
    obtain ⟨event, here, begin⟩ := first symbol mem
    cases list : events symbol with
    | nil =>
        rw [list] at here
        cases here
    | cons other rest =>
        rw [list] at here
        cases here
        exact ⟨event, rest, rfl, begin, List.countP_cons_of_pos begin⟩
  have atLeast : ∀ symbol ∈ requested, 1 ≤ begins (events symbol) := by
    intro symbol mem
    obtain ⟨event, rest, -, -, count⟩ := shape symbol mem
    rw [count]
    exact Nat.succ_pos _
  have one := eq_one_of_sum_eq_card (.inr atLeast) total mem
  obtain ⟨event, rest, list, begin, count⟩ := shape symbol mem
  refine ⟨event, rest, list, begin, ?_⟩
  have none : begins rest = 0 := by omega
  intro other here
  exact Bool.eq_false_iff.mpr (List.countP_eq_zero.mp none other here)

end TimeSeriesTracker

end LatencyTest
