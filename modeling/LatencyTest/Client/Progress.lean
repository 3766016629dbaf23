import LatencyTest.Client.Snapshots

/-!
The progress of a tracker from `beginSnapshot` on: what its aggregate counters say
of the states of the symbols, which events count as premature, and when the
completion time is set. The counters of one symbol are balanced against its state
(`localRun_balanced`), and a tracker is the sum of its symbols.
-/

namespace LatencyTest

/-- Whether an event carries one of the flags of the snapshot protocol. -/
def EventFlags.protocol (flags : EventFlags) : Bool := flags.snapshotBegin || flags.closes

namespace SymbolState

variable (api : DxApi) (symbol : Text)

/-- An event starts a symbol exactly when it carries SNAPSHOT_BEGIN. -/
theorem next_started (state : SymbolState) (event : TimeAndSale) :
    (state.next api event).started = (state.started || event.eventFlags.snapshotBegin) := by
  unfold next
  cases snapshot : state.inSnapshot event.eventFlags with
  | true => rfl
  | false => rw [if_neg Bool.false_ne_true, (live_flags snapshot).1, Bool.or_false]

/-- An event is counted in exactly one of the four classes. -/
theorem increments_total (state : SymbolState) (event : TimeAndSale) :
    let added := state.increments api event
    added .snapshotEvents + added .snapshotRemovals + added .prematureLiveEvents +
      added .liveEvents = 1 := by
  simp only [increments]
  cases state.inSnapshot event.eventFlags <;> cases event.eventFlags.removeEvent <;>
    cases state.complete <;> rfl

/-- A snapshot event adds an index or is a duplicate. -/
theorem increments_indices (state : SymbolState) (event : TimeAndSale) :
    let added := state.increments api event
    added .duplicateIndices + (state.next api event).indices.card =
      state.indices.card + added .snapshotEvents := by
  cases snapshot : state.inSnapshot event.eventFlags with
  | false => simp [increments, next, snapshot]
  | true =>
      cases removed : event.eventFlags.removeEvent with
      | true => simp [increments, next, closed, recorded, begun, snapshot, removed]
      | false =>
          by_cases seen : event.getIndex api ∈ state.indices
          · simp [increments, next, closed, recorded, begun, snapshot, removed, seen,
              Nat.add_comm]
          · simp [increments, next, closed, recorded, begun, snapshot, removed, seen]

/-- A symbol is counted as complete when it becomes so. -/
theorem increments_completed (state : SymbolState) (event : TimeAndSale) :
    state.complete.toNat + state.increments api event .completedSymbols =
      (state.next api event).complete.toNat := by
  rw [next_complete]
  simp only [increments, completes_eq]
  cases state.complete <;> cases event.eventFlags.closes <;> rfl

/-- A completion is counted with the flag that causes it. -/
theorem increments_closings (state : SymbolState) (event : TimeAndSale) :
    let added := state.increments api event
    added .completedSymbols ≤ added .snapshotEnds + added .snapshotSnips := by
  simp only [increments, completes_eq, EventFlags.closes]
  cases state.complete <;> cases event.eventFlags.snapshotEnd <;>
    cases event.eventFlags.snapshotSnip <;> simp

/-- An event is premature when the symbol is neither started nor complete and the
event has no flag of the protocol. -/
theorem increments_premature (state : SymbolState) (event : TimeAndSale) :
    state.increments api event .prematureLiveEvents =
      (!event.eventFlags.protocol && !state.started && !state.complete).toNat := by
  simp only [increments, inSnapshot, EventFlags.protocol, EventFlags.closes]
  cases event.eventFlags.snapshotBegin <;> cases event.eventFlags.snapshotEnd <;>
    cases event.eventFlags.snapshotSnip <;> cases state.started <;> cases state.complete <;> rfl

/-- The flags of all events of a symbol decide its phase. -/
theorem localRun_phase (state : SymbolState) (events : List TimeAndSale) :
    let last := ((machine api).localRun symbol state events).1
    last.started = (state.started || events.any (·.eventFlags.snapshotBegin)) ∧
      last.complete = (state.complete || events.any (·.eventFlags.closes)) := by
  induction events generalizing state with
  | nil => simp [Lib.KeyedMachine.localRun]
  | cons event events ih =>
      obtain ⟨started, complete⟩ := ih (state.next api event)
      rw [next_started, Bool.or_assoc] at started
      rw [next_complete, Bool.or_assoc] at complete
      exact ⟨started, complete⟩

/-- The counters of a symbol are balanced against its state. -/
theorem localRun_balanced (state : SymbolState) (events : List TimeAndSale) :
    let result := (machine api).localRun symbol state events
    result.2 .duplicateIndices + result.1.indices.card =
        state.indices.card + result.2 .snapshotEvents ∧
      state.complete.toNat + result.2 .completedSymbols = result.1.complete.toNat := by
  induction events generalizing state with
  | nil => simp [Lib.KeyedMachine.localRun]
  | cons event events ih =>
      obtain ⟨indices, completed⟩ := ih (state.next api event)
      have first := increments_indices api state event
      have closed := increments_completed api state event
      dsimp only at indices completed first ⊢
      rw [localRun_cons, localRun_cons, localRun_cons]
      have last : ((machine api).localRun symbol state (event :: events)).1 =
          ((machine api).localRun symbol (state.next api event) events).1 := rfl
      rw [last]
      omega

end SymbolState

namespace TimeSeriesTracker

variable (api : DxApi)

/-! ### The totals of a run -/

/-- Every event is counted once, and completions with their flags. -/
theorem run_output_total (states : Text → SymbolState) (inputs : List (Text × TimeAndSale)) :
    let added := ((SymbolState.machine api).run states inputs).2
    added .snapshotEvents + added .snapshotRemovals + added .prematureLiveEvents +
        added .liveEvents = inputs.length ∧
      added .completedSymbols ≤ added .snapshotEnds + added .snapshotSnips := by
  refine (SymbolState.machine api).run_output_induction (P := fun inputs added =>
    added .snapshotEvents + added .snapshotRemovals + added .prematureLiveEvents +
        added .liveEvents = inputs.length ∧
      added .completedSymbols ≤ added .snapshotEnds + added .snapshotSnips) ?_ ?_ states inputs
  · exact ⟨rfl, le_rfl⟩
  · rintro input state inputs output ⟨total, closings⟩
    have one := SymbolState.increments_total api state input.2
    have flags := SymbolState.increments_closings api state input.2
    dsimp only [SymbolState.machine, Pi.add_apply] at one flags ⊢
    rw [List.length_cons]
    omega

/-! ### The completion time -/

/-- A part of the loop body that completes no symbol. -/
structure Keeps (t t' : TimeSeriesTracker) : Prop where
  observedSymbols : t'.observedSymbols = t.observedSymbols
  expectedSymbols : t'.expectedSymbols = t.expectedSymbols
  completedSymbols : t'.completedSymbols = t.completedSymbols
  completedAtNs : t'.completedAtNs = t.completedAtNs

theorem Keeps.trans {t t' t'' : TimeSeriesTracker} (first : Keeps t t') (second : Keeps t' t'') :
    Keeps t t'' :=
  ⟨second.1.trans first.1, second.2.trans first.2, second.3.trans first.3,
    second.4.trans first.4⟩

theorem begin_keeps (t : TimeSeriesTracker) (symbol : Text) (begins : Bool) :
    Keeps t (if begins then t.beginSymbol symbol else t) := by
  split <;> exact ⟨rfl, rfl, rfl, rfl⟩

theorem countSnapshot_keeps (t : TimeSeriesTracker) (event : TimeAndSale) :
    Keeps t (t.countSnapshot api event) := by
  unfold countSnapshot
  split <;> exact ⟨rfl, rfl, rfl, rfl⟩

theorem countLive_keeps (t : TimeSeriesTracker) (event : TimeAndSale) (observed : Int) :
    Keeps t (t.countLive event observed) := by
  unfold countLive
  split
  · exact ⟨rfl, rfl, rfl, rfl⟩
  · dsimp only
    split
    · split <;> exact ⟨rfl, rfl, rfl, rfl⟩
    · exact ⟨rfl, rfl, rfl, rfl⟩

/-- The part that completes a symbol takes the time when it is the last one. -/
theorem completeSymbol_completedAt (t : TimeSeriesTracker) (event : TimeAndSale)
    (observed : Int) :
    let t' := t.completeSymbol event observed
    t'.observedSymbols = t.observedSymbols ∧ t'.completedAtNs =
      if t.completedSymbols < t'.completedSymbols ∧ t'.completedSymbols = t.expectedSymbols
      then observed else t.completedAtNs := by
  unfold completeSymbol
  dsimp only
  split
  · refine ⟨rfl, ?_⟩
    simp
  · simp

/-- The completion time changes when an event completes the last expected symbol. -/
theorem observe_completedAt (t : TimeSeriesTracker) (observed : Int) (event : TimeAndSale) :
    let t' := t.observe api observed event
    t'.observedSymbols = insert event.eventSymbol t.observedSymbols ∧ t'.completedAtNs =
      if t.completedSymbols < t'.completedSymbols ∧ t'.completedSymbols = t.expectedSymbols
      then observed else t.completedAtNs := by
  intro t'
  let accessed := t.access event.eventSymbol observed
  let begun := if event.eventFlags.snapshotBegin then accessed.beginSymbol event.eventSymbol
    else accessed
  have begins : Keeps accessed begun := begin_keeps accessed event.eventSymbol _
  have eq : t' = if (accessed.symbols event.eventSymbol).inSnapshot event.eventFlags then
      (begun.countSnapshot api event).completeSymbol event observed
    else begun.countLive event observed := rfl
  rw [eq]
  split
  · have counted := begins.trans (countSnapshot_keeps api begun event)
    obtain ⟨symbols, completedAt⟩ :=
      completeSymbol_completedAt (begun.countSnapshot api event) event observed
    rw [counted.observedSymbols] at symbols
    rw [counted.completedSymbols, counted.expectedSymbols, counted.completedAtNs] at completedAt
    exact ⟨symbols, completedAt⟩
  · have live := begins.trans (countLive_keeps begun event observed)
    refine ⟨live.observedSymbols, ?_⟩
    rw [if_neg fun changed => (live.completedSymbols ▸ changed.1).false]
    exact live.completedAtNs

/-- An event completes at most one symbol. -/
theorem observe_completedSymbols (t : TimeSeriesTracker) (observed : Int) (event : TimeAndSale) :
    let t' := t.observe api observed event
    t.completedSymbols ≤ t'.completedSymbols ∧ t'.completedSymbols ≤ t.completedSymbols + 1 := by
  intro t'
  have counted : t'.completedSymbols = t.completedSymbols +
      ((t.symbols event.eventSymbol).completes event.eventFlags).toNat :=
    congrFun (observe_does api observed t event).counters .completedSymbols
  have small := Bool.toNat_le ((t.symbols event.eventSymbol).completes event.eventFlags)
  omega

/-- What some events of one callback do to the progress of the tracker. -/
structure Progresses (t t' : TimeSeriesTracker) (observed : Int) (symbols : List Text) :
    Prop where
  observedSymbols : t'.observedSymbols = t.observedSymbols ∪ symbols.toFinset
  expectedSymbols : t'.expectedSymbols = t.expectedSymbols
  completedSymbols : t.completedSymbols ≤ t'.completedSymbols
  completedAtNs : t'.completedAtNs =
    if t.completedSymbols < t.expectedSymbols ∧ t.expectedSymbols ≤ t'.completedSymbols
    then observed else t.completedAtNs

theorem Progresses.refl (t : TimeSeriesTracker) (observed : Int) : Progresses t t observed [] := by
  refine ⟨by simp, rfl, le_rfl, ?_⟩
  rw [if_neg fun crosses => absurd (crosses.1.trans_le crosses.2) (lt_irrefl _)]

theorem Progresses.trans {t t' t'' : TimeSeriesTracker} {observed : Int} {xs ys : List Text}
    (first : Progresses t t' observed xs) (second : Progresses t' t'' observed ys) :
    Progresses t t'' observed (xs ++ ys) := by
  have more := first.completedSymbols
  have more' := second.completedSymbols
  refine ⟨?_, second.expectedSymbols.trans first.expectedSymbols, more.trans more', ?_⟩
  · rw [second.observedSymbols, first.observedSymbols, List.toFinset_append, Finset.union_assoc]
  · rw [second.completedAtNs, first.completedAtNs, first.expectedSymbols]
    -- The expected number is crossed in at most one of the two parts.
    by_cases late : t'.completedSymbols < t.expectedSymbols ∧
        t.expectedSymbols ≤ t''.completedSymbols
    · rw [if_pos late, if_pos ⟨more.trans_lt late.1, late.2⟩]
    · rw [if_neg late]
      by_cases early : t.completedSymbols < t.expectedSymbols ∧
          t.expectedSymbols ≤ t'.completedSymbols
      · rw [if_pos early, if_pos ⟨early.1, early.2.trans more'⟩]
      · rw [if_neg early, if_neg]
        omega

theorem observe_progresses (t : TimeSeriesTracker) (observed : Int) (event : TimeAndSale) :
    Progresses t (t.observe api observed event) observed [event.eventSymbol] := by
  obtain ⟨symbols, completedAt⟩ := observe_completedAt api t observed event
  obtain ⟨more, atMost⟩ := observe_completedSymbols api t observed event
  refine ⟨?_, (observe_does api observed t event).expectedSymbols, more, ?_⟩
  · rw [symbols, List.toFinset_cons, List.toFinset_nil, Finset.insert_eq, Finset.insert_eq,
      Finset.union_empty, Finset.union_comm]
  · rw [completedAt]
    refine if_congr ?_ rfl rfl
    omega

theorem observeAll_progresses (t : TimeSeriesTracker) (observed : Int) (events : List Event) :
    Progresses t (t.observeAll api observed events).1 observed
      ((timeAndSales events).map TimeAndSale.eventSymbol) := by
  induction events generalizing t with
  | nil => exact .refl t observed
  | cons event events ih =>
      cases event with
      | timeAndSale event => exact (observe_progresses api t observed event).trans (ih _)
      | _ => exact ih t

/-- One callback. -/
theorem handle_progresses (t : TimeSeriesTracker) (events : List Event) (observed : Int) :
    Progresses t (t.handle api events observed) observed
      ((timeAndSales events).map TimeAndSale.eventSymbol) := by
  have loop := observeAll_progresses api { t with callbacks := t.callbacks + 1 } observed events
  exact ⟨loop.observedSymbols, loop.expectedSymbols, loop.completedSymbols, loop.completedAtNs⟩

/-! ### Runs -/

/-- The symbols of the TimeAndSale events of some calls. -/
def symbolsOf (calls : List TrackerCall) : List Text :=
  (timeAndSales (calls.flatMap TrackerCall.events)).map TimeAndSale.eventSymbol

theorem run_append (t : TimeSeriesTracker) (xs ys : List TrackerCall) :
    t.run api (xs ++ ys) = (t.run api xs).run api ys := List.foldl_append

/-- A call changes the completion time only as a callback that reaches the expected
number of symbols does. -/
theorem call_progresses (t : TimeSeriesTracker) (made : TrackerCall) :
    ∃ observed, Progresses t (t.call api made) observed (symbolsOf [made]) ∧
      (t.completedSymbols < (t.call api made).completedSymbols →
        ∃ events, made = .handle events observed) := by
  cases made with
  | handle events observed =>
      refine ⟨observed, ?_, fun _ => ⟨events, rfl⟩⟩
      have symbols : symbolsOf [.handle events observed] =
          (timeAndSales events).map TimeAndSale.eventSymbol := by
        simp [symbolsOf, TrackerCall.events]
      rw [symbols]
      exact handle_progresses api t events observed
  | beginMeasurement | endMeasurement =>
      have same := Progresses.refl t 0
      exact ⟨0, ⟨same.1, same.2, same.3, same.4⟩, fun more => absurd more (lt_irrefl _)⟩

/-- A run adds the symbols of its events and never takes a completion back. -/
theorem run_grows (t : TimeSeriesTracker) (calls : List TrackerCall) :
    (t.run api calls).observedSymbols = t.observedSymbols ∪ (symbolsOf calls).toFinset ∧
      t.completedSymbols ≤ (t.run api calls).completedSymbols := by
  induction calls using List.reverseRecOn with
  | nil => simp [run, symbolsOf]
  | append_singleton calls made ih =>
      obtain ⟨observed, step, -⟩ := call_progresses api (t.run api calls) made
      have symbols : symbolsOf (calls ++ [made]) = symbolsOf calls ++ symbolsOf [made] := by
        simp [symbolsOf]
      rw [run_append, symbols, List.toFinset_append, ← Finset.union_assoc, ← ih.1]
      exact ⟨step.observedSymbols, ih.2.trans step.completedSymbols⟩

/-- The symbol of every event of a run is observed. -/
theorem run_covers (start : TimeSeriesTracker) {calls : List TrackerCall} {event : TimeAndSale}
    (mem : event ∈ timeAndSales (calls.flatMap TrackerCall.events)) :
    event.eventSymbol ∈ (start.run api calls).observedSymbols := by
  rw [(run_grows api start calls).1]
  exact Finset.mem_union_right _ (List.mem_toFinset.mpr (List.mem_map_of_mem mem))

/-- Once the expected number of symbols is complete the completion time stays. -/
theorem run_settled {t : TimeSeriesTracker} (settled : t.expectedSymbols ≤ t.completedSymbols)
    (calls : List TrackerCall) : (t.run api calls).completedAtNs = t.completedAtNs := by
  induction calls generalizing t with
  | nil => rfl
  | cons made calls ih =>
      obtain ⟨observed, step, -⟩ := call_progresses api t made
      have still : (t.call api made).expectedSymbols ≤ (t.call api made).completedSymbols := by
        rw [step.expectedSymbols]
        exact settled.trans step.completedSymbols
      have same : (t.call api made).completedAtNs = t.completedAtNs := by
        rw [step.completedAtNs, if_neg fun both => absurd both.1 (not_lt.mpr settled)]
      exact (ih still).trans same

/-- The callback of a run in which the number of complete symbols reaches `n`, and
the time it observes. -/
def Reaches (start : TimeSeriesTracker) (n : Nat) (calls : List TrackerCall) (time : Int) :
    Prop :=
  ∃ before events after, calls = before ++ .handle events time :: after ∧
    (start.run api before).completedSymbols < n ∧
    n ≤ (start.run api (before ++ [.handle events time])).completedSymbols

/-- The completion time is unset until the expected number of symbols is complete,
and the time of the callback that completes the last of them from then on. -/
theorem run_completion {start : TimeSeriesTracker} (unset : start.completedAtNs = 0)
    (incomplete : start.completedSymbols < start.expectedSymbols) (calls : List TrackerCall) :
    let t := start.run api calls
    (t.completedSymbols < start.expectedSymbols ∧ t.completedAtNs = 0) ∨
      (start.expectedSymbols ≤ t.completedSymbols ∧
        Reaches api start start.expectedSymbols calls t.completedAtNs) := by
  induction calls using List.reverseRecOn with
  | nil => exact .inl ⟨incomplete, unset⟩
  | append_singleton calls made ih =>
      have expected := (run_follows api start calls).expectedSymbols
      have last : start.run api (calls ++ [made]) = (start.run api calls).call api made :=
        run_append api start calls [made]
      obtain ⟨observed, step, byCallback⟩ := call_progresses api (start.run api calls) made
      have time := step.completedAtNs
      rw [expected, ← last] at time
      have more := step.completedSymbols
      rw [← last] at more
      rcases ih with ⟨below, unset⟩ | ⟨reached, before, events, after, split, crossing⟩
      · by_cases crosses : start.expectedSymbols ≤
            (start.run api (calls ++ [made])).completedSymbols
        · rw [if_pos ⟨below, crosses⟩] at time
          obtain ⟨events, rfl⟩ := byCallback (by rw [← last]; omega)
          refine .inr ⟨crosses, calls, events, [], ?_, below, ?_⟩
          · rw [time]
          · rw [time]
            exact crosses
        · rw [if_neg fun both => crosses both.2] at time
          exact .inl ⟨not_le.mp crosses, time.trans unset⟩
      · rw [if_neg fun both => absurd both.1 (not_lt.mpr reached)] at time
        refine .inr ⟨reached.trans more, before, events, after ++ [made], ?_, ?_⟩
        · rw [time]
          exact (congrArg (· ++ [made]) split).trans (by simp)
        · rw [time]
          exact crossing

/-- The state of a symbol is the run of its own events. -/
theorem run_symbols {start : TimeSeriesTracker} (empty : start.symbols = fun _ => {})
    (calls : List TrackerCall) (symbol : Text) :
    (start.run api calls).symbols symbol =
      ((SymbolState.machine api).localRun symbol {} (received calls symbol)).1 := by
  rw [(run_follows api start calls).symbols, Lib.KeyedMachine.run_state, inputsOf_inputs, empty]
  rfl

/-- No event before, and not this one, carries a flag of the snapshot protocol for
the symbol. -/
def Premature (before : List TimeAndSale) (event : TimeAndSale) : Prop :=
  event.eventFlags.protocol = false ∧
    ∀ other ∈ before, other.eventSymbol = event.eventSymbol → other.eventFlags.protocol = false

instance (before : List TimeAndSale) (event : TimeAndSale) : Decidable (Premature before event) :=
  inferInstanceAs (Decidable (_ ∧ _))

/-- The phase of the symbol of the next event decides whether it is premature. -/
theorem premature_iff {start : TimeSeriesTracker} (empty : start.symbols = fun _ => {})
    (calls : List TrackerCall) (event : TimeAndSale) :
    ((start.run api calls).symbols event.eventSymbol).increments api event
        .prematureLiveEvents =
      if Premature (timeAndSales (calls.flatMap TrackerCall.events)) event then 1 else 0 := by
  obtain ⟨started, complete⟩ :=
    SymbolState.localRun_phase api event.eventSymbol {} (received calls event.eventSymbol)
  have quiet : (!event.eventFlags.protocol &&
      !(received calls event.eventSymbol).any (·.eventFlags.snapshotBegin) &&
      !(received calls event.eventSymbol).any (·.eventFlags.closes)) = true ↔
      Premature (timeAndSales (calls.flatMap TrackerCall.events)) event := by
    simp only [Premature, EventFlags.protocol, received, Bool.and_eq_true, Bool.not_eq_true',
      List.any_eq_false, List.mem_filter, decide_eq_true_eq, Bool.or_eq_false_iff,
      Bool.not_eq_true]
    constructor
    · rintro ⟨⟨own, begins⟩, closes⟩
      exact ⟨own, fun other mem same => ⟨begins other ⟨mem, same⟩, closes other ⟨mem, same⟩⟩⟩
    · rintro ⟨own, others⟩
      exact ⟨⟨own, fun other both => (others other both.1 both.2).1⟩,
        fun other both => (others other both.1 both.2).2⟩
  rw [SymbolState.increments_premature, run_symbols api empty, started, complete, Bool.false_or,
    Bool.false_or]
  by_cases premature : Premature (timeAndSales (calls.flatMap TrackerCall.events)) event
  · rw [if_pos premature, quiet.mpr premature]
    rfl
  · rw [if_neg premature, Bool.eq_false_iff.mpr (mt quiet.mp premature)]
    rfl

/-- One more event in a callback adds what the machine of its symbol adds. -/
theorem handle_snoc (t : TimeSeriesTracker) (earlier : List Event) (event : TimeAndSale)
    (observed : Int) :
    (t.handle api (earlier ++ [.timeAndSale event]) observed).counters =
      (t.handle api earlier observed).counters +
        ((t.handle api earlier observed).symbols event.eventSymbol).increments api event := by
  have longer := handle_follows api t (earlier ++ [.timeAndSale event]) observed
  have shorter := handle_follows api t earlier observed
  rw [longer.counters, shorter.counters, shorter.symbols, inputs_append,
    Lib.KeyedMachine.run_append, add_assoc]
  congr 2

/-! ### Runs of a fresh tracker -/

/-- A tracker that has counted nothing. -/
structure Fresh (start : TimeSeriesTracker) : Prop where
  symbols : start.symbols = fun _ => {}
  counters : start.counters = 0
  completedAtNs : start.completedAtNs = 0

theorem beginSnapshot_fresh (n : Nat) (subscribedAtNs : Int) :
    Fresh (({} : TimeSeriesTracker).beginSnapshot n subscribedAtNs) := by
  refine ⟨rfl, ?_, rfl⟩
  funext counter
  cases counter <;> rfl

section FreshRun

variable {start : TimeSeriesTracker} (fresh : Fresh start) (calls : List TrackerCall)

include fresh

/-- A symbol that is not observed is as it was at first. -/
theorem run_unobserved {symbol : Text}
    (unseen : symbol ∉ (start.run api calls).observedSymbols) :
    (start.run api calls).symbols symbol = {} := by
  have none : received calls symbol = [] := by
    apply List.filter_eq_nil_iff.mpr
    intro event mem same
    apply unseen
    rw [← of_decide_eq_true same]
    exact run_covers api start mem
  rw [run_symbols api fresh.symbols, none]
  rfl

/-- A counter of a run is the sum over the symbols that it observed. -/
theorem run_counter (counter : TrackerCounter) :
    (start.run api calls).counters counter =
      ∑ symbol ∈ (start.run api calls).observedSymbols,
        ((SymbolState.machine api).localRun symbol {} (received calls symbol)).2 counter :=
  counters_sum api (fun _ mem => run_covers api start mem) fresh.counters fresh.symbols
    counter

/-- The completed symbols are the observed ones that are complete. -/
theorem run_completedSymbols :
    let t := start.run api calls
    t.completedSymbols =
      (t.observedSymbols.filter fun symbol => (t.symbols symbol).complete).card := by
  intro t
  rw [Finset.card_filter]
  refine (run_counter api fresh calls .completedSymbols).trans
    (Finset.sum_congr rfl fun symbol _ => ?_)
  have balanced := (SymbolState.localRun_balanced api symbol {} (received calls symbol)).2
  rw [← run_symbols api fresh.symbols] at balanced
  rw [Bool.toNat_false, Nat.zero_add] at balanced
  rw [balanced]
  cases (t.symbols symbol).complete <;> rfl

/-- The snapshot events are the indices that the symbols hold and the duplicates. -/
theorem run_indices :
    let t := start.run api calls
    t.duplicateIndices + ∑ symbol ∈ t.observedSymbols, (t.symbols symbol).indices.card =
      t.snapshotEvents := by
  intro t
  have duplicates : t.duplicateIndices = _ := run_counter api fresh calls .duplicateIndices
  rw [duplicates, ← Finset.sum_add_distrib]
  refine Eq.trans ?_ (run_counter api fresh calls .snapshotEvents).symm
  refine Finset.sum_congr rfl fun symbol _ => ?_
  have balanced := (SymbolState.localRun_balanced api symbol {} (received calls symbol)).1
  rw [← run_symbols api fresh.symbols] at balanced
  simpa using balanced

/-- Every event of the run is counted once, and completions with their flags. -/
theorem run_total :
    let t := start.run api calls
    t.snapshotEvents + t.snapshotRemovals + t.prematureLiveEvents + t.liveEvents =
        (timeAndSales (calls.flatMap TrackerCall.events)).length ∧
      t.completedSymbols ≤ t.snapshotEnds + t.snapshotSnips := by
  intro t
  have total := run_output_total api start.symbols (inputs (calls.flatMap TrackerCall.events))
  have counters : ((SymbolState.machine api).run start.symbols
      (inputs (calls.flatMap TrackerCall.events))).2 = t.counters := by
    rw [(run_follows api start calls).counters, fresh.counters, zero_add]
  rw [counters, inputs, List.length_map] at total
  exact total

/-- One more event of a callback is premature when no event of its symbol has had a flag
of the snapshot protocol. -/
theorem handle_premature (earlier : List Event) (event : TimeAndSale) (observed : Int) :
    let t := start.run api calls
    (t.handle api (earlier ++ [.timeAndSale event]) observed).prematureLiveEvents =
      (t.handle api earlier observed).prematureLiveEvents +
        if Premature (timeAndSales (calls.flatMap TrackerCall.events) ++ timeAndSales earlier)
          event then 1 else 0 := by
  intro t
  have one := congrFun (handle_snoc api t earlier event observed) .prematureLiveEvents
  have whole : t.handle api earlier observed =
      start.run api (calls ++ [.handle earlier observed]) :=
    (run_append api start calls [.handle earlier observed]).symm
  have premature := premature_iff api fresh.symbols (calls ++ [.handle earlier observed]) event
  rw [← whole, List.flatMap_append, timeAndSales_append, List.flatMap_singleton] at premature
  exact one.trans (congrArg (_ + ·) premature)

/-- With positive times the completion time is set exactly when the expected number of
symbols is complete, by the callback that completes the last of them. -/
theorem run_completedAt (incomplete : start.completedSymbols < start.expectedSymbols)
    (clock : ∀ events observed, .handle events observed ∈ calls → 0 < observed) :
    let t := start.run api calls
    (t.completedAtNs ≠ 0 ↔ start.expectedSymbols ≤ t.completedSymbols) ∧
      (t.completedAtNs ≠ 0 → Reaches api start start.expectedSymbols calls t.completedAtNs) := by
  intro t
  rcases run_completion api fresh.completedAtNs incomplete calls with
    ⟨below, unset⟩ | ⟨reached, crossing⟩
  · exact ⟨⟨fun set => absurd unset set, fun reached => absurd reached (not_le.mpr below)⟩,
      fun set => absurd unset set⟩
  · refine ⟨⟨fun _ => reached, fun _ => ?_⟩, fun _ => crossing⟩
    obtain ⟨before, events, after, split, -⟩ := crossing
    have present : TrackerCall.handle events t.completedAtNs ∈
        before ++ .handle events t.completedAtNs :: after :=
      List.mem_append_right _ List.mem_cons_self
    rw [← split] at present
    exact (clock events _ present).ne'

end FreshRun

/-- The invariants of a tracker in every state reachable from `beginSnapshot`. -/
theorem tracker_invariants {n : Nat} (positive : 1 ≤ n) (subscribedAtNs : Int)
    (calls : List TrackerCall)
    (clock : ∀ events observed, .handle events observed ∈ calls → 0 < observed) :
    let start := ({} : TimeSeriesTracker).beginSnapshot n subscribedAtNs
    let t := start.run api calls
    let events := timeAndSales (calls.flatMap TrackerCall.events)
    (t.completedSymbols =
          (t.observedSymbols.filter fun symbol => (t.symbols symbol).complete).card ∧
        ∀ symbol ∉ t.observedSymbols, t.symbols symbol = {}) ∧
      (∀ more, t.completedSymbols ≤ (t.run api more).completedSymbols) ∧
      t.snapshotEvents + t.snapshotRemovals + t.prematureLiveEvents + t.liveEvents =
        events.length ∧
      t.duplicateIndices + ∑ symbol ∈ t.observedSymbols, (t.symbols symbol).indices.card =
        t.snapshotEvents ∧
      t.completedSymbols ≤ t.snapshotEnds + t.snapshotSnips ∧
      (∀ earlier event observed,
        (t.handle api (earlier ++ [.timeAndSale event]) observed).prematureLiveEvents =
          (t.handle api earlier observed).prematureLiveEvents +
            if Premature (events ++ timeAndSales earlier) event then 1 else 0) ∧
      (t.snapshotComplete = true ↔ t.completedAtNs ≠ 0) ∧
      (t.completedAtNs ≠ 0 → Reaches api start n calls t.completedAtNs) ∧
      ∀ more, t.completedAtNs ≠ 0 → (t.run api more).completedAtNs = t.completedAtNs := by
  intro start t events
  have fresh : Fresh start := beginSnapshot_fresh n subscribedAtNs
  have expected : t.expectedSymbols = n := (run_follows api start calls).expectedSymbols
  obtain ⟨total, closings⟩ := run_total api fresh calls
  obtain ⟨set_iff, reaches⟩ := run_completedAt api fresh calls positive clock
  refine ⟨⟨run_completedSymbols api fresh calls, fun symbol => run_unobserved api fresh calls⟩,
    fun more => (run_grows api t more).2, total, run_indices api fresh calls, closings,
    handle_premature api fresh calls, ?_, reaches, ?_⟩
  · rw [snapshotComplete, expected, Bool.and_eq_true, decide_eq_true_eq, decide_eq_true_eq]
    constructor
    · rintro ⟨-, reached⟩
      exact set_iff.mpr reached
    · intro set
      exact ⟨positive, set_iff.mp set⟩
  · intro more set
    have settled : t.expectedSymbols ≤ t.completedSymbols := by
      rw [expected]
      exact set_iff.mp set
    exact run_settled api settled more

/-- An event before the snapshot, then one event that begins and ends it: the first
is premature and the second callback completes. -/
theorem tracker_invariants_two_callbacks :
    let early : TimeAndSale := { eventSymbol := "SYM00".toList }
    let whole : TimeAndSale :=
      { eventSymbol := "SYM00".toList
        eventFlags := EventFlags.SNAPSHOT_BEGIN.or .SNAPSHOT_END }
    let t := (({} : TimeSeriesTracker).beginSnapshot 1 3).run .release
      [.handle [.timeAndSale early] 5, .beginMeasurement, .handle [.timeAndSale whole] 7]
    t.completedAtNs ≠ 0 ∧ t.snapshotEvents + t.snapshotRemovals + t.prematureLiveEvents +
      t.liveEvents = 2 ∧ t.completedSymbols ≤ t.snapshotEnds + t.snapshotSnips := by
  intro early whole t
  let calls : List TrackerCall :=
    [.handle [.timeAndSale early] 5, .beginMeasurement, .handle [.timeAndSale whole] 7]
  have clock : ∀ events observed, .handle events observed ∈ calls → (0 : Int) < observed := by
    intro events observed mem
    simp only [calls, List.mem_cons, TrackerCall.handle.injEq, List.not_mem_nil, or_false,
      false_or, reduceCtorEq] at mem
    rcases mem with ⟨-, rfl⟩ | ⟨-, rfl⟩ <;> norm_num
  obtain ⟨-, -, total, -, closings, -, complete, -⟩ :=
    tracker_invariants .release (le_refl 1) 3 calls clock
  exact ⟨complete.mp rfl, total, closings⟩

end TimeSeriesTracker

end LatencyTest
