import LatencyTest.Client.Conservation
import LatencyTest.Core.Accepted

/-!
A client run: `main` of `src/client.cpp`. Which tasks it admits, in which order it
calls its collector, which windows it passes to `Reporter::window` and which totals
to `Reporter::final`. Callbacks come at any time between two calls of `main`; an
interrupt only ends the measurement or the drain early. `takeWindow` of the periodic
windows expires by timeout, the last one expires everything.
-/

namespace LatencyTest

open Lib (digits entrySum)

/-- The endpoint role of the client. -/
inductive ClientRole where
  | feed
  | streamFeed
deriving DecidableEq, Repr

/-- The command-line settings that decide whether a task is admitted, and the batch
timeout of the collector. Durations are in milliseconds. -/
structure Config where
  task : Text := "SUB:Q100".toList
  duration : Int := 300000
  batchTimeout : Int := 30000
  timeSeriesSubscribeAfter : Option Int := none
  timeSeriesUnsubscribeAfterSnapshot : Bool := false
  role : ClientRole := .streamFeed

/-- Whether a task has a TimeAndSale item. -/
def TaskPattern.hasTimeSeries (pattern : TaskPattern) : Bool :=
  decide (0 < (pattern.quantity .timeAndSale).getD 0)

/-- Recurring events handled by the marker-correlated market subscription. -/
def regularEventCount (pattern : TaskPattern) : Nat :=
  ∑ kind : RegularKind, (pattern.quantity kind.toEventKind).getD 0

/-- The checks of `main` before it connects. -/
def Config.admission (config : Config) : Except Text TaskPattern :=
  match parseTask config.task with
  | .error error =>
      .error ("task parse error at ".toList ++ digits error.position ++ ": ".toList ++
        error.message)
  | .ok pattern =>
      if (pattern.quantity .timeAndSale).getD 0 ≠ 0 ∧ config.role ≠ .feed then
        .error "TimeAndSale time-series workloads require --role feed".toList
      else if config.timeSeriesSubscribeAfter.isSome ∧ ¬ pattern.hasTimeSeries then
        .error "--time-series-subscribe-after requires a TimeAndSale workload".toList
      else if ∃ after ∈ config.timeSeriesSubscribeAfter, after ≥ config.duration then
        .error "--time-series-subscribe-after must be shorter than --duration".toList
      else if config.timeSeriesUnsubscribeAfterSnapshot ∧
          config.timeSeriesSubscribeAfter.isNone then
        .error
          "--time-series-unsubscribe-after-snapshot requires --time-series-subscribe-after".toList
      else .ok pattern

/-- An admitted task was accepted by `parseTask`, and a TimeAndSale one needs FEED. -/
theorem Config.admission_ok {config : Config} {pattern : TaskPattern}
    (admitted : config.admission = .ok pattern) :
    parseTask config.task = .ok pattern ∧
      ((pattern.quantity .timeAndSale).getD 0 ≠ 0 → config.role = .feed) := by
  unfold admission at admitted
  cases parsed : parseTask config.task with
  | error error =>
      rw [parsed] at admitted
      cases admitted
  | ok found =>
      rw [parsed] at admitted
      dsimp only at admitted
      split at admitted
      · cases admitted
      · rename_i allowed
        split at admitted
        · cases admitted
        · split at admitted
          · cases admitted
          · split at admitted
            · cases admitted
            · cases admitted
              exact ⟨rfl, fun timeSeries => of_not_not fun other => allowed ⟨timeSeries, other⟩⟩

/-- An item of an accepted task has a positive quantity under its kind. -/
theorem quantity_pos {pattern : TaskPattern} (items : ItemsAdmissible pattern.items)
    {item : PatternItem} (mem : item ∈ pattern.items) :
    0 < (pattern.quantity item.kind).getD 0 := by
  unfold TaskPattern.quantity
  cases found : pattern.items.find? fun other => other.kind == item.kind with
  | none =>
      have absent := List.find?_eq_none.mp found item mem
      simp at absent
  | some other => exact items.quantity_pos other (List.mem_of_find?_eq_some found)

/-- A task without TimeAndSale items expects regular events. -/
theorem regularEventCount_pos {text : Text} {pattern : TaskPattern}
    (parsed : parseTask text = .ok pattern)
    (regular : (pattern.quantity .timeAndSale).getD 0 = 0) : 0 < regularEventCount pattern := by
  have admissible := parseTask_admissible parsed
  obtain ⟨item, mem⟩ := List.exists_mem_of_ne_nil _ admissible.items_ne_nil
  have positive := quantity_pos admissible.items mem
  have counted : ∃ kind : RegularKind, kind.toEventKind = item.kind := by
    cases kind : item.kind with
    | quote => exact ⟨.quote, rfl⟩
    | trade => exact ⟨.trade, rfl⟩
    | tradeEth => exact ⟨.tradeEth, rfl⟩
    | summary => exact ⟨.summary, rfl⟩
    | timeAndSale =>
        rw [kind, regular] at positive
        exact absurd positive (lt_irrefl 0)
  obtain ⟨kind, same⟩ := counted
  rw [← same] at positive
  exact Finset.sum_pos' (fun _ _ => Nat.zero_le _) ⟨kind, Finset.mem_univ kind, positive⟩

/-! ### Calls of a run -/

/-- One callback of a listener, with the clock values it reads. -/
structure Callback where
  events : List Event
  marketCallback : Bool
  observed : Int
  duration : Int

def Callback.call (callback : Callback) : Collector.Call :=
  .handle callback.events callback.marketCallback callback.observed callback.duration

/-- What happens during the measurement and the drain: callbacks, and the periodic
windows, which are all reported. -/
inductive MeasuredCall where
  | callback (callback : Callback)
  | window (now : Int)

def MeasuredCall.call : MeasuredCall → Collector.Call
  | .callback heard => heard.call
  | .window now => .takeWindow false now

/-- The callback of a call, if it is one. -/
def MeasuredCall.heard : MeasuredCall → Option Callback
  | .callback heard => some heard
  | .window _ => none

/-- The inputs of a run: the callbacks of the warm-up, the measurement and the drain,
the callbacks between `endMeasurement` and the last window, the clock it reads, and
the callbacks between it and `totals`. -/
structure ClientRun where
  warmUp : List Callback
  measured : List MeasuredCall
  tail : List Callback
  finalNow : Int
  late : List Callback

/-- The condition under which `main` reports the last window. -/
def Window.shown (w : Window) : Prop :=
  w.events ≠ [] ∨ w.batches ≠ [] ∨ w.missing ≠ 0 ∨ w.negative ≠ 0

instance (w : Window) : Decidable w.shown :=
  inferInstanceAs (Decidable (w.events ≠ [] ∨ w.batches ≠ [] ∨ w.missing ≠ 0 ∨ w.negative ≠ 0))

namespace ClientRun

/-- The collector of `main`. -/
def collector (config : Config) (pattern : TaskPattern) : Collector :=
  .create pattern config.batchTimeout (config.role = .feed)

/-- The calls after the warm-up and before the last window. -/
def measuredCalls (run : ClientRun) : List Collector.Call :=
  run.measured.map MeasuredCall.call ++ .endMeasurement :: run.tail.map Callback.call

/-- The calls before the last window. -/
def calls (run : ClientRun) : List Collector.Call :=
  run.warmUp.map Callback.call ++ .beginMeasurement :: run.measuredCalls

variable (api : DxApi) (config : Config) (pattern : TaskPattern) (run : ClientRun)

/-- The collector when the last window is taken. -/
def atFinal : Collector := (collector config pattern).run api run.calls

/-- The last window. -/
def last : Window := ((run.atFinal api config pattern).takeWindow true run.finalNow).1

/-- The windows passed to `Reporter::window`. -/
def reported : List Window :=
  (collector config pattern).windows api run.calls ++
    if (run.last api config pattern).shown then [run.last api config pattern] else []

/-- The totals passed to `Reporter::final`. -/
def totals : Totals :=
  (((run.atFinal api config pattern).takeWindow true run.finalNow).2.run api
    (run.late.map Callback.call)).totals

end ClientRun

/-! ### After the last window -/

namespace Collector

/-- A collector that counts nothing any more: no new batch is accepted, and none is
pending. -/
structure Closed (c : Collector) : Prop where
  measuring : c.measuring = true
  refusing : c.acceptingNewBatches = false
  pending : ∀ k : Int, c.pending[k]? = none

theorem Gains.closed {c c' : Collector} (h : Gains c c' 0) (closed : Closed c) :
    Closed c' ∧ c'.ledger = c.ledger := by
  refine ⟨⟨h.phase.measuring.trans closed.measuring,
    h.phase.acceptingNewBatches.trans closed.refusing, ?_⟩, by rw [h.ledger, add_zero]⟩
  intro k
  rw [h.pending]
  exact closed.pending k

theorem closed_event (api : DxApi) (observed : Int) {c : Collector} (closed : Closed c)
    (event : Event) :
    Closed (handleEvent api observed c event) ∧
      (handleEvent api observed c event).ledger = c.ledger := by
  have step := handleEvent_spec api observed c event
  cases carried : itemOf api observed event with
  | none =>
      rw [carried] at step
      exact Gains.closed step closed
  | some entry =>
      obtain ⟨sequence, item⟩ := entry
      rw [carried] at step
      have rejected : c.acceptBatch sequence = false := by
        rw [Bool.eq_false_iff, ne_eq, acceptBatch_iff, batches, closed.refusing,
          closed.pending sequence]
        simp
      rw [StepsBy, Steps, step_rejected (itemOf_live carried) rejected] at step
      refine ⟨⟨step.phase.measuring.trans closed.measuring,
        step.phase.acceptingNewBatches.trans closed.refusing, ?_⟩, by rw [step.ledger, add_zero]⟩
      intro k
      rw [step.pending]
      split
      · exact closed.pending sequence
      · exact closed.pending k

theorem closed_events (api : DxApi) (observed : Int) {c : Collector} (closed : Closed c)
    (events : List Event) :
    Closed (events.foldl (handleEvent api observed) c) ∧
      (events.foldl (handleEvent api observed) c).ledger = c.ledger := by
  induction events generalizing c with
  | nil => exact ⟨closed, rfl⟩
  | cons event events ih =>
      obtain ⟨still, same⟩ := closed_event api observed closed event
      obtain ⟨after, rest⟩ := ih still
      exact ⟨after, rest.trans same⟩

/-- Callbacks after the last window change no counter of correlation. -/
theorem closed_handle (api : DxApi) {c : Collector} (closed : Closed c) (events : List Event)
    (marketCallback : Bool) (observed duration : Int) :
    Closed (c.handle api events marketCallback observed duration) ∧
      (c.handle api events marketCallback observed duration).ledger = c.ledger := by
  have counted : Closed (c.receiveProfiles events).countCallback :=
    ⟨closed.measuring, closed.refusing, closed.pending⟩
  obtain ⟨after, same⟩ := closed_events api observed counted events
  rw [handle_measuring api closed.measuring]
  dsimp only
  split
  · exact ⟨⟨after.measuring, after.refusing, after.pending⟩, same⟩
  · exact ⟨after, same⟩

end Collector

namespace ClientRun

open Collector

theorem closed_late (api : DxApi) {c : Collector} (closed : Closed c) (late : List Callback) :
    Closed (c.run api (late.map Callback.call)) ∧
      (c.run api (late.map Callback.call)).ledger = c.ledger := by
  induction late generalizing c with
  | nil => exact ⟨closed, rfl⟩
  | cons heard late ih =>
      obtain ⟨still, same⟩ := closed_handle api closed heard.events heard.marketCallback
        heard.observed heard.duration
      obtain ⟨after, rest⟩ := ih still
      exact ⟨after, rest.trans same⟩

/-- `main` begins the measurement once. -/
theorem once (run : ClientRun) :
    .beginMeasurement ∉ run.warmUp.map Callback.call ++ run.measuredCalls := by
  intro mem
  simp only [measuredCalls, List.mem_append, List.mem_map, List.mem_cons] at mem
  rcases mem with ⟨heard, -, same⟩ | ⟨measured, -, same⟩ | same | ⟨heard, -, same⟩
  · cases same
  · cases measured <;> cases same
  · cases same
  · cases same

/-- After `endMeasurement` callbacks leave the collector refusing new batches. -/
theorem refusing_tail (api : DxApi) {c : Collector} (measuring : c.measuring = true)
    (refusing : c.acceptingNewBatches = false) (tail : List Callback) :
    (c.run api (tail.map Callback.call)).measuring = true ∧
      (c.run api (tail.map Callback.call)).acceptingNewBatches = false := by
  induction tail generalizing c with
  | nil => exact ⟨measuring, refusing⟩
  | cons heard tail ih =>
      obtain ⟨follows, same⟩ := handle_follows api measuring heard.events heard.marketCallback
        heard.observed heard.duration
      exact ih (follows.measuring.trans measuring) (same.trans refusing)

theorem atFinal_phase (api : DxApi) (config : Config) (pattern : TaskPattern) (run : ClientRun) :
    (run.atFinal api config pattern).measuring = true ∧
      (run.atFinal api config pattern).acceptingNewBatches = false := by
  obtain ⟨before, after⟩ := not_or.mp (mt List.mem_append.mpr run.once)
  obtain ⟨measured, -⟩ := not_or.mp (mt List.mem_append.mpr after)
  let warm := (collector config pattern).run api (run.warmUp.map Callback.call)
  have followed := run_follows api (c := warm.beginMeasurement) rfl measured
  rw [atFinal, calls, measuredCalls, run_append, ← List.cons_append, run_append]
  exact refusing_tail api (c := Collector.endMeasurement _) followed.measuring rfl run.tail

/-- The totals are those after the last window. -/
theorem totals_ledger (api : DxApi) (config : Config) (pattern : TaskPattern) (run : ClientRun) :
    (((run.atFinal api config pattern).takeWindow true run.finalNow).2.run api
        (run.late.map Callback.call)).ledger =
      ((run.atFinal api config pattern).takeWindow true run.finalNow).2.ledger := by
  obtain ⟨measuring, refusing⟩ := run.atFinal_phase api config pattern
  obtain ⟨follows, same⟩ := takeWindow_follows (run.atFinal api config pattern) true run.finalNow
  exact (closed_late api ⟨follows.measuring.trans measuring, same.trans refusing,
    takeWindow_all_pending _ run.finalNow⟩ run.late).2

end ClientRun

end LatencyTest
