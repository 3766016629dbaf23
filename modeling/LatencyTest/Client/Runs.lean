import LatencyTest.Client.Correlation

/-!
Whole runs of the collector. Before `beginMeasurement` a run only fills the
blacklist (`idle_run`); from then on it follows the publication machine over the
items of its callbacks and the batches its windows expire (`run_follows`).
-/

namespace LatencyTest

open Lib (KeyedMachine)

namespace Collector

/-! ### Measuring -/

/-- A call outside correlation: the batches and the ledger stay. -/
theorem follows_of_eq {c c' : Collector} (same : SamePhase c c') (pending : c'.pending = c.pending)
    (ledger : c'.ledger = c.ledger) : Follows c c' [] :=
  Gains.follows ⟨same, pending, by rw [ledger, add_zero]⟩

theorem clearWindow_follows (c : Collector) : Follows c c.clearWindow [] :=
  follows_of_eq ⟨rfl, rfl, rfl, rfl, rfl, rfl⟩ rfl rfl

theorem takeWindow_follows (c : Collector) (expireAll : Bool) (now : Int) :
    Follows c (c.takeWindow expireAll now).2
        (arrivals c.acceptingNewBatches (expiries (c.expired expireAll now))) ∧
      (c.takeWindow expireAll now).2.acceptingNewBatches = c.acceptingNewBatches := by
  obtain ⟨expired, accepting⟩ := expirePending_follows c expireAll now
  refine ⟨?_, accepting⟩
  simpa [takeWindow] using expired.trans (clearWindow_follows (c.expirePending expireAll now))

/-- The expiry loop removes the entries that expire, and no other. -/
theorem getElem?_foldl_finish (expires : PendingBatch → Bool) (k : Int)
    (entries : List (Int × PendingBatch)) (c : Collector) :
    (entries.foldl
      (fun current entry => if expires entry.2 then current.finish entry.1 entry.2 else current)
      c).pending[k]? =
      if entries.any fun entry => k = entry.1 && expires entry.2 then none else c.pending[k]? := by
  induction entries generalizing c with
  | nil => rfl
  | cons entry entries ih =>
      rw [List.foldl_cons, ih, List.any_cons]
      cases entries.any fun entry => k = entry.1 && expires entry.2 with
      | true => simp
      | false =>
          cases due : expires entry.2 with
          | true =>
              rw [if_pos rfl, (finish_spec c entry.1 entry.2).pending]
              simp
          | false => simp

/-- `takeWindow` removes the batches that expire and leaves the others as they are. -/
theorem getElem?_takeWindow (c : Collector) (expireAll : Bool) (now k : Int) :
    (c.takeWindow expireAll now).2.pending[k]? =
      (c.pending[k]?).filter fun batch => !c.expires expireAll now batch := by
  refine (getElem?_foldl_finish (c.expires expireAll now) k c.pending.toList c).trans ?_
  have listed : (c.pending.toList.any fun entry => k = entry.1 && c.expires expireAll now entry.2) =
      (c.pending[k]?).any (c.expires expireAll now) := by
    rw [Bool.eq_iff_iff, List.any_eq_true, Option.any_eq_true]
    simp only [Prod.exists, Std.TreeMap.mem_toList_iff_getElem?_eq_some, Bool.and_eq_true,
      decide_eq_true_eq]
    constructor
    · rintro ⟨_, batch, found, rfl, due⟩
      exact ⟨batch, found, due⟩
    · rintro ⟨batch, found, due⟩
      exact ⟨k, batch, found, rfl, due⟩
  rw [listed]
  cases c.pending[k]? with
  | none => rfl
  | some batch =>
      cases due : c.expires expireAll now batch with
      | true => simp [Option.filter, due]
      | false => simp [Option.filter, due]

/-- Expiring everything leaves nothing pending. -/
theorem takeWindow_all_pending (c : Collector) (now k : Int) :
    (c.takeWindow true now).2.pending[k]? = none := by
  rw [getElem?_takeWindow, Option.filter_eq_none_iff]
  intro batch _
  simp [expires]

theorem handle_follows (api : DxApi) {c : Collector} (measuring : c.measuring = true)
    (events : List Event) (marketCallback : Bool) (observed duration : Int) :
    Follows c (c.handle api events marketCallback observed duration)
        (arrivals c.acceptingNewBatches (itemsOf api observed events)) ∧
      (c.handle api events marketCallback observed duration).acceptingNewBatches =
        c.acceptingNewBatches := by
  rw [handle_measuring api measuring]
  dsimp only
  have before : Follows c (c.receiveProfiles events).countCallback [] :=
    follows_of_eq ⟨rfl, rfl, rfl, rfl, rfl, rfl⟩ rfl rfl
  obtain ⟨processed, accepting⟩ :=
    foldl_handleEvent_follows api observed (c.receiveProfiles events).countCallback events
  have followed := before.trans processed
  rw [List.nil_append] at followed
  split
  · have recorded : ∀ d : Collector, Follows d (d.recordCallback events.length duration) [] :=
      fun d => follows_of_eq ⟨rfl, rfl, rfl, rfl, rfl, rfl⟩ rfl rfl
    have all := followed.trans (recorded _)
    rw [List.append_nil] at all
    exact ⟨all, accepting⟩
  · exact ⟨followed, accepting⟩

/-- The inputs of the publication machine that a call carries. -/
def inputsOf (api : DxApi) (c : Collector) : Call → List (Int × Arrival)
  | .handle events _ observed _ => arrivals c.acceptingNewBatches (itemsOf api observed events)
  | .beginMeasurement => []
  | .endMeasurement => []
  | .takeWindow expireAll now => arrivals c.acceptingNewBatches (expiries (c.expired expireAll now))

/-- Whether new sequences are accepted after a call while measuring. -/
def acceptingAfter (c : Collector) : Call → Bool
  | .endMeasurement => false
  | _ => c.acceptingNewBatches

theorem endMeasurement_follows (c : Collector) : Follows c c.endMeasurement [] :=
  ⟨rfl, rfl, rfl, rfl, rfl, (add_zero _).symm⟩

theorem call_follows (api : DxApi) {c : Collector} (measuring : c.measuring = true) {call : Call}
    (noBegin : call ≠ .beginMeasurement) :
    Follows c (c.call api call) (inputsOf api c call) ∧
      (c.call api call).acceptingNewBatches = c.acceptingAfter call := by
  cases call with
  | handle events marketCallback observed duration =>
      exact handle_follows api measuring events marketCallback observed duration
  | beginMeasurement => exact absurd rfl noBegin
  | endMeasurement =>
      exact ⟨endMeasurement_follows c, rfl⟩
  | takeWindow expireAll now => exact takeWindow_follows c expireAll now

/-- The inputs of a sequence of calls. -/
def inputsOfRun (api : DxApi) (c : Collector) : List Call → List (Int × Arrival)
  | [] => []
  | call :: calls => inputsOf api c call ++ inputsOfRun api (c.call api call) calls

/-- A measuring collector follows the publication machine. -/
theorem run_follows (api : DxApi) {c : Collector} (measuring : c.measuring = true)
    {calls : List Call} (noBegin : .beginMeasurement ∉ calls) :
    Follows c (c.run api calls) (inputsOfRun api c calls) := by
  induction calls generalizing c with
  | nil => exact .refl c
  | cons call calls ih =>
      obtain ⟨ne, noBegin⟩ := not_or.mp (mt List.mem_cons.mpr noBegin)
      have first := (call_follows api measuring (Ne.symm ne)).1
      exact first.trans (ih (first.measuring.trans measuring) noBegin)

theorem run_append (api : DxApi) (c : Collector) (xs ys : List Call) :
    c.run api (xs ++ ys) = (c.run api xs).run api ys := by
  simp [run]

/-- The items of the callbacks of a run. -/
def items (api : DxApi) (calls : List Call) : List (Int × Item) :=
  calls.flatMap fun
    | .handle events _ observed _ => itemsOf api observed events
    | _ => []

theorem items_append (api : DxApi) (xs ys : List Call) :
    items api (xs ++ ys) = items api xs ++ items api ys := by
  simp [items]

/-- The calls inside a phase: callbacks and windows, no measurement boundary. -/
def Call.withinPhase : Call → Bool
  | .handle .. => true
  | .takeWindow .. => true
  | _ => false

def Call.isBegin : Call → Bool
  | .beginMeasurement => true
  | _ => false

def Call.isWindow : Call → Bool
  | .takeWindow .. => true
  | _ => false

/-- After the first `beginMeasurement` of a run with at most one there is none. -/
theorem once_after {warmUp rest : List Call}
    (once : ((warmUp ++ .beginMeasurement :: rest).filter Call.isBegin).length ≤ 1) :
    .beginMeasurement ∉ rest := by
  intro mem
  have second : Call.beginMeasurement ∈ rest.filter Call.isBegin :=
    List.mem_filter.mpr ⟨mem, rfl⟩
  have positive := List.length_pos_of_mem second
  rw [List.filter_append, List.filter_cons_of_pos rfl, List.length_append,
    List.length_cons] at once
  omega

/-- No window of the run finishes a batch. -/
def NoExpiry (api : DxApi) (c : Collector) (calls : List Call) : Prop :=
  ∀ before expireAll now after, calls = before ++ .takeWindow expireAll now :: after →
    (c.run api before).expired expireAll now = []

theorem noExpiry_of_no_window (api : DxApi) (c : Collector) {calls : List Call}
    (none : ∀ call ∈ calls, ¬ call.isWindow) : NoExpiry api c calls := by
  rintro before expireAll now after rfl
  exact absurd rfl (none (.takeWindow expireAll now) (by simp))

theorem NoExpiry.append {api : DxApi} {c : Collector} {xs ys : List Call}
    (h : NoExpiry api c (xs ++ ys)) :
    NoExpiry api c xs ∧ NoExpiry api (c.run api xs) ys := by
  constructor
  · rintro before expireAll now after rfl
    exact h before expireAll now (after ++ ys) (by simp)
  · rintro before expireAll now after rfl
    rw [← run_append]
    exact h (xs ++ before) expireAll now after (by simp)

theorem NoExpiry.tail {api : DxApi} {c : Collector} {call : Call} {calls : List Call}
    (h : NoExpiry api c (call :: calls)) : NoExpiry api (c.call api call) calls := by
  rintro before expireAll now after rfl
  exact h (call :: before) expireAll now after rfl

/-- Within a phase without expiry, the inputs are the items of the callbacks. -/
theorem inputsOfRun_quiet (api : DxApi) {c : Collector} (measuring : c.measuring = true)
    {calls : List Call} (phase : ∀ call ∈ calls, call.withinPhase) (quiet : NoExpiry api c calls) :
    inputsOfRun api c calls = arrivals c.acceptingNewBatches (items api calls) ∧
      (c.run api calls).acceptingNewBatches = c.acceptingNewBatches := by
  induction calls generalizing c with
  | nil => exact ⟨rfl, rfl⟩
  | cons call calls ih =>
      have noBegin : call ≠ .beginMeasurement := by
        rintro rfl
        exact absurd (phase _ List.mem_cons_self) (by simp [Call.withinPhase])
      obtain ⟨first, accepting⟩ := call_follows api measuring noBegin
      have same : (c.call api call).acceptingNewBatches = c.acceptingNewBatches := by
        rw [accepting]
        cases call with
        | endMeasurement =>
            exact absurd (phase _ List.mem_cons_self) (by simp [Call.withinPhase])
        | _ => rfl
      obtain ⟨inputs, accepting'⟩ := ih (first.measuring.trans measuring)
        (fun other mem => phase other (List.mem_cons_of_mem _ mem)) quiet.tail
      refine ⟨?_, accepting'.trans same⟩
      rw [inputsOfRun, inputs, same]
      cases call with
      | handle events marketCallback observed duration =>
          simp [inputsOf, items, arrivals]
      | takeWindow expireAll now =>
          have none := quiet [] expireAll now calls rfl
          simp only [run, List.foldl_nil] at none
          simp [inputsOf, none, expiries, items, arrivals]
      | _ => exact absurd (phase _ List.mem_cons_self) (by simp [Call.withinPhase])

/-- No call changes the configuration. -/
theorem call_rules (api : DxApi) (c : Collector) (call : Call) :
    (c.call api call).rules = c.rules := by
  cases call with
  | handle events marketCallback observed duration =>
      cases phase : c.measuring with
      | false =>
          rw [Collector.call, handle_idle api phase]
          rfl
      | true => exact (handle_follows api phase events marketCallback observed duration).1.rules
  | beginMeasurement => rfl
  | endMeasurement => rfl
  | takeWindow expireAll now => exact (takeWindow_follows c expireAll now).1.rules

theorem run_rules (api : DxApi) (c : Collector) (calls : List Call) :
    (c.run api calls).rules = c.rules := by
  induction calls generalizing c with
  | nil => rfl
  | cons call calls ih => exact (ih _).trans (call_rules api c call)

/-! ### Before the measurement -/

/-- A collector that has not measured yet. -/
structure Idle (c : Collector) : Prop where
  measuring : c.measuring = false
  acceptingNewBatches : c.acceptingNewBatches = false
  pending : c.pending.toList = []
  ledger : c.ledger = 0

theorem idle_create (pattern : TaskPattern) (timeout : Int) (allowConflation : Bool) :
    Idle (create pattern timeout allowConflation) :=
  ⟨rfl, rfl, rfl, rfl⟩

/-- The sequences the items of a run identify. -/
def sequences (api : DxApi) (calls : List Call) : Finset Int :=
  ((items api calls).map Prod.fst).toFinset

theorem foldl_blacklist (api : DxApi) (observed : Int) (events : List Event) (start : Finset Int) :
    events.foldl (blacklist api) start =
      start ∪ ((itemsOf api observed events).map Prod.fst).toFinset := by
  induction events generalizing start with
  | nil => simp [itemsOf]
  | cons event events ih =>
      have seq := itemOf_sequence api observed event
      rw [List.foldl_cons, ih]
      unfold blacklist itemsOf
      rw [← seq]
      cases carried : itemOf api observed event with
      | none => simp [carried]
      | some item => simp [carried, Finset.insert_union]

/-- An idle collector stays idle, and only remembers sequences. -/
theorem idle_call (api : DxApi) {c : Collector} (idle : Idle c) {call : Call}
    (noBegin : call ≠ .beginMeasurement) :
    Idle (c.call api call) ∧ (c.call api call).rules = c.rules ∧
      (c.call api call).batchTimeout = c.batchTimeout ∧
      (c.call api call).preMeasurementSequences =
        c.preMeasurementSequences ∪ sequences api [call] := by
  cases call with
  | handle events marketCallback observed duration =>
      rw [call, handle_idle api idle.measuring]
      refine ⟨⟨idle.1, idle.2, idle.3, idle.4⟩, rfl, rfl, ?_⟩
      dsimp only [receiveProfiles]
      rw [foldl_blacklist api observed]
      simp [sequences, items]
  | beginMeasurement => exact absurd rfl noBegin
  | endMeasurement =>
      exact ⟨⟨idle.1, rfl, idle.3, idle.4⟩, rfl, rfl,
        by simp [sequences, items, call, endMeasurement]⟩
  | takeWindow expireAll now =>
      have untouched : c.expirePending expireAll now = c := by
        rw [expirePending, idle.pending]
        rfl
      simp only [call, takeWindow, untouched]
      exact ⟨⟨idle.1, idle.2, idle.3, idle.4⟩, rfl, rfl, by simp [sequences, items, clearWindow]⟩

theorem idle_run (api : DxApi) {c : Collector} (idle : Idle c) {calls : List Call}
    (noBegin : .beginMeasurement ∉ calls) :
    Idle (c.run api calls) ∧ (c.run api calls).rules = c.rules ∧
      (c.run api calls).batchTimeout = c.batchTimeout ∧
      (c.run api calls).preMeasurementSequences =
        c.preMeasurementSequences ∪ sequences api calls := by
  induction calls generalizing c with
  | nil => exact ⟨idle, rfl, rfl, by simp [run, sequences, items]⟩
  | cons call calls ih =>
      obtain ⟨ne, noBegin⟩ := not_or.mp (mt List.mem_cons.mpr noBegin)
      obtain ⟨idle, rules, timeout, blacklisted⟩ := idle_call api idle (Ne.symm ne)
      obtain ⟨idle', rules', timeout', blacklisted'⟩ := ih idle noBegin
      refine ⟨idle', rules'.trans rules, timeout'.trans timeout, blacklisted'.trans ?_⟩
      rw [blacklisted, Finset.union_assoc]
      congr 1
      simp [sequences, items]

/-- What a collector is when the measurement begins. -/
structure Begun (c : Collector) (rules : Rules) (blacklisted : Finset Int) : Prop where
  measuring : c.measuring = true
  acceptingNewBatches : c.acceptingNewBatches = true
  rules_eq : c.rules = rules
  blacklisted_eq : c.preMeasurementSequences = blacklisted
  batches : c.batches = fun _ => none
  ledger : c.ledger = 0

theorem begun_of_idle {c : Collector} (idle : Idle c) :
    Begun c.beginMeasurement c.rules c.preMeasurementSequences :=
  ⟨rfl, rfl, rfl, rfl, by funext k; simp [batches, beginMeasurement], idle.ledger⟩

/-- A fresh collector that measured nothing but saw `calls` and then begins. -/
theorem begun_of_run (api : DxApi) (pattern : TaskPattern) (timeout : Int) (allowConflation : Bool)
    {calls : List Call} (noBegin : .beginMeasurement ∉ calls) :
    Begun ((create pattern timeout allowConflation).run api (calls ++ [.beginMeasurement]))
      (create pattern timeout allowConflation).rules (sequences api calls) := by
  obtain ⟨idle, rules, -, blacklisted⟩ :=
    idle_run api (idle_create pattern timeout allowConflation) noBegin
  have begun := begun_of_idle idle
  rw [rules, blacklisted] at begun
  rw [run_append]
  exact begun

end Collector

end LatencyTest
