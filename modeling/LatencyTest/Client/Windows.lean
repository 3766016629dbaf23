import LatencyTest.Client.Runs

/-!
Windows and totals. The collector keeps everything it measures twice, in the
current window and for the whole run; a window is moved out and reset at any time.
`Measured` is what is measured in a stretch of a run, with its order; every
operation of the collector adds the same `Measured` to both copies (`Adds`), so
the windows partition the totals (`windows_partition`).
-/

namespace LatencyTest

/-! ### What is measured -/

/-- The samples, in order, and the counters of a stretch of a run. -/
@[ext] structure Measured where
  events : List Sample := []
  batches : List Sample := []
  callbackSizes : List Int := []
  callbackDurations : List Int := []
  callbacks : Nat := 0
  negative : Nat := 0
  missing : Nat := 0
  delivery : DeliveryCounters := 0

namespace Measured

instance : Zero Measured := ⟨{}⟩

/-- One stretch after another. -/
instance : Add Measured where
  add a b :=
    { events := a.events ++ b.events
      batches := a.batches ++ b.batches
      callbackSizes := a.callbackSizes ++ b.callbackSizes
      callbackDurations := a.callbackDurations ++ b.callbackDurations
      callbacks := a.callbacks + b.callbacks
      negative := a.negative + b.negative
      missing := a.missing + b.missing
      delivery := a.delivery + b.delivery }

@[simp] theorem zero_events : (0 : Measured).events = [] := rfl
@[simp] theorem zero_batches : (0 : Measured).batches = [] := rfl
@[simp] theorem zero_callbackSizes : (0 : Measured).callbackSizes = [] := rfl
@[simp] theorem zero_callbackDurations : (0 : Measured).callbackDurations = [] := rfl
@[simp] theorem zero_callbacks : (0 : Measured).callbacks = 0 := rfl
@[simp] theorem zero_negative : (0 : Measured).negative = 0 := rfl
@[simp] theorem zero_missing : (0 : Measured).missing = 0 := rfl
@[simp] theorem zero_delivery : (0 : Measured).delivery = 0 := rfl

variable (a b : Measured)

@[simp] theorem add_events : (a + b).events = a.events ++ b.events := rfl
@[simp] theorem add_batches : (a + b).batches = a.batches ++ b.batches := rfl
@[simp] theorem add_callbackSizes :
    (a + b).callbackSizes = a.callbackSizes ++ b.callbackSizes := rfl
@[simp] theorem add_callbackDurations :
    (a + b).callbackDurations = a.callbackDurations ++ b.callbackDurations := rfl
@[simp] theorem add_callbacks : (a + b).callbacks = a.callbacks + b.callbacks := rfl
@[simp] theorem add_negative : (a + b).negative = a.negative + b.negative := rfl
@[simp] theorem add_missing : (a + b).missing = a.missing + b.missing := rfl
@[simp] theorem add_delivery : (a + b).delivery = a.delivery + b.delivery := rfl

instance : AddMonoid Measured where
  add_assoc a b c := by ext1 <;> simp [add_assoc]
  zero_add a := by ext1 <;> simp
  add_zero a := by ext1 <;> simp
  nsmul := nsmulRec

/-- The latencies of the event samples of a kind. -/
def latencies (kind : RegularKind) : List Int :=
  (a.events.filter (·.kind = kind)).map Sample.latencyNs

@[simp] theorem latencies_zero (kind : RegularKind) : latencies 0 kind = [] := rfl

@[simp] theorem latencies_add (kind : RegularKind) :
    (a + b).latencies kind = a.latencies kind ++ b.latencies kind := by
  simp [latencies]

/-- A sample is the difference of its two times, and no clock anomaly. -/
def Sound : Prop :=
  ∀ sample ∈ a.events ++ a.batches,
    sample.latencyNs = sample.observedAtNs - sample.publishTimeNs ∧ 0 ≤ sample.latencyNs

theorem sound_zero : Sound 0 := by
  intro sample mem
  cases mem

variable {a b}

theorem Sound.add (first : a.Sound) (second : b.Sound) : (a + b).Sound := by
  intro sample mem
  simp only [add_events, add_batches, List.mem_append] at mem
  rcases mem with (before | after) | (before | after)
  · exact first sample (List.mem_append_left _ before)
  · exact second sample (List.mem_append_left _ after)
  · exact first sample (List.mem_append_right _ before)
  · exact second sample (List.mem_append_right _ after)

end Measured

/-- What a window was measured to hold. -/
def Window.measured (w : Window) : Measured where
  events := w.events
  batches := w.batches
  callbackSizes := w.callbackSizes
  callbackDurations := w.callbackDurations
  callbacks := w.callbacks
  negative := w.negative
  missing := w.missing
  delivery := w.delivery

namespace Collector

/-! ### Every operation adds to both copies -/

/-- From `c` to `c'` the same is added to the current window and to the totals. -/
structure Adds (c c' : Collector) (m : Measured) : Prop where
  window : c'.window.measured = c.window.measured + m
  events : ∀ kind, c'.eventGlobalByKind kind = c.eventGlobalByKind kind ++ m.latencies kind
  batches : c'.batchGlobal = c.batchGlobal ++ m.batches.map Sample.latencyNs
  callbackSizes : c'.callbackSizeGlobal = c.callbackSizeGlobal ++ m.callbackSizes
  callbackDurations : c'.callbackDurationGlobal = c.callbackDurationGlobal ++ m.callbackDurations
  callbacks : c'.callbacksTotal = c.callbacksTotal + m.callbacks
  negative : c'.negativeTotal = c.negativeTotal + m.negative
  missing : c'.missingTotal = c.missingTotal + m.missing
  delivery : c'.deliveryTotal = c.deliveryTotal + m.delivery
  sound : m.Sound

theorem Adds.trans {a b c : Collector} {m m' : Measured} (h : Adds a b m) (h' : Adds b c m') :
    Adds a c (m + m') := by
  constructor
  · rw [h'.window, h.window, add_assoc]
  · intro kind
    rw [h'.events, h.events, Measured.latencies_add, List.append_assoc]
  · rw [h'.batches, h.batches, Measured.add_batches, List.map_append, List.append_assoc]
  · rw [h'.callbackSizes, h.callbackSizes, Measured.add_callbackSizes, List.append_assoc]
  · rw [h'.callbackDurations, h.callbackDurations, Measured.add_callbackDurations,
      List.append_assoc]
  · rw [h'.callbacks, h.callbacks, Measured.add_callbacks, add_assoc]
  · rw [h'.negative, h.negative, Measured.add_negative, add_assoc]
  · rw [h'.missing, h.missing, Measured.add_missing, add_assoc]
  · rw [h'.delivery, h.delivery, Measured.add_delivery, add_assoc]
  · exact h.sound.add h'.sound

/-- The fields that windows and totals are made of. -/
structure SameMeasured (c c' : Collector) : Prop where
  window : c'.window.measured = c.window.measured
  events : c'.eventGlobalByKind = c.eventGlobalByKind
  batches : c'.batchGlobal = c.batchGlobal
  callbackSizes : c'.callbackSizeGlobal = c.callbackSizeGlobal
  callbackDurations : c'.callbackDurationGlobal = c.callbackDurationGlobal
  callbacks : c'.callbacksTotal = c.callbacksTotal
  negative : c'.negativeTotal = c.negativeTotal
  missing : c'.missingTotal = c.missingTotal
  delivery : c'.deliveryTotal = c.deliveryTotal

/-- Something was added, possibly nothing. -/
def Grows (c c' : Collector) : Prop := ∃ m, Adds c c' m

theorem Grows.trans {a b c : Collector} (h : Grows a b) (h' : Grows b c) : Grows a c := by
  obtain ⟨m, first⟩ := h
  obtain ⟨m', second⟩ := h'
  exact ⟨m + m', first.trans second⟩

/-- An operation that measures nothing. -/
theorem SameMeasured.grows {c c' : Collector} (h : SameMeasured c c') : Grows c c' := by
  refine ⟨0, ?_⟩
  constructor
  · rw [h.window, add_zero]
  · intro kind
    rw [h.events, Measured.latencies_zero, List.append_nil]
  · rw [h.batches, Measured.zero_batches, List.map_nil, List.append_nil]
  · rw [h.callbackSizes, Measured.zero_callbackSizes, List.append_nil]
  · rw [h.callbackDurations, Measured.zero_callbackDurations, List.append_nil]
  · rw [h.callbacks, Measured.zero_callbacks, add_zero]
  · rw [h.negative, Measured.zero_negative, add_zero]
  · rw [h.missing, Measured.zero_missing, add_zero]
  · rw [h.delivery, Measured.zero_delivery, add_zero]
  · exact Measured.sound_zero

theorem grows_refl (c : Collector) : Grows c c :=
  SameMeasured.grows ⟨rfl, rfl, rfl, rfl, rfl, rfl, rfl, rfl, rfl⟩

theorem grows_deliver (c : Collector) (increments : DeliveryCounters) :
    Grows c (c.deliver increments) := by
  refine ⟨{ delivery := increments }, ?_⟩
  constructor
  case window => ext1 <;> simp [window, Window.measured, deliver]
  case sound =>
    intro sample mem
    cases mem
  all_goals simp [deliver, Measured.latencies]

theorem grows_countNegative (c : Collector) : Grows c c.countNegative := by
  refine ⟨{ negative := 1 }, ?_⟩
  constructor
  case window => ext1 <;> simp [window, Window.measured, countNegative]
  case sound =>
    intro sample mem
    cases mem
  all_goals simp [countNegative, Measured.latencies]

theorem grows_countMissing (c : Collector) : Grows c c.countMissing := by
  unfold countMissing
  split
  · exact grows_refl c
  · refine ⟨{ missing := 1 }, ?_⟩
    constructor
    case window => ext1 <;> simp [window, Window.measured]
    case sound =>
      intro sample mem
      cases mem
    all_goals simp [Measured.latencies]

theorem grows_emitEvent (publishTime : Int) (c : Collector) (event : PendingEvent) :
    Grows c (emitEvent publishTime c event) := by
  unfold emitEvent
  dsimp only
  split
  · exact grows_countNegative c
  · rename_i recorded
    refine ⟨{ events := [⟨event.observed, publishTime, event.observed - publishTime, event.kind,
      event.symbol⟩] }, ?_⟩
    constructor
    case window => ext1 <;> simp [window, Window.measured]
    case events =>
      intro kind
      by_cases same : event.kind = kind
      · subst same
        simp [Measured.latencies]
      · dsimp only
        rw [Function.update_of_ne (Ne.symm same)]
        simp [Measured.latencies, same]
    case sound =>
      intro sample mem
      rw [List.append_nil, List.mem_singleton] at mem
      subst mem
      exact ⟨rfl, not_lt.mp recorded⟩
    all_goals simp

theorem grows_foldl_emitEvent (publishTime : Int) (c : Collector) (events : List PendingEvent) :
    Grows c (events.foldl (emitEvent publishTime) c) := by
  induction events generalizing c with
  | nil => exact grows_refl c
  | cons event events ih => exact (grows_emitEvent publishTime c event).trans (ih _)

theorem grows_emitEvents (c : Collector) (batch : PendingBatch) :
    Grows c (c.emitEvents batch).1 := by
  unfold emitEvents
  cases batch.timestamp with
  | none => exact grows_refl c
  | some publishTime => exact grows_foldl_emitEvent publishTime c batch.events

theorem grows_sampleBatch (c : Collector) (batch : PendingBatch) (publishTime : Int) :
    Grows c (c.sampleBatch batch publishTime) := by
  unfold sampleBatch
  dsimp only
  split
  · exact grows_refl c
  split
  · exact grows_countNegative c
  · rename_i recorded
    refine ⟨{ batches := [⟨batch.lastObserved, publishTime, batch.lastObserved - publishTime,
      .quote, []⟩] }, ?_⟩
    constructor
    case window => ext1 <;> simp [window, Window.measured]
    case sound =>
      intro sample mem
      rw [List.nil_append, List.mem_singleton] at mem
      subst mem
      exact ⟨rfl, not_lt.mp recorded⟩
    all_goals simp [Measured.latencies]

theorem grows_erase (c : Collector) (sequence : Int) : Grows c (c.erase sequence) :=
  SameMeasured.grows ⟨rfl, rfl, rfl, rfl, rfl, rfl, rfl, rfl, rfl⟩

theorem grows_finish (c : Collector) (sequence : Int) (batch : PendingBatch) :
    Grows c (c.finish sequence batch) := by
  unfold finish
  cases batch.timestamp with
  | none =>
      exact ((grows_deliver c _).trans (grows_countMissing _)).trans (grows_erase _ sequence)
  | some publishTime =>
      dsimp only
      have delivered := (grows_emitEvents c batch).trans (grows_deliver (c.emitEvents batch).1
        ((c.emitEvents batch).2.settlement (c.emitEvents batch).1.expectedByKind))
      split
      · exact (delivered.trans (grows_sampleBatch _ _ publishTime)).trans (grows_erase _ sequence)
      · exact ((delivered.trans (grows_countMissing _)).trans
          (grows_sampleBatch _ _ publishTime)).trans (grows_erase _ sequence)

theorem grows_store (c : Collector) (sequence : Int) (batch : PendingBatch) (ready : Bool) :
    Grows c (c.store sequence batch ready) := by
  have stored : Grows c { c with pending := c.pending.insert sequence batch } :=
    SameMeasured.grows ⟨rfl, rfl, rfl, rfl, rfl, rfl, rfl, rfl, rfl⟩
  unfold store
  dsimp only
  split
  · exact stored.trans (grows_finish _ sequence batch)
  · exact stored

theorem grows_addEvent (c : Collector) (sequence : Int) (event : PendingEvent) :
    Grows c (c.addEvent sequence event) := by
  unfold addEvent
  split
  · exact grows_refl c
  · exact (grows_emitEvents c _).trans (grows_store _ sequence _ _)

theorem grows_addMarker (c : Collector) (sequence timestamp observed : Int) :
    Grows c (c.addMarker sequence timestamp observed) := by
  unfold addMarker
  split
  · exact grows_refl c
  · dsimp only
    split
    · exact ((grows_deliver c _).trans (grows_emitEvents _ _)).trans (grows_store _ sequence _ _)
    · exact (grows_emitEvents c _).trans (grows_store _ sequence _ _)

theorem grows_handleEvent (api : DxApi) (observed : Int) (c : Collector) (event : Event) :
    Grows c (handleEvent api observed c event) := by
  have market : ∀ event, Grows c (handleMarketEvent api observed c event) := by
    intro event
    unfold handleMarketEvent
    cases describe api event with
    | none => exact grows_refl c
    | some description =>
        dsimp only
        have selected : Grows c (c.observeSourceTime description observed) := by
          unfold observeSourceTime
          split
          · exact SameMeasured.grows ⟨rfl, rfl, rfl, rfl, rfl, rfl, rfl, rfl, rfl⟩
          · exact grows_refl c
        cases description.sequence with
        | none => exact selected
        | some sequence => exact selected.trans (grows_addEvent _ sequence _)
  unfold handleEvent
  split
  · cases markerTimestamp _ with
    | none => exact grows_refl c
    | some timestamp => exact grows_addMarker c _ timestamp observed
  · exact market _

theorem grows_foldl_handleEvent (api : DxApi) (observed : Int) (c : Collector)
    (events : List Event) : Grows c (events.foldl (handleEvent api observed) c) := by
  induction events generalizing c with
  | nil => exact grows_refl c
  | cons event events ih => exact (grows_handleEvent api observed c event).trans (ih _)

theorem grows_countCallback (c : Collector) : Grows c c.countCallback := by
  refine ⟨{ callbacks := 1 }, ?_⟩
  constructor
  case window => ext1 <;> simp [window, Window.measured, countCallback]
  case sound =>
    intro sample mem
    cases mem
  all_goals simp [countCallback, Measured.latencies]

theorem grows_recordCallback (c : Collector) (size duration : Int) :
    Grows c (c.recordCallback size duration) := by
  refine ⟨{ callbackSizes := [size], callbackDurations := [duration] }, ?_⟩
  constructor
  case window => ext1 <;> simp [window, Window.measured, recordCallback]
  case sound =>
    intro sample mem
    cases mem
  all_goals simp [recordCallback, Measured.latencies]

theorem grows_handle (api : DxApi) (c : Collector) (events : List Event) (marketCallback : Bool)
    (observed duration : Int) :
    Grows c (c.handle api events marketCallback observed duration) := by
  have received : Grows c (c.receiveProfiles events) :=
    SameMeasured.grows ⟨rfl, rfl, rfl, rfl, rfl, rfl, rfl, rfl, rfl⟩
  cases measuring : c.measuring with
  | false =>
      rw [handle_idle api measuring]
      exact SameMeasured.grows ⟨rfl, rfl, rfl, rfl, rfl, rfl, rfl, rfl, rfl⟩
  | true =>
      rw [handle_measuring api measuring]
      have processed := (received.trans (grows_countCallback _)).trans
        (grows_foldl_handleEvent api observed _ events)
      dsimp only
      split
      · exact processed.trans (grows_recordCallback _ _ duration)
      · exact processed

theorem grows_expirePending (c : Collector) (expireAll : Bool) (now : Int) :
    Grows c (c.expirePending expireAll now) := by
  have loop : ∀ (entries : List (Int × PendingBatch)) (current : Collector),
      Grows current (entries.foldl (fun current entry =>
        if c.expires expireAll now entry.2 then current.finish entry.1 entry.2 else current)
        current) := by
    intro entries
    induction entries with
    | nil => exact grows_refl
    | cons entry entries ih =>
        intro current
        rw [List.foldl_cons]
        split
        · exact (grows_finish current entry.1 entry.2).trans (ih _)
        · exact ih current
  exact loop _ c

/-! ### Windows -/

/-- The windows a call extracts. -/
def extracted (c : Collector) : Call → List Window
  | .takeWindow expireAll now => [(c.takeWindow expireAll now).1]
  | _ => []

/-- The windows extracted by a run, in order. -/
def windows (api : DxApi) (c : Collector) : List Call → List Window
  | [] => []
  | call :: calls => c.extracted call ++ windows api (c.call api call) calls

theorem windows_append (api : DxApi) (c : Collector) (xs ys : List Call) :
    c.windows api (xs ++ ys) = c.windows api xs ++ (c.run api xs).windows api ys := by
  induction xs generalizing c with
  | nil => rfl
  | cons call xs ih =>
      rw [List.cons_append, windows, windows, ih, List.append_assoc]
      rfl

/-- The totals of a collector are those of `m`. -/
structure TotalsOf (c : Collector) (m : Measured) : Prop where
  events : ∀ kind, c.eventGlobalByKind kind = m.latencies kind
  batches : c.batchGlobal = m.batches.map Sample.latencyNs
  callbackSizes : c.callbackSizeGlobal = m.callbackSizes
  callbackDurations : c.callbackDurationGlobal = m.callbackDurations
  callbacks : c.callbacksTotal = m.callbacks
  negative : c.negativeTotal = m.negative
  missing : c.missingTotal = m.missing
  delivery : c.deliveryTotal = m.delivery
  sound : m.Sound

theorem Adds.totalsOf {c c' : Collector} {m m' : Measured} (h : Adds c c' m')
    (before : TotalsOf c m) : TotalsOf c' (m + m') := by
  constructor
  · intro kind
    rw [h.events, before.events, Measured.latencies_add]
  · rw [h.batches, before.batches, Measured.add_batches, List.map_append]
  · rw [h.callbackSizes, before.callbackSizes, Measured.add_callbackSizes]
  · rw [h.callbackDurations, before.callbackDurations, Measured.add_callbackDurations]
  · rw [h.callbacks, before.callbacks, Measured.add_callbacks]
  · rw [h.negative, before.negative, Measured.add_negative]
  · rw [h.missing, before.missing, Measured.add_missing]
  · rw [h.delivery, before.delivery, Measured.add_delivery]
  · exact before.sound.add h.sound

/-- The windows extracted so far and the current one make up the totals. -/
def PartitionedBy (c : Collector) (extracted : List Window) : Prop :=
  TotalsOf c ((extracted.map Window.measured).sum + c.window.measured)

theorem Grows.partitioned {c c' : Collector} {extracted : List Window} (h : Grows c c')
    (before : PartitionedBy c extracted) : PartitionedBy c' extracted := by
  obtain ⟨m, adds⟩ := h
  rw [PartitionedBy, adds.window, ← add_assoc]
  exact adds.totalsOf before

/-- Moving the window out. -/
theorem partitioned_clearWindow {c : Collector} {extracted : List Window}
    (before : PartitionedBy c extracted) :
    PartitionedBy c.clearWindow (extracted ++ [c.window]) := by
  have empty : c.clearWindow.window.measured = 0 := rfl
  rw [PartitionedBy, empty, add_zero, List.map_append, List.map_singleton, List.sum_append,
    List.sum_singleton]
  obtain ⟨events, batches, sizes, durations, callbacks, negative, missing, delivery, sound⟩ :=
    before
  exact ⟨events, batches, sizes, durations, callbacks, negative, missing, delivery, sound⟩

/-- No call other than `beginMeasurement` disturbs the partition. -/
theorem partitioned_call (api : DxApi) {c : Collector} {extracted : List Window}
    (before : PartitionedBy c extracted) {call : Call} (noBegin : call ≠ .beginMeasurement) :
    PartitionedBy (c.call api call) (extracted ++ c.extracted call) := by
  cases call with
  | handle events marketCallback observed duration =>
      have none : c.extracted (.handle events marketCallback observed duration) = [] := rfl
      rw [none, List.append_nil]
      exact (grows_handle api c events marketCallback observed duration).partitioned before
  | beginMeasurement => exact absurd rfl noBegin
  | endMeasurement =>
      have same : Grows c c.endMeasurement :=
        SameMeasured.grows ⟨rfl, rfl, rfl, rfl, rfl, rfl, rfl, rfl, rfl⟩
      have none : c.extracted .endMeasurement = [] := rfl
      rw [none, List.append_nil]
      exact same.partitioned before
  | takeWindow expireAll now =>
      exact partitioned_clearWindow ((grows_expirePending c expireAll now).partitioned before)

theorem partitioned_run (api : DxApi) {c : Collector} {extracted : List Window}
    (before : PartitionedBy c extracted) {calls : List Call} (noBegin : .beginMeasurement ∉ calls) :
    PartitionedBy (c.run api calls) (extracted ++ c.windows api calls) := by
  induction calls generalizing c extracted with
  | nil =>
      rw [windows, List.append_nil]
      exact before
  | cons call calls ih =>
      obtain ⟨ne, noBegin⟩ := not_or.mp (mt List.mem_cons.mpr noBegin)
      rw [windows, ← List.append_assoc]
      exact ih (partitioned_call api before (Ne.symm ne)) noBegin

/-! ### The whole history -/

/-- Nothing is measured while idle. -/
theorem idle_window (api : DxApi) {c : Collector} (idle : Idle c) (empty : c.window.measured = 0)
    {call : Call} (noBegin : call ≠ .beginMeasurement) : (c.call api call).window.measured = 0 := by
  cases call with
  | handle events marketCallback observed duration =>
      rw [Collector.call, handle_idle api idle.measuring]
      exact empty
  | beginMeasurement => exact absurd rfl noBegin
  | endMeasurement => exact empty
  | takeWindow expireAll now => rfl

theorem idle_run_window (api : DxApi) {c : Collector} (idle : Idle c)
    (empty : c.window.measured = 0) {calls : List Call} (noBegin : .beginMeasurement ∉ calls) :
    (c.run api calls).window.measured = 0 := by
  induction calls generalizing c with
  | nil => exact empty
  | cons call calls ih =>
      obtain ⟨ne, noBegin⟩ := not_or.mp (mt List.mem_cons.mpr noBegin)
      exact ih (idle_call api idle (Ne.symm ne)).1 (idle_window api idle empty (Ne.symm ne)) noBegin

/-- `beginMeasurement` resets a window that holds nothing. -/
theorem grows_beginMeasurement {c : Collector} (empty : c.window.measured = 0) :
    Grows c c.beginMeasurement :=
  SameMeasured.grows ⟨empty.symm, rfl, rfl, rfl, rfl, rfl, rfl, rfl, rfl⟩

theorem partitioned_history (api : DxApi) (pattern : TaskPattern) (timeout : Int)
    (allowConflation : Bool) {warmUp rest : List Call}
    (once : .beginMeasurement ∉ warmUp ++ rest) :
    PartitionedBy
      ((create pattern timeout allowConflation).run api (warmUp ++ .beginMeasurement :: rest))
      ((create pattern timeout allowConflation).windows api
        (warmUp ++ .beginMeasurement :: rest)) := by
  obtain ⟨before, after⟩ := not_or.mp (mt List.mem_append.mpr once)
  have idle := idle_create pattern timeout allowConflation
  have start : PartitionedBy (create pattern timeout allowConflation) [] :=
    ⟨fun _ => rfl, rfl, rfl, rfl, rfl, rfl, rfl, rfl, Measured.sound_zero⟩
  have warm := partitioned_run api start before
  have empty := idle_run_window api idle rfl before
  have begun := (grows_beginMeasurement empty).partitioned warm
  rw [run_append, windows_append]
  exact partitioned_run api begun after

end Collector

namespace Measured

/-- A list that stretches append. -/
theorem sum_append {α : Type} (field : Measured → List α) (zero : field 0 = [])
    (add : ∀ a b, field (a + b) = field a ++ field b) (windows : List Window) :
    field (windows.map Window.measured).sum = windows.flatMap fun w => field w.measured := by
  induction windows with
  | nil => exact zero
  | cons window windows ih =>
      rw [List.map_cons, List.sum_cons, add, ih, List.flatMap_cons]

/-- A counter that stretches add. -/
theorem sum_add {M : Type} [AddMonoid M] (field : Measured → M) (zero : field 0 = 0)
    (add : ∀ a b, field (a + b) = field a + field b) (windows : List Window) :
    field (windows.map Window.measured).sum = (windows.map fun w => field w.measured).sum := by
  let hom : Measured →+ M := ⟨⟨field, zero⟩, add⟩
  exact (map_list_sum hom _).trans (congrArg List.sum (List.map_map ..))

end Measured

namespace Collector

/-- The windows of a history that begins once partition its totals: the counters
add up to them, and the samples of one window after another are the samples of the
whole run, in order. -/
theorem windows_partition (api : DxApi) (pattern : TaskPattern) (timeout : Int)
    (allowConflation : Bool) (warmUp rest : List Call)
    (once : .beginMeasurement ∉ warmUp ++ rest) :
    let fresh := create pattern timeout allowConflation
    let calls := warmUp ++ .beginMeasurement :: rest
    let c := fresh.run api calls
    let all := fresh.windows api calls ++ [c.window]
    (all.map Window.delivery).sum = c.deliveryTotal ∧
      (all.map Window.callbacks).sum = c.callbacksTotal ∧
      (all.map Window.negative).sum = c.negativeTotal ∧
      (all.map Window.missing).sum = c.missingTotal ∧
      (∀ kind, ((all.flatMap Window.events).filter (·.kind = kind)).map Sample.latencyNs =
        c.eventGlobalByKind kind) ∧
      (all.flatMap Window.batches).map Sample.latencyNs = c.batchGlobal ∧
      all.flatMap Window.callbackSizes = c.callbackSizeGlobal ∧
      all.flatMap Window.callbackDurations = c.callbackDurationGlobal := by
  intro fresh calls c all
  have partitioned := partitioned_history api pattern timeout allowConflation once
  have joined : TotalsOf c (all.map Window.measured).sum := by
    rw [List.map_append, List.sum_append, List.map_singleton, List.sum_singleton]
    exact partitioned
  refine ⟨?_, ?_, ?_, ?_, ?_, ?_, ?_, ?_⟩
  · exact (Measured.sum_add Measured.delivery rfl (fun _ _ => rfl) all).symm.trans
      joined.delivery.symm
  · exact (Measured.sum_add Measured.callbacks rfl (fun _ _ => rfl) all).symm.trans
      joined.callbacks.symm
  · exact (Measured.sum_add Measured.negative rfl (fun _ _ => rfl) all).symm.trans
      joined.negative.symm
  · exact (Measured.sum_add Measured.missing rfl (fun _ _ => rfl) all).symm.trans
      joined.missing.symm
  · intro kind
    rw [joined.events, Measured.latencies,
      Measured.sum_append Measured.events rfl (fun _ _ => rfl)]
    rfl
  · rw [joined.batches, Measured.sum_append Measured.batches rfl (fun _ _ => rfl)]
    rfl
  · exact (Measured.sum_append Measured.callbackSizes rfl (fun _ _ => rfl) all).symm.trans
      joined.callbackSizes.symm
  · exact (Measured.sum_append Measured.callbackDurations rfl (fun _ _ => rfl) all).symm.trans
      joined.callbackDurations.symm

private def splitTask : TaskPattern := { items := [⟨.trade, 2⟩] }

private def splitMarker : Event :=
  .textMessage
    { eventSymbol := "LATENCY_MARKER:".toList, text := "LATENCY_BATCH:100".toList, sequence := 5 }

private def splitTrade : Event :=
  .trade { eventSymbol := "SYM00".toList, sequence := 5, timeNanos := 100 }

private def splitCalls : List Call :=
  [.handle [splitMarker, splitTrade] true 150 1, .takeWindow false 155,
    .handle [splitTrade] true 160 1]

/-- A publication of two Trade events with a window taken between them. -/
theorem windows_partition_split :
    let fresh := create splitTask 1000 false
    let calls := [] ++ .beginMeasurement :: splitCalls
    let all := fresh.windows .release calls ++ [(fresh.run .release calls).window]
    all.map (fun w => w.events.map Sample.latencyNs) = [[50], [60]] ∧
      ((all.flatMap Window.events).filter (·.kind = .trade)).map Sample.latencyNs =
        (fresh.run .release calls).eventGlobalByKind .trade := by
  dsimp only
  obtain ⟨-, -, -, -, events, -⟩ := windows_partition .release splitTask 1000 false [] splitCalls
    (by simp [splitCalls])
  constructor
  · decide +kernel
  · exact events .trade

end Collector

end LatencyTest
