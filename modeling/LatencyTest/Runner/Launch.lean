import LatencyTest.Runner.Vectors

/-!
Which accepted suites are launched. The marker-correlating client reads its arguments
into a configuration (`ClientReadings`), of which its `main` checks the role and the
delayed subscription. Some values are checked by the suite parser, some only by the
programs; `launchable_iff` says for which accepted suites every run of the plan is
started.
-/

namespace LatencyTest.Runner

open Lib.Options (Written)

/-! ### The marker-correlating client -/

/-- The values that the marker-correlating client reads of its arguments. -/
structure ClientReadings (suite : BenchmarkSuite) (run : BenchmarkRun) where
  role : ClientRole
  role_read : parseRole (cString run.clientRole) = .ok role
  listenerDelay : Int
  delay_read : readDelay (cString run.listenerDelay) = .ok listenerDelay
  eventsBatchLimit : BatchLimit
  limit_read : parseEventsBatchLimit (cString run.eventsBatchLimit) = .ok eventsBatchLimit
  aggregationPeriod : Int
  aggregation_read : readDelay (cString run.aggregationPeriod) = .ok aggregationPeriod
  warmup : Int
  warmup_read : parseDuration (cString suite.warmup) = .ok warmup
  duration : Int
  duration_read : parseDuration (cString suite.duration) = .ok duration
  window : Int
  window_read : parseDuration (cString suite.window) = .ok window
  batchTimeout : Int
  batch_read : parseDuration (cString suite.batchTimeout) = .ok batchTimeout
  startupTimeout : Int
  startup_read : parseDuration (cString suite.startupTimeout) = .ok startupTimeout
  timeSeriesPrefill : Int
  prefill_read : parseDuration (cString run.timeSeriesPrefill) = .ok timeSeriesPrefill
  monitoringStat : Option Int
  monitoring_read : parseMonitoringPeriod (cString suite.monitoringPeriod) = .ok monitoringStat
  timeSeriesSubscribeAfter : Option Int
  after_read : run.timeSeriesSubscribeAfter.mapM (fun after => parseDuration (cString after)) =
    .ok timeSeriesSubscribeAfter

namespace ClientReadings

variable {suite : BenchmarkSuite} {run : BenchmarkRun} (readings : ClientReadings suite run)
  (output : Text)

/-- The configuration after the options that every run has. -/
def fixedConfig : ClientConfig where
  task := cString run.task
  duration := readings.duration
  batchTimeout := readings.batchTimeout
  role := readings.role
  address := cString suite.address
  warmup := readings.warmup
  window := readings.window
  startupTimeout := readings.startupTimeout
  timeSeriesPrefill := readings.timeSeriesPrefill
  listenerDelay := readings.listenerDelay
  aggregationPeriod := readings.aggregationPeriod
  monitoringStat := readings.monitoringStat
  output := cString output
  eventsBatchLimit := readings.eventsBatchLimit

/-- The configuration of the client. -/
def config : ClientConfig :=
  { readings.fixedConfig output with
    timeSeriesSubscribeAfter := readings.timeSeriesSubscribeAfter
    timeSeriesUnsubscribeAfterSnapshot := run.timeSeriesUnsubscribeAfterSnapshot }

theorem parse_clientFixed :
    clientOptions.parse {} (((clientFixed suite run output).map (Written.map cString)).flatMap
      Written.texts) = .ok (readings.fixedConfig output) := by
  have role_set : clientOptions.update (.valued "--role".toList (cString run.clientRole)) =
      .ok fun config => { config with role := readings.role } :=
    Lib.bind_of_ok readings.role_read _
  have delay_set : clientOptions.update
      (.valued "--listener-delay".toList (cString run.listenerDelay)) =
        .ok fun config => { config with listenerDelay := readings.listenerDelay } :=
    (clientOption_listenerDelay _).trans (Lib.bind_of_ok readings.delay_read _)
  have limit_set : clientOptions.update
      (.valued "--events-batch-limit".toList (cString run.eventsBatchLimit)) =
        .ok fun config => { config with eventsBatchLimit := readings.eventsBatchLimit } :=
    Lib.bind_of_ok readings.limit_read _
  have aggregation_set : clientOptions.update
      (.valued "--aggregation-period".toList (cString run.aggregationPeriod)) =
        .ok fun config => { config with aggregationPeriod := readings.aggregationPeriod } :=
    (clientOption_aggregationPeriod _).trans (Lib.bind_of_ok readings.aggregation_read _)
  have warmup_set : clientOptions.update (.valued "--warmup".toList (cString suite.warmup)) =
      .ok fun config => { config with warmup := readings.warmup } :=
    Lib.bind_of_ok readings.warmup_read _
  have duration_set : clientOptions.update
      (.valued "--duration".toList (cString suite.duration)) =
        .ok fun config => { config with duration := readings.duration } :=
    Lib.bind_of_ok readings.duration_read _
  have window_set : clientOptions.update (.valued "--window".toList (cString suite.window)) =
      .ok fun config => { config with window := readings.window } :=
    Lib.bind_of_ok readings.window_read _
  have batch_set : clientOptions.update
      (.valued "--batch-timeout".toList (cString suite.batchTimeout)) =
        .ok fun config => { config with batchTimeout := readings.batchTimeout } :=
    Lib.bind_of_ok readings.batch_read _
  have startup_set : clientOptions.update
      (.valued "--startup-timeout".toList (cString suite.startupTimeout)) =
        .ok fun config => { config with startupTimeout := readings.startupTimeout } :=
    Lib.bind_of_ok readings.startup_read _
  have prefill_set : clientOptions.update
      (.valued "--time-series-prefill".toList (cString run.timeSeriesPrefill)) =
        .ok fun config => { config with timeSeriesPrefill := readings.timeSeriesPrefill } :=
    Lib.bind_of_ok readings.prefill_read _
  have monitoring_set : clientOptions.update
      (.valued "--monitoring-stat".toList (cString suite.monitoringPeriod)) =
        .ok fun config => { config with monitoringStat := readings.monitoringStat } :=
    Lib.bind_of_ok readings.monitoring_read _
  exact (clientOptions.parse_eq_ok_iff rfl).mpr ⟨_, .cons rfl (.cons rfl (.cons role_set
    (.cons delay_set (.cons limit_set (.cons aggregation_set (.cons warmup_set
      (.cons duration_set (.cons window_set (.cons batch_set (.cons startup_set
        (.cons prefill_set (.cons monitoring_set (.cons rfl .nil))))))))))))), rfl⟩

/-- The delayed subscription is read into a configuration that has none. -/
theorem parse_delayed {config : ClientConfig} (fresh : config.timeSeriesSubscribeAfter = none) :
    clientOptions.parse config (((delayedSubscription run.timeSeriesSubscribeAfter).map
      (Written.map cString)).flatMap Written.texts) =
        .ok { config with timeSeriesSubscribeAfter := readings.timeSeriesSubscribeAfter } := by
  have read := readings.after_read
  cases delayed : run.timeSeriesSubscribeAfter with
  | none =>
      rw [delayed] at read
      rw [← Except.ok.inj read, ← fresh]
      rfl
  | some text =>
      rw [delayed] at read
      obtain ⟨after, success, final⟩ := ok_of_map read
      rw [← final]
      have after_set : clientOptions.update
          (.valued "--time-series-subscribe-after".toList (cString text)) =
            .ok fun config => { config with timeSeriesSubscribeAfter := some after } :=
        Lib.bind_of_ok success _
      exact (clientOptions.parse_eq_ok_iff rfl).mpr ⟨_, .cons after_set .nil, rfl⟩

theorem parse_removal {config : ClientConfig}
    (fresh : config.timeSeriesUnsubscribeAfterSnapshot = false) (unsubscribe : Bool) :
    clientOptions.parse config (((removal unsubscribe).map (Written.map cString)).flatMap
      Written.texts) = .ok { config with timeSeriesUnsubscribeAfterSnapshot := unsubscribe } := by
  cases unsubscribe with
  | false =>
      have same : { config with timeSeriesUnsubscribeAfterSnapshot := false } = config := by
        rw [← fresh]
      rw [same]
      rfl
  | true => rfl

/-- What the marker-correlating client reads of its arguments. -/
theorem clientParseArgs_eq :
    clientParseArgs (argv (clientLine suite run output)) = .ok (readings.config output) := by
  have fixed : ((clientFixed suite run output).map (Written.map cString)).all
      clientOptions.knows := rfl
  have delayed : ((delayedSubscription run.timeSeriesSubscribeAfter).map
      (Written.map cString)).all clientOptions.knows := by
    cases run.timeSeriesSubscribeAfter <;> rfl
  rw [argv_eq, clientParseArgs, clientLine, List.map_append, List.map_append,
    List.flatMap_append, List.flatMap_append, List.append_assoc,
    clientOptions.parse_append fixed (readings.parse_clientFixed output),
    clientOptions.parse_append delayed (readings.parse_delayed rfl)]
  exact parse_removal rfl _

end ClientReadings

theorem knows_clientLine (suite : BenchmarkSuite) (run : BenchmarkRun) (output : Text) :
    ((clientLine suite run output).map (Written.map cString)).all clientOptions.knows := by
  unfold clientLine
  cases run.timeSeriesSubscribeAfter with
  | none => cases run.timeSeriesUnsubscribeAfterSnapshot <;> rfl
  | some after => cases run.timeSeriesUnsubscribeAfterSnapshot <;> rfl

/-- A delay that is a duration shorter than another one. -/
def Shorter (delay limit : Text) : Prop :=
  ∃ short long, parseDuration (cString delay) = .ok short ∧
    parseDuration (cString limit) = .ok long ∧ short < long

/-- The durations that every client reads. -/
structure BenchmarkSuite.Timed (suite : BenchmarkSuite) : Prop where
  warmup : Reads parseDuration suite.warmup
  duration : Reads parseDuration suite.duration
  startupTimeout : Reads parseDuration suite.startupTimeout

/-- What both Graal clients read of a run besides. -/
structure GraalReads (suite : BenchmarkSuite) (run : BenchmarkRun) : Prop where
  monitoring : Reads parseMonitoringPeriod suite.monitoringPeriod
  limit : Reads parseEventsBatchLimit run.eventsBatchLimit
  aggregation : Reads readDelay run.aggregationPeriod

/-- What only the marker-correlating client reads. -/
structure MarkerReads (suite : BenchmarkSuite) (run : BenchmarkRun) : Prop where
  listenerDelay : Reads readDelay run.listenerDelay
  window : Reads parseDuration suite.window
  batchTimeout : Reads parseDuration suite.batchTimeout
  prefill : Reads parseDuration run.timeSeriesPrefill
  delayed : ∀ after ∈ run.timeSeriesSubscribeAfter, Reads parseDuration after

/-- The checks of `main` on a configuration whose role and subscriptions the suite parser
has already checked: only the delay is left. -/
theorem admission_iff {config : Config} {pattern : TaskPattern}
    (task : parseTask config.task = .ok pattern)
    (feed : pattern.hasTimeSeries = true → config.role = .feed)
    (series : config.timeSeriesSubscribeAfter.isSome → pattern.hasTimeSeries = true)
    (removed : config.timeSeriesUnsubscribeAfterSnapshot = true →
      config.timeSeriesSubscribeAfter.isSome) :
    (∃ admitted, config.admission = .ok admitted) ↔
      ∀ after ∈ config.timeSeriesSubscribeAfter, after < config.duration := by
  have feedRole : ¬ ((pattern.quantity .timeAndSale).getD 0 ≠ 0 ∧ config.role ≠ .feed) := by
    rintro ⟨present, other⟩
    exact other (feed (decide_eq_true (Nat.pos_of_ne_zero present)))
  have workload : ¬ (config.timeSeriesSubscribeAfter.isSome ∧ ¬ pattern.hasTimeSeries) := by
    rintro ⟨delayed, plain⟩
    exact plain (series delayed)
  have removal : ¬ (config.timeSeriesUnsubscribeAfterSnapshot ∧
      config.timeSeriesSubscribeAfter.isNone) := by
    rintro ⟨unsubscribe, never⟩
    rw [Option.isNone_iff_eq_none.mp never] at removed
    cases removed unsubscribe
  unfold Config.admission
  rw [task]
  dsimp only
  rw [if_neg feedRole, if_neg workload, if_neg removal]
  constructor
  · rintro ⟨admitted, passed⟩ after mem
    split at passed
    · cases passed
    · rename_i shorter
      exact lt_of_not_ge fun longer => shorter ⟨after, mem, longer⟩
  · intro shorter
    refine ⟨pattern, if_neg ?_⟩
    rintro ⟨after, mem, longer⟩
    exact absurd (shorter after mem) (not_lt.mpr longer)

/-- What a run of the marker-correlating client has to satisfy for its `main` to go on, when
its suite has been accepted. -/
structure BenchmarkRun.Checked (run : BenchmarkRun) (pattern : TaskPattern) : Prop where
  role : validRole run.clientRole = true
  task : parseTask run.task = .ok pattern
  feed : pattern.hasTimeSeries = true → run.clientRole = feedRole
  series : run.timeSeriesSubscribeAfter.isSome → pattern.hasTimeSeries = true
  removed : run.timeSeriesUnsubscribeAfterSnapshot = true → run.timeSeriesSubscribeAfter.isSome

/-- A delay that is read is present exactly when the run has one. -/
theorem ClientReadings.isSome_after {suite : BenchmarkSuite} {run : BenchmarkRun}
    (readings : ClientReadings suite run) :
    readings.timeSeriesSubscribeAfter.isSome = run.timeSeriesSubscribeAfter.isSome := by
  have read := readings.after_read
  cases delayed : run.timeSeriesSubscribeAfter with
  | none =>
      rw [delayed] at read
      rw [← Except.ok.inj read]
      rfl
  | some text =>
      rw [delayed] at read
      obtain ⟨after, -, final⟩ := ok_of_map read
      rw [← final]
      rfl

/-- With its values read, the client goes on when the delay is short enough. -/
theorem ClientReadings.admission_iff {suite : BenchmarkSuite} {run : BenchmarkRun}
    (readings : ClientReadings suite run) (output : Text) {pattern : TaskPattern}
    (checked : run.Checked pattern) :
    (∃ admitted, (readings.config output).toConfig.admission = .ok admitted) ↔
      ∀ after ∈ readings.timeSeriesSubscribeAfter, after < readings.duration := by
  have same := readings.isSome_after
  have task : parseTask (readings.config output).toConfig.task = .ok pattern := by
    change parseTask (cString run.task) = .ok pattern
    rw [cString_task checked.task, checked.task]
  refine Runner.admission_iff task ?_ ?_ ?_
  · intro timed
    have read := readings.role_read
    rw [parseRole_of_validRole checked.role, if_pos (checked.feed timed)] at read
    exact (Except.ok.inj read).symm
  · intro delayed
    exact checked.series (same ▸ delayed)
  · intro unsubscribe
    exact same ▸ checked.removed unsubscribe

/-- The readings of the client, from values that it reads one by one. -/
theorem exists_clientReadings {suite : BenchmarkSuite} {run : BenchmarkRun}
    {pattern : TaskPattern} (checked : run.Checked pattern) (timed : suite.Timed)
    (graal : GraalReads suite run) (marker : MarkerReads suite run) :
    Nonempty (ClientReadings suite run) := by
  obtain ⟨⟨warmup, warmup_read⟩, ⟨duration, duration_read⟩, startupTimeout, startup_read⟩ := timed
  obtain ⟨⟨monitoring, monitoring_read⟩, ⟨limit, limit_read⟩, aggregation, aggregation_read⟩ :=
    graal
  obtain ⟨⟨delay, delay_read⟩, ⟨window, window_read⟩, ⟨batch, batch_read⟩, ⟨prefill, prefill_read⟩,
    delayed⟩ := marker
  have after : ∃ after, run.timeSeriesSubscribeAfter.mapM
      (fun after => parseDuration (cString after)) = .ok after := by
    cases present : run.timeSeriesSubscribeAfter with
    | none => exact ⟨none, rfl⟩
    | some text =>
        obtain ⟨after, read⟩ := delayed text present
        exact ⟨some after, congrArg (Except.map some) read⟩
  obtain ⟨after, after_read⟩ := after
  exact ⟨⟨_, parseRole_of_validRole checked.role, delay, delay_read, limit, limit_read, aggregation,
    aggregation_read, warmup, warmup_read, duration, duration_read, window, window_read, batch,
    batch_read, startupTimeout, startup_read, prefill, prefill_read, monitoring, monitoring_read,
    after, after_read⟩⟩

/-- The client accepts its arguments exactly when it reads their values. -/
theorem clientAccepts_iff {suite : BenchmarkSuite} {run : BenchmarkRun} {output : Text}
    {pattern : TaskPattern} (checked : run.Checked pattern) :
    (∃ config, clientParseArgs (argv (clientLine suite run output)) = .ok config) ↔
      suite.Timed ∧ GraalReads suite run ∧ MarkerReads suite run := by
  constructor
  · rw [argv_eq, clientParseArgs, clientOptions.accepts_iff (knows_clientLine suite run output)]
    intro accepted
    refine ⟨⟨?_, ?_, ?_⟩, ⟨?_, ?_, ?_⟩, ⟨?_, ?_, ?_, ?_, ?_⟩⟩
    · exact reads_of_accepts accepted "--warmup".toList rfl (by simp [clientLine, clientFixed])
    · exact reads_of_accepts accepted "--duration".toList rfl (by simp [clientLine, clientFixed])
    · exact reads_of_accepts accepted "--startup-timeout".toList rfl
        (by simp [clientLine, clientFixed])
    · exact reads_of_accepts accepted "--monitoring-stat".toList rfl
        (by simp [clientLine, clientFixed])
    · exact reads_of_accepts accepted "--events-batch-limit".toList rfl
        (by simp [clientLine, clientFixed])
    · exact reads_of_accepts accepted "--aggregation-period".toList
        (clientOption_aggregationPeriod _) (by simp [clientLine, clientFixed])
    · exact reads_of_accepts accepted "--listener-delay".toList (clientOption_listenerDelay _)
        (by simp [clientLine, clientFixed])
    · exact reads_of_accepts accepted "--window".toList rfl (by simp [clientLine, clientFixed])
    · exact reads_of_accepts accepted "--batch-timeout".toList rfl
        (by simp [clientLine, clientFixed])
    · exact reads_of_accepts accepted "--time-series-prefill".toList rfl
        (by simp [clientLine, clientFixed])
    · intro after present
      rw [Option.mem_def] at present
      exact reads_of_accepts accepted "--time-series-subscribe-after".toList rfl
        (by simp [clientLine, delayedSubscription, present])
  · rintro ⟨timed, graal, marker⟩
    obtain ⟨readings⟩ := exists_clientReadings checked timed graal marker
    exact ⟨_, readings.clientParseArgs_eq output⟩

/-- The delay that is read is shorter exactly when its text is. -/
theorem ClientReadings.shorter_iff {suite : BenchmarkSuite} {run : BenchmarkRun}
    (readings : ClientReadings suite run) :
    (∀ after ∈ readings.timeSeriesSubscribeAfter, after < readings.duration) ↔
      ∀ after ∈ run.timeSeriesSubscribeAfter, Shorter after suite.duration := by
  have read := readings.after_read
  cases delayed : run.timeSeriesSubscribeAfter with
  | none =>
      rw [delayed] at read
      rw [← Except.ok.inj read]
      constructor
      · intro _ after mem
        cases mem
      · intro _ after mem
        cases mem
  | some text =>
      rw [delayed] at read
      obtain ⟨after, success, final⟩ := ok_of_map read
      rw [← final]
      constructor
      · rintro shorter text' ⟨⟩
        exact ⟨after, readings.duration, success, readings.duration_read, shorter after rfl⟩
      · rintro shorter after' ⟨⟩
        obtain ⟨short, long, short_read, long_read, less⟩ := shorter text rfl
        cases success.symm.trans short_read
        cases readings.duration_read.symm.trans long_read
        exact less

/-- The marker-correlating client starts when it reads its values and the delay of its
subscription is shorter than the measurement. -/
theorem clientStarts_iff {suite : BenchmarkSuite} {run : BenchmarkRun} {output : Text}
    {pattern : TaskPattern} (checked : run.Checked pattern) :
    (∃ config pattern, clientParseArgs (argv (clientLine suite run output)) = .ok config ∧
      config.toConfig.admission = .ok pattern) ↔
        (suite.Timed ∧ GraalReads suite run ∧ MarkerReads suite run) ∧
          ∀ after ∈ run.timeSeriesSubscribeAfter, Shorter after suite.duration := by
  constructor
  · rintro ⟨config, admitted, parsed, passed⟩
    obtain ⟨timed, graal, marker⟩ := (clientAccepts_iff checked).mp ⟨config, parsed⟩
    obtain ⟨readings⟩ := exists_clientReadings checked timed graal marker
    rw [readings.clientParseArgs_eq output] at parsed
    cases parsed
    exact ⟨⟨timed, graal, marker⟩, readings.shorter_iff.mp
      ((readings.admission_iff output checked).mp ⟨admitted, passed⟩)⟩
  · rintro ⟨⟨timed, graal, marker⟩, shorter⟩
    obtain ⟨readings⟩ := exists_clientReadings checked timed graal marker
    obtain ⟨admitted, passed⟩ :=
      (readings.admission_iff output checked).mpr (readings.shorter_iff.mpr shorter)
    exact ⟨_, admitted, readings.clientParseArgs_eq output, passed⟩

/-! ### Accepted suites -/

/-- What the programs ask of the settings with which a profile is run. -/
structure BenchmarkSuite.Startable (suite : BenchmarkSuite) (profile : BenchmarkSuiteProfile) :
    Prop where
  monitoring : Reads parseMonitoringPeriod suite.monitoringPeriod
  timed : suite.Timed
  limit : profile.clientImplementation.getD graal ≠ legacy →
    Reads parseEventsBatchLimit (profile.eventsBatchLimit.getD suite.eventsBatchLimit)
  aggregation : profile.clientImplementation.getD graal ≠ legacy →
    Reads readDelay (profile.aggregationPeriod.getD suite.aggregationPeriod)
  listenerDelay : profile.clientImplementation.getD graal = graal →
    Reads readDelay suite.listenerDelay
  window : profile.clientImplementation.getD graal = graal → Reads parseDuration suite.window
  batchTimeout : profile.clientImplementation.getD graal = graal →
    Reads parseDuration suite.batchTimeout
  prefill : profile.clientImplementation.getD graal = graal →
    Reads parseDuration (profile.timeSeriesPrefill.getD suite.timeSeriesPrefill)
  shorter : hasTimeSeries profile.task = true →
    ∀ after ∈ profile.timeSeriesSubscribeAfter.or suite.timeSeriesSubscribeAfter,
      Shorter after suite.duration

theorem mem_subscribeAfter {suite : BenchmarkSuite} {profile : BenchmarkSuiteProfile}
    {after : Text} : after ∈ subscribeAfter suite profile ↔ hasTimeSeries profile.task = true ∧
      after ∈ profile.timeSeriesSubscribeAfter.or suite.timeSeriesSubscribeAfter := by
  unfold subscribeAfter
  split
  · rename_i timed
    exact ⟨fun mem => ⟨timed, mem⟩, fun both => both.2⟩
  · rename_i plain
    constructor
    · intro mem
      cases mem
    · intro both
      exact absurd both.1 plain

/-- Without overrides a run is resolved as its profile was checked. -/
theorem checked_resolve {suite : BenchmarkSuite} (wellFormed : suite.WellFormed)
    {profile : BenchmarkSuiteProfile} (mem : profile ∈ suite.profiles) {pattern : TaskPattern}
    (task : parseTask profile.task = .ok pattern) (repetition : Nat) :
    (resolve suite {} repetition profile).Checked pattern := by
  have admits := wellFormed.profiles profile mem
  have series : hasTimeSeries profile.task = pattern.hasTimeSeries := by
    rw [hasTimeSeries, task]
  refine ⟨?_, task, ?_, ?_, ?_⟩
  · change validRole (profile.clientRole.getD suite.clientRole) = true
    cases own : profile.clientRole with
    | none => exact wellFormed.role
    | some role => exact admits.role role own
  · intro timed
    exact admits.feed (series.trans timed)
  · intro delayed
    rw [← series]
    exact hasTimeSeries_of_subscribeAfter delayed
  · intro unsubscribe
    exact (Bool.and_eq_true_iff.mp unsubscribe).2

/-- An accepted profile names one of the three clients. -/
theorem implementation_cases {suite : BenchmarkSuite} {profile : BenchmarkSuiteProfile}
    (admits : suite.Admits profile) :
    profile.clientImplementation.getD graal = graal ∨
      profile.clientImplementation.getD graal = graalDelivery ∨
        profile.clientImplementation.getD graal = legacy := by
  cases own : profile.clientImplementation with
  | none => exact .inl rfl
  | some implementation =>
      have valid := admits.implementation implementation own
      simpa [validClientImplementation, or_assoc] using valid

theorem graal_ne_legacy : graal ≠ legacy := by decide

theorem graalDelivery_ne_legacy : graalDelivery ≠ legacy := by decide

theorem graalDelivery_ne_graal : graalDelivery ≠ graal := by decide

theorem legacy_ne_graal : legacy ≠ graal := by decide

section Clients

variable {suite : BenchmarkSuite} {profile : BenchmarkSuiteProfile}

/-- What is asked of a profile of the marker-correlating client. -/
theorem startable_iff_marker (marker : profile.clientImplementation.getD graal = graal)
    (repetition : Nat) :
    let run := resolve suite {} repetition profile
    suite.Startable profile ↔ Reads parseMonitoringPeriod suite.monitoringPeriod ∧
      (suite.Timed ∧ GraalReads suite run ∧ MarkerReads suite run) ∧
        ∀ after ∈ run.timeSeriesSubscribeAfter, Shorter after suite.duration := by
  intro run
  constructor
  · intro startable
    have other : profile.clientImplementation.getD graal ≠ legacy := by
      rw [marker]
      exact graal_ne_legacy
    have shorter : ∀ after ∈ run.timeSeriesSubscribeAfter, Shorter after suite.duration := by
      intro after delay
      obtain ⟨timed, named⟩ := mem_subscribeAfter.mp delay
      exact startable.shorter timed after named
    refine ⟨startable.monitoring, ⟨startable.timed, ?_, ?_⟩, shorter⟩
    · exact ⟨startable.monitoring, startable.limit other, startable.aggregation other⟩
    · refine ⟨startable.listenerDelay marker, startable.window marker,
        startable.batchTimeout marker, startable.prefill marker, ?_⟩
      intro after delay
      obtain ⟨short, -, read, -⟩ := shorter after delay
      exact ⟨short, read⟩
  · rintro ⟨monitoring, ⟨timed, both, own⟩, shorter⟩
    refine ⟨monitoring, timed, fun _ => both.limit, fun _ => both.aggregation,
      fun _ => own.listenerDelay, fun _ => own.window, fun _ => own.batchTimeout,
      fun _ => own.prefill, ?_⟩
    intro timed after delay
    exact shorter after (mem_subscribeAfter.mpr ⟨timed, delay⟩)

/-- The settings that only the marker-correlating client reads are not asked of a profile
of another one, which has no time series. -/
theorem startable_iff_unmarked (admits : suite.Admits profile)
    (unmarked : profile.clientImplementation.getD graal ≠ graal) :
    suite.Startable profile ↔ Reads parseMonitoringPeriod suite.monitoringPeriod ∧
      suite.Timed ∧ (profile.clientImplementation.getD graal ≠ legacy →
        Reads parseEventsBatchLimit (profile.eventsBatchLimit.getD suite.eventsBatchLimit) ∧
          Reads readDelay (profile.aggregationPeriod.getD suite.aggregationPeriod)) := by
  constructor
  · intro startable
    exact ⟨startable.monitoring, startable.timed,
      fun other => ⟨startable.limit other, startable.aggregation other⟩⟩
  · rintro ⟨monitoring, timed, both⟩
    refine ⟨monitoring, timed, fun other => (both other).1, fun other => (both other).2,
      fun marker => absurd marker unmarked, fun marker => absurd marker unmarked,
      fun marker => absurd marker unmarked, fun marker => absurd marker unmarked, ?_⟩
    intro timed
    exact absurd (admits.graal timed) unmarked

end Clients

/-- A history limit of an accepted suite is positive. -/
theorem positiveSize_resolve {suite : BenchmarkSuite} (wellFormed : suite.WellFormed)
    {profile : BenchmarkSuiteProfile} (mem : profile ∈ suite.profiles) (repetition : Nat) :
    PositiveSize (resolve suite {} repetition profile).timeSeriesHistoryLimit := by
  change PositiveSize (profile.timeSeriesHistoryLimit.getD suite.timeSeriesHistoryLimit)
  cases own : profile.timeSeriesHistoryLimit with
  | none => exact wellFormed.history
  | some limit => exact wellFormed.limits profile mem limit own

/-- The client of a profile of an accepted suite starts, with its monitoring period read,
exactly when the programs accept the settings of the profile. -/
theorem clientStarts_resolve_iff {suite : BenchmarkSuite} (wellFormed : suite.WellFormed)
    {profile : BenchmarkSuiteProfile} (mem : profile ∈ suite.profiles) (repetition : Nat)
    (output : Text) :
    Reads parseMonitoringPeriod suite.monitoringPeriod ∧
        ClientStarts suite (resolve suite {} repetition profile) output ↔
      suite.Startable profile := by
  have admits := wellFormed.profiles profile mem
  obtain ⟨pattern, task⟩ := admits.task
  have checked := checked_resolve wellFormed mem task repetition
  have selected : (resolve suite {} repetition profile).clientImplementation =
      profile.clientImplementation.getD graal := rfl
  unfold ClientStarts
  rw [selected]
  rcases implementation_cases admits with marker | minimal | plain
  · rw [marker, if_neg graal_ne_legacy, if_neg graalDelivery_ne_graal.symm,
      clientStarts_iff checked]
    exact (startable_iff_marker marker repetition).symm
  · have unmarked : profile.clientImplementation.getD graal ≠ graal := by
      rw [minimal]
      exact graalDelivery_ne_graal
    have regular : pattern.hasTimeSeries = false := by
      rw [Bool.eq_false_iff]
      intro timed
      refine unmarked (admits.graal ?_)
      rw [hasTimeSeries, task]
      exact timed
    rw [startable_iff_unmarked admits unmarked, minimal, if_neg graalDelivery_ne_legacy,
      if_pos rfl, deliveryStarts_iff checked.role checked.task regular]
    constructor
    · rintro ⟨monitoring, ⟨warmup, duration, startup⟩, -, limit, aggregation⟩
      exact ⟨monitoring, ⟨warmup, duration, startup⟩, fun _ => ⟨limit, aggregation⟩⟩
    · rintro ⟨monitoring, ⟨warmup, duration, startup⟩, both⟩
      exact ⟨monitoring, ⟨warmup, duration, startup⟩, monitoring,
        both graalDelivery_ne_legacy⟩
  · have unmarked : profile.clientImplementation.getD graal ≠ graal := by
      rw [plain]
      exact legacy_ne_graal
    rw [startable_iff_unmarked admits unmarked, plain, if_pos rfl,
      legacyStarts_iff checked.task]
    constructor
    · rintro ⟨monitoring, warmup, duration, startup⟩
      exact ⟨monitoring, ⟨warmup, duration, startup⟩, fun other => absurd rfl other⟩
    · rintro ⟨monitoring, ⟨warmup, duration, startup⟩, -⟩
      exact ⟨monitoring, warmup, duration, startup⟩

/-- A profile of an accepted suite is started exactly when the programs accept its
settings. -/
theorem launches_resolve_iff {suite : BenchmarkSuite} (wellFormed : suite.WellFormed)
    {profile : BenchmarkSuiteProfile} (mem : profile ∈ suite.profiles) (repetition : Nat)
    (output : Text) :
    Launches suite (resolve suite {} repetition profile) output ↔ suite.Startable profile := by
  obtain ⟨pattern, task⟩ := (wellFormed.profiles profile mem).task
  have checked := checked_resolve wellFormed mem task repetition
  unfold Launches
  rw [serverStarts_iff (positiveSize_resolve wellFormed mem repetition) wellFormed.active
    checked.task]
  exact clientStarts_resolve_iff wellFormed mem repetition output

/-- Every run of the plan of an accepted suite is started, wherever its files lie, exactly
when the programs accept the settings of every profile. -/
theorem launchable_iff {text : Text} {suite : BenchmarkSuite}
    (accepted : parseBenchmarkSuite text = .ok suite) (output : BenchmarkRun → Text) :
    (∀ run ∈ buildBenchmarkPlan suite {}, Launches suite run (output run)) ↔
      ∀ profile ∈ suite.profiles, suite.Startable profile := by
  have wellFormed := parseBenchmarkSuite_wellFormed accepted
  apply forall_mem_plan wellFormed
  intro profile mem repetition
  exact launches_resolve_iff wellFormed mem repetition _

/-- A suite text with a delayed time series, measured for two seconds. -/
def delayedText (delay : Text) : Text :=
  suiteText ["TIME_SERIES_SUBSCRIBE_AFTER=".toList ++ delay, "PROFILE=n|SUB:Q1;N1".toList]

def delayedProfile : BenchmarkSuiteProfile where
  name := "n".toList
  task := "SUB:Q1;N1".toList
  clientRole := none
  eventsBatchLimit := none
  aggregationPeriod := none
  clientImplementation := none
  timeSeriesPrefill := none
  timeSeriesHistoryLimit := none
  timeSeriesSubscribeAfter := none

def delayedSuite (delay : Text) : BenchmarkSuite where
  repetitions := 1
  warmup := "1s".toList
  duration := "2s".toList
  window := "1s".toList
  batchTimeout := "3s".toList
  startupTimeout := "4s".toList
  monitoringPeriod := "1s".toList
  timeSeriesSubscribeAfter := some delay
  clientRole := feedRole
  address := "a:1".toList
  listenAddress := ":1".toList
  profiles := [delayedProfile]

/-- With a delay of one second both programs start. -/
theorem launchable_iff_delayed :
    ∃ suite, parseBenchmarkSuite (delayedText "1s".toList) = .ok suite ∧
      ∀ run ∈ buildBenchmarkPlan suite {}, Launches suite run run.filePrefix := by
  have accepted : parseBenchmarkSuite (delayedText "1s".toList) =
      .ok (delayedSuite "1s".toList) := by decide +kernel
  refine ⟨_, accepted, (launchable_iff accepted BenchmarkRun.filePrefix).mpr ?_⟩
  intro profile mem
  rw [List.mem_singleton.mp mem]
  refine ⟨⟨some 1000, by decide⟩, ⟨⟨1000, by decide⟩, ⟨2000, by decide⟩, ⟨4000, by decide⟩⟩,
    fun _ => ⟨.optimal, by decide⟩, fun _ => ⟨0, by decide⟩, fun _ => ⟨0, by decide⟩,
    fun _ => ⟨1000, by decide⟩, fun _ => ⟨3000, by decide⟩, fun _ => ⟨2000, by decide⟩, ?_⟩
  rintro - after ⟨⟩
  exact ⟨1000, 2000, by decide, by decide, by decide⟩

/-- A delay of five seconds is accepted for a measurement of two, and refused by the
client. -/
theorem long_delay_not_launched :
    ∃ suite, parseBenchmarkSuite (delayedText "5s".toList) = .ok suite ∧
      ¬ ∀ run ∈ buildBenchmarkPlan suite {}, Launches suite run run.filePrefix := by
  have accepted : parseBenchmarkSuite (delayedText "5s".toList) =
      .ok (delayedSuite "5s".toList) := by decide +kernel
  refine ⟨_, accepted, ?_⟩
  intro all
  have wellFormed := parseBenchmarkSuite_wellFormed accepted
  have mem : delayedProfile ∈ (delayedSuite "5s".toList).profiles := List.mem_cons_self
  have planned := all _ (mem_buildBenchmarkPlan.mpr ⟨1, le_rfl, le_rfl, delayedProfile, mem, rfl⟩)
  have startable := (launches_resolve_iff wellFormed mem 1 _).mp planned
  obtain ⟨short, long, short_read, long_read, less⟩ :=
    startable.shorter (by decide +kernel) "5s".toList rfl
  have five : parseDuration (cString "5s".toList) = .ok 5000 := by decide
  have two : parseDuration (cString (delayedSuite "5s".toList).duration) = .ok 2000 := by decide
  cases five.symm.trans short_read
  cases two.symm.trans long_read
  exact absurd less (by decide)

end LatencyTest.Runner
