import LatencyTest.Runner.Plan
import LatencyTest.Runner.Programs
import LatencyTest.Core.Grammar

/-!
What `runBenchmarkSuite` starts for one run: the argument vectors of the server and of
the selected client, and what the server and the two delivery clients make of theirs.
Every lemma reduces a start to the values that the parser of the suite leaves unchecked.
-/

namespace LatencyTest.Runner

open Lib (digits fromCharsNat Options)
open Lib.Options (Written)

/-! ### Argument vectors -/

/-- A string as a program finds it in `argv`: it ends at its first NUL character. -/
def cString (text : Text) : Text := text.takeWhile (· ≠ '\x00')

/-- The arguments that a program finds. -/
def argv (line : List Written) : List Text := (line.flatMap Written.texts).map cString

def activeSymbols : Option Nat → List Written
  | none => []
  | some count => [.valued "--active-symbols".toList (digits count)]

/-- Clients without a control channel have the server start the task. -/
def configuredTask (run : BenchmarkRun) : List Written :=
  if run.clientImplementation ≠ graal then [.valued "--task".toList run.task] else []

def serverLine (suite : BenchmarkSuite) (run : BenchmarkRun) : List Written :=
  [.valued "--address".toList suite.listenAddress,
    .valued "--monitoring-stat".toList suite.monitoringPeriod,
    .valued "--time-series-history".toList (digits run.timeSeriesHistoryLimit)] ++
  activeSymbols suite.activeSymbolCount ++ configuredTask run

def legacyLine (suite : BenchmarkSuite) (run : BenchmarkRun) (output : Text) : List Written :=
  [.valued "--address".toList suite.address,
    .valued "--task".toList run.task,
    .valued "--warmup".toList suite.warmup,
    .valued "--duration".toList suite.duration,
    .valued "--startup-timeout".toList suite.startupTimeout,
    .valued "--output".toList output,
    .valued "--contract".toList "default".toList,
    .flag "--require-events".toList]

def deliveryLine (suite : BenchmarkSuite) (run : BenchmarkRun) (output : Text) : List Written :=
  [.valued "--address".toList suite.address,
    .valued "--task".toList run.task,
    .valued "--role".toList run.clientRole,
    .valued "--events-batch-limit".toList run.eventsBatchLimit,
    .valued "--aggregation-period".toList run.aggregationPeriod,
    .valued "--monitoring-stat".toList suite.monitoringPeriod,
    .valued "--warmup".toList suite.warmup,
    .valued "--duration".toList suite.duration,
    .valued "--startup-timeout".toList suite.startupTimeout,
    .valued "--output".toList output,
    .flag "--require-events".toList]

def delayedSubscription : Option Text → List Written
  | none => []
  | some after => [.valued "--time-series-subscribe-after".toList after]

def removal (unsubscribe : Bool) : List Written :=
  if unsubscribe then [.flag "--time-series-unsubscribe-after-snapshot".toList] else []

/-- The options that every run of the marker-correlating client has. -/
def clientFixed (suite : BenchmarkSuite) (run : BenchmarkRun) (output : Text) : List Written :=
  [.valued "--address".toList suite.address,
    .valued "--task".toList run.task,
    .valued "--role".toList run.clientRole,
    .valued "--listener-delay".toList run.listenerDelay,
    .valued "--events-batch-limit".toList run.eventsBatchLimit,
    .valued "--aggregation-period".toList run.aggregationPeriod,
    .valued "--warmup".toList suite.warmup,
    .valued "--duration".toList suite.duration,
    .valued "--window".toList suite.window,
    .valued "--batch-timeout".toList suite.batchTimeout,
    .valued "--startup-timeout".toList suite.startupTimeout,
    .valued "--time-series-prefill".toList run.timeSeriesPrefill,
    .valued "--monitoring-stat".toList suite.monitoringPeriod,
    .valued "--output".toList output]

def clientLine (suite : BenchmarkSuite) (run : BenchmarkRun) (output : Text) : List Written :=
  clientFixed suite run output ++ delayedSubscription run.timeSeriesSubscribeAfter ++
    removal run.timeSeriesUnsubscribeAfterSnapshot

/-- The selected client accepts its arguments, and its `main` goes on. -/
def ClientStarts (suite : BenchmarkSuite) (run : BenchmarkRun) (output : Text) : Prop :=
  if run.clientImplementation = legacy then
    ∃ config pattern, legacyParseArgs (argv (legacyLine suite run output)) = .ok config ∧
      config.admission = .ok pattern
  else if run.clientImplementation = graalDelivery then
    ∃ config pattern, deliveryParseArgs (argv (deliveryLine suite run output)) = .ok config ∧
      config.admission = .ok pattern
  else
    ∃ config pattern, clientParseArgs (argv (clientLine suite run output)) = .ok config ∧
      config.toConfig.admission = .ok pattern

/-- The server and the client of a run start, with the run's files at `output`. -/
def Launches (suite : BenchmarkSuite) (run : BenchmarkRun) (output : Text) : Prop :=
  (∃ config, serverParseArgs (argv (serverLine suite run)) = .ok config) ∧
    ClientStarts suite run output

/-! ### Values that the programs read -/

/-- A value that a program reads. -/
def Reads {α : Type} (read : Text → Except Text α) (text : Text) : Prop :=
  ∃ value, read (cString text) = .ok value

theorem cString_eq_self {text : Text} (plain : '\x00' ∉ text) : cString text = text := by
  rw [cString, List.takeWhile_eq_self_iff]
  intro c mem
  rw [decide_eq_true_eq]
  rintro rfl
  exact plain mem

theorem cString_digits (n : Nat) : cString (digits n) = digits n :=
  cString_eq_self fun mem => absurd (Lib.isDigit_of_mem_digits mem) (by decide)

/-- An accepted task has no NUL character. -/
theorem cString_task {text : Text} {pattern : TaskPattern} (parsed : parseTask text = .ok pattern) :
    cString text = text := by
  obtain ⟨t, -, rfl, -⟩ := parseTask_sound parsed
  have numeral : ∀ n : Option Lib.Numeral, ∀ content ∈ n.map Lib.Numeral.digits,
      '\x00' ∉ content := by
    intro n content mem
    obtain ⟨number, -, rfl⟩ := Option.map_eq_some_iff.mp mem
    exact number.notMem_digits (by decide)
  have duration : ∀ content ∈ t.period.map DurationText.text, '\x00' ∉ content := by
    intro content mem
    obtain ⟨d, -, rfl⟩ := Option.map_eq_some_iff.mp mem
    exact d.notMem_text (by decide) (by decide)
  have items : '\x00' ∉ itemsText t.first t.more := by
    refine notMem_itemsText (by decide) ?_ (by decide)
    intro kind
    cases kind <;> decide
  apply cString_eq_self
  simp only [TaskText.text, Parts.text, TaskText.parts, List.mem_append, not_or]
  exact ⟨by decide, items, notMem_part (by decide) duration,
    notMem_part (by decide) (numeral t.symbols), notMem_part (by decide) (numeral t.regional),
    notMem_part (by decide) (numeral t.seed)⟩

/-- A positive size is read back from its digits. -/
theorem parsePositive_digits {size : Nat} (positive : PositiveSize size) (message : Text) :
    parsePositive (digits size) message = .ok size := by
  have bound : size ≤ sizeLimit - 1 := Nat.le_pred_of_lt positive.2
  have scan : fromCharsNat (sizeLimit - 1) (digits size ++ []) = .ok size [] :=
    Lib.fromCharsNat_digits bound (by simp)
  rw [List.append_nil] at scan
  rw [parsePositive, Lib.FromChars.whole_eq_some.mpr scan]
  dsimp only
  rw [if_neg positive.1.ne']

theorem parseRole_of_validRole {role : Text} (valid : validRole role = true) :
    parseRole (cString role) = .ok (if role = feedRole then .feed else .streamFeed) := by
  rcases Bool.or_eq_true_iff.mp valid with feed | streamFeed
  · rw [beq_iff_eq.mp feed]
    decide
  · rw [beq_iff_eq.mp streamFeed]
    decide

/-- A value of an accepted line has been read by its option. -/
theorem reads_of_accepts {κ α : Type} {options : Options κ} {line : List Written}
    (accepted : ∀ written ∈ line.map (Written.map cString), options.Accepts written)
    (name : Text) {value : Text} {read : Text → Except Text α}
    {set : α → Except Text (κ → κ)}
    (reader : options.read (cString name) (cString value) = read (cString value) >>= set)
    (mem : .valued name value ∈ line) : Reads read value := by
  obtain ⟨change, done⟩ := accepted _ (List.mem_map_of_mem mem)
  obtain ⟨result, success, -⟩ := ok_of_bind (reader.symm.trans done)
  exact ⟨result, success⟩

/-! ### The server -/

theorem argv_eq (line : List Written) :
    argv line = (line.map (Written.map cString)).flatMap Written.texts :=
  Lib.Options.map_texts cString line

theorem knows_serverLine (suite : BenchmarkSuite) (run : BenchmarkRun) :
    ((serverLine suite run).map (Written.map cString)).all serverOptions.knows := by
  unfold serverLine configuredTask
  cases suite.activeSymbolCount with
  | none => split <;> rfl
  | some count => split <;> rfl

theorem accepts_activeSymbols {count : Option Nat} (active : ∀ n ∈ count, PositiveSize n) :
    ∀ written ∈ (activeSymbols count).map (Written.map cString), serverOptions.Accepts written := by
  cases count with
  | none =>
      intro written mem
      cases mem
  | some n =>
      intro written mem
      rw [List.mem_singleton.mp mem]
      refine (Lib.exists_bind_iff fun _ => ⟨_, rfl⟩).mpr ⟨n, ?_⟩
      rw [cString_digits]
      exact parsePositive_digits (active n rfl) _

theorem accepts_configuredTask {run : BenchmarkRun} {pattern : TaskPattern}
    (task : parseTask run.task = .ok pattern) :
    ∀ written ∈ (configuredTask run).map (Written.map cString),
      serverOptions.Accepts written := by
  have accepted : serverOptions.Accepts
      (.valued (cString "--task".toList) (cString run.task)) := by
    refine ⟨fun config => { config with task := some run.task }, ?_⟩
    rw [cString_task task]
    exact serverOption_task task
  intro written mem
  unfold configuredTask at mem
  split at mem
  · rw [List.mem_singleton.mp mem]
    exact accepted
  · cases mem

/-- Of the server's arguments only the monitoring period is not checked by the parser of
the suite. -/
theorem serverStarts_iff {suite : BenchmarkSuite} {run : BenchmarkRun} {pattern : TaskPattern}
    (history : PositiveSize run.timeSeriesHistoryLimit)
    (active : ∀ count ∈ suite.activeSymbolCount, PositiveSize count)
    (task : parseTask run.task = .ok pattern) :
    (∃ config, serverParseArgs (argv (serverLine suite run)) = .ok config) ↔
      Reads parseMonitoringPeriod suite.monitoringPeriod := by
  have address : serverOptions.Accepts
      (.valued (cString "--address".toList) (cString suite.listenAddress)) := ⟨_, rfl⟩
  have monitoring : serverOptions.Accepts
      (.valued (cString "--monitoring-stat".toList) (cString suite.monitoringPeriod)) ↔
        Reads parseMonitoringPeriod suite.monitoringPeriod :=
    Lib.exists_bind_iff fun _ => ⟨_, rfl⟩
  have limit : serverOptions.Accepts (.valued (cString "--time-series-history".toList)
      (cString (digits run.timeSeriesHistoryLimit))) := by
    refine (Lib.exists_bind_iff fun _ => ⟨_, rfl⟩).mpr ⟨run.timeSeriesHistoryLimit, ?_⟩
    rw [cString_digits]
    exact parsePositive_digits history _
  rw [argv_eq, serverParseArgs, serverOptions.accepts_iff (knows_serverLine suite run), serverLine,
    List.map_append, List.map_append, List.forall_mem_append, List.forall_mem_append]
  constructor
  · rintro ⟨⟨fixed, -⟩, -⟩
    exact monitoring.mp (fixed _ (List.mem_cons_of_mem _ List.mem_cons_self))
  · intro read
    refine ⟨⟨?_, accepts_activeSymbols active⟩, accepts_configuredTask task⟩
    intro written mem
    rcases List.mem_cons.mp mem with rfl | mem
    · exact address
    · rcases List.mem_cons.mp mem with rfl | mem
      · exact monitoring.mpr read
      · rw [List.mem_singleton.mp mem]
        exact limit

/-! ### The delivery clients -/

/-- What the legacy client reads of its arguments. -/
theorem legacyParseArgs_eq {suite : BenchmarkSuite} {run : BenchmarkRun} {output : Text}
    {warmup duration startupTimeout : Int}
    (warmup_read : parseDuration (cString suite.warmup) = .ok warmup)
    (duration_read : parseDuration (cString suite.duration) = .ok duration)
    (startup_read : parseDuration (cString suite.startupTimeout) = .ok startupTimeout) :
    legacyParseArgs (argv (legacyLine suite run output)) = .ok {
      address := cString suite.address
      task := cString run.task
      warmup := warmup
      duration := duration
      startupTimeout := startupTimeout
      output := cString output
      contract := .default
      requireEvents := true } := by
  rw [argv_eq, legacyParseArgs]
  have warmup_set : legacyOptions.update (.valued "--warmup".toList (cString suite.warmup)) =
      .ok fun config => { config with warmup := warmup } := Lib.bind_of_ok warmup_read _
  have duration_set : legacyOptions.update (.valued "--duration".toList (cString suite.duration)) =
      .ok fun config => { config with duration := duration } := Lib.bind_of_ok duration_read _
  have startup_set : legacyOptions.update
      (.valued "--startup-timeout".toList (cString suite.startupTimeout)) =
        .ok fun config => { config with startupTimeout := startupTimeout } :=
    Lib.bind_of_ok startup_read _
  exact (legacyOptions.parse_eq_ok_iff rfl).mpr ⟨_, .cons rfl (.cons rfl (.cons warmup_set
    (.cons duration_set (.cons startup_set (.cons rfl (.cons rfl (.cons rfl .nil))))))), rfl⟩

/-- The legacy client reads three durations. -/
theorem legacyStarts_iff {suite : BenchmarkSuite} {run : BenchmarkRun} {output : Text}
    {pattern : TaskPattern} (task : parseTask run.task = .ok pattern) :
    (∃ config pattern, legacyParseArgs (argv (legacyLine suite run output)) = .ok config ∧
      config.admission = .ok pattern) ↔
        Reads parseDuration suite.warmup ∧ Reads parseDuration suite.duration ∧
          Reads parseDuration suite.startupTimeout := by
  constructor
  · rintro ⟨config, admitted, parsed, -⟩
    rw [argv_eq, legacyParseArgs] at parsed
    have accepted := (legacyOptions.accepts_iff rfl {}).mp ⟨config, parsed⟩
    exact ⟨reads_of_accepts accepted "--warmup".toList rfl (by simp [legacyLine]),
      reads_of_accepts accepted "--duration".toList rfl (by simp [legacyLine]),
      reads_of_accepts accepted "--startup-timeout".toList rfl (by simp [legacyLine])⟩
  · rintro ⟨⟨warmup, warmup_read⟩, ⟨duration, duration_read⟩, startupTimeout, startup_read⟩
    refine ⟨_, pattern, legacyParseArgs_eq warmup_read duration_read startup_read, ?_⟩
    rw [LegacyConfig.admission]
    dsimp only
    rw [cString_task task, task]

/-- What the minimal Graal client reads of its arguments. -/
theorem deliveryParseArgs_eq {suite : BenchmarkSuite} {run : BenchmarkRun} {output : Text}
    {role : ClientRole} {limit : BatchLimit} {aggregation warmup duration startupTimeout : Int}
    {monitoring : Option Int} (role_read : parseRole (cString run.clientRole) = .ok role)
    (limit_read : parseEventsBatchLimit (cString run.eventsBatchLimit) = .ok limit)
    (aggregation_read : readDelay (cString run.aggregationPeriod) = .ok aggregation)
    (monitoring_read : parseMonitoringPeriod (cString suite.monitoringPeriod) = .ok monitoring)
    (warmup_read : parseDuration (cString suite.warmup) = .ok warmup)
    (duration_read : parseDuration (cString suite.duration) = .ok duration)
    (startup_read : parseDuration (cString suite.startupTimeout) = .ok startupTimeout) :
    deliveryParseArgs (argv (deliveryLine suite run output)) = .ok {
      address := cString suite.address
      task := cString run.task
      warmup := warmup
      duration := duration
      startupTimeout := startupTimeout
      monitoringStat := monitoring
      output := cString output
      role := role
      eventsBatchLimit := limit
      aggregationPeriod := aggregation
      requireEvents := true } := by
  rw [argv_eq, deliveryParseArgs]
  have role_set : deliveryOptions.update (.valued "--role".toList (cString run.clientRole)) =
      .ok fun config => { config with role := role } := Lib.bind_of_ok role_read _
  have limit_set : deliveryOptions.update
      (.valued "--events-batch-limit".toList (cString run.eventsBatchLimit)) =
        .ok fun config => { config with eventsBatchLimit := limit } :=
    Lib.bind_of_ok limit_read _
  have aggregation_set : deliveryOptions.update
      (.valued "--aggregation-period".toList (cString run.aggregationPeriod)) =
        .ok fun config => { config with aggregationPeriod := aggregation } :=
    (deliveryOption_aggregationPeriod _).trans (Lib.bind_of_ok aggregation_read _)
  have monitoring_set : deliveryOptions.update
      (.valued "--monitoring-stat".toList (cString suite.monitoringPeriod)) =
        .ok fun config => { config with monitoringStat := monitoring } :=
    Lib.bind_of_ok monitoring_read _
  have warmup_set : deliveryOptions.update (.valued "--warmup".toList (cString suite.warmup)) =
      .ok fun config => { config with warmup := warmup } := Lib.bind_of_ok warmup_read _
  have duration_set : deliveryOptions.update
      (.valued "--duration".toList (cString suite.duration)) =
        .ok fun config => { config with duration := duration } := Lib.bind_of_ok duration_read _
  have startup_set : deliveryOptions.update
      (.valued "--startup-timeout".toList (cString suite.startupTimeout)) =
        .ok fun config => { config with startupTimeout := startupTimeout } :=
    Lib.bind_of_ok startup_read _
  exact (deliveryOptions.parse_eq_ok_iff rfl).mpr ⟨_, .cons rfl (.cons rfl (.cons role_set
    (.cons limit_set (.cons aggregation_set (.cons monitoring_set (.cons warmup_set
      (.cons duration_set (.cons startup_set (.cons rfl (.cons rfl .nil)))))))))), rfl⟩

/-- What the minimal Graal client reads besides what the suite parser has checked. -/
theorem deliveryStarts_iff {suite : BenchmarkSuite} {run : BenchmarkRun} {output : Text}
    {pattern : TaskPattern} (role : validRole run.clientRole = true)
    (task : parseTask run.task = .ok pattern) (regular : pattern.hasTimeSeries = false) :
    (∃ config pattern, deliveryParseArgs (argv (deliveryLine suite run output)) = .ok config ∧
      config.admission = .ok pattern) ↔
        (Reads parseDuration suite.warmup ∧ Reads parseDuration suite.duration ∧
          Reads parseDuration suite.startupTimeout) ∧
        Reads parseMonitoringPeriod suite.monitoringPeriod ∧
        Reads parseEventsBatchLimit run.eventsBatchLimit ∧
        Reads readDelay run.aggregationPeriod := by
  constructor
  · rintro ⟨config, admitted, parsed, -⟩
    rw [argv_eq, deliveryParseArgs] at parsed
    have accepted := (deliveryOptions.accepts_iff rfl {}).mp ⟨config, parsed⟩
    exact ⟨⟨reads_of_accepts accepted "--warmup".toList rfl (by simp [deliveryLine]),
      reads_of_accepts accepted "--duration".toList rfl (by simp [deliveryLine]),
      reads_of_accepts accepted "--startup-timeout".toList rfl (by simp [deliveryLine])⟩,
      reads_of_accepts accepted "--monitoring-stat".toList rfl (by simp [deliveryLine]),
      reads_of_accepts accepted "--events-batch-limit".toList rfl (by simp [deliveryLine]),
      reads_of_accepts accepted "--aggregation-period".toList
        (deliveryOption_aggregationPeriod _) (by simp [deliveryLine])⟩
  · rintro ⟨⟨⟨warmup, warmup_read⟩, ⟨duration, duration_read⟩, startupTimeout, startup_read⟩,
      ⟨monitoring, monitoring_read⟩, ⟨limit, limit_read⟩, aggregation, aggregation_read⟩
    refine ⟨_, pattern, deliveryParseArgs_eq (parseRole_of_validRole role) limit_read
      aggregation_read monitoring_read warmup_read duration_read startup_read, ?_⟩
    rw [DeliveryConfig.admission]
    dsimp only
    rw [cString_task task, task]
    dsimp only
    rw [regular]
    rfl

end LatencyTest.Runner
