import LatencyTest.Client.Session
import LatencyTest.Report.Csv
import LatencyTest.Lib.Run

/-!
Suite configurations (`include/latency/runner.hpp`, `src/runner.cpp`): the lines of
the text, its settings, and the checks of `parseBenchmarkSuite` in source order, with
the messages of the source. What every accepted suite satisfies is
`BenchmarkSuite.WellFormed`.
-/

namespace LatencyTest.Runner

open Lib (digits fromCharsNat fromCharsNat_le)

/-- The purpose and the boundaries of an experiment. `variableText` is the source's
`variable`. -/
structure BenchmarkExperiment where
  title : Text := []
  objective : Text := []
  variableText : Text := []
  controls : Text := []
  successCriteria : Text := []
  limitations : Text := []
deriving DecidableEq, Repr

/-- One workload profile of a suite. -/
structure BenchmarkSuiteProfile where
  name : Text
  task : Text
  clientRole : Option Text
  eventsBatchLimit : Option Text
  aggregationPeriod : Option Text
  clientImplementation : Option Text
  timeSeriesPrefill : Option Text
  timeSeriesHistoryLimit : Option Nat
  timeSeriesSubscribeAfter : Option Text
deriving DecidableEq, Repr

/-- The settings and the profiles of a suite. -/
structure BenchmarkSuite where
  experiment : BenchmarkExperiment := {}
  repetitions : Nat := 0
  warmup : Text := []
  duration : Text := []
  window : Text := []
  batchTimeout : Text := []
  startupTimeout : Text := []
  monitoringPeriod : Text := []
  timeSeriesPrefill : Text := "2s".toList
  timeSeriesHistoryLimit : Nat := 1000
  activeSymbolCount : Option Nat := none
  timeSeriesSubscribeAfter : Option Text := none
  timeSeriesUnsubscribeAfterSnapshot : Bool := false
  clientRole : Text := []
  listenerDelay : Text := "0".toList
  eventsBatchLimit : Text := "optimal".toList
  aggregationPeriod : Text := "0".toList
  cooldownSeconds : Nat := 0
  address : Text := []
  listenAddress : Text := []
  profiles : List BenchmarkSuiteProfile := []
deriving DecidableEq, Repr

/-! ### Fields -/

/-- `std::isspace` in the classic locale. -/
def isSpace (c : Char) : Bool :=
  c == ' ' || c == '\t' || c == '\n' || c == '\x0b' || c == '\x0c' || c == '\r'

/-- Removes leading and trailing whitespace. -/
def trim (value : Text) : Text :=
  ((value.dropWhile isSpace).reverse.dropWhile isSpace).reverse

/-- The loop of `split`, with the characters of the current field so far. -/
def splitFrom (separator : Char) (field : Text) : Text → List Text
  | [] => [field]
  | c :: rest =>
      if c = separator then field :: splitFrom separator [] rest
      else splitFrom separator (field ++ [c]) rest

/-- Splits a text while preserving empty fields. -/
def split (value : Text) (separator : Char) : List Text := splitFrom separator [] value

/-- Parses a decimal size setting. -/
def parseSize (value name : Text) (allowZero : Bool) : Except Text Nat :=
  match (fromCharsNat (sizeLimit - 1) value).whole with
  | none =>
      .error (name ++ " must be ".toList ++
        (if allowZero then "a non-negative ".toList else "a positive ".toList) ++
          "integer".toList)
  | some result =>
      if !allowZero && result == 0 then .error (name ++ " must be a positive integer".toList)
      else .ok result

/-- Parses a Boolean setting. -/
def parseBoolean (value name : Text) : Except Text Bool :=
  if value = "true".toList then .ok true
  else if value = "false".toList then .ok false
  else .error (name ++ " must be true or false".toList)

def feedRole : Text := "feed".toList

def streamFeedRole : Text := "stream-feed".toList

def validRole (role : Text) : Bool := role == feedRole || role == streamFeedRole

def graal : Text := "graal".toList

def graalDelivery : Text := "graal-delivery".toList

def legacy : Text := "legacy".toList

def validClientImplementation (implementation : Text) : Bool :=
  implementation == graal || implementation == graalDelivery || implementation == legacy

/-! ### Lines -/

/-- The `std::map` of the settings: keys with their values, in key order. -/
abbrev Settings := List (Text × Text)

/-- `settings[key] = value`. -/
def Settings.assign (key value : Text) : Settings → Settings
  | [] => [(key, value)]
  | (other, old) :: settings =>
      if key < other then (key, value) :: (other, old) :: settings
      else if key = other then (key, value) :: settings
      else (other, old) :: Settings.assign key value settings

/-- An optional field of a `PROFILE` line: absent when it is missing or empty. -/
def optionalField (parts : List Text) (index : Nat) : Option Text :=
  parts[index]?.filter fun field => field ≠ []

/-- The profile's own limit, when it has one. -/
def readHistoryLimit (name : Text) : Option Text → Except Text (Option Nat)
  | none => .ok none
  | some field => do
      let limit ← parseSize field ("Time-series history for profile ".toList ++ name) false
      return some limit

/-- A `PROFILE` line: nine fields at most, the first two not empty. -/
def readProfile (rawLine value : Text) : Except Text BenchmarkSuiteProfile :=
  let parts := split value '|'
  match parts with
  | name :: task :: _ =>
      if parts.length > 9 ∨ name = [] ∨ task = [] then
        .error ("Invalid PROFILE line: ".toList ++ rawLine)
      else do
        let timeSeriesHistoryLimit ← readHistoryLimit name (optionalField parts 7)
        return {
          name := name
          task := task
          clientRole := optionalField parts 2
          eventsBatchLimit := optionalField parts 3
          aggregationPeriod := optionalField parts 4
          clientImplementation := optionalField parts 5
          timeSeriesPrefill := optionalField parts 6
          timeSeriesHistoryLimit := timeSeriesHistoryLimit
          timeSeriesSubscribeAfter := optionalField parts 8 }
  | _ => .error ("Invalid PROFILE line: ".toList ++ rawLine)

/-- What the lines read so far hold. -/
structure SuiteLines where
  settings : Settings := []
  profiles : List BenchmarkSuiteProfile := []
deriving DecidableEq, Repr

/-- The body of the line loop. -/
def readLine (lines : SuiteLines) (rawLine : Text) : Except Text SuiteLines :=
  let line := trim rawLine
  if line = [] ∨ line.head? = some '#' then .ok lines
  else
    match line.dropWhile (· ≠ '=') with
    | [] => .error ("Invalid suite configuration line: ".toList ++ rawLine)
    | _ :: value =>
        let key := line.takeWhile (· ≠ '=')
        if key = "PROFILE".toList then do
          let profile ← readProfile rawLine value
          return { lines with profiles := lines.profiles ++ [profile] }
        else .ok { lines with settings := lines.settings.assign key value }

/-! ### Settings -/

/-- A setting that must be present and not empty. -/
def require (settings : Settings) (name : Text) : Except Text Text :=
  match settings.lookup name with
  | none => .error ("Missing ".toList ++ name ++ " in suite configuration".toList)
  | some value =>
      if value = [] then .error ("Missing ".toList ++ name ++ " in suite configuration".toList)
      else .ok value

/-- An optional positive size. -/
def optionalSize (settings : Settings) (name : Text) : Except Text (Option Nat) :=
  match settings.lookup name with
  | none => .ok none
  | some value => do
      let size ← parseSize value name false
      return some size

/-- An optional setting that must not be empty. -/
def optionalText (settings : Settings) (name : Text) : Except Text (Option Text) :=
  match settings.lookup name with
  | none => .ok none
  | some value =>
      if value = [] then .error (name ++ " must not be empty".toList) else .ok (some value)

/-- An optional Boolean, false when it is absent. -/
def optionalBoolean (settings : Settings) (name : Text) : Except Text Bool :=
  match settings.lookup name with
  | none => .ok false
  | some value => parseBoolean value name

/-- The experiment settings: all of them or none. -/
def readExperiment (settings : Settings) : Except Text BenchmarkExperiment := do
  let title ← optionalText settings "EXPERIMENT_TITLE".toList
  let objective ← optionalText settings "EXPERIMENT_OBJECTIVE".toList
  let variableText ← optionalText settings "EXPERIMENT_VARIABLE".toList
  let controls ← optionalText settings "EXPERIMENT_CONTROLS".toList
  let successCriteria ← optionalText settings "EXPERIMENT_SUCCESS_CRITERIA".toList
  let limitations ← optionalText settings "EXPERIMENT_LIMITATIONS".toList
  let fields := [title, objective, variableText, controls, successCriteria, limitations]
  let experimentSettingCount := fields.countP Option.isSome
  if experimentSettingCount ≠ 0 ∧ experimentSettingCount ≠ fields.length then
    .error ("Experiment metadata must define title, objective, variable, controls, " ++
      "success criteria, and limitations").toList
  else
    return {
      title := title.getD []
      objective := objective.getD []
      variableText := variableText.getD []
      controls := controls.getD []
      successCriteria := successCriteria.getD []
      limitations := limitations.getD [] }

/-- The names of the settings that a suite may have. -/
def known : List Text :=
  ["REPETITIONS".toList, "WARMUP".toList, "DURATION".toList, "WINDOW".toList,
    "BATCH_TIMEOUT".toList, "STARTUP_TIMEOUT".toList, "MONITORING_PERIOD".toList,
    "TIME_SERIES_PREFILL".toList, "TIME_SERIES_HISTORY".toList, "ACTIVE_SYMBOLS".toList,
    "TIME_SERIES_SUBSCRIBE_AFTER".toList, "TIME_SERIES_UNSUBSCRIBE_AFTER_SNAPSHOT".toList,
    "CLIENT_ROLE".toList, "LISTENER_DELAY".toList, "EVENTS_BATCH_LIMIT".toList,
    "AGGREGATION_PERIOD".toList, "COOLDOWN_SECONDS".toList, "ADDRESS".toList,
    "LISTEN_ADDRESS".toList, "EXPERIMENT_TITLE".toList, "EXPERIMENT_OBJECTIVE".toList,
    "EXPERIMENT_VARIABLE".toList, "EXPERIMENT_CONTROLS".toList,
    "EXPERIMENT_SUCCESS_CRITERIA".toList, "EXPERIMENT_LIMITATIONS".toList]

def checkKnown (settings : Settings) : Except Text Unit :=
  match settings.find? fun setting => !known.contains setting.1 with
  | none => .ok ()
  | some setting => .error ("Unknown suite setting: ".toList ++ setting.1)

/-- The suite that the lines describe, before its profiles are checked. -/
def readSettings (lines : SuiteLines) : Except Text BenchmarkSuite := do
  let settings := lines.settings
  let repetitions ← require settings "REPETITIONS".toList
  let repetitionsValue ← parseSize repetitions "REPETITIONS".toList false
  let warmup ← require settings "WARMUP".toList
  let duration ← require settings "DURATION".toList
  let window ← require settings "WINDOW".toList
  let batchTimeout ← require settings "BATCH_TIMEOUT".toList
  let startupTimeout ← require settings "STARTUP_TIMEOUT".toList
  let monitoringPeriod ← require settings "MONITORING_PERIOD".toList
  let clientRole ← require settings "CLIENT_ROLE".toList
  let address ← require settings "ADDRESS".toList
  let listenAddress ← require settings "LISTEN_ADDRESS".toList
  let cooldown ← require settings "COOLDOWN_SECONDS".toList
  let cooldownValue ← parseSize cooldown "COOLDOWN_SECONDS".toList true
  let historyLimit ← optionalSize settings "TIME_SERIES_HISTORY".toList
  let activeSymbolCount ← optionalSize settings "ACTIVE_SYMBOLS".toList
  let subscribeAfter ← optionalText settings "TIME_SERIES_SUBSCRIBE_AFTER".toList
  let unsubscribe ← optionalBoolean settings "TIME_SERIES_UNSUBSCRIBE_AFTER_SNAPSHOT".toList
  let experiment ← readExperiment settings
  checkKnown settings
  let suite : BenchmarkSuite := { profiles := lines.profiles }
  return { suite with
    experiment := experiment
    repetitions := repetitionsValue
    warmup := warmup
    duration := duration
    window := window
    batchTimeout := batchTimeout
    startupTimeout := startupTimeout
    monitoringPeriod := monitoringPeriod
    timeSeriesPrefill :=
      (settings.lookup "TIME_SERIES_PREFILL".toList).getD suite.timeSeriesPrefill
    timeSeriesHistoryLimit := historyLimit.getD suite.timeSeriesHistoryLimit
    activeSymbolCount := activeSymbolCount
    timeSeriesSubscribeAfter := subscribeAfter
    timeSeriesUnsubscribeAfterSnapshot := unsubscribe
    clientRole := clientRole
    listenerDelay := (settings.lookup "LISTENER_DELAY".toList).getD suite.listenerDelay
    eventsBatchLimit := (settings.lookup "EVENTS_BATCH_LIMIT".toList).getD suite.eventsBatchLimit
    aggregationPeriod :=
      (settings.lookup "AGGREGATION_PERIOD".toList).getD suite.aggregationPeriod
    cooldownSeconds := cooldownValue
    address := address
    listenAddress := listenAddress }

/-! ### Checks -/

def checkRole (profile : BenchmarkSuiteProfile) : Except Text Unit :=
  match profile.clientRole with
  | none => .ok ()
  | some role =>
      if validRole role then .ok ()
      else .error ("Invalid client role for profile ".toList ++ profile.name ++ ": ".toList ++ role)

def checkImplementation (profile : BenchmarkSuiteProfile) : Except Text Unit :=
  match profile.clientImplementation with
  | none => .ok ()
  | some implementation =>
      if validClientImplementation implementation then .ok ()
      else
        .error ("Invalid client implementation for profile ".toList ++ profile.name ++
          ": ".toList ++ implementation)

def checkTask (profile : BenchmarkSuiteProfile) : Except Text TaskPattern :=
  match parseTask profile.task with
  | .ok task => .ok task
  | .error error =>
      .error ("Invalid task for profile ".toList ++ profile.name ++ " at ".toList ++
        digits error.position ++ ": ".toList ++ error.message)

/-- The active symbols are among the subscribed ones and cover every quantity. -/
def checkActiveSymbols (suite : BenchmarkSuite) (profile : BenchmarkSuiteProfile)
    (task : TaskPattern) : Except Text Unit :=
  match suite.activeSymbolCount with
  | none => .ok ()
  | some count =>
      if count > task.symbolCount then
        .error ("ACTIVE_SYMBOLS=".toList ++ digits count ++ " exceeds the ".toList ++
          digits task.symbolCount ++ " subscribed symbols in profile ".toList ++ profile.name)
      else
        match task.items.find? fun item => item.quantity > count with
        | none => .ok ()
        | some item =>
            .error ("ACTIVE_SYMBOLS=".toList ++ digits count ++ " is smaller than the ".toList ++
              eventKindName item.kind ++ " quantity ".toList ++ digits item.quantity ++
                " in profile ".toList ++ profile.name)

/-- What a profile with a time series needs. -/
def checkTimeSeries (suite : BenchmarkSuite) (profile : BenchmarkSuiteProfile) :
    Except Text Unit :=
  if profile.clientRole.getD suite.clientRole ≠ feedRole then
    .error ("TimeAndSale profile ".toList ++ profile.name ++
      " requires the feed client role".toList)
  else if profile.clientImplementation.getD graal ≠ graal then
    .error ("TimeAndSale profile ".toList ++ profile.name ++
      " requires the marker-correlating Graal client".toList)
  else if suite.timeSeriesUnsubscribeAfterSnapshot ∧ profile.timeSeriesSubscribeAfter = none ∧
      suite.timeSeriesSubscribeAfter = none then
    .error ("Time-series unsubscribe after snapshot for profile ".toList ++ profile.name ++
      " requires a delayed subscription".toList)
  else .ok ()

/-- The body of the loop over the profiles: whether the profile has a time series. -/
def checkProfile (suite : BenchmarkSuite) (profile : BenchmarkSuiteProfile) :
    Except Text Bool := do
  checkRole profile
  checkImplementation profile
  let task ← checkTask profile
  checkActiveSymbols suite profile task
  if task.hasTimeSeries then do
    checkTimeSeries suite profile
    return true
  else if profile.timeSeriesSubscribeAfter.isSome then
    .error ("Time-series subscribe delay for profile ".toList ++ profile.name ++
      " requires TimeAndSale".toList)
  else return false

/-- The checks on the whole suite. -/
def checkSuite (suite : BenchmarkSuite) : Except Text Unit := do
  if ¬ validRole suite.clientRole then .error "CLIENT_ROLE must be feed or stream-feed".toList
  else if suite.profiles = [] then .error "No PROFILE entries in suite configuration".toList
  else do
    let hasTimeSeriesProfile ← suite.profiles.foldlM (fun has profile => do
      let found ← checkProfile suite profile
      return has || found) false
    if suite.timeSeriesUnsubscribeAfterSnapshot && !hasTimeSeriesProfile then
      .error "TIME_SERIES_UNSUBSCRIBE_AFTER_SNAPSHOT requires a TimeAndSale profile".toList
    else return ()

/-- Parses and validates a suite configuration. -/
def parseBenchmarkSuite (text : Text) : Except Text BenchmarkSuite := do
  let lines ← (getLines text).foldlM readLine {}
  let suite ← readSettings lines
  checkSuite suite
  return suite

/-! ### What an accepted suite satisfies -/

/-- Whether a task text has events of the time series, as `buildBenchmarkPlan` asks. -/
def hasTimeSeries (task : Text) : Bool :=
  match parseTask task with
  | .ok pattern => pattern.hasTimeSeries
  | .error _ => false

/-- A size that a program reads back from its digits. -/
def PositiveSize (size : Nat) : Prop := 0 < size ∧ size < sizeLimit

/-- The profiles' own history limits are sizes. -/
def LimitsPositive (profiles : List BenchmarkSuiteProfile) : Prop :=
  ∀ profile ∈ profiles, ∀ limit ∈ profile.timeSeriesHistoryLimit, PositiveSize limit

/-- What the checks establish for one profile. -/
structure BenchmarkSuite.Admits (suite : BenchmarkSuite) (profile : BenchmarkSuiteProfile) :
    Prop where
  role : ∀ role ∈ profile.clientRole, validRole role = true
  implementation : ∀ implementation ∈ profile.clientImplementation,
    validClientImplementation implementation = true
  task : ∃ pattern, parseTask profile.task = .ok pattern
  delayed : profile.timeSeriesSubscribeAfter.isSome → hasTimeSeries profile.task = true
  feed : hasTimeSeries profile.task = true → profile.clientRole.getD suite.clientRole = feedRole
  graal : hasTimeSeries profile.task = true → profile.clientImplementation.getD graal = graal

/-- What `parseBenchmarkSuite` establishes. -/
structure BenchmarkSuite.WellFormed (suite : BenchmarkSuite) : Prop where
  repetitions : PositiveSize suite.repetitions
  history : PositiveSize suite.timeSeriesHistoryLimit
  active : ∀ count ∈ suite.activeSymbolCount, PositiveSize count
  role : validRole suite.clientRole = true
  nonempty : suite.profiles ≠ []
  limits : LimitsPositive suite.profiles
  profiles : ∀ profile ∈ suite.profiles, suite.Admits profile

/-- The default history limit. -/
theorem positiveSize_default : PositiveSize 1000 := ⟨by decide, by decide⟩

theorem parseSize_ok {value name : Text} {size : Nat}
    (parsed : parseSize value name false = .ok size) : PositiveSize size := by
  unfold parseSize at parsed
  split at parsed
  · cases parsed
  · rename_i result whole
    split at parsed
    · cases parsed
    · rename_i nonzero
      cases parsed
      have bound := fromCharsNat_le (Lib.FromChars.whole_eq_some.mp whole)
      simp only [Bool.not_false, Bool.true_and, beq_iff_eq] at nonzero
      exact ⟨Nat.pos_of_ne_zero nonzero, by unfold sizeLimit at *; omega⟩

theorem ok_of_map {ε α β : Type} {x : Except ε α} {f : α → β} {b : β}
    (h : x.map f = .ok b) : ∃ a, x = .ok a ∧ f a = b := by
  cases x with
  | error e => cases h
  | ok a => exact ⟨a, rfl, Except.ok.inj h⟩

theorem optionalSize_ok {settings : Settings} {name : Text} {size : Option Nat}
    (read : optionalSize settings name = .ok size) : ∀ value ∈ size, PositiveSize value := by
  unfold optionalSize at read
  split at read
  · cases read
    intro value mem
    cases mem
  · obtain ⟨parsed, success, final⟩ := ok_of_bind read
    cases final
    rintro value ⟨⟩
    exact parseSize_ok success

theorem readProfile_ok {rawLine value : Text} {profile : BenchmarkSuiteProfile}
    (read : readProfile rawLine value = .ok profile) :
    ∀ limit ∈ profile.timeSeriesHistoryLimit, PositiveSize limit := by
  unfold readProfile at read
  simp only at read
  split at read
  · split at read
    · cases read
    · obtain ⟨limit, history, final⟩ := ok_of_bind read
      cases final
      unfold readHistoryLimit at history
      split at history
      · cases history
        intro limit mem
        cases mem
      · obtain ⟨size, success, final⟩ := ok_of_bind history
        cases final
        rintro limit ⟨⟩
        exact parseSize_ok success
  · cases read

theorem limitsPositive_nil : LimitsPositive [] := by
  intro profile mem
  cases mem

/-- The line loop keeps the limits of the profiles positive. -/
theorem readLine_ok {lines next : SuiteLines} {rawLine : Text}
    (positive : LimitsPositive lines.profiles) (read : readLine lines rawLine = .ok next) :
    LimitsPositive next.profiles := by
  unfold readLine at read
  simp only at read
  split at read
  · cases read
    exact positive
  · split at read
    · cases read
    · split at read
      · obtain ⟨profile, success, final⟩ := ok_of_bind read
        cases final
        intro other mem
        rcases List.mem_append.mp mem with old | new
        · exact positive other old
        · rw [List.mem_singleton.mp new]
          exact readProfile_ok success
      · cases read
        exact positive

/-- What the settings alone establish. -/
theorem readSettings_ok {lines : SuiteLines} {suite : BenchmarkSuite}
    (read : readSettings lines = .ok suite) :
    PositiveSize suite.repetitions ∧ PositiveSize suite.timeSeriesHistoryLimit ∧
      (∀ count ∈ suite.activeSymbolCount, PositiveSize count) ∧
      suite.profiles = lines.profiles := by
  unfold readSettings at read
  obtain ⟨repetitions, -, read⟩ := ok_of_bind read
  obtain ⟨repetitionsValue, repeated, read⟩ := ok_of_bind read
  obtain ⟨warmup, -, read⟩ := ok_of_bind read
  obtain ⟨duration, -, read⟩ := ok_of_bind read
  obtain ⟨window, -, read⟩ := ok_of_bind read
  obtain ⟨batchTimeout, -, read⟩ := ok_of_bind read
  obtain ⟨startupTimeout, -, read⟩ := ok_of_bind read
  obtain ⟨monitoringPeriod, -, read⟩ := ok_of_bind read
  obtain ⟨clientRole, -, read⟩ := ok_of_bind read
  obtain ⟨address, -, read⟩ := ok_of_bind read
  obtain ⟨listenAddress, -, read⟩ := ok_of_bind read
  obtain ⟨cooldown, -, read⟩ := ok_of_bind read
  obtain ⟨cooldownValue, -, read⟩ := ok_of_bind read
  obtain ⟨historyLimit, history, read⟩ := ok_of_bind read
  obtain ⟨activeSymbolCount, active, read⟩ := ok_of_bind read
  obtain ⟨subscribeAfter, -, read⟩ := ok_of_bind read
  obtain ⟨unsubscribe, -, read⟩ := ok_of_bind read
  obtain ⟨experiment, -, read⟩ := ok_of_bind read
  obtain ⟨-, -, read⟩ := ok_of_bind read
  cases read
  refine ⟨parseSize_ok repeated, ?_, optionalSize_ok active, rfl⟩
  cases historyLimit with
  | none => exact positiveSize_default
  | some limit => exact optionalSize_ok history limit rfl

/-! ### The checks of a profile -/

theorem checkRole_ok {profile : BenchmarkSuiteProfile} (checked : checkRole profile = .ok ()) :
    ∀ role ∈ profile.clientRole, validRole role = true := by
  intro role named
  rw [Option.mem_def] at named
  simp only [checkRole, named] at checked
  split at checked
  · assumption
  · cases checked

theorem checkImplementation_ok {profile : BenchmarkSuiteProfile}
    (checked : checkImplementation profile = .ok ()) :
    ∀ implementation ∈ profile.clientImplementation,
      validClientImplementation implementation = true := by
  intro implementation named
  rw [Option.mem_def] at named
  simp only [checkImplementation, named] at checked
  split at checked
  · assumption
  · cases checked

theorem checkTask_ok {profile : BenchmarkSuiteProfile} {pattern : TaskPattern}
    (checked : checkTask profile = .ok pattern) : parseTask profile.task = .ok pattern := by
  unfold checkTask at checked
  split at checked
  · rename_i parsed
    cases checked
    exact parsed
  · cases checked

theorem checkTimeSeries_ok {suite : BenchmarkSuite} {profile : BenchmarkSuiteProfile}
    (checked : checkTimeSeries suite profile = .ok ()) :
    profile.clientRole.getD suite.clientRole = feedRole ∧
      profile.clientImplementation.getD graal = graal := by
  unfold checkTimeSeries at checked
  split at checked
  · cases checked
  · rename_i feed
    split at checked
    · cases checked
    · rename_i client
      exact ⟨not_not.mp feed, not_not.mp client⟩

/-- What the checks of one profile establish. -/
theorem checkProfile_ok {suite : BenchmarkSuite} {profile : BenchmarkSuiteProfile} {found : Bool}
    (checked : checkProfile suite profile = .ok found) : suite.Admits profile := by
  unfold checkProfile at checked
  obtain ⟨⟨⟩, role, checked⟩ := ok_of_bind checked
  obtain ⟨⟨⟩, implementation, checked⟩ := ok_of_bind checked
  obtain ⟨pattern, task, checked⟩ := ok_of_bind checked
  obtain ⟨⟨⟩, -, checked⟩ := ok_of_bind checked
  have parsed := checkTask_ok task
  have series : hasTimeSeries profile.task = pattern.hasTimeSeries := by
    rw [hasTimeSeries, parsed]
  by_cases timed : pattern.hasTimeSeries = true
  · rw [if_pos timed] at checked
    obtain ⟨⟨⟩, needs, -⟩ := ok_of_bind checked
    obtain ⟨feed, client⟩ := checkTimeSeries_ok needs
    exact ⟨checkRole_ok role, checkImplementation_ok implementation, ⟨pattern, parsed⟩,
      fun _ => series.trans timed, fun _ => feed, fun _ => client⟩
  · rw [if_neg timed] at checked
    have plain : hasTimeSeries profile.task ≠ true := by rwa [series]
    split at checked
    · cases checked
    · rename_i undelayed
      exact ⟨checkRole_ok role, checkImplementation_ok implementation, ⟨pattern, parsed⟩,
        fun delayed => absurd delayed undelayed, fun timed' => absurd timed' plain,
        fun timed' => absurd timed' plain⟩

/-- Every accepted suite is well formed. -/
theorem parseBenchmarkSuite_wellFormed {text : Text} {suite : BenchmarkSuite}
    (accepted : parseBenchmarkSuite text = .ok suite) : suite.WellFormed := by
  unfold parseBenchmarkSuite at accepted
  obtain ⟨lines, read, accepted⟩ := ok_of_bind accepted
  obtain ⟨suite', settings, accepted⟩ := ok_of_bind accepted
  obtain ⟨⟨⟩, checked, accepted⟩ := ok_of_bind accepted
  cases accepted
  obtain ⟨repetitions, history, active, profiles⟩ := readSettings_ok settings
  have keeps : ∀ lines rawLine next, LimitsPositive lines.profiles →
      readLine lines rawLine = .ok next → LimitsPositive next.profiles :=
    fun _ _ _ => readLine_ok
  have limits := Lib.foldlM_ok keeps limitsPositive_nil read
  rw [← profiles] at limits
  unfold checkSuite at checked
  split at checked
  · cases checked
  · rename_i role
    split at checked
    · cases checked
    · rename_i nonempty
      obtain ⟨found, loop, -⟩ := ok_of_bind checked
      refine ⟨repetitions, history, active, not_not.mp role, nonempty, limits, ?_⟩
      intro profile mem
      obtain ⟨state, next, body⟩ := Lib.foldlM_ok_mem loop mem
      obtain ⟨found', success, -⟩ := ok_of_bind body
      exact checkProfile_ok success

end LatencyTest.Runner
