import LatencyTest.Runner.Suite
import LatencyTest.Lib.Rotation

/-!
The plan of a suite (`buildBenchmarkPlan`, `src/runner.cpp`): every repetition runs
all profiles, in an order that the repetition rotates, and every run resolves its
settings from its profile, the overrides and the suite. The list stands for a plan
that fits in memory; its counters stay far below `sizeLimit`. The main results are
`prefixes_nodup_iff` and `overrides_admissible_iff`.
-/

namespace LatencyTest.Runner

open Lib (digits paddedDigits)

/-- Command-line values that override suite-wide client settings. -/
structure BenchmarkOverrides where
  clientRole : Option Text := none
  listenerDelay : Option Text := none
  eventsBatchLimit : Option Text := none
  aggregationPeriod : Option Text := none
deriving DecidableEq, Repr

/-- One fully resolved execution of a plan. `filePrefix` is the source's `prefix`. -/
structure BenchmarkRun where
  profile : Text
  repetition : Nat
  filePrefix : Text
  task : Text
  clientRole : Text
  listenerDelay : Text
  eventsBatchLimit : Text
  aggregationPeriod : Text
  clientImplementation : Text
  timeSeriesPrefill : Text
  timeSeriesHistoryLimit : Nat
  timeSeriesSubscribeAfter : Option Text
  timeSeriesUnsubscribeAfterSnapshot : Bool
deriving DecidableEq, Repr

/-- `{name}-r{:02}`. -/
def runPrefix (name : Text) (repetition : Nat) : Text :=
  name ++ '-' :: 'r' :: paddedDigits 2 repetition

/-- The effective subscription delay of a profile: only tasks with a time series have one. -/
def subscribeAfter (suite : BenchmarkSuite) (profile : BenchmarkSuiteProfile) : Option Text :=
  if hasTimeSeries profile.task then
    profile.timeSeriesSubscribeAfter.or suite.timeSeriesSubscribeAfter
  else none

/-- The run of one profile in one repetition. -/
def resolve (suite : BenchmarkSuite) (overrides : BenchmarkOverrides) (repetition : Nat)
    (profile : BenchmarkSuiteProfile) : BenchmarkRun where
  profile := profile.name
  repetition := repetition
  filePrefix := runPrefix profile.name repetition
  task := profile.task
  clientRole := profile.clientRole.getD (overrides.clientRole.getD suite.clientRole)
  listenerDelay := overrides.listenerDelay.getD suite.listenerDelay
  eventsBatchLimit :=
    profile.eventsBatchLimit.getD (overrides.eventsBatchLimit.getD suite.eventsBatchLimit)
  aggregationPeriod :=
    profile.aggregationPeriod.getD (overrides.aggregationPeriod.getD suite.aggregationPeriod)
  clientImplementation := profile.clientImplementation.getD graal
  timeSeriesPrefill := profile.timeSeriesPrefill.getD suite.timeSeriesPrefill
  timeSeriesHistoryLimit := profile.timeSeriesHistoryLimit.getD suite.timeSeriesHistoryLimit
  timeSeriesSubscribeAfter := subscribeAfter suite profile
  timeSeriesUnsubscribeAfterSnapshot :=
    suite.timeSeriesUnsubscribeAfterSnapshot && (subscribeAfter suite profile).isSome

/-- The profiles in the order of one repetition. -/
def rotatedProfiles (profiles : List BenchmarkSuiteProfile) (repetition : Nat) :
    List BenchmarkSuiteProfile :=
  (List.range profiles.length).filterMap fun position =>
    profiles[(position + repetition - 1) % profiles.length]?

/-- Resolves the overrides and rotates the profile order between repetitions. -/
def buildBenchmarkPlan (suite : BenchmarkSuite) (overrides : BenchmarkOverrides) :
    List BenchmarkRun :=
  (List.range' 1 suite.repetitions).flatMap fun repetition =>
    (rotatedProfiles suite.profiles repetition).map (resolve suite overrides repetition)

/-- The bytes of a `BenchmarkRun`: nine strings, an optional one, two sizes and a flag. -/
def benchmarkRunSize : Nat := 352

/-- `buildBenchmarkPlan` with the storage that it reserves first. -/
def reservedBenchmarkPlan (suite : BenchmarkSuite) (overrides : BenchmarkOverrides) :
    Except Text (List BenchmarkRun) := do
  reserve benchmarkRunSize (sizeMul suite.repetitions suite.profiles.length)
  return buildBenchmarkPlan suite overrides

theorem reservedBenchmarkPlan_eq_ok {suite : BenchmarkSuite} {overrides : BenchmarkOverrides}
    {plan : List BenchmarkRun} (reserved : reservedBenchmarkPlan suite overrides = .ok plan) :
    plan = buildBenchmarkPlan suite overrides := by
  obtain ⟨_, -, built⟩ := ok_of_bind reserved
  exact (Except.ok.inj built).symm

/-- The overrides with which `runBenchmarkSuite` goes on. -/
def BenchmarkOverrides.Accepted (overrides : BenchmarkOverrides) : Prop :=
  ∀ role ∈ overrides.clientRole, validRole role = true

/-! ### The runs of a plan -/

theorem rotatedProfiles_perm (profiles : List BenchmarkSuiteProfile) {repetition : Nat}
    (counted : 1 ≤ repetition) : (rotatedProfiles profiles repetition).Perm profiles := by
  have rotates : rotatedProfiles profiles repetition = profiles.rotate (repetition - 1) := by
    rw [← Lib.filterMap_rotate]
    simp only [rotatedProfiles, Nat.add_sub_assoc counted]
  rw [rotates]
  exact List.rotate_perm profiles (repetition - 1)

/-- Every repetition runs every profile once. -/
theorem mem_buildBenchmarkPlan {suite : BenchmarkSuite} {overrides : BenchmarkOverrides}
    {run : BenchmarkRun} :
    run ∈ buildBenchmarkPlan suite overrides ↔
      ∃ repetition, 1 ≤ repetition ∧ repetition ≤ suite.repetitions ∧
        ∃ profile ∈ suite.profiles, resolve suite overrides repetition profile = run := by
  simp only [buildBenchmarkPlan, List.mem_flatMap, List.mem_range'_1, List.mem_map]
  constructor
  · rintro ⟨repetition, ⟨first, last⟩, profile, mem, rfl⟩
    exact ⟨repetition, first, by omega, profile,
      (rotatedProfiles_perm suite.profiles first).mem_iff.mp mem, rfl⟩
  · rintro ⟨repetition, first, last, profile, mem, rfl⟩
    exact ⟨repetition, ⟨first, by omega⟩, profile,
      (rotatedProfiles_perm suite.profiles first).mem_iff.mpr mem, rfl⟩

/-- What holds of all runs of an accepted suite's plan holds of all profiles, in every
repetition; the first repetition always runs. -/
theorem forall_mem_plan {suite : BenchmarkSuite} (wellFormed : suite.WellFormed)
    {overrides : BenchmarkOverrides} {holds : BenchmarkRun → Prop}
    {condition : BenchmarkSuiteProfile → Prop}
    (each : ∀ profile ∈ suite.profiles, ∀ repetition,
      holds (resolve suite overrides repetition profile) ↔ condition profile) :
    (∀ run ∈ buildBenchmarkPlan suite overrides, holds run) ↔
      ∀ profile ∈ suite.profiles, condition profile := by
  constructor
  · intro all profile mem
    have planned : resolve suite overrides 1 profile ∈ buildBenchmarkPlan suite overrides :=
      mem_buildBenchmarkPlan.mpr ⟨1, le_rfl, wellFormed.repetitions.1, profile, mem, rfl⟩
    exact (each profile mem 1).mp (all _ planned)
  · intro all run mem
    obtain ⟨repetition, -, -, profile, present, rfl⟩ := mem_buildBenchmarkPlan.mp mem
    exact (each profile present repetition).mpr (all profile present)

/-! ### Prefixes -/

/-- A text is determined by what is in front of the last separator and what follows it. -/
theorem append_cons_inj_of_notMem_tail {c : Char} {xs ys us vs : Text} (inUs : c ∉ us)
    (inVs : c ∉ vs) : xs ++ c :: us = ys ++ c :: vs ↔ xs = ys ∧ us = vs := by
  constructor
  · intro eq
    rcases List.append_eq_append_iff.mp eq with ⟨more, rfl, tail⟩ | ⟨more, rfl, tail⟩
    · cases more with
      | nil => simpa using tail
      | cons d more =>
          rw [List.cons_append, List.cons.injEq] at tail
          exact absurd (by rw [tail.2]; simp) inUs
    · cases more with
      | nil => simpa using tail.symm
      | cons d more =>
          rw [List.cons_append, List.cons.injEq] at tail
          exact absurd (by rw [tail.2]; simp) inVs
  · rintro ⟨rfl, rfl⟩
    rfl

/-- No digit is a hyphen, so the hyphen of the suffix is the last one. -/
theorem hyphen_notMem_suffix {number : Text} (decimal : ∀ c ∈ number, c.isDigit = true) :
    '-' ∉ 'r' :: number := by
  intro mem
  rcases List.mem_cons.mp mem with letter | digit
  · exact absurd letter (by decide)
  · exact Lib.notMem_of_isDigit decimal (by decide) digit

/-- A prefix determines the profile name and the repetition, whatever the name ends in. -/
theorem runPrefix_inj {name other : Text} {m n : Nat} :
    runPrefix name m = runPrefix other n ↔ name = other ∧ m = n := by
  have noHyphen (repetition : Nat) : '-' ∉ 'r' :: paddedDigits 2 repetition :=
    hyphen_notMem_suffix fun _ => Lib.isDigit_of_mem_paddedDigits
  unfold runPrefix
  rw [append_cons_inj_of_notMem_tail (noHyphen m) (noHyphen n), List.cons.injEq,
    (Lib.paddedDigits_injective 2).eq_iff]
  simp

/-- The prefixes of one repetition. -/
theorem map_filePrefix_resolve (suite : BenchmarkSuite) (overrides : BenchmarkOverrides)
    (repetition : Nat) (profiles : List BenchmarkSuiteProfile) :
    (profiles.map (resolve suite overrides repetition)).map BenchmarkRun.filePrefix =
      (profiles.map BenchmarkSuiteProfile.name).map (runPrefix · repetition) := by
  rw [List.map_map, List.map_map]
  rfl

theorem prefixes_eq (suite : BenchmarkSuite) (overrides : BenchmarkOverrides) :
    (buildBenchmarkPlan suite overrides).map BenchmarkRun.filePrefix =
      (List.range' 1 suite.repetitions).flatMap fun repetition =>
        ((rotatedProfiles suite.profiles repetition).map BenchmarkSuiteProfile.name).map
          (runPrefix · repetition) := by
  simp only [buildBenchmarkPlan, List.map_flatMap, map_filePrefix_resolve]

/-- Within one repetition a prefix repeats exactly when a name does. -/
theorem nodup_round_iff (profiles : List BenchmarkSuiteProfile) {repetition : Nat}
    (counted : 1 ≤ repetition) :
    (((rotatedProfiles profiles repetition).map BenchmarkSuiteProfile.name).map
        (runPrefix · repetition)).Nodup ↔ (profiles.map BenchmarkSuiteProfile.name).Nodup := by
  have distinct : Function.Injective (runPrefix · repetition) :=
    fun name other eq => (runPrefix_inj.mp eq).1
  rw [List.nodup_map_iff distinct]
  exact ((rotatedProfiles_perm profiles counted).map _).nodup_iff

/-- The prefixes of the plan of an accepted suite are pairwise distinct exactly when the
names of its profiles are. -/
theorem prefixes_nodup_iff {text : Text} {suite : BenchmarkSuite}
    (accepted : parseBenchmarkSuite text = .ok suite) (overrides : BenchmarkOverrides) :
    ((buildBenchmarkPlan suite overrides).map BenchmarkRun.filePrefix).Nodup ↔
      (suite.profiles.map BenchmarkSuiteProfile.name).Nodup := by
  have repeats := (parseBenchmarkSuite_wellFormed accepted).repetitions.1
  rw [prefixes_eq, List.nodup_flatMap]
  constructor
  · rintro ⟨each, -⟩
    have first := each 1 (List.mem_range'_1.mpr ⟨le_rfl, by omega⟩)
    exact (nodup_round_iff suite.profiles le_rfl).mp first
  · intro names
    refine ⟨?_, ?_⟩
    · intro repetition mem
      exact (nodup_round_iff suite.profiles (List.mem_range'_1.mp mem).1).mpr names
    · -- prefixes of different repetitions differ whatever the names are
      refine List.Pairwise.imp ?_ (List.nodup_range' 1 Nat.one_pos)
      intro m n differ written first second
      obtain ⟨name, -, rfl⟩ := List.mem_map.mp first
      obtain ⟨other, -, eq⟩ := List.mem_map.mp second
      exact differ (runPrefix_inj.mp eq.symm).2

/-- A suite text with the given further lines, one repetition and the feed role. -/
def suiteText (further : List Text) : Text :=
  fileText (["REPETITIONS=1".toList, "WARMUP=1s".toList, "DURATION=2s".toList,
    "WINDOW=1s".toList, "BATCH_TIMEOUT=3s".toList, "STARTUP_TIMEOUT=4s".toList,
    "MONITORING_PERIOD=1s".toList, "CLIENT_ROLE=feed".toList, "COOLDOWN_SECONDS=0".toList,
    "ADDRESS=a:1".toList, "LISTEN_ADDRESS=:1".toList] ++ further)

def suffixedText : Text :=
  suiteText ["PROFILE=q|SUB:Q1".toList, "PROFILE=q-r01|SUB:T1".toList]

def repeatedText : Text := suiteText ["PROFILE=q|SUB:Q1".toList, "PROFILE=q|SUB:T1".toList]

/-- A profile whose name ends like the prefix of another profile's run is told apart. -/
theorem prefixes_nodup_iff_suffixed :
    ∃ suite, parseBenchmarkSuite suffixedText = .ok suite ∧
      ((buildBenchmarkPlan suite {}).map BenchmarkRun.filePrefix).Nodup := by
  have parsed : (parseBenchmarkSuite suffixedText).map
      (fun suite => suite.profiles.map BenchmarkSuiteProfile.name) =
        .ok ["q".toList, "q-r01".toList] := by decide +kernel
  obtain ⟨suite, accepted, names⟩ := ok_of_map parsed
  refine ⟨suite, accepted, (prefixes_nodup_iff accepted {}).mpr ?_⟩
  rw [names]
  decide

/-- Two profiles of one name are accepted, and their runs have one prefix. -/
theorem repeated_name_repeats_prefix :
    ∃ suite, parseBenchmarkSuite repeatedText = .ok suite ∧
      ¬ ((buildBenchmarkPlan suite {}).map BenchmarkRun.filePrefix).Nodup := by
  have planned : (parseBenchmarkSuite repeatedText).map
      (fun suite => (buildBenchmarkPlan suite {}).map BenchmarkRun.filePrefix) =
        .ok ["q-r01".toList, "q-r01".toList] := by decide +kernel
  obtain ⟨suite, accepted, prefixes⟩ := ok_of_map planned
  refine ⟨suite, accepted, ?_⟩
  rw [prefixes]
  decide

/-! ### Overrides -/

/-- What the client asks of the time series of a run. -/
structure BenchmarkRun.Admissible (run : BenchmarkRun) : Prop where
  feed : hasTimeSeries run.task = true → run.clientRole = feedRole
  graal : hasTimeSeries run.task = true → run.clientImplementation = graal
  delayed : run.timeSeriesSubscribeAfter.isSome → hasTimeSeries run.task = true
  unsubscribe : run.timeSeriesUnsubscribeAfterSnapshot = true →
    run.timeSeriesSubscribeAfter.isSome

/-- Only a task with a time series subscribes later. -/
theorem hasTimeSeries_of_subscribeAfter {suite : BenchmarkSuite}
    {profile : BenchmarkSuiteProfile} (delayed : (subscribeAfter suite profile).isSome) :
    hasTimeSeries profile.task = true := by
  unfold subscribeAfter at delayed
  split at delayed
  · assumption
  · cases delayed

/-- Only the role can go wrong in a run of a checked profile: the other conditions are
resolved as they were checked. -/
theorem admissible_resolve_iff {suite : BenchmarkSuite} {profile : BenchmarkSuiteProfile}
    (admits : suite.Admits profile) (overrides : BenchmarkOverrides) (repetition : Nat) :
    (resolve suite overrides repetition profile).Admissible ↔
      (hasTimeSeries profile.task = true →
        profile.clientRole.getD (overrides.clientRole.getD suite.clientRole) = feedRole) := by
  constructor
  · intro admissible
    exact admissible.feed
  · intro feed
    refine ⟨feed, admits.graal, ?_, ?_⟩
    · exact hasTimeSeries_of_subscribeAfter
    · intro unsubscribe
      exact (Bool.and_eq_true_iff.mp unsubscribe).2

/-- The role of a checked profile with a time series stays the feed role unless the profile
leaves the role to an override that names another one. -/
theorem resolved_role_iff {suite : BenchmarkSuite} {profile : BenchmarkSuiteProfile}
    (feed : profile.clientRole.getD suite.clientRole = feedRole) (override : Option Text) :
    profile.clientRole.getD (override.getD suite.clientRole) = feedRole ↔
      (∀ role ∈ override, role = feedRole) ∨ profile.clientRole.isSome := by
  cases own : profile.clientRole with
  | some role =>
      rw [own] at feed
      simpa using feed
  | none =>
      rw [own] at feed
      cases override with
      | none => simpa using feed
      | some role => simp

/-- The runs of the plan of an accepted suite are admissible to the client exactly when no
override replaces the feed role, or every profile with a time series names its role. -/
theorem overrides_admissible_iff {text : Text} {suite : BenchmarkSuite}
    (accepted : parseBenchmarkSuite text = .ok suite) (overrides : BenchmarkOverrides) :
    (∀ run ∈ buildBenchmarkPlan suite overrides, run.Admissible) ↔
      (∀ role ∈ overrides.clientRole, role = feedRole) ∨
        ∀ profile ∈ suite.profiles, hasTimeSeries profile.task = true →
          profile.clientRole.isSome := by
  have wellFormed := parseBenchmarkSuite_wellFormed accepted
  have perProfile : (∀ run ∈ buildBenchmarkPlan suite overrides, run.Admissible) ↔
      ∀ profile ∈ suite.profiles, hasTimeSeries profile.task = true →
        (∀ role ∈ overrides.clientRole, role = feedRole) ∨ profile.clientRole.isSome := by
    apply forall_mem_plan wellFormed
    intro profile mem repetition
    have admits := wellFormed.profiles profile mem
    rw [admissible_resolve_iff admits]
    exact forall_congr' fun timed => resolved_role_iff (admits.feed timed) overrides.clientRole
  rw [perProfile]
  constructor
  · intro all
    rcases Classical.em (∀ role ∈ overrides.clientRole, role = feedRole) with kept | replaced
    · exact .inl kept
    · exact .inr fun profile mem timed => (all profile mem timed).resolve_left replaced
  · rintro (kept | named)
    · exact fun profile mem timed => .inl kept
    · exact fun profile mem timed => .inr (named profile mem timed)

def seriesText : Text := suiteText ["PROFILE=n|SUB:Q1;N1".toList]

/-- A suite with a time series that no override touches is run as it was checked. -/
theorem overrides_admissible_iff_delay :
    ∃ suite, parseBenchmarkSuite seriesText = .ok suite ∧
      ∀ run ∈ buildBenchmarkPlan suite { listenerDelay := some "1ms".toList }, run.Admissible := by
  have parsed : (parseBenchmarkSuite seriesText).map
      (fun suite => suite.profiles.map BenchmarkSuiteProfile.name) = .ok ["n".toList] := by
    decide +kernel
  obtain ⟨suite, accepted, -⟩ := ok_of_map parsed
  exact ⟨suite, accepted, (overrides_admissible_iff accepted _).mpr (.inl (by simp))⟩

/-- An accepted override of the role takes the feed role from a profile with a time
series. -/
theorem override_replaces_feed_role :
    ∃ suite overrides, parseBenchmarkSuite seriesText = .ok suite ∧ overrides.Accepted ∧
      ¬ ∀ run ∈ buildBenchmarkPlan suite overrides, run.Admissible := by
  have parsed : (parseBenchmarkSuite seriesText).map
      (fun suite => (buildBenchmarkPlan suite { clientRole := some streamFeedRole }).map
        fun run => (hasTimeSeries run.task, run.clientRole)) = .ok [(true, streamFeedRole)] := by
    decide +kernel
  obtain ⟨suite, accepted, planned⟩ := ok_of_map parsed
  refine ⟨suite, { clientRole := some streamFeedRole }, accepted, ?_, ?_⟩
  · rintro role ⟨⟩
    decide
  · intro all
    have found : (true, streamFeedRole) ∈
        (buildBenchmarkPlan suite { clientRole := some streamFeedRole }).map
          fun run => (hasTimeSeries run.task, run.clientRole) := by
      rw [planned]
      exact List.mem_cons_self
    obtain ⟨run, mem, eq⟩ := List.mem_map.mp found
    obtain ⟨timed, role⟩ := Prod.mk.inj eq
    have feed := (all run mem).feed timed
    rw [role] at feed
    exact absurd feed (by decide)

end LatencyTest.Runner
