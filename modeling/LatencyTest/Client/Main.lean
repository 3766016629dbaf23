import LatencyTest.Lib.Interactive
import LatencyTest.Client.Tracker
import LatencyTest.Report.Csv
import LatencyTest.Runner.Programs

/-!
The client program: `main` of `src/client.cpp`, with `waitFor`, the waits of `Collector` and
`TimeSeriesTracker`, and the `ResourceSampler` of `src/resources.cpp`. The environment calls the
listeners, moves the clocks and may interrupt; it can do so between any two actions of `main`.
Durations of the configuration are in milliseconds, times of both clocks in nanoseconds.
Standard output, exceptions of the API and the storage that the collector reserves in advance are
not modelled.
-/

namespace LatencyTest

open Lib (Program digits)

/-! ### Resources -/

/-- CPU utilization and resident memory of an interval. -/
structure ResourceStatistics where
  cpuCorePercent : ℚ := 0
  cpuHostPercent : ℚ := 0
  rssMeanBytes : Nat := 0
  rssMaximumBytes : Nat := 0
  samples : Nat := 0

/-- `ResourceSampler`: the processor time at its start, and the resident sizes so far. -/
structure ResourceSampler where
  initialCpu : Int
  rssTotal : Nat := 0
  rssMaximum : Nat := 0
  samples : Nat := 0

namespace ResourceSampler

def sample (sampler : ResourceSampler) (rss : Nat) : ResourceSampler :=
  { sampler with
    rssTotal := (sampler.rssTotal + rss) % sizeLimit
    rssMaximum := max sampler.rssMaximum rss
    samples := sampler.samples + 1 }

/-- The constructor takes the first sample. -/
def create (cpu : Int) (rss : Nat) : ResourceSampler := sample { initialCpu := cpu } rss

def finish (sampler : ResourceSampler) (cpu : Int) (processors : Nat) (elapsedSeconds : ℚ) :
    ResourceStatistics :=
  let used := cpu - sampler.initialCpu
  let cpuCorePercent := if 0 < elapsedSeconds then used / 10 / elapsedSeconds else 0
  { cpuCorePercent := cpuCorePercent
    cpuHostPercent := cpuCorePercent / max 1 processors
    rssMeanBytes := if sampler.samples ≠ 0 then sampler.rssTotal / sampler.samples else 0
    rssMaximumBytes := sampler.rssMaximum
    samples := sampler.samples }

end ResourceSampler

namespace Client

open Runner (ClientConfig clientParseArgs)

/-! ### The world of the client -/

inductive SnapshotPhase where
  | before
  | during
  | after
deriving DecidableEq, Repr

/-- One call of `Reporter::window`. `completed` is the tracker's count of completed symbols at the
call. -/
structure Report where
  data : Window
  start : Int
  stop : Int
  snapshotPhase : Option SnapshotPhase := none
  resources : ResourceStatistics := {}
  completed : Nat := 0

/-- The call of `TimeSeriesTracker::writeReport`. -/
structure SeriesReport where
  tracker : TimeSeriesTracker
  fromTimeMs : Int
  unsubscribedAfterSnapshot : Bool := false
  resources : ResourceStatistics := {}

/-- A callback of the collector's listeners, and the steady clock then. -/
structure Heard where
  time : Int
  callback : Callback

/-- What `main` and the environment share: the clocks, the request to terminate, the use of
resources and the listeners' objects. The rest belongs to `main`: the symbols of its subscriptions,
the endpoint, and what it has reported. `heard` is what the collector's listeners were called with;
`began` and `ended` are `measurementStart` and `measurementFinish`. -/
structure World where
  steady : Int := 0
  wall : Int := 0
  interrupted : Bool := false
  cpu : Int := 0
  rss : Nat := 0
  collector : Collector
  heard : List Heard := []
  tracker : TimeSeriesTracker := {}
  market : List Text := []
  profiles : List Text := []
  control : List Text := []
  series : List Text := []
  fromTime : Option Int := none
  connected : Bool := false
  runStart : Int := 0
  began : Int := 0
  ended : Int := 0
  reported : List Report := []
  final : Option (Totals × Int) := none
  seriesReport : Option SeriesReport := none
  errors : List Text := []

/-- What happens between two actions of `main`. -/
inductive Move where
  | elapse (duration : Nat)
  | setWall (time : Int)
  | interrupt
  | useCpu (time : Nat)
  | resident (rss : Nat)
  | callback (heard : Callback)
  | seriesCallback (events : List Event) (observed : Int)

/-- The machine the client runs on: the API, the number of processors, and whether the report
files can be opened. -/
structure Host where
  api : DxApi
  processors : Nat := 1
  opensReports : Bool := true
  opensSeriesReport : Bool := true

def Host.move (host : Host) (world : World) : Move → World
  | .elapse duration => { world with steady := world.steady + duration }
  | .setWall time => { world with wall := time }
  | .interrupt => { world with interrupted := true }
  | .useCpu time => { world with cpu := world.cpu + time }
  | .resident rss => { world with rss := rss }
  | .callback heard =>
      { world with
        collector := world.collector.call host.api heard.call
        heard := world.heard ++ [⟨world.steady, heard⟩] }
  | .seriesCallback events observed =>
      { world with tracker := world.tracker.handle host.api events observed }

abbrev Action (host : Host) (α : Type) : Type := Program host.move α

variable {host : Host}

/-! ### Actions -/

def isInterrupted : Action host Bool := .read World.interrupted

def steadyNow : Action host Int := .read World.steady

def unixNanosNow : Action host Int := .read World.wall

/-- A sum or product of times and durations as an `int64_t`. What is too large wraps around, as
on the machines the clients are built for; nothing is too small. -/
def int64 (value : Int) : Int := if value < 2 ^ 63 then value else value.bmod (2 ^ 64)

/-- A duration of the configuration in nanoseconds. -/
def nanoseconds (milliseconds : Int) : Int := int64 (milliseconds * 1000000)

/-- The time point that is a duration of the configuration later. -/
def addDuration (time duration : Int) : Int := int64 (time + nanoseconds duration)

theorem int64_eq {value : Int} (fits : value < 2 ^ 63) : int64 value = value := if_pos fits

theorem int64_le (value : Int) : int64 value ≤ value := by
  unfold int64
  split
  · exact le_rfl
  · have wrapped := Int.bmod_lt (x := value) (m := 2 ^ 64) (by decide)
    omega

/-- Wrapping around never makes a time point later. -/
theorem addDuration_le (time duration : Int) :
    addDuration time duration ≤ time + duration * 1000000 :=
  (int64_le _).trans (add_le_add_right (int64_le _) time)

/-- A duration after a time, which is before the end of the clock. -/
def InTime (time duration : Int) : Prop := max 0 time + duration * 1000000 < 2 ^ 63

theorem addDuration_eq {time duration : Int} (inTime : InTime time duration) :
    addDuration time duration = time + duration * 1000000 := by
  unfold InTime at inTime
  have scaled : nanoseconds duration = duration * 1000000 := int64_eq (by omega)
  rw [addDuration, scaled, int64_eq (by omega)]

/-- What is in time after a time is so after every earlier one. -/
theorem InTime.mono {time earlier duration : Int} (inTime : InTime time duration)
    (before : earlier ≤ time) : InTime earlier duration := by
  unfold InTime at *
  omega

/-- `std::chrono::duration_cast<std::chrono::milliseconds>`. -/
def milliseconds (nanoseconds : Int) : Int := nanoseconds.tdiv 1000000

/-- Blocks for at least a duration; more can elapse before the next action. -/
def sleepFor (duration : Int) : Action host Unit :=
  .modify fun world => { world with steady := world.steady + max 0 (nanoseconds duration) }

def createSampler : Action host ResourceSampler :=
  .read fun world => .create world.cpu world.rss

def sample (sampler : ResourceSampler) : Action host ResourceSampler :=
  .read fun world => sampler.sample world.rss

def finishSampler (sampler : ResourceSampler) (elapsed : Int) : Action host ResourceStatistics :=
  .read fun world => sampler.finish world.cpu host.processors (elapsed / 1000000000)

def takeWindow (expireAll : Bool) : Action host Window :=
  .act fun world =>
    let (window, collector) := world.collector.takeWindow expireAll world.wall
    (window, { world with collector := collector })

/-- `Reporter::window`. -/
def report (made : Report) : Action host Unit :=
  .modify fun world =>
    { world with
      reported := world.reported ++ [{ made with completed := world.tracker.completedSymbols }] }

/-- `TimeSeriesTracker::writeReport`, once the file is open. -/
def writeSeriesReport (fromTimeMs : Int) (unsubscribed : Bool) (resources : ResourceStatistics) :
    Action host Unit :=
  .modify fun world =>
    { world with seriesReport := some ⟨world.tracker, fromTimeMs, unsubscribed, resources⟩ }

/-- A line on standard error. -/
def complain (message : Text) : Action host Unit :=
  .modify fun world => { world with errors := world.errors ++ [message] }

/-- `control->removeSymbols`. -/
def removeControl (symbol : Text) : Action host Unit :=
  .modify fun world => { world with control := world.control.filter (· ≠ symbol) }

/-- `endpoint->closeAndAwaitTermination`. -/
def close : Action host Unit := .modify fun world => { world with connected := false }

/-- An exception is reported in the handler of `main`. -/
def fail (message : Text) : Action host Int := do
  complain ("Client error: ".toList ++ message)
  pure 1

/-! ### Waiting -/

/-- Whether a loop goes on: no interrupt, and the deadline not reached. -/
def goesOn (deadline : Int) : Action host Bool :=
  .both (do pure !(← isInterrupted)) (do pure ((← steadyNow) < deadline))

/-- Waits for a duration while polling for a termination request. -/
def waitFor (duration : Int) : Action host Bool := do
  let deadline := addDuration (← steadyNow) duration
  Program.loop (fun _ : Unit => do
    if ← goesOn deadline then do
      sleepFor 100
      pure (.inl ())
    else pure (.inr ())) ()
  return !(← isInterrupted)

/-- A wait on a condition variable, as in `waitForProfiles` and `waitForSnapshot`: it can wake
early. -/
def waitUntil (ready : World → Bool) (timeout : Int) : Action host Bool := do
  let deadline := addDuration (← steadyNow) timeout
  Program.loop (fun _ : Unit => do
    if ← Program.both (do pure !(← isInterrupted)) (do pure !(← .read ready)) then do
      if (← steadyNow) ≥ deadline then pure (.inr ()) else pure (.inl ())
    else pure (.inr ())) ()
  .read ready

def waitForProfiles (expected : Nat) (timeout : Int) : Action host Bool :=
  waitUntil (fun world => decide (expected ≤ world.collector.profileSymbolsReceived.card)) timeout

def waitForSnapshot (timeout : Int) : Action host Bool :=
  waitUntil (fun world => decide (world.tracker.expectedSymbols ≤ world.tracker.completedSymbols))
    timeout

/-! ### The measurement in windows -/

section Measurement

variable (config : ClientConfig)

/-- The variables of the loop over the windows: the end of the next one, the start of the current
one, and the sampler of the run. -/
structure WindowState where
  nextWindow : Int
  windowStartWall : Int
  resources : ResourceSampler

/-- One round: the window is reported when its end has passed. -/
def windowRound (measurementEnd : Int) (s : WindowState) :
    Action host (WindowState ⊕ WindowState) := do
  if ← goesOn measurementEnd then do
    let target := min s.nextWindow measurementEnd
    let remaining := milliseconds ((target - (← steadyNow)).bmod (2 ^ 64))
    Program.whenever (0 < remaining) (do let _ ← waitFor (min remaining 100))
    let resources ← sample s.resources
    if (← steadyNow) ≥ target then do
      let endWall ← unixNanosNow
      let data ← takeWindow false
      report { data := data, start := s.windowStartWall, stop := endWall }
      pure (.inl
        { nextWindow := addDuration s.nextWindow config.window
          windowStartWall := endWall
          resources := resources })
    else pure (.inl { s with resources := resources })
  else pure (.inr s)

def windowLoop (measurementEnd : Int) (start : WindowState) : Action host WindowState :=
  Program.loop (windowRound config measurementEnd) start

/-! ### The measurement around a snapshot -/

/-- The variables of the loop of a delayed subscription. -/
structure PhaseState where
  phase : SnapshotPhase := .before
  phaseStart : Int
  phaseStartWall : Int
  phaseResources : ResourceSampler
  resources : ResourceSampler
  nextResourceSample : Int
  snapshotDeadline : Option Int := none
  fromTimeMs : Int
  unsubscribed : Bool := false

/-- `flushPhase`: reports the phase that ends, and starts the next one. -/
def flushPhase (s : PhaseState) (name : SnapshotPhase) (stop stopWall : Int) :
    Action host PhaseState := do
  let resources ← sample s.resources
  let phaseResources ← sample s.phaseResources
  let statistics ← finishSampler phaseResources (stop - s.phaseStart)
  let data ← takeWindow false
  report
    { data := data
      start := s.phaseStartWall
      stop := stopWall
      snapshotPhase := some name
      resources := statistics }
  let phaseResources ← createSampler
  pure
    { s with
      phaseStart := stop
      phaseStartWall := stopWall
      phaseResources := phaseResources
      resources := resources }

/-- The subscription is due: the time-series symbols are added. -/
def subscribeSeries (pattern : TaskPattern) (s : PhaseState) (now : Int) :
    Action host PhaseState := do
  let subscribedAtWall ← unixNanosNow
  let s ← flushPhase s .before now subscribedAtWall
  let fromTimeMs := (int64 (subscribedAtWall - nanoseconds config.timeSeriesPrefill)).tdiv 1000000
  Program.modify fun world =>
    { world with tracker := world.tracker.beginSnapshot pattern.symbolCount subscribedAtWall }
  Program.modify fun world =>
    { world with fromTime := some fromTimeMs, series := pattern.symbolNames }
  pure
    { s with
      phase := .during
      fromTimeMs := fromTimeMs
      snapshotDeadline := some (addDuration now config.startupTimeout)
      nextResourceSample := addDuration now 10 }

/-- Every requested symbol has its snapshot. -/
def completeSeries (s : PhaseState) (now : Int) : Action host PhaseState := do
  let completedAtWall ← .read fun world => world.tracker.completedAtNs
  let s ← flushPhase s .during now completedAtWall
  Program.whenever (config.timeSeriesUnsubscribeAfterSnapshot = true)
    (.modify fun world => { world with series := [] })
  pure
    { s with
      phase := .after
      unsubscribed := s.unsubscribed || config.timeSeriesUnsubscribeAfterSnapshot
      nextResourceSample := addDuration now 100 }

/-- The interval of the resource samples, and the longest pause of the loop. -/
def SnapshotPhase.interval : SnapshotPhase → Int
  | .during => 10
  | _ => 100

/-- Takes a resource sample if it is time for one. -/
def samplePhase (s : PhaseState) (now : Int) : Action host PhaseState := do
  if now ≥ s.nextResourceSample then do
    let resources ← sample s.resources
    let phaseResources ← sample s.phaseResources
    pure
      { s with
        resources := resources
        phaseResources := phaseResources
        nextResourceSample := addDuration s.nextResourceSample s.phase.interval }
  else pure s

/-- One round; `inr` has the variables, and whether the snapshot timed out. -/
def phaseRound (pattern : TaskPattern) (measurementEnd subscribeAt : Int) (s : PhaseState) :
    Action host (PhaseState ⊕ PhaseState × Bool) := do
  if ← goesOn measurementEnd then do
    let now ← steadyNow
    if s.phase = .before ∧ now ≥ subscribeAt then do
      pure (.inl (← subscribeSeries config pattern s now))
    else if ← Program.both (pure (s.phase = .during))
        (.read fun world => world.tracker.snapshotComplete) then do
      pure (.inl (← completeSeries config s now))
    else if s.phase = .during ∧ ∃ deadline ∈ s.snapshotDeadline, now ≥ deadline then
      pure (.inr (s, true))
    else do
      let s ← samplePhase s now
      let _ ← waitFor (min s.phase.interval (milliseconds (measurementEnd - now)))
      pure (.inl s)
  else pure (.inr (s, false))

def phaseLoop (pattern : TaskPattern) (measurementEnd subscribeAt : Int) (start : PhaseState) :
    Action host (PhaseState × Bool) :=
  Program.loop (phaseRound config pattern measurementEnd subscribeAt) start

/-- What the measurement leaves for the end of `main`. -/
structure Measured where
  windowStartWall : Int
  resources : ResourceSampler
  fromTimeMs : Int
  snapshotTimedOut : Bool := false
  unsubscribed : Bool := false

/-- The measurement with a delayed subscription. -/
def measurePhases (pattern : TaskPattern) (after measurementStart windowStartWall fromTimeMs : Int)
    (resources : ResourceSampler) : Action host Measured := do
  let phaseResources ← createSampler
  let (s, timedOut) ← phaseLoop config pattern (addDuration measurementStart config.duration)
    (addDuration measurementStart after)
    { phaseStart := measurementStart
      phaseStartWall := windowStartWall
      phaseResources := phaseResources
      resources := resources
      nextResourceSample := addDuration measurementStart 100
      fromTimeMs := fromTimeMs }
  let phaseEnd ← steadyNow
  let phaseEndWall ← unixNanosNow
  let s ← flushPhase s s.phase phaseEnd phaseEndWall
  let stopped ← isInterrupted
  pure
    { windowStartWall := s.phaseStartWall
      resources := s.resources
      fromTimeMs := s.fromTimeMs
      snapshotTimedOut := timedOut || (!stopped && s.phase = .during)
      unsubscribed := s.unsubscribed }

/-- The measurement without one. -/
def measureWindows (measurementStart windowStartWall fromTimeMs : Int)
    (resources : ResourceSampler) : Action host Measured := do
  let s ← windowLoop config (addDuration measurementStart config.duration)
    { nextWindow := addDuration measurementStart config.window
      windowStartWall := windowStartWall
      resources := resources }
  pure { windowStartWall := s.windowStartWall, resources := s.resources, fromTimeMs := fromTimeMs }

/-- The measurement of a run. -/
def measurement (pattern : TaskPattern) (measurementStart windowStartWall fromTimeMs : Int)
    (resources : ResourceSampler) : Action host Measured :=
  match config.timeSeriesSubscribeAfter with
  | some after =>
      measurePhases config pattern after measurementStart windowStartWall fromTimeMs resources
  | none => measureWindows config measurementStart windowStartWall fromTimeMs resources

/-! ### The end of a run -/

/-- `CALLBACK_QUIET_PERIOD`, in milliseconds. -/
def callbackQuietPeriod : Int := 500

/-- The drain has slept: it ends if the listeners were quiet for long enough. The activity seen
last, and the time since when it is quiet, are the variables of its loop. -/
def drainCheck (s : Nat × Int) : Action host (Nat × Int ⊕ Unit) := do
  let activity ← .read fun world => world.collector.activity
  if activity ≠ s.1 then do
    let quietSince ← steadyNow
    pure (.inl (activity, quietSince))
  else if ← Program.both
      (if config.role = .feed then pure true
        else .read fun world => world.collector.pending.isEmpty)
      (do pure ((← steadyNow) - s.2 ≥ nanoseconds callbackQuietPeriod)) then
    pure (.inr ())
  else pure (.inl s)

def drainRound (drainDeadline : Int) (s : Nat × Int) : Action host (Nat × Int ⊕ Unit) := do
  if ← Program.both (do pure ((← steadyNow) < drainDeadline)) (do pure !(← isInterrupted)) then do
    sleepFor 100
    drainCheck config s
  else pure (.inr ())

/-- The wait for the rest of the publications. -/
def drain : Action host Unit := do
  let drainDeadline := addDuration (← steadyNow) config.batchTimeout
  let lastActivity ← .read fun world => world.collector.activity
  let quietSince ← steadyNow
  Program.loop (drainRound config drainDeadline) (lastActivity, quietSince)

/-- The exit code of a measured run. -/
def exitCode (snapshotTimedOut : Bool) : Action host Int := do
  close
  if ← isInterrupted then pure 130 else pure (if snapshotTimedOut then 1 else 0)

/-- The last window, when there is something in it, and the totals. -/
def reportFinal (windowStartWall : Int) : Action host Unit := do
  let finalWall ← unixNanosNow
  let last ← takeWindow true
  Program.whenever last.shown (report { data := last, start := windowStartWall, stop := finalWall })
  let totals ← .read fun world => world.collector.totals
  Program.modify fun world => { world with final := some (totals, finalWall) }

/-- From the end of the measurement to the end of `main`. -/
def conclude (pattern : TaskPattern) (measurementStart : Int) (measured : Measured) :
    Action host Int := do
  let measurementFinish ← steadyNow
  let resources ← sample measured.resources
  let resourceStatistics ← finishSampler resources (measurementFinish - measurementStart)
  Program.whenever (measured.snapshotTimedOut = true) (complain
    ("TimeAndSale snapshot did not complete before the measurement boundary or the ".toList ++
      (PlainText.ofInt config.startupTimeout).text ++ " ms startup timeout".toList))
  removeControl config.task
  drain config
  Program.modify fun world =>
    { world with collector := world.collector.endMeasurement, ended := measurementFinish }
  Program.modify fun world => { world with tracker := world.tracker.endMeasurement }
  removeControl (markerSymbol config.task)
  reportFinal measured.windowStartWall
  if pattern.hasTimeSeries then do
    if host.opensSeriesReport then do
      writeSeriesReport measured.fromTimeMs measured.unsubscribed resourceStatistics
      exitCode measured.snapshotTimedOut
    else fail ("cannot open ".toList ++ config.output ++ "-time-series.csv".toList)
  else exitCode measured.snapshotTimedOut

/-! ### The start of a run -/

/-- From `beginMeasurement` on. -/
def measure (pattern : TaskPattern) (fromTimeMs : Int) : Action host Int := do
  Program.modify fun world => { world with collector := world.collector.beginMeasurement }
  Program.modify fun world => { world with tracker := world.tracker.beginMeasurement }
  let measurementStart ← steadyNow
  let resources ← createSampler
  let windowStartWall ← unixNanosNow
  Program.modify fun world =>
    { world with runStart := windowStartWall, began := measurementStart }
  let measured ← measurement config pattern measurementStart windowStartWall fromTimeMs resources
  conclude config pattern measurementStart measured

/-- `main` gives up before the measurement: it removes its symbols and closes the endpoint. -/
def leave : Action host Unit := do
  removeControl config.task
  removeControl (markerSymbol config.task)
  close

/-- The warm-up. -/
def warmUp (pattern : TaskPattern) (fromTimeMs : Int) : Action host Int := do
  if ← waitFor config.warmup then measure config pattern fromTimeMs
  else do
    leave config
    pure 130

/-- The snapshot before the measurement. -/
def prefill (pattern : TaskPattern) : Action host Int := do
  let fromTimeMs := (← unixNanosNow).tdiv 1000000
  if ← waitFor config.timeSeriesPrefill then do
    let subscribedAtNs ← unixNanosNow
    Program.modify fun world =>
      { world with tracker := world.tracker.beginSnapshot pattern.symbolCount subscribedAtNs }
    Program.modify fun world =>
      { world with fromTime := some fromTimeMs, series := pattern.symbolNames }
    if ← waitForSnapshot config.startupTimeout then warmUp config pattern fromTimeMs
    else do
      if host.opensSeriesReport then do
        writeSeriesReport fromTimeMs false {}
        leave config
        complain ("TimeAndSale snapshot timeout after ".toList ++
          (PlainText.ofInt config.startupTimeout).text ++ " ms".toList)
        pure 1
      else fail ("cannot open ".toList ++ config.output ++ "-time-series.csv".toList)
  else do
    leave config
    pure 130

/-- From the connection on. -/
def connected (pattern : TaskPattern) : Action host Int := do
  if ← waitForProfiles pattern.symbolCount config.startupTimeout then
    if pattern.hasTimeSeries = true ∧ config.timeSeriesSubscribeAfter = none then
      prefill config pattern
    else warmUp config pattern 0
  else do
    let received ← .read fun world => world.collector.profileSymbolsReceived.card
    leave config
    if ← isInterrupted then pure 130
    else do
      complain ("Initial Profile timeout: received ".toList ++ digits received ++ "/".toList ++
        digits pattern.symbolCount ++ " unique symbols within ".toList ++
        (PlainText.ofInt config.startupTimeout).text ++ " ms".toList)
      pure 1

/-- From the control subscription on. -/
def subscribed (pattern : TaskPattern) : Action host Int := do
  Program.modify fun world =>
    { world with control := [config.task, markerSymbol config.task] }
  if host.opensReports then do
    Program.modify fun world => { world with runStart := world.wall }
    Program.modify fun world => { world with connected := true }
    connected config pattern
  else fail "cannot open output CSV files".toList

/-- The symbols of the market subscription, of which there is none without market events, and
those of the Profile subscription. The latter are also the time-series symbols, later on. -/
def subscriptions (pattern : TaskPattern) : Except Text (List Text × List Text) := do
  let market ← if regularEventCount pattern = 0 then pure [] else pattern.marketSymbols
  let profiles ← pattern.symbols
  return (market, profiles)

/-- The body of `main` for an admitted task. -/
def run (pattern : TaskPattern) : Action host Int := do
  Program.modify fun world =>
    { world with
      collector := ClientRun.collector config.toConfig pattern
      heard := []
      tracker := {} }
  match subscriptions pattern with
  | .error message => fail message
  | .ok (market, profiles) => do
      Program.modify fun world => { world with market := market, profiles := profiles }
      subscribed config pattern

end Measurement

/-- `main`. -/
def main (arguments : List Text) : Action host Int :=
  match clientParseArgs arguments with
  | .error .help => pure 0
  | .error (.invalid message) => fail message
  | .ok config =>
      match config.admission with
      | .error message => fail message
      | .ok pattern => run config pattern

end Client

end LatencyTest
