import LatencyTest.Lib.Interactive
import LatencyTest.Report.Columns
import LatencyTest.Report.Files
import LatencyTest.Runner.Ownership
import LatencyTest.Runner.Vectors

/-!
The execution of a suite: `runBenchmarkSuite` of `src/runner.cpp`, with `runAndWait` and
`waitForText`. The environment changes the files of the run directory, as the children do,
moves the clock and may interrupt; it can do so between any two actions. What `waitpid` finds is
up to the children (`Behavior`). Files are named relative to the run directory; a rename that
fails is one that the environment undoes. Times are in nanoseconds. The metadata in
`environment.txt`, and exceptions of `std::filesystem`, are not modelled.
-/

namespace LatencyTest.Runner

open Lib (Program digits)
open Lib.Options (Written)

/-- `std::filesystem::path::operator/`. -/
def joinPath (path name : Text) : Text :=
  if name.head? = some '/' then name
  else if path = [] ∨ path.getLast? = some '/' then path ++ name
  else path ++ '/' :: name

/-- A path as a stream prints it. -/
def quotedPath (path : Text) : Text :=
  '"' :: path.flatMap (fun c => if c = '"' ∨ c = '\\' then ['\\', c] else [c]) ++ ['"']

/-- What a child is started with: the executable, its arguments, and the log of its output. -/
structure Command where
  executable : Text
  arguments : List Text
  log : Text
deriving DecidableEq, Repr

/-- A row of the manifest. -/
structure Row where
  run : BenchmarkRun
  passed : Bool
  clientExit : Int
deriving DecidableEq, Repr

def manifestHeader : Text :=
  ("profile,repetition,task,client_implementation,client_role,events_batch_limit," ++
    "aggregation_period,time_series_prefill,time_series_history,time_series_subscribe_after," ++
    "time_series_unsubscribe_after_snapshot,status,client_exit_code").toList

/-- A line of the manifest, without its end. -/
def Row.line (row : Row) : Text :=
  csv row.run.profile ++ ',' :: digits row.run.repetition ++ ',' :: csv row.run.task ++
    ',' :: row.run.clientImplementation ++ ',' :: row.run.clientRole ++
    ',' :: row.run.eventsBatchLimit ++ ',' :: row.run.aggregationPeriod ++
    ',' :: row.run.timeSeriesPrefill ++ ',' :: digits row.run.timeSeriesHistoryLimit ++
    ',' :: csv (row.run.timeSeriesSubscribeAfter.getD []) ++
    ',' :: (if row.run.timeSeriesUnsubscribeAfterSnapshot then "1".toList else "0".toList) ++
    ',' :: (if row.passed then "passed".toList else "failed".toList) ++
    ',' :: (PlainText.ofInt row.clientExit).text

namespace Execution

/-- The runner between two actions: the operating system with the commands of the started
children, `interrupted`, the clock, the run directory, the lines of the manifest, and the lines
of both standard streams. -/
structure World where
  os : Os := {}
  commands : List Command := []
  interrupted : Bool := false
  steady : Int := 0
  directory : Directory := ∅
  manifest : List Text := []
  output : List Text := []
  errors : List Text := []

/-- What the environment does. -/
inductive Move where
  | interrupt
  | elapse (duration : Nat)
  | write (name : Text) (entry : Entry)
  | remove (name : Text)

def move (world : World) : Move → World
  | .interrupt => { world with interrupted := true }
  | .elapse duration => { world with steady := world.steady + duration }
  | .write name entry => { world with directory := world.directory.insert name entry }
  | .remove name => { world with directory := world.directory.erase name }

/-- The machine that runs the suite: how the children behave, whether a log can be opened, the
id that `fork` has for a new child, the names in the binary directory, the text of the suite
configuration, and whether the run directory is created and the configuration copied. -/
structure Host where
  behavior : Behavior
  opens : World → Text → Bool
  forks : World → Option Int
  fresh : ∀ world process, forks world = some process →
    0 < process ∧ world.os.children process = none
  binaries : List Text
  configuration : Option Text
  runDirectory : Text
  createsDirectory : Except Text Unit
  copiesConfiguration : Except Text Unit

/-- Programs of the runner. -/
abbrev Action (α : Type) : Type := Program move α

def nanoseconds (milliseconds : Int) : Int := milliseconds * 1000000

/-! ### Actions -/

def isInterrupted : Action Bool := .read World.interrupted

def steadyNow : Action Int := .read World.steady

def sleepFor (milliseconds : Nat) : Action Unit :=
  .modify fun world => { world with steady := world.steady + nanoseconds milliseconds }

def complain (message : Text) : Action Unit :=
  .modify fun world => { world with errors := world.errors ++ [message] }

def print (line : Text) : Action Unit :=
  .modify fun world => { world with output := world.output ++ [line] }

/-- Writes a file. -/
def write (name contents : Text) : Action Unit :=
  .modify fun world =>
    { world with directory := world.directory.insert name (.regular contents) }

/-- The text of an entry that can be read. -/
def Entry.text : Option Entry → Text
  | some (.regular contents) => contents
  | _ => []

/-- Appends to a file. -/
def append (name contents : Text) : Action Unit :=
  .modify fun world =>
    { world with
      directory := world.directory.insert name
        (.regular (Entry.text (world.directory.lookup name) ++ contents)) }

/-- Whether a file exists. -/
def fileExists (name : Text) : Action Bool :=
  .read fun world => (world.directory.lookup name).isSome

/-- Checks whether a text file currently contains a marker string. -/
def containsText (name needle : Text) : Action Bool :=
  .read fun world => decide (needle <:+: Entry.text (world.directory.lookup name))

/-- Adds a line to the manifest. -/
def record (line : Text) : Action Unit :=
  .modify fun world => { world with manifest := world.manifest ++ [line] }

section Children

variable (host : Host)

/-- `ChildProcess::start`. -/
def launch (command : Command) : Action (Except Text ChildProcess) :=
  .act fun world =>
    if host.opens world command.log then
      let world := { world with directory := world.directory.insert command.log (.regular []) }
      match host.forks world with
      | none => (.error ("Unable to start ".toList ++ command.executable), world)
      | some process =>
          let started := start host.behavior world.os process
          (.ok started.self,
            { world with os := started.os, commands := world.commands ++ [command] })
    else (.error ("Unable to create log ".toList ++ command.log), world)

/-- A member function of a child process. -/
def member {α : Type} (function : Invocation → α × Invocation) (self : ChildProcess) :
    Action (α × ChildProcess) :=
  .act fun world =>
    let (a, c) := function ⟨world.os, self⟩
    ((a, c.self), { world with os := c.os })

def running (self : ChildProcess) : Action (Bool × ChildProcess) :=
  member (Invocation.running host.behavior) self

def wait (self : ChildProcess) : Action (Int × ChildProcess) :=
  member (Invocation.wait host.behavior) self

def terminate (self : ChildProcess) : Action (Unit × ChildProcess) :=
  member (fun c => ((), Invocation.terminate host.behavior c)) self

/-- The destructor. -/
def destroy (self : ChildProcess) : Action Unit := do
  let _ ← terminate host self
  pure ()

/-! ### Waiting for a child -/

def awaitRound (self : ChildProcess) : Action (ChildProcess ⊕ ChildProcess) := do
  if ← isInterrupted then pure (.inr self)
  else do
    let (alive, self) ← running host self
    if alive then do
      sleepFor 100
      pure (.inl self)
    else pure (.inr self)

/-- Runs a child to its end, or terminates it on an interrupt. -/
def attend (self : ChildProcess) : Action Int := do
  let self ← Program.loop (awaitRound host) self
  if ← isInterrupted then do
    let (_, self) ← terminate host self
    destroy host self
    pure 130
  else do
    let (code, self) ← wait host self
    destroy host self
    pure code

/-- `runAndWait`. -/
def runAndWait (command : Command) : Action (Except Text Int) := do
  match ← launch host command with
  | .error message => pure (.error message)
  | .ok self => do
      let code ← attend host self
      pure (.ok code)

def textRound (name text : Text) (deadline : Int) (self : ChildProcess) :
    Action (ChildProcess ⊕ Bool × ChildProcess) := do
  if ← Program.both (do pure !(← isInterrupted)) (do pure ((← steadyNow) < deadline)) then do
    let (alive, self) ← running host self
    if alive then do
      if ← containsText name text then pure (.inr (true, self))
      else do
        sleepFor 100
        pure (.inl self)
    else pure (.inr (false, self))
  else pure (.inr (false, self))

/-- Waits for a log marker while also detecting process exit and interruption. -/
def waitForText (self : ChildProcess) (name text : Text) (timeout : Int) :
    Action (Bool × ChildProcess) := do
  let deadline := (← steadyNow) + nanoseconds timeout
  Program.loop (textRound host name text deadline) self

/-! ### One run -/

variable (suite : BenchmarkSuite) (binaryDirectory : Text)

/-- The path of a file of the run directory, as a child gets it. -/
def Host.path (name : Text) : Text := joinPath host.runDirectory name

def BenchmarkRun.serverLog (run : BenchmarkRun) : Text := run.filePrefix ++ serverLogSuffix

def BenchmarkRun.clientLog (run : BenchmarkRun) : Text := run.filePrefix ++ clientLogSuffix

/-- The file without which a run has not passed. -/
def BenchmarkRun.resultFile (run : BenchmarkRun) : Text :=
  run.filePrefix ++ if run.clientImplementation = graal then summarySuffix else deliverySuffix

def serverCommand (run : BenchmarkRun) : Command where
  executable := joinPath binaryDirectory "latency_server".toList
  arguments := (serverLine suite run).flatMap Written.texts
  log := BenchmarkRun.serverLog run

def clientCommand (run : BenchmarkRun) : Command :=
  let output := host.path run.filePrefix
  let log := BenchmarkRun.clientLog run
  if run.clientImplementation = legacy then
    ⟨joinPath binaryDirectory "latency_legacy_client".toList,
      (legacyLine suite run output).flatMap Written.texts, log⟩
  else if run.clientImplementation = graalDelivery then
    ⟨joinPath binaryDirectory "latency_graal_delivery_client".toList,
      (deliveryLine suite run output).flatMap Written.texts, log⟩
  else
    ⟨joinPath binaryDirectory "latency_client".toList,
      (clientLine suite run output).flatMap Written.texts, log⟩

def analyzerLog : Text := "analyzer.log".toList

def analyzerCommand : Command where
  executable := joinPath binaryDirectory "latency_analyzer".toList
  arguments :=
    ["--run-directory".toList, host.runDirectory, "--monitoring-period".toList,
      suite.monitoringPeriod]
  log := analyzerLog

def runnerError (message : Text) : Text := "Runner error: ".toList ++ message ++ ['\n']

def summaryRound (log : Text) (deadline : Int) (_ : Unit) : Action (Unit ⊕ Unit) := do
  if ← Program.both (do pure ((← steadyNow) < deadline))
      (do pure !(← containsText log "Generator summary".toList)) then do
    sleepFor 100
    pure (.inl ())
  else pure (.inr ())

/-- Waits for the summary of the server. -/
def awaitSummary (log : Text) : Action Unit := do
  let deadline := (← steadyNow) + nanoseconds 5000
  Program.loop (summaryRound log deadline) ()

/-- The end of the client: whether the run has passed, and `clientExit`. -/
def judge (run : BenchmarkRun) : Except Text Int → Action (Bool × Int)
  | .error message => do
      append (BenchmarkRun.clientLog run) (runnerError message)
      pure (false, -1)
  | .ok code => do
      if ← Program.both (pure (code = 0)) (fileExists (BenchmarkRun.resultFile run)) then do
        Program.whenever (run.clientImplementation = graal)
          (awaitSummary (BenchmarkRun.serverLog run))
        pure (true, code)
      else pure (false, code)

/-- The client of a run, if the server is ready. -/
def runClient (run : BenchmarkRun) (ready : Bool) : Action (Bool × Int) :=
  if ready then do
    let result ← runAndWait host (clientCommand host suite binaryDirectory run)
    judge run result
  else do
    write (BenchmarkRun.clientLog run) (runnerError "latency server did not become ready".toList)
    pure (false, -1)

/-- The server and the client of a run: whether it has passed, `clientExit`, and the object of
the server. -/
def serve (run : BenchmarkRun) : Action (Row × Option ChildProcess) := do
  match ← launch host (serverCommand suite binaryDirectory run) with
  | .error message => do
      write (BenchmarkRun.clientLog run) (runnerError message)
      pure (⟨run, false, -1⟩, none)
  | .ok server => do
      let (ready, server) ← waitForText host server (BenchmarkRun.serverLog run)
        "Latency server listening on".toList 30000
      let (passed, clientExit) ← runClient host suite binaryDirectory run ready
      let (_, server) ← terminate host server
      pure (⟨run, passed, clientExit⟩, some server)

/-- A second of the pause, which ends with an interrupt. -/
def cooldownRound (seconds second : Nat) : Action (Nat ⊕ Unit) :=
  if second < seconds then do
    if ← isInterrupted then pure (.inr ())
    else do
      sleepFor 1000
      pure (.inl (second + 1))
  else pure (.inr ())

/-- The pause between two runs, in seconds. -/
def cooldown (seconds : Nat) : Action Unit := Program.loop (cooldownRound seconds) 0

/-- A run of the plan, followed by others if it is not the last one; whether it has failed. -/
def runOne (run : BenchmarkRun) (others : List BenchmarkRun) : Action Bool := do
  print ("Starting ".toList ++ run.filePrefix ++ " with ".toList ++ run.clientImplementation ++
    " client (".toList ++ run.task ++ ")".toList)
  let (row, server) ← serve host suite binaryDirectory run
  Program.whenever (row.passed = false)
    (.modify fun world => { world with directory := makePartial run.filePrefix world.directory })
  record row.line
  Program.whenever (others ≠ []) (cooldown suite.cooldownSeconds)
  match server with
  | none => pure !row.passed
  | some server => do
      destroy host server
      pure !row.passed

/-- The next run of the plan; the state is `failed` and the rest of the plan. -/
def planRound (s : Bool × List BenchmarkRun) : Action (Bool × List BenchmarkRun ⊕ Bool) :=
  match s with
  | (failed, []) => pure (.inr failed)
  | (failed, run :: others) => do
      if ← isInterrupted then pure (.inr failed)
      else do
        let runFailed ← runOne host suite binaryDirectory run others
        pure (.inl (failed || runFailed, others))

/-- The loop over the plan. -/
def runAll (plan : List BenchmarkRun) : Action Bool :=
  Program.loop (planRound host suite binaryDirectory) (false, plan)

/-! ### The suite -/

/-- Whether there is a file for the analyzer. Names with a slash are those of other directories. -/
def hasResult (directory : Directory) : Bool :=
  directory.entries.any fun file =>
    !file.1.contains '/' && (endsWith file.1 summarySuffix || endsWith file.1 deliverySuffix)

/-- The analysis of the results; whether it has failed. -/
def analyze (results : Bool) : Action Bool := do
  if ← isInterrupted then do
    write analyzerLog "Benchmark interrupted before analysis\n".toList
    pure false
  else if results then do
    match ← runAndWait host (analyzerCommand host suite binaryDirectory) with
    | .ok code => pure (code ≠ 0)
    | .error _ => pure true
  else do
    write analyzerLog "No successful benchmark runs to analyze\n".toList
    pure true

/-- From the creation of the manifest on. -/
def execute (plan : List BenchmarkRun) : Action Int := do
  record manifestHeader
  let failed ← runAll host suite binaryDirectory plan
  let stopped ← isInterrupted
  let results ← .read fun world => hasResult world.directory
  let unanalyzed ← analyze host suite binaryDirectory results
  print ("Benchmark results: ".toList ++ quotedPath host.runDirectory)
  pure (if failed || stopped || unanalyzed then 1 else 0)

/-- From the installation of the signal handlers on. -/
def begin (plan : List BenchmarkRun) : Action Int := do
  Program.modify fun world => { world with interrupted := false }
  match host.createsDirectory with
  | .error message => do
      complain ("Unable to create result directory: ".toList ++ message)
      pure 1
  | .ok () =>
      match host.copiesConfiguration with
      | .error message => do
          complain ("Unable to copy suite configuration: ".toList ++ message)
          pure 1
      | .ok () => execute host suite binaryDirectory plan

def trueOrFalse (value : Bool) : Text := if value then "true".toList else "false".toList

/-- The line of a run in a dry run. -/
def dryLine (run : BenchmarkRun) : Text :=
  run.filePrefix ++ " : ".toList ++ run.task ++ " ; client=".toList ++ run.clientImplementation ++
    " role=".toList ++ run.clientRole ++ " events-batch-limit=".toList ++ run.eventsBatchLimit ++
    " aggregation-period=".toList ++ run.aggregationPeriod ++ " listener-delay=".toList ++
    run.listenerDelay ++ " startup-timeout=".toList ++ suite.startupTimeout ++
    " time-series-prefill=".toList ++ run.timeSeriesPrefill ++ " time-series-history=".toList ++
    digits run.timeSeriesHistoryLimit ++ " time-series-subscribe-after=".toList ++
    run.timeSeriesSubscribeAfter.getD "disabled".toList ++
    " time-series-unsubscribe-after-snapshot=".toList ++
    trueOrFalse run.timeSeriesUnsubscribeAfterSnapshot ++ " active-symbols=".toList ++
    (suite.activeSymbolCount.elim "all".toList digits) ++ " warmup=".toList ++ suite.warmup ++
    " duration=".toList ++ suite.duration

/-- The lines of a dry run. -/
def dryRunLines (plan : List BenchmarkRun) : List Text :=
  plan.map (dryLine suite) ++
    ["Analyzer: ".toList ++ joinPath binaryDirectory "latency_analyzer".toList ++
      " --monitoring-period ".toList ++ suite.monitoringPeriod]

/-- The executables that a plan needs, with what is said of a missing one. -/
def requiredBinaries (plan : List BenchmarkRun) : List (Text × Text) :=
  let needs (implementation : Text) : Bool :=
    plan.any fun run => run.clientImplementation = implementation
  [("latency_server".toList, []), ("latency_analyzer".toList, [])] ++
    (if needs graal then [("latency_client".toList, [])] else []) ++
    (if needs legacy then
      [("latency_legacy_client".toList, " (configure with LATENCY_BUILD_LEGACY_CLIENT=ON)".toList)]
      else []) ++
    (if needs graalDelivery then [("latency_graal_delivery_client".toList, [])] else [])

/-- The message for the first missing executable. -/
def missingBinary (plan : List BenchmarkRun) : Option Text :=
  ((requiredBinaries plan).find? fun binary => !host.binaries.contains binary.1).map fun binary =>
    "Missing benchmark binary: ".toList ++ quotedPath (joinPath binaryDirectory binary.1) ++
      binary.2

end Children

/-- `readBenchmarkSuite`. -/
def readBenchmarkSuite (host : Host) (configPath : Text) : Except Text BenchmarkSuite :=
  match host.configuration with
  | none => .error ("Unable to read suite configuration: ".toList ++ configPath)
  | some text => parseBenchmarkSuite text

/-- The suite is refused before anything is done. -/
def refused (message : Text) : Action Int := do
  complain message
  pure 2

/-- A plan that was built. -/
def runPlan (host : Host) (suite : BenchmarkSuite) (binaryDirectory : Text)
    (plan : List BenchmarkRun) (dryRun : Bool) : Action Int :=
  match missingBinary host binaryDirectory plan with
  | some message => refused message
  | none =>
      if dryRun then do
        Program.modify fun world =>
          { world with output := world.output ++ dryRunLines suite binaryDirectory plan }
        pure 0
      else begin host suite binaryDirectory plan

/-- A program that throws nothing. -/
def returned (program : Action Int) : Action (Except Text Int) := do
  let code ← program
  pure (.ok code)

/-- `runBenchmarkSuite`; a plan that cannot be reserved is an exception. -/
def runBenchmarkSuite (host : Host) (binaryDirectory configPath : Text)
    (overrides : BenchmarkOverrides) (dryRun : Bool) : Action (Except Text Int) :=
  match readBenchmarkSuite host configPath with
  | .error message => returned (refused message)
  | .ok suite =>
      if overrides.clientRole.any fun role => !validRole role then
        returned (refused "--client-role must be feed or stream-feed".toList)
      else
        match reservedBenchmarkPlan suite overrides with
        | .error message => pure (.error message)
        | .ok plan => returned (runPlan host suite binaryDirectory plan dryRun)

end Execution

end LatencyTest.Runner
