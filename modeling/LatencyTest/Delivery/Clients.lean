import LatencyTest.Client.Main
import LatencyTest.Lib.Counters

/-!
The delivery clients: `main` of `src/graal_delivery_client.cpp` and `src/legacy_client.cpp`. They
count the events that reach their listeners, without looking at their timestamps. The listeners
run in threads of the API; between any two actions of `main` each of them can take any number of
its atomic steps. The operations on one counter have one order whatever the memory order is, so
that what is proved of a single counter does not depend on the interleaving of different ones.
Times are in nanoseconds, those of the configuration in milliseconds. Standard output, and
exceptions of the API, are not modelled.
-/

namespace LatencyTest.Delivery

open Lib (Program digits)
open Runner (DeliveryConfig LegacyConfig deliveryParseArgs legacyParseArgs)

/-! ### Listeners -/

/-- The counters of `CallbackState`. -/
inductive Counter where
  | callbacks
  | recurringEvents
  | quotes
  | trades
  | tradeEths
  | summaries
  | profiles
deriving DecidableEq, Repr

/-- The atomic operations of one call of a listener; `updateMaximum` is one that raises the
maximum. -/
abbrev Listener := List (Lib.Operation Counter Int)

/-- The counters, with `maximumBatch` as their maximum. -/
abbrev CallbackState := Lib.Shared Counter Int

def CallbackState.create : CallbackState := { counts := fun _ => 0, maximum := 0 }

/-- The counter of a kind of recurring events. -/
def Counter.ofKind : RegularKind → Counter
  | .quote => .quotes
  | .trade => .trades
  | .tradeEth => .tradeEths
  | .summary => .summaries

/-- `handleMarketEvents`; an event of another type has no kind. -/
def handleMarketEvents (events : List (Option RegularKind)) : Listener :=
  [.add .callbacks 1, .add .recurringEvents events.length, .raise events.length,
    .add .quotes (events.count (some .quote)), .add .trades (events.count (some .trade)),
    .add .tradeEths (events.count (some .tradeEth)),
    .add .summaries (events.count (some .summary))]

/-- The listener of the Profile subscription. -/
def handleProfiles (events : Nat) : Listener := [.add .profiles events]

/-- A call of a listener of the Graal client. -/
inductive GraalCall where
  | market (events : List (Option RegularKind))
  | profiles (events : Nat)

def GraalCall.listener : GraalCall → Listener
  | .market events => handleMarketEvents events
  | .profiles events => handleProfiles events

/-- The event type of a legacy callback: `DXF_ET_PROFILE`, that of a kind, or another one. -/
inductive LegacyType where
  | profile
  | regular (kind : RegularKind)
  | other
deriving DecidableEq, Repr

/-- A call of the listener of the legacy client. -/
structure LegacyCall where
  eventType : LegacyType
  dataCount : Int

/-- `onEvents`. -/
def LegacyCall.listener (call : LegacyCall) : Listener :=
  let count := (max 0 call.dataCount).toNat
  .add .callbacks 1 :: .raise call.dataCount ::
    match call.eventType with
    | .profile => [.add .profiles count]
    | .regular kind => [.add .recurringEvents count, .add (.ofKind kind) count]
    | .other => [.add .recurringEvents count]

/-! ### The world of a client -/

/-- A snapshot of the counters. -/
abbrev CallbackSnapshot := Counter → Nat

/-- Subtracts the counters of two snapshots. -/
def CallbackSnapshot.sub (stop start : CallbackSnapshot) : CallbackSnapshot := fun counter =>
  (stop counter + (sizeLimit - start counter)) % sizeLimit

/-- What `writeDelivery` is called with, apart from the configuration; the elapsed time is given
by the two readings of the steady clock. -/
structure DeliveryReport where
  eventCount : Nat
  publishPeriod : Int
  measured : CallbackSnapshot
  resources : ResourceStatistics
  maximumBatch : Int
  start : Int
  stop : Int
  startedSteady : Int
  endedSteady : Int

def DeliveryReport.elapsed (report : DeliveryReport) : Int :=
  report.endedSteady - report.startedSteady

/-- What `main` and its environment share. `interrupted` and `terminated` are flags, with the time
since when they are set. -/
structure World where
  steady : Int := 0
  wall : Int := 0
  interrupted : Option Int := none
  terminated : Option Int := none
  cpu : Int := 0
  rss : Nat := 0
  state : CallbackState := .create
  market : List Text := []
  profiles : List Text := []
  connected : Bool := false
  subscribed : Bool := false
  written : Option DeliveryReport := none
  errors : List Text := []

/-- What happens between two actions of `main`: a listener is called, or takes a step. -/
inductive Move (κ : Type) where
  | elapse (duration : Nat)
  | setWall (time : Int)
  | interrupt
  | terminate
  | useCpu (time : Nat)
  | resident (rss : Nat)
  | call (heard : κ)
  | advance (listener : Nat) (fails : Bool)

def move {κ : Type} (listener : κ → Listener) (world : World) : Move κ → World
  | .elapse duration => { world with steady := world.steady + duration }
  | .setWall time => { world with wall := time }
  | .interrupt =>
      { world with interrupted := some (world.interrupted.getD world.steady) }
  | .terminate =>
      { world with terminated := some (world.terminated.getD world.steady) }
  | .useCpu time => { world with cpu := world.cpu + time }
  | .resident rss => { world with rss := rss }
  | .call heard => { world with state := world.state.spawn (listener heard) }
  | .advance index fails =>
      { world with state := world.state.step sizeLimit index fails world.steady }

abbrev Action {κ : Type} (listener : κ → Listener) (α : Type) : Type := Program (move listener) α

variable {κ : Type} {listener : κ → Listener}

/-! ### Actions -/

def isInterrupted : Action listener Bool := .read fun world => world.interrupted.isSome

def isTerminated : Action listener Bool := .read fun world => world.terminated.isSome

def steadyNow : Action listener Int := .read World.steady

def wallNow : Action listener Int := .read World.wall

/-- `std::atomic::load`. -/
def load (counter : Counter) : Action listener Nat := .read fun world => world.state.counts counter

def loadMaximum : Action listener Int := .read fun world => world.state.maximum

/-- Blocks for 50 ms; more can elapse before the next action. -/
def sleep : Action listener Unit :=
  .modify fun world => { world with steady := world.steady + Client.nanoseconds 50 }

def createSampler : Action listener ResourceSampler :=
  .read fun world => .create world.cpu world.rss

def sample (sampler : ResourceSampler) : Action listener ResourceSampler :=
  .read fun world => sampler.sample world.rss

def finishSampler (processors : Nat) (sampler : ResourceSampler) (elapsed : Int) :
    Action listener ResourceStatistics :=
  .read fun world => sampler.finish world.cpu processors (elapsed / 1000000000)

/-- A line on standard error. -/
def complain (message : Text) : Action listener Unit :=
  .modify fun world => { world with errors := world.errors ++ [message] }

/-! ### What the clients share -/

/-- The settings that both clients have. -/
structure Settings where
  warmup : Int
  duration : Int
  startupTimeout : Int
  output : Text
  requireEvents : Bool

/-- The loads of a snapshot, one after the other. -/
def loadEach : List Counter → CallbackSnapshot → Action listener CallbackSnapshot
  | [], snapshot => pure snapshot
  | counter :: counters, snapshot => do
      let value ← load counter
      loadEach counters (Function.update snapshot counter value)

/-- Returns a snapshot of the counters. -/
def snapshot : Action listener CallbackSnapshot :=
  loadEach [.callbacks, .recurringEvents, .quotes, .trades, .tradeEths, .summaries, .profiles]
    fun _ => 0

/-- Whether a loop goes on. Only the legacy client looks at its connection. -/
def goesOn (watches : Bool) (deadline : Int) : Action listener Bool :=
  .both (do pure !(← isInterrupted)) <|
    .both (if watches then do pure !(← isTerminated) else pure true)
      (do pure ((← steadyNow) < deadline))

/-- Samples, when there is a sampler. -/
def sampleEach : Option ResourceSampler → Action listener (Option ResourceSampler)
  | none => pure none
  | some sampler => do pure (some (← sample sampler))

/-- Waits for a duration or an asynchronous stop condition. -/
def observe (watches : Bool) (duration : Int) (resources : Option ResourceSampler) :
    Action listener (Option ResourceSampler) := do
  let deadline := Client.addDuration (← steadyNow) duration
  let resources ← Program.loop (fun resources => do
    if ← goesOn watches deadline then do
      let resources ← sampleEach resources
      sleep
      pure (.inl resources)
    else pure (.inr resources)) resources
  sampleEach resources

/-- Waits until there are all initial Profiles and recurring events. -/
def waitForStartup (watches : Bool) (timeout : Int) (symbolCount : Nat) :
    Action listener Bool := do
  let deadline := Client.addDuration (← steadyNow) timeout
  Program.loop (fun _ : Unit => do
    if ← goesOn watches deadline then
      if ← Program.both (do pure (decide (symbolCount ≤ (← load .profiles))))
          (do pure (decide (0 < (← load .recurringEvents)))) then pure (.inr true)
      else do
        sleep
        pure (.inl ())
    else pure (.inr false)) ()

/-- The exception of a startup that timed out. -/
def startupError (symbolCount : Nat) : Action listener Text := do
  let profiles ← load .profiles
  let recurring ← load .recurringEvents
  pure ("startup timed out: profiles=".toList ++ digits profiles ++ "/".toList ++
    digits symbolCount ++ " recurring-events=".toList ++ digits recurring)

/-- The machine a client runs on. -/
structure Host where
  processors : Nat := 1
  opensOutput : Bool := true

/-- From the warm-up to the delivery file. -/
def measure (watches : Bool) (host : Host) (settings : Settings) (eventCount : Nat)
    (publishPeriod : Int) : Action listener (Except Text DeliveryReport) := do
  let _ ← observe watches settings.warmup none
  let before ← snapshot
  let startedSteady ← steadyNow
  let startedWall ← wallNow
  let resources ← createSampler
  let resources ← observe watches settings.duration (some resources)
  let endedWall ← wallNow
  let endedSteady ← steadyNow
  let after ← snapshot
  let statistics ← finishSampler host.processors (resources.getD { initialCpu := 0 })
    (endedSteady - startedSteady)
  let maximumBatch ← loadMaximum
  let report : DeliveryReport :=
    { eventCount := eventCount
      publishPeriod := publishPeriod
      measured := after.sub before
      resources := statistics
      maximumBatch := maximumBatch
      start := startedWall
      stop := endedWall
      startedSteady := startedSteady
      endedSteady := endedSteady }
  if host.opensOutput then do
    Program.modify fun world => { world with written := some report }
    pure (.ok report)
  else pure (.error ("unable to write ".toList ++ settings.output ++ "-delivery.csv".toList))

/-! ### The Graal client -/

namespace Graal

abbrev Run (α : Type) : Type := Action GraalCall.listener α

def fail (message : Text) : Run Int := do
  complain ("Graal delivery client error: ".toList ++ message)
  pure 1

def settings (config : DeliveryConfig) : Settings where
  warmup := config.warmup
  duration := config.duration
  startupTimeout := config.startupTimeout
  output := config.output
  requireEvents := config.requireEvents

/-- The recurring kinds that a task subscribes. -/
def eventTypes (pattern : TaskPattern) : List EventKind :=
  [EventKind.quote, .trade, .tradeEth, .summary].filter fun kind =>
    decide ((pattern.quantity kind).getD 0 ≠ 0)

/-- `endpoint->closeAndAwaitTermination`. -/
def close : Run Unit := .modify fun world => { world with connected := false }

/-- From the delivery file to the end of `main`. -/
def conclude (config : DeliveryConfig) (report : DeliveryReport) : Run Int := do
  close
  if ← isInterrupted then pure 130
  else if config.requireEvents = true ∧ report.measured .recurringEvents = 0 then do
    complain "Graal delivery-only client did not receive any recurring events".toList
    pure 1
  else pure 0

/-- From the connection on. -/
def connected (host : Host) (config : DeliveryConfig) (pattern : TaskPattern)
    (eventCount : Nat) : Run Int := do
  if ← waitForStartup false config.startupTimeout pattern.symbolCount then do
    match ← measure false host (settings config) eventCount pattern.publishPeriod with
    | .error message => fail message
    | .ok report => conclude config report
  else do
    close
    fail (← startupError pattern.symbolCount)

/-- The body of `main` for an admitted task. -/
def run (host : Host) (supportsMonitoring : Bool) (config : DeliveryConfig)
    (pattern : TaskPattern) : Run Int :=
  if supportsMonitoring then
    if eventTypes pattern = [] then
      fail "task has no delivery-only recurring event type".toList
    else
      match pattern.marketSymbols, pattern.symbols with
      | .error message, _ => fail message
      | .ok _, .error message => fail message
      | .ok market, .ok profiles => do
          Program.modify fun world =>
            { world with market := market, profiles := profiles, connected := true }
          match pattern.eventCount with
          | .error message => fail message
          | .ok eventCount => connected host config pattern eventCount
  else fail "endpoint builder does not support monitoring.stat".toList

/-- `main`. -/
def main (host : Host) (supportsMonitoring : Bool) (arguments : List Text) : Run Int :=
  match deliveryParseArgs arguments with
  | .error .help => pure 0
  | .error (.invalid message) => fail message
  | .ok config =>
      match config.admission with
      | .error message => fail message
      | .ok pattern => run host supportsMonitoring config pattern

end Graal

/-! ### The legacy client -/

namespace Legacy

abbrev Run (α : Type) : Type := Action LegacyCall.listener α

def settings (config : LegacyConfig) : Settings where
  warmup := config.warmup
  duration := config.duration
  startupTimeout := config.startupTimeout
  output := config.output
  requireEvents := config.requireEvents

/-- The operations of the C API that `Session::start` uses. -/
inductive Operation where
  | createConnection
  | createSubscription
  | createSubscriptionWithFlags
  | attachEventListener
  | addSymbols
deriving DecidableEq, Repr

def Operation.name : Operation → Text
  | .createConnection => "dxf_create_connection".toList
  | .createSubscription => "dxf_create_subscription".toList
  | .createSubscriptionWithFlags => "dxf_create_subscription_with_flags".toList
  | .attachEventListener => "dxf_attach_event_listener_v2".toList
  | .addSymbols => "dxf_add_symbols".toList

/-- The last error of the C API, for an operation that fails. -/
abbrev Api := Operation → Option Text

/-- `checkApi`: what an operation does, or the exception when it fails. -/
def checkApi (api : Api) (operation : Operation) (change : World → World) :
    Run (Except Text Unit) := do
  match api operation with
  | some error => pure (.error (operation.name ++ " failed: ".toList ++ error))
  | none => do
      Program.modify change
      pure (.ok ())

/-- An operation after which the session goes on, unless it throws. -/
def orThrow {α : Type} (first : Run (Except Text Unit)) (next : Run (Except Text α)) :
    Run (Except Text α) := do
  match ← first with
  | .error message => pure (.error message)
  | .ok () => next

/-- `Session::start`. -/
def start (api : Api) (config : LegacyConfig) (pattern : TaskPattern) :
    Run (Except Text Unit) :=
  orThrow (checkApi api .createConnection fun world => { world with connected := true }) <|
  orThrow (checkApi api
    (if config.contract = .default then .createSubscription else .createSubscriptionWithFlags)
    fun world => { world with subscribed := true }) <|
  orThrow (checkApi api .attachEventListener id) <|
  match pattern.symbols with
  | .error message => pure (.error message)
  | .ok symbols =>
      if symbols.length > Runner.int32Max then
        pure (.error "too many symbols for the dxFeed C API".toList)
      else
        checkApi api .addSymbols fun world =>
          { world with market := symbols, profiles := symbols }

def closeSubscription : Run Unit := do
  let subscribed ← .read World.subscribed
  Program.whenever (subscribed = true)
    (.modify fun world => { world with subscribed := false })

def closeConnection : Run Unit := do
  let connected ← .read World.connected
  Program.whenever (connected = true)
    (.modify fun world => { world with connected := false })

/-- `~Session`: closes the subscription before its connection. -/
def close : Run Unit := do
  closeSubscription
  closeConnection

/-- From the delivery file to the end of the session. -/
def conclude (config : LegacyConfig) (report : DeliveryReport) : Run Int := do
  if ← isInterrupted then pure 130
  else if ← isTerminated then pure 1
  else if config.requireEvents = true ∧ report.measured .recurringEvents = 0 then do
    complain "Legacy client did not receive any recurring events".toList
    pure 1
  else pure 0

/-- From the start of the session on. -/
def started (host : Host) (config : LegacyConfig) (pattern : TaskPattern) (eventCount : Nat) :
    Run (Except Text Int) := do
  if ← waitForStartup true config.startupTimeout pattern.symbolCount then do
    match ← measure true host (settings config) eventCount pattern.publishPeriod with
    | .error message => pure (.error message)
    | .ok report => do pure (.ok (← conclude config report))
  else do pure (.error (← startupError pattern.symbolCount))

/-- The body of `main` while there is a session. -/
def session (host : Host) (api : Api) (config : LegacyConfig) (pattern : TaskPattern) :
    Run (Except Text Int) :=
  match pattern.eventCount with
  | .error message => pure (.error message)
  | .ok eventCount =>
      orThrow (start api config pattern) (started host config pattern eventCount)

def fail (message : Text) : Run Int := do
  complain ("Legacy client error: ".toList ++ message)
  pure 1

/-- The body of `main` for an admitted task: the session ends before an exception is caught. -/
def run (host : Host) (api : Api) (config : LegacyConfig) (pattern : TaskPattern) : Run Int := do
  let result ← session host api config pattern
  close
  match result with
  | .error message => fail message
  | .ok code => pure code

/-- `main`. -/
def main (host : Host) (api : Api) (arguments : List Text) : Run Int :=
  match legacyParseArgs arguments with
  | .error .help => pure 0
  | .error (.invalid message) => fail message
  | .ok config =>
      match config.admission with
      | .error message => fail message
      | .ok pattern => run host api config pattern

end Legacy

end LatencyTest.Delivery
