import LatencyTest.Client.Session
import LatencyTest.Lib.Arguments

/-!
The command lines of the server and of the three clients: `parseArgs` of
`src/server.cpp`, `src/client.cpp`, `src/graal_delivery_client.cpp` and
`src/legacy_client.cpp`, and what their `main` checks before it connects. All four
are the same loop over the arguments; each program has its own options. Durations are
in milliseconds.
-/

namespace LatencyTest.Runner

open Lib (digits fromCharsNat fromCharsInt Options Stop)

/-! ### Values -/

/-- `parseMonitoringPeriod`: zero disables the statistics. -/
def parseMonitoringPeriod (text : Text) : Except Text (Option Int) :=
  if text = "0".toList then .ok none
  else do
    let duration ← parseDuration text
    return some duration

/-- A native event-notification batch limit. The named limits are constants of the API. -/
inductive BatchLimit where
  | optimal
  | maximum
  | number (limit : Nat)
deriving DecidableEq, Repr

/-- The largest `std::int32_t`. -/
def int32Max : Nat := 2 ^ 31 - 1

/-- Parses a named or positive numeric batch limit. -/
def parseEventsBatchLimit (value : Text) : Except Text BatchLimit :=
  if value = "optimal".toList ∨ value = "0".toList then .ok .optimal
  else if value = "maximum".toList then .ok .maximum
  else
    match (fromCharsInt int32Max value).whole with
    | none => .error ("invalid events batch limit: ".toList ++ value)
    | some result =>
        if result ≤ 0 then .error ("invalid events batch limit: ".toList ++ value)
        else .ok (.number result.toNat)

def parseRole (value : Text) : Except Text ClientRole :=
  if value = "feed".toList then .ok .feed
  else if value = "stream-feed".toList then .ok .streamFeed
  else .error ("unknown role: ".toList ++ value)

/-- A positive size, or the message of the option. -/
def parsePositive (value message : Text) : Except Text Nat :=
  match (fromCharsNat (sizeLimit - 1) value).whole with
  | none => .error message
  | some parsed => if parsed = 0 then .error message else .ok parsed

/-- Zero or a duration, as the options with a delay read it. -/
def readDelay (value : Text) : Except Text Int :=
  if value = "0".toList then .ok 0 else parseDuration value

def unknownArgument (arg : Text) : Text := "unknown argument: ".toList ++ arg

def taskError (error : ParseError) : Text :=
  "task parse error at ".toList ++ digits error.position ++ ": ".toList ++ error.message

/-! ### The server -/

structure ServerConfig where
  address : Text := ":7400".toList
  task : Option Text := none
  monitoringStat : Option Int := some 10000
  traceSubscriptions : Bool := false
  timeSeriesHistoryLimit : Nat := 1000
  activeSymbolCount : Option Nat := none
deriving DecidableEq, Repr

def serverFlag (arg : Text) : Option (ServerConfig → ServerConfig) :=
  if arg = "--trace-subscriptions".toList then
    some fun config => { config with traceSubscriptions := true }
  else none

def serverOption (arg value : Text) : Except Text (ServerConfig → ServerConfig) :=
  if arg = "--address".toList then .ok fun config => { config with address := value }
  else if arg = "--task".toList then
    match parseTask value with
    | .error error => .error (taskError error)
    | .ok _ => .ok fun config => { config with task := some value }
  else if arg = "--monitoring-stat".toList then do
    let period ← parseMonitoringPeriod value
    return fun config => { config with monitoringStat := period }
  else if arg = "--time-series-history".toList then do
    let parsed ← parsePositive value "time-series history must be a positive integer".toList
    return fun config => { config with timeSeriesHistoryLimit := parsed }
  else if arg = "--active-symbols".toList then do
    let parsed ← parsePositive value "active symbol count must be a positive integer".toList
    return fun config => { config with activeSymbolCount := some parsed }
  else .error (unknownArgument arg)

theorem serverOption_task {value : Text} {pattern : TaskPattern}
    (parsed : parseTask value = .ok pattern) :
    serverOption "--task".toList value =
      .ok fun config => { config with task := some value } := by
  rw [serverOption, if_neg (by decide), if_pos rfl, parsed]

def serverOptions : Options ServerConfig := ⟨serverFlag, serverOption⟩

/-- `parseArgs` of the server. -/
def serverParseArgs (arguments : List Text) : Except Stop ServerConfig :=
  serverOptions.parse {} arguments

/-! ### The marker-correlating client -/

structure ClientConfig extends Config where
  address : Text := "127.0.0.1:7400".toList
  warmup : Int := 30000
  window : Int := 10000
  startupTimeout : Int := 30000
  timeSeriesPrefill : Int := 2000
  listenerDelay : Int := 0
  aggregationPeriod : Int := 0
  monitoringStat : Option Int := some 10000
  output : Text := "latency".toList
  eventsBatchLimit : BatchLimit := .optimal

def clientFlag (arg : Text) : Option (ClientConfig → ClientConfig) :=
  if arg = "--time-series-unsubscribe-after-snapshot".toList then
    some fun config => { config with timeSeriesUnsubscribeAfterSnapshot := true }
  else none

/-- The options whose value is a duration. -/
def clientDuration (arg : Text) (duration : Int) : Except Text (ClientConfig → ClientConfig) :=
  if arg = "--warmup".toList then .ok fun config => { config with warmup := duration }
  else if arg = "--duration".toList then .ok fun config => { config with duration := duration }
  else if arg = "--window".toList then .ok fun config => { config with window := duration }
  else if arg = "--batch-timeout".toList then
    .ok fun config => { config with batchTimeout := duration }
  else if arg = "--startup-timeout".toList then
    .ok fun config => { config with startupTimeout := duration }
  else if arg = "--time-series-prefill".toList then
    .ok fun config => { config with timeSeriesPrefill := duration }
  else if arg = "--time-series-subscribe-after".toList then
    .ok fun config => { config with timeSeriesSubscribeAfter := some duration }
  else if arg = "--listener-delay".toList then
    .ok fun config => { config with listenerDelay := duration }
  else if arg = "--aggregation-period".toList then
    .ok fun config => { config with aggregationPeriod := duration }
  else .error (unknownArgument arg)

def clientOption (arg value : Text) : Except Text (ClientConfig → ClientConfig) :=
  if arg = "--address".toList then .ok fun config => { config with address := value }
  else if arg = "--task".toList then .ok fun config => { config with task := value }
  else if arg = "--output".toList then .ok fun config => { config with output := value }
  else if arg = "--monitoring-stat".toList then do
    let period ← parseMonitoringPeriod value
    return fun config => { config with monitoringStat := period }
  else if arg = "--role".toList then do
    let role ← parseRole value
    return fun config => { config with role := role }
  else if arg = "--events-batch-limit".toList then do
    let limit ← parseEventsBatchLimit value
    return fun config => { config with eventsBatchLimit := limit }
  else if arg = "--aggregation-period".toList ∧ value = "0".toList then
    .ok fun config => { config with aggregationPeriod := 0 }
  else if arg = "--listener-delay".toList ∧ value = "0".toList then
    .ok fun config => { config with listenerDelay := 0 }
  else do
    -- the value is read before the name is known to be an option
    let duration ← parseDuration value
    clientDuration arg duration

def clientOptions : Options ClientConfig := ⟨clientFlag, clientOption⟩

/-- `parseArgs` of the marker-correlating client. -/
def clientParseArgs (arguments : List Text) : Except Stop ClientConfig :=
  clientOptions.parse {} arguments

theorem clientOption_listenerDelay (value : Text) :
    clientOption "--listener-delay".toList value = (do
      let delay ← readDelay value
      return fun config => { config with listenerDelay := delay }) := by
  by_cases zero : value = "0".toList
  · subst zero
    rfl
  · have nonzero : ∀ name : Text, ¬ ("--listener-delay".toList = name ∧ value = "0".toList) :=
      fun _ both => zero both.2
    rw [clientOption, readDelay, if_neg zero, if_neg (nonzero _), if_neg (nonzero _)]
    rfl

theorem clientOption_aggregationPeriod (value : Text) :
    clientOption "--aggregation-period".toList value = (do
      let period ← readDelay value
      return fun config => { config with aggregationPeriod := period }) := by
  by_cases zero : value = "0".toList
  · subst zero
    rfl
  · have nonzero : ∀ name : Text,
        ¬ ("--aggregation-period".toList = name ∧ value = "0".toList) :=
      fun _ both => zero both.2
    rw [clientOption, readDelay, if_neg zero, if_neg (nonzero _), if_neg (nonzero _)]
    rfl

/-! ### The delivery clients -/

structure DeliveryConfig where
  address : Text := "127.0.0.1:7400".toList
  task : Text := "SUB:T1@100ms".toList
  warmup : Int := 2000
  duration : Int := 5000
  startupTimeout : Int := 30000
  monitoringStat : Option Int := none
  output : Text := "graal-delivery".toList
  role : ClientRole := .streamFeed
  eventsBatchLimit : BatchLimit := .optimal
  aggregationPeriod : Int := 0
  requireEvents : Bool := false
deriving DecidableEq, Repr

def deliveryFlag (arg : Text) : Option (DeliveryConfig → DeliveryConfig) :=
  if arg = "--require-events".toList then some fun config => { config with requireEvents := true }
  else none

def deliveryOption (arg value : Text) : Except Text (DeliveryConfig → DeliveryConfig) :=
  if arg = "--address".toList then .ok fun config => { config with address := value }
  else if arg = "--task".toList then .ok fun config => { config with task := value }
  else if arg = "--output".toList then .ok fun config => { config with output := value }
  else if arg = "--role".toList then do
    let role ← parseRole value
    return fun config => { config with role := role }
  else if arg = "--events-batch-limit".toList then do
    let limit ← parseEventsBatchLimit value
    return fun config => { config with eventsBatchLimit := limit }
  else if arg = "--aggregation-period".toList ∧ value = "0".toList then
    .ok fun config => { config with aggregationPeriod := 0 }
  else if arg = "--monitoring-stat".toList then do
    let period ← parseMonitoringPeriod value
    return fun config => { config with monitoringStat := period }
  else if arg = "--warmup".toList then do
    let duration ← parseDuration value
    return fun config => { config with warmup := duration }
  else if arg = "--duration".toList then do
    let duration ← parseDuration value
    return fun config => { config with duration := duration }
  else if arg = "--startup-timeout".toList then do
    let duration ← parseDuration value
    return fun config => { config with startupTimeout := duration }
  else if arg = "--aggregation-period".toList then do
    let duration ← parseDuration value
    return fun config => { config with aggregationPeriod := duration }
  else .error (unknownArgument arg)

theorem deliveryOption_aggregationPeriod (value : Text) :
    deliveryOption "--aggregation-period".toList value = (do
      let period ← readDelay value
      return fun config => { config with aggregationPeriod := period }) := by
  by_cases zero : value = "0".toList
  · subst zero
    rfl
  · have nonzero : ∀ name : Text,
        ¬ ("--aggregation-period".toList = name ∧ value = "0".toList) :=
      fun _ both => zero both.2
    rw [deliveryOption, readDelay, if_neg zero, if_neg (nonzero _)]
    rfl

def deliveryOptions : Options DeliveryConfig := ⟨deliveryFlag, deliveryOption⟩

/-- `parseArgs` of the minimal Graal client. -/
def deliveryParseArgs (arguments : List Text) : Except Stop DeliveryConfig :=
  deliveryOptions.parse {} arguments

/-- The checks of its `main` on the task. -/
def DeliveryConfig.admission (config : DeliveryConfig) : Except Text TaskPattern :=
  match parseTask config.task with
  | .error error => .error (taskError error)
  | .ok pattern =>
      if pattern.hasTimeSeries then
        .error "TimeAndSale is not supported by the delivery-only client".toList
      else .ok pattern

/-- A subscription contract of the C API. -/
inductive Contract where
  | default
  | ticker
  | stream
deriving DecidableEq, Repr

def parseContract (value : Text) : Except Text Contract :=
  if value = "default".toList then .ok .default
  else if value = "ticker".toList then .ok .ticker
  else if value = "stream".toList then .ok .stream
  else .error ("unknown subscription contract: ".toList ++ value)

structure LegacyConfig where
  address : Text := "127.0.0.1:7400".toList
  task : Text := "SUB:T1@100ms".toList
  warmup : Int := 2000
  duration : Int := 5000
  startupTimeout : Int := 30000
  output : Text := "legacy".toList
  contract : Contract := .default
  requireEvents : Bool := false
deriving DecidableEq, Repr

def legacyFlag (arg : Text) : Option (LegacyConfig → LegacyConfig) :=
  if arg = "--require-events".toList then some fun config => { config with requireEvents := true }
  else none

def legacyOption (arg value : Text) : Except Text (LegacyConfig → LegacyConfig) :=
  if arg = "--address".toList then .ok fun config => { config with address := value }
  else if arg = "--task".toList then .ok fun config => { config with task := value }
  else if arg = "--warmup".toList then do
    let duration ← parseDuration value
    return fun config => { config with warmup := duration }
  else if arg = "--duration".toList then do
    let duration ← parseDuration value
    return fun config => { config with duration := duration }
  else if arg = "--startup-timeout".toList then do
    let duration ← parseDuration value
    return fun config => { config with startupTimeout := duration }
  else if arg = "--output".toList then .ok fun config => { config with output := value }
  else if arg = "--contract".toList then do
    let contract ← parseContract value
    return fun config => { config with contract := contract }
  else .error (unknownArgument arg)

def legacyOptions : Options LegacyConfig := ⟨legacyFlag, legacyOption⟩

/-- `parseArgs` of the legacy client. -/
def legacyParseArgs (arguments : List Text) : Except Stop LegacyConfig :=
  legacyOptions.parse {} arguments

/-- The check of its `main` on the task. -/
def LegacyConfig.admission (config : LegacyConfig) : Except Text TaskPattern :=
  match parseTask config.task with
  | .error error => .error (taskError error)
  | .ok pattern => .ok pattern

end LatencyTest.Runner
