import LatencyTest.Server.History

/-!
The worker loop of the publisher (`Generator::run`). One round of the loop
either handles the command at the front of the queue or, when the queue is empty
and the deadline of the active task has passed, publishes. `machine` takes these
rounds as inputs, in any order, with the clock values they read; stopping the
worker is the end of a run. Waiting and logging are not modelled.
-/

namespace LatencyTest

/-! ### Commands -/

/-- Identifies a state transition consumed by the generator worker. -/
inductive CommandType where
  | start
  | stop
  | symbolsAdded
  | symbolsRemoved
  | subscriptionClosed
deriving DecidableEq, Repr

/-- One control or subscription update. -/
structure Command where
  type : CommandType
  text : Text := []
  subscription : SubscriptionKind := .quote
  symbols : List Text := []
  timeSeriesRequests : List (Text × Int) := []
deriving DecidableEq

/-- A symbol of an observed subscription. -/
inductive SymbolWrapper where
  | string (symbol : Text)
  | timeSeries (eventSymbol : Text) (fromTime : Int)
  | other
deriving DecidableEq

/-- The command of a task-control request. -/
def enqueueControl (type : CommandType) (text : Text) : Command := { type := type, text := text }

/-- The event symbol under which a symbol is observed. -/
def SymbolWrapper.name : SymbolWrapper → Option Text
  | .string symbol => some symbol
  | .timeSeries eventSymbol _ => some eventSymbol
  | .other => none

/-- The request a symbol carries. -/
def SymbolWrapper.request : SymbolWrapper → Option (Text × Int)
  | .timeSeries eventSymbol fromTime => some (eventSymbol, fromTime)
  | _ => none

/-- The command for symbols added to or removed from an observable subscription. -/
def enqueueSymbols (type : CommandType) (subscription : SubscriptionKind)
    (symbols : List SymbolWrapper) : Command where
  type := type
  subscription := subscription
  symbols := symbols.filterMap SymbolWrapper.name
  timeSeriesRequests := symbols.filterMap SymbolWrapper.request

/-- The command for the closure of an observable subscription. -/
def enqueueSubscriptionClosed (subscription : SubscriptionKind) : Command where
  type := .subscriptionClosed
  subscription := subscription

/-! ### State -/

/-- The generator. `active`, `pending` and `nextTick` are the variables of `run`;
`nextTick` is in nanoseconds of the steady clock. -/
structure Generator where
  timeSeriesHistoryLimit : Nat
  activeSymbolCount : Option Nat
  subscribedSymbols : SubscriptionKind → Finset Text := fun _ => ∅
  active : Option ActiveTask := none
  pending : Option PendingTask := none
  nextTick : Int := 0

/-- A call of `publishEvents`, by where it is made. A batch also names the
records that were retained while it was prepared. -/
inductive Output where
  | profiles (events : List Event)
  | snapshot (events : List TimeAndSale)
  | batch (retained : List (Text × TimeAndSaleRecord)) (events : List Event)

namespace Generator

def containsAll (g : Generator) (kind : SubscriptionKind) (symbols : List Text) : Bool :=
  symbols.all fun symbol => symbol ∈ g.subscribedSymbols kind

def subscriptionsReady (g : Generator) (pending : PendingTask) : Bool :=
  g.containsAll .profile pending.profileSymbols &&
    pending.pattern.items.all fun item =>
      item.kind = .timeAndSale || g.containsAll (subscriptionKind item.kind) pending.marketSymbols

/-! ### Rounds of the loop -/

/-- `startWhenReady`: activates the pending task once its subscriptions are
ready. What it allocates may throw; the task is then dropped. -/
def startWhenReady (g : Generator) (now : Int) : Generator × List Output :=
  match g.pending, g.active with
  | some pending, none =>
      if ¬ g.subscriptionsReady pending then (g, [])
      else
        match makeInitialEvents pending.pattern with
        | .error _ => ({ g with pending := none }, [])
        | .ok initialEvents =>
            let outputs := if initialEvents = [] then [] else [.profiles initialEvents]
            match activate pending with
            | .error _ => ({ g with pending := none }, outputs)
            | .ok active =>
                ({ g with active := some active, pending := none, nextTick := now }, outputs)
  | _, _ => (g, [])

/-- The pending task of an accepted start request. -/
def makePending (configured : Option Nat) (text : Text) (pattern : TaskPattern) :
    Except Text PendingTask := do
  let activeSymbolCount ← resolveActiveSymbolCount configured pattern
  let profileSymbols ← pattern.symbols
  let marketSymbols ← pattern.marketSymbols
  return ⟨text, pattern, activeSymbolCount, profileSymbols, marketSymbols⟩

/-- START: one task at a time. -/
def handleStart (g : Generator) (text : Text) : Generator :=
  match parseTask text with
  | .error _ => g
  | .ok pattern =>
      if g.active.isNone && g.pending.isNone then
        match makePending g.activeSymbolCount text pattern with
        | .error _ => g
        | .ok pending => { g with pending := some pending }
      else g

/-- Whether a STOP with this text is for a task. -/
def stops (text command : Text) : Bool := text = [] || command = text

/-- STOP: an empty text stops whatever is current. -/
def handleStop (g : Generator) (text : Text) : Generator :=
  { g with
    pending := g.pending.filter fun pending => !stops text pending.command
    active := g.active.filter fun active => !stops text active.command }

/-- The symbols of a subscription after an update. -/
def updateSymbols (subscribed : Finset Text) (command : Command) : Finset Text :=
  match command.type with
  | .symbolsAdded => subscribed ∪ command.symbols.toFinset
  | .symbolsRemoved => subscribed \ command.symbols.toFinset
  | .subscriptionClosed => ∅
  | _ => subscribed

/-- The subscription updates. Requests for snapshots are answered at once while a
task is active. -/
def handleSubscription (g : Generator) (command : Command) : Generator × List Output :=
  let g := { g with
    subscribedSymbols := Function.update g.subscribedSymbols command.subscription
      (updateSymbols (g.subscribedSymbols command.subscription) command) }
  match g.active with
  | none => (g, [])
  | some active =>
      if command.type = .symbolsAdded ∧ command.subscription = .timeAndSale ∧
          command.timeSeriesRequests ≠ [] then
        let snapshot := publishTimeSeriesSnapshots active command.timeSeriesRequests
        (g, if snapshot.events = [] then [] else [.snapshot snapshot.events])
      else (g, [])

/-- A command before `startWhenReady`. -/
def dispatch (g : Generator) (command : Command) : Generator × List Output :=
  match command.type with
  | .start => (g.handleStart command.text, [])
  | .stop => (g.handleStop command.text, [])
  | _ => g.handleSubscription command

/-- A round that handles a command. -/
def handleCommand (g : Generator) (command : Command) (now : Int) : Generator × List Output :=
  let (g, outputs) := g.dispatch command
  let (g, started) := g.startWhenReady now
  (g, outputs ++ started)

/-- The deadline after a publication, and how many deadlines are skipped so as not
to catch up in a burst. -/
def nextDeadline (nextTick periodNs now : Int) : Option (Int × Int) :=
  let nextTick := nextTick + periodNs
  if nextTick < now then
    if periodNs = 0 then none
    else
      let skipped := (now - nextTick).tdiv periodNs + 1
      some (nextTick + periodNs * skipped, skipped)
  else some (nextTick, 0)

/-- A round without a command. `now` is read before and `later` after publishing. -/
def tick (api : DxApi) (g : Generator) (nowNs now later : Int) :
    Option (Generator × List Output) :=
  match g.active with
  | none => some (g, [])
  | some active =>
      if now < g.nextTick then some (g, [])
      else do
        let result ← publish api g.timeSeriesHistoryLimit (g.subscribedSymbols .timeAndSale)
          nowNs active
        let (nextTick, skipped) ← nextDeadline g.nextTick (active.pattern.publishPeriod * 1000000)
          later
        let active := { result.active with
          skippedDeadlines := result.active.skippedDeadlines + UInt64.ofInt skipped }
        return ({ g with active := some active, nextTick := nextTick },
          [.batch result.retained result.events])

/-- One round of the loop, with the clock values it reads. -/
inductive Input where
  | command (command : Command) (now : Int)
  | tick (nowNs now later : Int)

/-- The worker loop. -/
def machine (api : DxApi) : Lib.Machine Generator Input Output where
  step g
    | .command command now => some (g.handleCommand command now)
    | .tick nowNs now later => g.tick api nowNs now later

/-- The generator when its worker starts. -/
def create (timeSeriesHistoryLimit : Nat) (activeSymbolCount : Option Nat) (now : Int) :
    Generator where
  timeSeriesHistoryLimit := timeSeriesHistoryLimit
  activeSymbolCount := activeSymbolCount
  nextTick := now

end Generator

end LatencyTest
