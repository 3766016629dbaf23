import LatencyTest.Core.Accepted
import LatencyTest.Core.Wire

/-!
The data of the publisher's `Generator` (`src/server.cpp`): subscription kinds,
the pools of reusable event objects, the tasks, and the functions that create
them. Logging, timing statistics and the storage reserved in advance are not
modelled.

The event objects of a task are shared and mutable. A pool owns its objects; a
publication refers to them by pool and position (`Reference`) and is read when it
is handed to the publisher.
-/

namespace LatencyTest

/-- Identifies a publisher-side observable subscription. -/
inductive SubscriptionKind where
  | quote
  | trade
  | tradeEth
  | summary
  | profile
  | timeAndSale
deriving DecidableEq, Repr

/-- Maps a generated market event kind to its publisher subscription kind. -/
def subscriptionKind : EventKind → SubscriptionKind
  | .quote => .quote
  | .trade => .trade
  | .tradeEth => .tradeEth
  | .summary => .summary
  | .timeAndSale => .timeAndSale

/-- Owns reusable synthetic events of one market event kind. -/
structure EventPool where
  kind : EventKind
  quantity : Nat
  events : List Event
deriving DecidableEq

/-- What is retained of a TimeAndSale event to reconstruct it in a snapshot. -/
structure TimeAndSaleRecord where
  timeNanos : Int
  sequence : Int
  price : Double
deriving DecidableEq

/-- Bounded history and truncation state of one symbol, oldest record first. -/
structure TimeAndSaleHistory where
  records : List TimeAndSaleRecord := []
  truncated : Bool := false
deriving DecidableEq

/-- A shared event object: an element of a pool, or the marker of the task. -/
inductive Reference where
  | event (pool index : Nat)
  | marker
deriving DecidableEq

/-- The state of the currently published task. -/
structure ActiveTask where
  command : Text
  pattern : TaskPattern
  activeSymbolCount : Nat
  pools : List EventPool
  marker : TextMessage
  publication : List Reference := []
  poolOrder : List Nat
  lastBlockCounts : SubscriptionKind → UInt64 := fun _ => 0
  timeAndSaleHistory : Text → Option TimeAndSaleHistory := fun _ => none
  compositeEvents : UInt64 := 0
  regionalEvents : UInt64 := 0
  tick : UInt32 := 0
  publications : UInt64 := 0
  skippedDeadlines : UInt64 := 0

/-- A parsed task until every required subscription becomes ready. -/
structure PendingTask where
  command : Text
  pattern : TaskPattern
  activeSymbolCount : Nat
  profileSymbols : List Text
  marketSymbols : List Text

/-! ### Creating a task -/

/-- The base-symbol subset that receives recurring publications. -/
def resolveActiveSymbolCount (configured : Option Nat) (pattern : TaskPattern) :
    Except Text Nat :=
  let count := configured.getD pattern.symbolCount
  if count > pattern.symbolCount then
    .error ("active symbol count ".toList ++ Lib.digits count ++
      " exceeds subscribed symbol count ".toList ++ Lib.digits pattern.symbolCount)
  else
    match pattern.items.find? fun item => item.quantity > count with
    | some item =>
        .error ("active symbol count ".toList ++ Lib.digits count ++ " is smaller than ".toList ++
          eventKindName item.kind ++ " event quantity ".toList ++ Lib.digits item.quantity)
    | none => .ok count

def makeEvent (kind : EventKind) (symbol : Text) : Event :=
  match kind with
  | .quote => .quote { eventSymbol := symbol, bidSize := .finite 1, askSize := .finite 1 }
  | .trade => .trade { eventSymbol := symbol, size := .finite 1 }
  | .tradeEth => .tradeEth { eventSymbol := symbol, size := .finite 1 }
  | .summary => .summary { eventSymbol := symbol, dayId := 1 }
  | .timeAndSale => .timeAndSale { eventSymbol := symbol, size := .finite 1 }

/-- `std::vector::resize` of symbols. -/
def resize (symbols : List Text) (count : Nat) : List Text :=
  symbols.take count ++ List.replicate (count - symbols.length) []

/-- The symbols an event kind is published on: TimeAndSale events on base symbols
only, the others also on their regional variants. -/
def poolSymbols (pattern : TaskPattern) (activeSymbolCount : Nat) (kind : EventKind) : List Text :=
  let baseSymbols := resize pattern.symbolNames activeSymbolCount
  if kind = .timeAndSale then baseSymbols
  else withRegionalSources pattern.regionalSourceCount baseSymbols

/-- One pool for every item. -/
def eventPools (pattern : TaskPattern) (activeSymbolCount : Nat) : List EventPool :=
  pattern.items.map fun item =>
    { kind := item.kind
      quantity := item.quantity
      events := (poolSymbols pattern activeSymbolCount item.kind).map (makeEvent item.kind) }

/-- Event objects for the record keys of the active base-symbol subset only. The vectors
of events have smaller elements than those of their symbols, and a pool for each item, so
that only the symbols can be too many to reserve. -/
def makeEventPools (pattern : TaskPattern) (activeSymbolCount : Nat) :
    Except Text (List EventPool) := do
  let _ ← pattern.symbols
  reserve stringSize (sizeMul activeSymbolCount (pattern.regionalSourceCount + 1))
  return eventPools pattern activeSymbolCount

/-- The active task of a pending one with these pools. -/
def PendingTask.withPools (pending : PendingTask) (pools : List EventPool) : ActiveTask where
  command := pending.command
  pattern := pending.pattern
  activeSymbolCount := pending.activeSymbolCount
  pools := pools
  marker := { eventSymbol := markerSymbol pending.command, text := "LATENCY_BATCH".toList }
  poolOrder := List.range pools.length

/-- What `startWhenReady` allocates for a task: the pools and the publication, whose size
is counted. -/
def activate (pending : PendingTask) : Except Text ActiveTask := do
  let pools ← makeEventPools pending.pattern pending.activeSymbolCount
  let _ ← pending.pattern.eventCount
  return pending.withPools pools

/-- The active task of a pending one. -/
def startTask (pending : PendingTask) : ActiveTask :=
  pending.withPools (eventPools pending.pattern pending.activeSymbolCount)

/-- One Profile event for every base symbol. -/
def makeInitialEvents (pattern : TaskPattern) : Except Text (List Event) := do
  let symbols ← pattern.symbols
  return symbols.map .profile

/-- The random number generator of the publisher: a value and the next state. -/
def nextRandom (state : UInt64) : UInt64 × UInt64 :=
  let state := state + 0x9e3779b97f4a7c15
  let value := (state ^^^ (state >>> 30)) * 0xbf58476d1ce4e5b9
  let value := (value ^^^ (value >>> 27)) * 0x94d049bb133111eb
  (value ^^^ (value >>> 31), state)

namespace ActiveTask

/-- The event a reference stands for. -/
def resolve (active : ActiveTask) : Reference → Option Event
  | .event pool index => do
      let found ← active.pools[pool]?
      found.events[index]?
  | .marker => some (.textMessage active.marker)

/-- Overwrites an event object of a pool. -/
def writeEvent (active : ActiveTask) (pool index : Nat) (event : Event) : ActiveTask :=
  { active with
    pools := active.pools.modify pool fun found =>
      { found with events := found.events.set index event } }

/-- Appends an event object to the publication. -/
def push (active : ActiveTask) (reference : Reference) : ActiveTask :=
  { active with publication := active.publication ++ [reference] }

/-- Counts an event as composite or regional. -/
def countRoute (active : ActiveTask) (source : Nat) : ActiveTask :=
  if source ≠ 0 then { active with regionalEvents := active.regionalEvents + 1 }
  else { active with compositeEvents := active.compositeEvents + 1 }

end ActiveTask

/-- Appends one record to a bounded history. -/
def TimeAndSaleHistory.retain (limit : Nat) (history : TimeAndSaleHistory)
    (record : TimeAndSaleRecord) : TimeAndSaleHistory :=
  let records := history.records ++ [record]
  if records.length > limit then { records := records.tail, truncated := true }
  else { history with records := records }

/-- Appends one event to bounded per-symbol TimeAndSale history. -/
def ActiveTask.retainTimeAndSale (limit : Nat) (active : ActiveTask) (symbol : Text)
    (record : TimeAndSaleRecord) : ActiveTask :=
  { active with
    timeAndSaleHistory := Function.update active.timeAndSaleHistory symbol
      (some (((active.timeAndSaleHistory symbol).getD {}).retain limit record)) }

/-! ### The shape of the pools -/

/-- What publishing never changes in a pool. -/
def EventPool.shape (pool : EventPool) : EventKind × Nat × List (Option EventKind × Text) :=
  (pool.kind, pool.quantity, pool.events.map Event.recordKey)

@[simp] theorem makeEvent_recordKey (kind : EventKind) (symbol : Text) :
    (makeEvent kind symbol).recordKey = (some kind, symbol) := by
  cases kind <;> rfl

theorem resize_eq_take {symbols : List Text} {count : Nat} (h : count ≤ symbols.length) :
    resize symbols count = symbols.take count := by
  simp [resize, Nat.sub_eq_zero_of_le h]

theorem resize_length (symbols : List Text) (count : Nat) :
    (resize symbols count).length = count := by
  simp only [resize, List.length_append, List.length_take, List.length_replicate]
  omega

theorem poolSymbols_length (pattern : TaskPattern) (count : Nat) (kind : EventKind) :
    (poolSymbols pattern count kind).length =
      if kind = .timeAndSale then count else count * (pattern.regionalSourceCount + 1) := by
  unfold poolSymbols
  split
  · exact resize_length _ _
  · rw [withRegionalSources_length, resize_length]

/-- Where the client can reserve its symbols, the publisher can. -/
theorem makeEventPools_eq_ok {pattern : TaskPattern} {count : Nat}
    (fits : pattern.symbolCount * (pattern.regionalSourceCount + 1) ≤ vectorLimit stringSize)
    (active : count ≤ pattern.symbolCount) :
    makeEventPools pattern count = .ok (eventPools pattern count) := by
  have named : pattern.symbolCount ≤ vectorLimit stringSize :=
    (Nat.le_mul_of_pos_right _ (Nat.succ_pos _)).trans fits
  have smaller := (Nat.mul_le_mul_right (pattern.regionalSourceCount + 1) active).trans fits
  have noWrap : sizeMul count (pattern.regionalSourceCount + 1) =
      count * (pattern.regionalSourceCount + 1) :=
    sizeMul_eq (smaller.trans_lt (by decide))
  have reserved : reserve stringSize (sizeMul count (pattern.regionalSourceCount + 1)) =
      .ok () := by
    rw [noWrap]
    exact reserve_eq_ok.mpr smaller
  exact bind_eq_ok (symbols_eq_ok.mpr ⟨named, rfl⟩) (bind_eq_ok reserved rfl)

/-- The pools and the publication of a task whose events are counted. -/
theorem activate_eq_ok {pending : PendingTask} {total : Nat}
    (fits : pending.pattern.symbolCount * (pending.pattern.regionalSourceCount + 1) ≤
      vectorLimit stringSize)
    (active : pending.activeSymbolCount ≤ pending.pattern.symbolCount)
    (counted : pending.pattern.eventCount = .ok total) :
    activate pending = .ok (startTask pending) :=
  bind_eq_ok (makeEventPools_eq_ok fits active) (bind_eq_ok counted rfl)

/-- The count is resolved to a number that covers every quantity. -/
theorem resolveActiveSymbolCount_ok {configured : Option Nat} {pattern : TaskPattern} {count : Nat}
    (h : resolveActiveSymbolCount configured pattern = .ok count) :
    count = configured.getD pattern.symbolCount ∧ count ≤ pattern.symbolCount ∧
      ∀ item ∈ pattern.items, item.quantity ≤ count := by
  unfold resolveActiveSymbolCount at h
  dsimp only at h
  split at h
  · cases h
  · rename_i bounded
    split at h
    · cases h
    · rename_i none
      cases h
      refine ⟨rfl, not_lt.mp bounded, ?_⟩
      intro item mem
      simpa using List.find?_eq_none.mp none item mem

end LatencyTest
