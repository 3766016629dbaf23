import LatencyTest.Lib.Run
import LatencyTest.Lib.Shuffle
import LatencyTest.Server.Pools

/-!
`Generator::publish`: one recurring publication of the active task. Every index
and every reduction of the source is checked, so that `none` is an access out of
range or a division by zero; `publish_ok` shows there is none.

What a publication does is described by two facts about the event objects. Their
record keys never change, and after publication every selected object is a fixed
point of `stampEvent`, that is, carries the values of this publication.
-/

namespace LatencyTest

open Lib (checkedMod checkedMod_eq shuffleFrom shuffleFrom_perm foldlM_invariant)

/-! ### The source -/

/-- The values one publication writes into its events. -/
structure Stamp where
  tick : UInt32
  sequence : Int
  nowNs : Int

/-- `100.0 + active.tick % 100`. -/
def Stamp.price (stamp : Stamp) : Double := .finite (100 + (stamp.tick % 100).toNat)

/-- The record retained for a TimeAndSale event of the publication. -/
def Stamp.record (stamp : Stamp) : TimeAndSaleRecord := ⟨stamp.nowNs, stamp.sequence, stamp.price⟩

/-- Sets the fields of a selected event. -/
def stampEvent (stamp : Stamp) : Event → Event
  | .quote event =>
      .quote { event with
        bidSize := .finite stamp.sequence, askSize := .finite 1, bidPrice := stamp.price }
  | .trade event =>
      .trade { event with
        price := stamp.price, size := .finite 1, sequence := stamp.sequence,
        timeNanos := stamp.nowNs }
  | .tradeEth event =>
      .tradeEth { event with
        price := stamp.price, size := .finite 1, sequence := stamp.sequence,
        timeNanos := stamp.nowNs }
  | .summary event =>
      .summary { event with
        dayId := stamp.sequence, dayOpenPrice := .finite 99,
        dayHighPrice := .finite (101 + (stamp.tick % 100).toNat), dayLowPrice := .finite 98,
        dayClosePrice := .finite (100 + (stamp.tick % 100).toNat) }
  | .timeAndSale event =>
      .timeAndSale { event with
        timeNanos := stamp.nowNs, sequence := stamp.sequence, price := stamp.price,
        eventFlags := {} }
  | event => event

/-- What `publish` reads of the generator. -/
structure PublishContext where
  stamp : Stamp
  timeSeriesHistoryLimit : Nat
  /-- `subscribedSymbols_` of the TimeAndSale subscription. -/
  subscribed : Finset Text

/-- A publication in preparation: the task, the state of the random routing, and
the calls of `retainTimeAndSale` so far. -/
structure Preparation where
  active : ActiveTask
  random : UInt64 := 0
  retained : List (Text × TimeAndSaleRecord) := []

/-- Selects the composite source 0 or a regional source. -/
def route (pattern : TaskPattern) (kind : EventKind) (random : UInt64) : Option (Nat × UInt64) :=
  if kind = .timeAndSale then some (0, random)
  else if pattern.regionalSourceCount ≠ 0 then do
    let source ← checkedMod (nextRandom random).1.toNat (pattern.regionalSourceCount + 1)
    return (source, (nextRandom random).2)
  else some (0, random)

/-- The part of the event loop after the fields are set: a TimeAndSale event is
retained, and published only for a subscribed symbol. -/
def selectEvent (context : PublishContext) (reference : Reference) (event : Event)
    (preparation : Preparation) : Preparation :=
  match event with
  | .timeAndSale event =>
      let active := preparation.active.retainTimeAndSale context.timeSeriesHistoryLimit
        event.eventSymbol context.stamp.record
      let retained := preparation.retained ++ [(event.eventSymbol, context.stamp.record)]
      if event.eventSymbol ∈ context.subscribed then
        { preparation with active := active.push reference, retained := retained }
      else { preparation with active := active, retained := retained }
  | _ => { preparation with active := preparation.active.push reference }

/-- The body of the event loop of a pool. -/
def publishEvent (context : PublishContext) (poolIndex first : Nat) (preparation : Preparation)
    (i : Nat) : Option Preparation := do
  let active := preparation.active
  let pool ← active.pools[poolIndex]?
  let baseIndex ← checkedMod (sizeAdd first i) active.activeSymbolCount
  let (source, random) ← route active.pattern pool.kind preparation.random
  let index := sizeAdd (sizeMul source active.activeSymbolCount) baseIndex
  let event ← pool.events[index]?
  let stamped := stampEvent context.stamp event
  return selectEvent context (.event poolIndex index) stamped
    { preparation with
      active := (active.countRoute source).writeEvent poolIndex index stamped, random := random }

/-- The body of the loop over the pools. -/
def publishPool (context : PublishContext) (preparation : Preparation) (poolIndex : Nat) :
    Option Preparation := do
  let active := preparation.active
  let pool ← active.pools[poolIndex]?
  let first ← checkedMod (sizeMul active.publications.toNat pool.quantity) active.activeSymbolCount
  let regionalRandom := active.pattern.shuffleSeed.getD 0x22805 ^^^ active.publications ^^^
    (UInt64.ofNat poolIndex <<< 32)
  (List.range pool.quantity).foldlM (publishEvent context poolIndex first)
    { preparation with random := regionalRandom }

/-- The order in which a publication visits the pools. -/
def publishOrder (active : ActiveTask) : Option (List Nat) :=
  let order := List.range active.poolOrder.length
  match active.pattern.shuffleSeed with
  | none => some order
  | some seed =>
      shuffleFrom (fun state => ((nextRandom state).1.toNat, (nextRandom state).2)) order.length
        (seed ^^^ active.publications) order

/-- `active.tick % TextMessage::MAX_SEQUENCE`. -/
def publishSequence (api : DxApi) (tick : UInt32) : Int := (tick.toNat % api.maxSequence : Nat)

/-- A formatted integer. -/
def formatInt (value : Int) : Text :=
  if value < 0 then '-' :: Lib.digits value.natAbs else Lib.digits value.natAbs

/-- The result of a publication: the task afterwards, the records it retained in
order, and the events handed to the publisher. -/
structure Published where
  active : ActiveTask
  retained : List (Text × TimeAndSaleRecord)
  events : List Event

/-- Sets the marker of a publication and appends it. -/
def ActiveTask.mark (active : ActiveTask) (sequence nowNs : Int) : ActiveTask :=
  { active with
    marker := { active.marker with
      time := nowNs.tdiv 1000000
      sequence := sequence
      text := "LATENCY_BATCH:".toList ++ formatInt nowNs }
    publication := active.publication ++ [.marker] }

/-- Counts the kind of the pool a publication visits last. -/
def ActiveTask.countLastBlock (active : ActiveTask) (kind : SubscriptionKind) : ActiveTask :=
  { active with
    lastBlockCounts :=
      Function.update active.lastBlockCounts kind (active.lastBlockCounts kind + 1) }

def publish (api : DxApi) (timeSeriesHistoryLimit : Nat) (subscribed : Finset Text) (nowNs : Int)
    (active : ActiveTask) : Option Published := do
  let active := { active with tick := active.tick + 1 }
  let sequence := publishSequence api active.tick
  let poolOrder ← publishOrder active
  let active := { active with publication := [], poolOrder := poolOrder }
  let lastIndex ← poolOrder.getLast?
  let lastPool ← active.pools[lastIndex]?
  let active := active.countLastBlock (subscriptionKind lastPool.kind)
  let context : PublishContext :=
    ⟨⟨active.tick, sequence, nowNs⟩, timeSeriesHistoryLimit, subscribed⟩
  let prepared ← poolOrder.foldlM (publishPool context) { active := active }
  let active := prepared.active.mark sequence nowNs
  let events ← active.publication.mapM active.resolve
  return {
    active := { active with publications := active.publications + 1 }
    retained := prepared.retained
    events := events }

end LatencyTest
