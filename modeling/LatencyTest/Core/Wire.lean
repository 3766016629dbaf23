import LatencyTest.Core.Task

/-!
The events the two programs exchange through the dxFeed API. The API itself is
not part of the repository: an event is the record of the fields the programs
set and read, transported unchanged, and the constants the programs rely on are
the fields of `DxApi`.
-/

namespace LatencyTest

/-- What the programs rely on in the dxFeed API. `index` packs the millisecond
time and the sequence of a TimeAndSale event. -/
structure DxApi where
  /-- `TextMessage::MAX_SEQUENCE`. -/
  maxSequence : Nat
  /-- `TimeAndSale::getIndex` from the millisecond time and the sequence. -/
  index : Int → Int → Int
  one_lt_maxSequence : 1 < maxSequence
  /-- It is itself an `std::int32_t`. -/
  maxSequence_lt : maxSequence < 2 ^ 31
  index_injective : ∀ {time time' sequence sequence' : Int},
    0 ≤ sequence → sequence ≤ maxSequence → 0 ≤ sequence' → sequence' ≤ maxSequence →
    index time sequence = index time' sequence' → time = time' ∧ sequence = sequence'

/-- The released API: 22 bits of sequence under 10 bits of milliseconds under
the seconds. -/
def DxApi.release : DxApi where
  maxSequence := 2 ^ 22 - 1
  index time sequence := time / 1000 * 2 ^ 32 + time % 1000 * 2 ^ 22 + sequence
  one_lt_maxSequence := by decide
  maxSequence_lt := by decide
  index_injective := by
    intro time time' sequence sequence' low high low' high' eq
    norm_num at high high' eq
    omega

/-- A `double`: a finite value, read exactly, or a NaN or an infinity. -/
inductive Double where
  | finite (value : ℚ)
  | nonFinite
deriving DecidableEq

/-- The event flags of an indexed event that the programs use, one bit each. -/
structure EventFlags where
  removeEvent : Bool := false
  snapshotBegin : Bool := false
  snapshotEnd : Bool := false
  snapshotSnip : Bool := false
deriving DecidableEq, Repr

/-- Bitwise or. -/
def EventFlags.or (a b : EventFlags) : EventFlags where
  removeEvent := a.removeEvent || b.removeEvent
  snapshotBegin := a.snapshotBegin || b.snapshotBegin
  snapshotEnd := a.snapshotEnd || b.snapshotEnd
  snapshotSnip := a.snapshotSnip || b.snapshotSnip

/-- `IndexedEvent::REMOVE_EVENT`. -/
def EventFlags.REMOVE_EVENT : EventFlags := { removeEvent := true }

/-- `IndexedEvent::SNAPSHOT_BEGIN`. -/
def EventFlags.SNAPSHOT_BEGIN : EventFlags := { snapshotBegin := true }

/-- `IndexedEvent::SNAPSHOT_END`. -/
def EventFlags.SNAPSHOT_END : EventFlags := { snapshotEnd := true }

/-- `IndexedEvent::SNAPSHOT_SNIP`. -/
def EventFlags.SNAPSHOT_SNIP : EventFlags := { snapshotSnip := true }

structure Quote where
  eventSymbol : Text
  bidSize : Double := .nonFinite
  askSize : Double := .nonFinite
  bidPrice : Double := .nonFinite
deriving DecidableEq

/-- A Trade or a TradeETH event. -/
structure Trade where
  eventSymbol : Text
  price : Double := .nonFinite
  size : Double := .nonFinite
  sequence : Int := 0
  timeNanos : Int := 0
deriving DecidableEq

/-- The event time in milliseconds. -/
def Trade.getTime (trade : Trade) : Int := trade.timeNanos / 1000000

structure Summary where
  eventSymbol : Text
  dayId : Int := 0
  dayOpenPrice : Double := .nonFinite
  dayHighPrice : Double := .nonFinite
  dayLowPrice : Double := .nonFinite
  dayClosePrice : Double := .nonFinite
deriving DecidableEq

structure TimeAndSale where
  eventSymbol : Text
  eventFlags : EventFlags := {}
  timeNanos : Int := 0
  sequence : Int := 0
  price : Double := .nonFinite
  size : Double := .nonFinite
deriving DecidableEq

/-- The event time in milliseconds. -/
def TimeAndSale.getTime (event : TimeAndSale) : Int := event.timeNanos / 1000000

def TimeAndSale.getIndex (api : DxApi) (event : TimeAndSale) : Int :=
  api.index event.getTime event.sequence

structure TextMessage where
  eventSymbol : Text
  text : Text
  time : Int := 0
  sequence : Int := 0
deriving DecidableEq

/-- An event of any of the types the programs publish or subscribe to. The
constructor is what `sharedAs<T>` tests. -/
inductive Event where
  | quote (event : Quote)
  | trade (event : Trade)
  | tradeEth (event : Trade)
  | summary (event : Summary)
  | timeAndSale (event : TimeAndSale)
  | profile (eventSymbol : Text)
  | textMessage (event : TextMessage)
deriving DecidableEq

def Event.eventSymbol : Event → Text
  | .quote event => event.eventSymbol
  | .trade event => event.eventSymbol
  | .tradeEth event => event.eventSymbol
  | .summary event => event.eventSymbol
  | .timeAndSale event => event.eventSymbol
  | .profile eventSymbol => eventSymbol
  | .textMessage event => event.eventSymbol

/-- The record key of an event: its market event kind, if it has one, and its
symbol. Publishing never changes it. -/
def Event.recordKey : Event → Option EventKind × Text
  | .quote event => (some .quote, event.eventSymbol)
  | .trade event => (some .trade, event.eventSymbol)
  | .tradeEth event => (some .tradeEth, event.eventSymbol)
  | .summary event => (some .summary, event.eventSymbol)
  | .timeAndSale event => (some .timeAndSale, event.eventSymbol)
  | .profile eventSymbol => (none, eventSymbol)
  | .textMessage event => (none, event.eventSymbol)

theorem Event.recordKey_snd (event : Event) : event.recordKey.2 = event.eventSymbol := by
  cases event <;> rfl

/-- The TimeAndSale events of a publication or a callback, in order. -/
def timeAndSales (events : List Event) : List TimeAndSale :=
  events.filterMap fun
    | .timeAndSale event => some event
    | _ => none

@[simp] theorem timeAndSales_nil : timeAndSales [] = [] := rfl

@[simp] theorem timeAndSales_append (xs ys : List Event) :
    timeAndSales (xs ++ ys) = timeAndSales xs ++ timeAndSales ys :=
  List.filterMap_append

@[simp] theorem timeAndSales_map (events : List TimeAndSale) :
    timeAndSales (events.map .timeAndSale) = events := by
  simp [timeAndSales, List.filterMap_map]

end LatencyTest
