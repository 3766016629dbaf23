import LatencyTest.Lib.Decimal

/-!
The task pattern of the benchmark: event kinds, quantities, the symbol universe
and its regional expansion (`include/latency/core.hpp`, `src/core.cpp`).

A `std::string` is the list of its characters. `std::size_t` values are naturals
below `sizeLimit`; the few places where the source computes past that limit use
`sizeAdd` and `sizeMul`, which wrap as the machine does.
-/

namespace LatencyTest

open Lib (digits paddedDigits)

/-- A `std::string`, as the list of its characters. -/
abbrev Text := List Char

/-- One more than the largest `std::size_t`. -/
def sizeLimit : Nat := 2 ^ 64

/-- Addition of two `std::size_t` values. -/
def sizeAdd (a b : Nat) : Nat := (a + b) % sizeLimit

/-- Multiplication of two `std::size_t` values. -/
def sizeMul (a b : Nat) : Nat := a * b % sizeLimit

theorem sizeAdd_eq {a b : Nat} (h : a + b < sizeLimit) : sizeAdd a b = a + b :=
  Nat.mod_eq_of_lt h

theorem sizeMul_eq {a b : Nat} (h : a * b < sizeLimit) : sizeMul a b = a * b :=
  Nat.mod_eq_of_lt h

/-- A supported market event type. -/
inductive EventKind where
  | quote
  | trade
  | tradeEth
  | summary
  | timeAndSale
deriving DecidableEq, Repr

/-- The enumerator's value, which is its type code in the task DSL. -/
def EventKind.code : EventKind → Char
  | .quote => 'Q'
  | .trade => 'T'
  | .tradeEth => 'E'
  | .summary => 'S'
  | .timeAndSale => 'N'

/-- Maps a task-DSL type code to a supported event kind. -/
def parseKind : Char → Option EventKind
  | 'Q' => some .quote
  | 'T' => some .trade
  | 'E' => some .tradeEth
  | 'S' => some .summary
  | 'N' => some .timeAndSale
  | _ => none

@[simp] theorem parseKind_code (kind : EventKind) : parseKind kind.code = some kind := by
  cases kind <;> rfl

def eventKindName : EventKind → Text
  | .quote => "Quote".toList
  | .trade => "Trade".toList
  | .tradeEth => "TradeETH".toList
  | .summary => "Summary".toList
  | .timeAndSale => "TimeAndSale".toList

/-- One event type and its instrument count in a task pattern. -/
structure PatternItem where
  kind : EventKind
  quantity : Nat
deriving DecidableEq, Repr

/-- A parsed subscription task. `publishPeriod` is in milliseconds. -/
structure TaskPattern where
  items : List PatternItem := []
  publishPeriod : Int := 1000
  subscribedSymbolCount : Option Nat := none
  regionalSourceCount : Nat := 0
  shuffleSeed : Option UInt64 := none
deriving DecidableEq, Repr

/-- Returns the zero-padded symbol width required for a quantity. -/
def symbolWidth (quantity : Nat) : Nat := max 2 (digits (quantity - 1)).length

/-- The loop of `eventCount`, with the sum so far. -/
def eventCountFrom (result : Nat) : List PatternItem → Except Text Nat
  | [] => .ok result
  | item :: items =>
      if item.quantity > sizeLimit - 1 - result then
        .error "total event count overflows size_t".toList
      else eventCountFrom (result + item.quantity) items

def TaskPattern.eventCount (pattern : TaskPattern) : Except Text Nat :=
  eventCountFrom 0 pattern.items

/-- The explicit universe size, or else the largest event quantity. -/
def TaskPattern.symbolCount (pattern : TaskPattern) : Nat :=
  match pattern.subscribedSymbolCount with
  | some count => count
  | none => (pattern.items.map PatternItem.quantity).foldl max 0

def TaskPattern.quantity (pattern : TaskPattern) (kind : EventKind) : Option Nat :=
  (pattern.items.find? fun item => item.kind == kind).map PatternItem.quantity

/-- `SYM` and the zero-padded index. -/
def symbolName (width i : Nat) : Text := "SYM".toList ++ paddedDigits width i

/-! ### Vectors -/

/-- The largest size of a `std::vector` with elements of this many bytes: their
total is at most `PTRDIFF_MAX`. -/
def vectorLimit (elementSize : Nat) : Nat := (2 ^ 63 - 1) / elementSize

/-- `std::vector::reserve`, as far as it can fail deterministically. -/
def reserve (elementSize count : Nat) : Except Text Unit :=
  if count > vectorLimit elementSize then .error "vector::reserve".toList else .ok ()

/-- `sizeof(std::string)`. -/
def stringSize : Nat := 32

/-! ### Symbols -/

/-- The names of the shared symbol universe. -/
def TaskPattern.symbolNames (pattern : TaskPattern) : List Text :=
  (List.range pattern.symbolCount).map (symbolName (symbolWidth pattern.symbolCount))

/-- The shared symbol universe. -/
def TaskPattern.symbols (pattern : TaskPattern) : Except Text (List Text) := do
  reserve stringSize pattern.symbolCount
  return pattern.symbolNames

/-- Symbols of one event type: numbered up to its quantity, none when absent. -/
def TaskPattern.symbolsOf (pattern : TaskPattern) (kind : EventKind) :
    Except Text (List Text) := do
  let count := (pattern.quantity kind).getD 0
  reserve stringSize count
  return (List.range count).map (symbolName (symbolWidth pattern.symbolCount))

def TaskPattern.marketSymbolCount (pattern : TaskPattern) : Except Text Nat :=
  if pattern.symbolCount > (sizeLimit - 1) / (pattern.regionalSourceCount + 1) then
    .error "market symbol count overflows size_t".toList
  else .ok (pattern.symbolCount * (pattern.regionalSourceCount + 1))

/-- The symbol of regional source `source` over a base symbol: `&A`, `&B`, ... -/
def regionalSymbol (source : Nat) (symbol : Text) : Text :=
  symbol ++ ['&', Char.ofNat ('A'.toNat + source)]

/-- Base symbols followed by one complete block per regional source. -/
def withRegionalSources (regionalSourceCount : Nat) (base : List Text) : List Text :=
  base ++ (List.range regionalSourceCount).flatMap fun source => base.map (regionalSymbol source)

/-- Base symbols and their regional variants. Reserving the result evaluates
`marketSymbolCount`; both may throw. -/
def TaskPattern.marketSymbols (pattern : TaskPattern) : Except Text (List Text) := do
  let composite ← pattern.symbols
  let count ← pattern.marketSymbolCount
  reserve stringSize count
  return withRegionalSources pattern.regionalSourceCount composite

/-! ### Marker symbols -/

def markerSymbolPrefix : Text := "LATENCY_MARKER:".toList

def markerSymbol (task : Text) : Text := markerSymbolPrefix ++ task

def isMarkerSymbol (symbol : Text) : Bool := markerSymbolPrefix.isPrefixOf symbol

/-! ### Counting -/

theorem symbolNames_length (pattern : TaskPattern) :
    pattern.symbolNames.length = pattern.symbolCount := by
  simp [TaskPattern.symbolNames]

theorem symbolName_injective (width : Nat) : Function.Injective (symbolName width) := by
  intro i j eq
  exact Lib.paddedDigits_injective width (List.append_cancel_left eq)

theorem symbolNames_nodup (pattern : TaskPattern) : pattern.symbolNames.Nodup :=
  List.nodup_range.map (symbolName_injective _)

theorem withRegionalSources_length (count : Nat) (base : List Text) :
    (withRegionalSources count base).length = base.length * (count + 1) := by
  simp [withRegionalSources, List.length_flatMap, Nat.mul_add, Nat.mul_comm, Nat.add_comm]

/-- A vector is reserved exactly when its size is allowed. -/
theorem reserve_eq_ok {elementSize count : Nat} :
    reserve elementSize count = .ok () ↔ count ≤ vectorLimit elementSize := by
  unfold reserve
  split
  · simp only [reduceCtorEq, false_iff]
    omega
  · simp only [true_iff]
    omega

theorem symbols_eq_ok {pattern : TaskPattern} {symbols : List Text} :
    pattern.symbols = .ok symbols ↔
      pattern.symbolCount ≤ vectorLimit stringSize ∧ symbols = pattern.symbolNames := by
  rw [← reserve_eq_ok, TaskPattern.symbols]
  cases reserve stringSize pattern.symbolCount with
  | error message => exact ⟨nofun, nofun⟩
  | ok _ => exact ⟨fun same => ⟨rfl, (Except.ok.inj same).symm⟩, fun same => same.2 ▸ rfl⟩

/-- A successful sum is the plain sum, and it fits in a `std::size_t`. -/
theorem eventCountFrom_ok {result total : Nat} {items : List PatternItem}
    (start : result < sizeLimit) (h : eventCountFrom result items = .ok total) :
    total = result + (items.map PatternItem.quantity).sum ∧ total < sizeLimit := by
  induction items generalizing result with
  | nil =>
      simp only [eventCountFrom, Except.ok.injEq] at h
      subst h
      simpa using start
  | cons item items ih =>
      simp only [eventCountFrom] at h
      split at h
      · cases h
      · have bound : result + item.quantity < sizeLimit := by omega
        obtain ⟨sum, fits⟩ := ih bound h
        refine ⟨?_, fits⟩
        rw [sum, List.map_cons, List.sum_cons]
        omega

/-- A sum that fits is computed. -/
theorem eventCountFrom_total {result : Nat} {items : List PatternItem}
    (fits : result + (items.map PatternItem.quantity).sum < sizeLimit) :
    eventCountFrom result items = .ok (result + (items.map PatternItem.quantity).sum) := by
  induction items generalizing result with
  | nil => rfl
  | cons item items ih =>
      rw [List.map_cons, List.sum_cons] at fits ⊢
      rw [eventCountFrom, if_neg (by omega), ih (by omega), Nat.add_assoc]

theorem foldl_max_le {values : List Nat} {start bound : Nat} :
    values.foldl max start ≤ bound ↔ start ≤ bound ∧ ∀ v ∈ values, v ≤ bound := by
  induction values generalizing start with
  | nil => simp
  | cons v values ih => simp [ih, and_assoc]

/-- Without an explicit universe, the universe covers every configured quantity. -/
theorem quantity_le_largest {items : List PatternItem} {item : PatternItem} (h : item ∈ items) :
    item.quantity ≤ (items.map PatternItem.quantity).foldl max 0 :=
  (foldl_max_le.mp le_rfl).2 _ (List.mem_map_of_mem h)

end LatencyTest
