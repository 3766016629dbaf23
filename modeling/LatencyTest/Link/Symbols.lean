import LatencyTest.Core.Universe
import LatencyTest.Server.Composition

/-!
The symbols of the publisher and of the client. The client subscribes to the market
symbols of a task, one block of base symbols for every source. The publisher expands the
active base symbols itself, so its blocks are shorter; at the index that it computes from a
source and a base symbol it still has the client's symbol.
-/

namespace LatencyTest

/-- The symbol of a base symbol in the block of a source; the first block is the base. -/
def sourceSymbol : Nat → Text → Text
  | 0, name => name
  | source + 1, name => regionalSymbol source name

theorem sourceSymbol_zero : sourceSymbol 0 = id := rfl

/-- A block of the expansion, the first one included. -/
theorem withRegionalSources_sourceSymbol {count source : Nat} (base : List Text)
    (inRange : source ≤ count) :
    ((withRegionalSources count base).drop (source * base.length)).take base.length =
      base.map (sourceSymbol source) := by
  cases source with
  | zero => simpa [sourceSymbol_zero] using withRegionalSources_take count base
  | succ source => exact withRegionalSources_block base inRange

/-- The flattened index of a source and a base symbol. -/
theorem getElem?_withRegionalSources {count source i : Nat} (base : List Text)
    (inRange : source ≤ count) (inBase : i < base.length) :
    (withRegionalSources count base)[source * base.length + i]? =
      base[i]?.map (sourceSymbol source) := by
  rw [← List.getElem?_map, ← withRegionalSources_sourceSymbol base inRange,
    List.getElem?_take_of_lt inBase, List.getElem?_drop]

/-- The market symbol of a source and a base symbol. -/
theorem market_getElem {pattern : TaskPattern} {source i : Nat}
    (inRange : source ≤ pattern.regionalSourceCount) (inBase : i < pattern.symbolCount) :
    (withRegionalSources pattern.regionalSourceCount pattern.symbolNames)[
      source * pattern.symbolCount + i]? = pattern.symbolNames[i]?.map (sourceSymbol source) := by
  have found := getElem?_withRegionalSources pattern.symbolNames inRange
    (by rwa [symbolNames_length])
  rwa [symbolNames_length] at found

section

variable {pattern : TaskPattern} {count : Nat} (active : count ≤ pattern.symbolCount)

include active

/-- The active base symbols are the first ones. -/
theorem activeSymbols_eq : resize pattern.symbolNames count = pattern.symbolNames.take count :=
  resize_eq_take (by rwa [symbolNames_length])

/-- The symbol of the publisher's index is that of the source and the base symbol. -/
theorem poolSymbols_market {kind : EventKind} (market : kind ≠ .timeAndSale) {source i : Nat}
    (inRange : source ≤ pattern.regionalSourceCount) (inActive : i < count) :
    (poolSymbols pattern count kind)[source * count + i]? =
      pattern.symbolNames[i]?.map (sourceSymbol source) := by
  have length : (resize pattern.symbolNames count).length = count := resize_length _ _
  have found := getElem?_withRegionalSources (resize pattern.symbolNames count) inRange
    (by rwa [length])
  rw [length] at found
  rw [poolSymbols, if_neg market, found, activeSymbols_eq active,
    List.getElem?_take_of_lt inActive]

theorem poolSymbols_composite {i : Nat} (inActive : i < count) :
    (poolSymbols pattern count .timeAndSale)[i]? = pattern.symbolNames[i]? := by
  rw [poolSymbols, if_pos rfl, activeSymbols_eq active, List.getElem?_take_of_lt inActive]

end

/-- With all symbols active, the publisher's expansion is the client's. -/
theorem poolSymbols_all {pattern : TaskPattern} {kind : EventKind} (market : kind ≠ .timeAndSale) :
    poolSymbols pattern pattern.symbolCount kind =
      withRegionalSources pattern.regionalSourceCount pattern.symbolNames := by
  rw [poolSymbols, if_neg market, activeSymbols_eq le_rfl, ← symbolNames_length, List.take_length]

/-- The events of a pool carry its symbols. -/
theorem eventSymbol_makeEvent (kind : EventKind) (symbol : Text) :
    (makeEvent kind symbol).eventSymbol = symbol := by
  cases kind <;> rfl

theorem map_eventSymbol_makeEvent (kind : EventKind) (symbols : List Text) :
    (symbols.map (makeEvent kind)).map Event.eventSymbol = symbols := by
  rw [List.map_map]
  exact (List.map_congr_left fun symbol _ => eventSymbol_makeEvent kind symbol).trans
    (List.map_id symbols)

/-- What the symbols of a pool are, given the symbols of the client. -/
structure PublishesOn (pattern : TaskPattern) (count : Nat) (symbols market : List Text)
    (pool : EventPool) : Prop where
  regional : pool.kind ≠ .timeAndSale →
    pool.events.length = count * (pattern.regionalSourceCount + 1) ∧
      ∀ source ≤ pattern.regionalSourceCount, ∀ i < count,
        sizeAdd (sizeMul source count) i = source * count + i ∧
        ∃ event, pool.events[source * count + i]? = some event ∧
          market[source * pattern.symbolCount + i]? = some event.eventSymbol
  composite : pool.kind = .timeAndSale →
    pool.events.length = count ∧
      ∀ i < count, ∃ event, pool.events[i]? = some event ∧
        symbols[i]? = some event.eventSymbol
  all : count = pattern.symbolCount → pool.kind ≠ .timeAndSale →
    pool.events.map Event.eventSymbol = market

/-- The event at a position where the pool has a symbol. -/
theorem exists_event {kind : EventKind} {symbols : List Text} {index : Nat} {symbol : Text}
    (found : symbols[index]? = some symbol) :
    ∃ event, (symbols.map (makeEvent kind))[index]? = some event ∧ event.eventSymbol = symbol := by
  refine ⟨makeEvent kind symbol, ?_, eventSymbol_makeEvent kind symbol⟩
  rw [List.getElem?_map, found]
  rfl

/-- The publisher publishes on the client's symbols: for every task whose market symbols can be
reserved, and every active count that resolves, there is a pool for every item, in their order,
with exactly the events of the active base symbols and of their regional variants. -/
theorem makeEventPools_publishesOn {pattern : TaskPattern} {configured : Option Nat}
    {count : Nat} {market : List Text}
    (resolved : resolveActiveSymbolCount configured pattern = .ok count) (positive : 1 ≤ count)
    (expanded : pattern.marketSymbols = .ok market) :
    ∃ symbols pools, pattern.symbols = .ok symbols ∧ makeEventPools pattern count = .ok pools ∧
      pools.map (fun pool => (pool.kind, pool.quantity)) =
          pattern.items.map (fun item => (item.kind, item.quantity)) ∧
        ∀ pool ∈ pools, PublishesOn pattern count symbols market pool := by
  obtain ⟨fits, rfl⟩ := marketSymbols_eq_ok.mp expanded
  obtain ⟨-, active, -⟩ := resolveActiveSymbolCount_ok resolved
  have base : pattern.symbolCount ≤ vectorLimit stringSize :=
    (Nat.le_mul_of_pos_right _ (Nat.succ_pos _)).trans fits
  refine ⟨pattern.symbolNames, eventPools pattern count, symbols_eq_ok.mpr ⟨base, rfl⟩,
    makeEventPools_eq_ok fits active, by rw [eventPools, List.map_map]; rfl, ?_⟩
  intro pool mem
  obtain ⟨item, -, rfl⟩ := List.mem_map.mp mem
  have named : ∀ i < count, ∃ name, pattern.symbolNames[i]? = some name := fun i inActive =>
    ⟨_, List.getElem?_eq_getElem (by rw [symbolNames_length]; omega)⟩
  constructor
  · intro isMarket
    constructor
    · rw [List.length_map, poolSymbols_length, if_neg isMarket]
    · intro source inRange i inActive
      have small : count * (pattern.regionalSourceCount + 1) < 2 ^ 63 :=
        ((Nat.mul_le_mul_right _ active).trans fits).trans_lt (by decide)
      obtain ⟨name, base⟩ := named i inActive
      have published := poolSymbols_market active isMarket inRange inActive
      rw [base, Option.map_some] at published
      obtain ⟨event, here, symbol⟩ := exists_event published
      refine ⟨(flattened inRange inActive small).1, event, here, ?_⟩
      rw [symbol, market_getElem inRange (by omega), base, Option.map_some]
  · intro isComposite
    constructor
    · rw [List.length_map, poolSymbols_length, if_pos isComposite]
    · intro i inActive
      obtain ⟨name, base⟩ := named i inActive
      have published := poolSymbols_composite active inActive
      rw [base, ← isComposite] at published
      obtain ⟨event, here, symbol⟩ := exists_event published
      exact ⟨event, here, by rw [base, symbol]⟩
  · rintro rfl isMarket
    rw [map_eventSymbol_makeEvent, poolSymbols_all isMarket]

/-- Three base symbols, two of them active, and one source. -/
theorem makeEventPools_publishesOn_twoOfThree :
    ∃ pattern market symbols pools, parseTask "SUB:Q2;N1#3&1".toList = .ok pattern ∧
      pattern.marketSymbols = .ok market ∧ pattern.symbols = .ok symbols ∧
      makeEventPools pattern 2 = .ok pools ∧
      pools.map (fun pool => (pool.kind, pool.quantity)) = [(.quote, 2), (.timeAndSale, 1)] ∧
      ∀ pool ∈ pools, PublishesOn pattern 2 symbols market pool := by
  let pattern : TaskPattern := ⟨[⟨.quote, 2⟩, ⟨.timeAndSale, 1⟩], 1000, some 3, 1, none⟩
  have accepted : parseTask "SUB:Q2;N1#3&1".toList = .ok pattern := by decide +kernel
  have expanded : pattern.marketSymbols = .ok (withRegionalSources 1 pattern.symbolNames) :=
    marketSymbols_eq_ok.mpr ⟨by decide, rfl⟩
  obtain ⟨symbols, pools, named, made, kinds, publishes⟩ :=
    @makeEventPools_publishesOn pattern (some 2) 2 _ rfl (by decide) expanded
  exact ⟨pattern, _, symbols, pools, accepted, expanded, named, made, kinds, publishes⟩

/-- A task with fewer than `2 ^ 63` market symbols, too many for the client to reserve; with one
symbol active, the publisher has its pools. -/
theorem makeEventPools_unexpanded :
    ∃ pattern pools, parseTask "SUB:Q1#144115188075855872&26".toList = .ok pattern ∧
      resolveActiveSymbolCount (some 1) pattern = .ok 1 ∧
      pattern.marketSymbolCount = .ok (27 * 2 ^ 57) ∧ 27 * 2 ^ 57 < 2 ^ 63 ∧
      makeEventPools pattern 1 = .ok pools ∧
      pattern.marketSymbols = .error "vector::reserve".toList := by
  let pattern : TaskPattern := ⟨[⟨.quote, 1⟩], 1000, some (2 ^ 57), 26, none⟩
  have accepted : parseTask "SUB:Q1#144115188075855872&26".toList = .ok pattern := by
    decide +kernel
  have named : pattern.symbols = .ok pattern.symbolNames := symbols_eq_ok.mpr ⟨by decide, rfl⟩
  have reserved : reserve stringSize (sizeMul 1 (26 + 1)) = .ok () :=
    reserve_eq_ok.mpr (by decide)
  have counted : pattern.marketSymbolCount = .ok (27 * 2 ^ 57) := by decide +kernel
  refine ⟨pattern, eventPools pattern 1, accepted, rfl, counted, by decide,
    bind_eq_ok named (bind_eq_ok reserved rfl), ?_⟩
  rw [marketSymbols_eq counted]
  exact if_neg (by decide)

end LatencyTest
