import LatencyTest.Core.Accepted
import LatencyTest.Lib.Padded
import LatencyTest.Lib.Blocks

/-!
The symbol universe of an accepted task. The names of its base symbols are equally
long, distinct and in lexicographic order, because they are padded to the width of the
largest index; the regional names are the base names with a suffix each, in one block
for every source.
-/

namespace LatencyTest

open Lib (digits paddedDigits)

/-! ### Base symbols -/

/-- The width of the symbols covers every index. -/
theorem digits_le_symbolWidth {count i : Nat} (inRange : i < count) :
    (digits i).length ≤ symbolWidth count :=
  (Lib.digits_length_mono (Nat.le_pred_of_lt inRange)).trans (le_max_right _ _)

theorem symbolName_length {count i : Nat} (inRange : i < count) :
    (symbolName (symbolWidth count) i).length = 3 + symbolWidth count := by
  rw [symbolName, List.length_append, Lib.paddedDigits_length (digits_le_symbolWidth inRange)]
  rfl

/-- Symbols are ordered as their indices are. -/
theorem symbolName_lt {count i j : Nat} (less : i < j) (inRange : j < count) :
    symbolName (symbolWidth count) i < symbolName (symbolWidth count) j :=
  List.append_left_lt (Lib.paddedDigits_lt less (digits_le_symbolWidth inRange))

theorem symbolNames_sorted (pattern : TaskPattern) : pattern.symbolNames.Pairwise (· < ·) := by
  rw [TaskPattern.symbolNames, List.pairwise_map]
  apply List.pairwise_lt_range.imp_of_mem
  intro i j _ inRange less
  exact symbolName_lt less (List.mem_range.mp inRange)

/-- All symbols are equally long. -/
theorem symbolNames_equally_long (pattern : TaskPattern) {name : Text}
    (mem : name ∈ pattern.symbolNames) :
    name.length = 3 + symbolWidth pattern.symbolCount := by
  obtain ⟨i, inRange, rfl⟩ := List.mem_map.mp mem
  exact symbolName_length (List.mem_range.mp inRange)

/-- The universe covers the quantity of every event type, absent ones included. -/
theorem TaskPattern.Admissible.quantity_covered {pattern : TaskPattern}
    (admissible : pattern.Admissible) (kind : EventKind) :
    (pattern.quantity kind).getD 0 ≤ pattern.symbolCount := by
  unfold TaskPattern.quantity
  cases found : pattern.items.find? fun item => item.kind == kind with
  | none => exact Nat.zero_le _
  | some item => exact admissible.quantity_le item (List.mem_of_find?_eq_some found)

/-- The names of an event type are the first ones. -/
theorem names_eq_take {pattern : TaskPattern} (admissible : pattern.Admissible)
    (kind : EventKind) :
    (List.range ((pattern.quantity kind).getD 0)).map
        (symbolName (symbolWidth pattern.symbolCount)) =
      pattern.symbolNames.take ((pattern.quantity kind).getD 0) := by
  rw [TaskPattern.symbolNames, ← List.map_take, List.take_range,
    Nat.min_eq_left (admissible.quantity_covered kind)]

/-! ### Regional symbols -/

/-- No base symbol has the separator of a regional one. -/
theorem ampersand_notMem_symbolName (width i : Nat) : '&' ∉ symbolName width i := by
  intro mem
  rcases List.mem_append.mp mem with letter | padded
  · exact absurd letter (by decide)
  · exact Lib.notMem_of_isDigit (fun _ => Lib.isDigit_of_mem_paddedDigits) (by decide) padded

theorem ampersand_notMem_symbolNames {pattern : TaskPattern} {name : Text}
    (mem : name ∈ pattern.symbolNames) : '&' ∉ name := by
  obtain ⟨i, -, rfl⟩ := List.mem_map.mp mem
  exact ampersand_notMem_symbolName _ _

theorem ampersand_mem_regionalSymbol (source : Nat) (name : Text) :
    '&' ∈ regionalSymbol source name := by simp [regionalSymbol]

/-- Different sources have different letters. -/
theorem regionalSymbol_inj {source other : Nat} {name name' : Text} (capital : source < 26)
    (capital' : other < 26) (same : regionalSymbol source name = regionalSymbol other name') :
    source = other ∧ name = name' := by
  unfold regionalSymbol at same
  obtain ⟨rfl, suffix⟩ := List.append_inj' same rfl
  have letters : ∀ m < 26, ∀ n < 26, Char.ofNat ('A'.toNat + m) = Char.ofNat ('A'.toNat + n) →
      m = n := by decide
  have letter : Char.ofNat ('A'.toNat + source) = Char.ofNat ('A'.toNat + other) := by
    simpa using suffix
  exact ⟨letters source capital other capital' letter, rfl⟩

/-- Regional expansion keeps names distinct. -/
theorem withRegionalSources_nodup {count : Nat} {base : List Text} (capital : count ≤ 26)
    (distinct : base.Nodup) (plain : ∀ name ∈ base, '&' ∉ name) :
    (withRegionalSources count base).Nodup := by
  have regional : ((List.range count).flatMap fun source =>
      base.map (regionalSymbol source)).Nodup := by
    rw [List.nodup_flatMap]
    constructor
    · intro source mem
      have inRange := (List.mem_range.mp mem).trans_le capital
      exact distinct.map_on fun _ _ _ _ same => (regionalSymbol_inj inRange inRange same).2
    · apply List.nodup_range.imp_of_mem
      intro source other mem mem' differ name first second
      obtain ⟨base, -, rfl⟩ := List.mem_map.mp first
      obtain ⟨base', -, same⟩ := List.mem_map.mp second
      exact differ (regionalSymbol_inj ((List.mem_range.mp mem').trans_le capital)
        ((List.mem_range.mp mem).trans_le capital) same).1.symm
  refine List.nodup_append.mpr ⟨distinct, regional, ?_⟩
  rintro name inBase other inRegional rfl
  obtain ⟨source, -, mem⟩ := List.mem_flatMap.mp inRegional
  obtain ⟨base, -, rfl⟩ := List.mem_map.mp mem
  exact plain _ inBase (ampersand_mem_regionalSymbol source base)

/-- The market symbols start with the base symbols. -/
theorem withRegionalSources_take (count : Nat) (base : List Text) :
    (withRegionalSources count base).take base.length = base :=
  List.take_left' rfl

/-- The block of a source is the base symbols with its suffix. -/
theorem withRegionalSources_block {count source : Nat} (base : List Text)
    (inRange : source < count) :
    ((withRegionalSources count base).drop ((source + 1) * base.length)).take base.length =
      base.map (regionalSymbol source) := by
  have afterBase : (source + 1) * base.length = base.length + source * base.length := by ring
  rw [withRegionalSources, afterBase, ← List.drop_drop, List.drop_left' rfl]
  exact Lib.take_drop_flatMap_range (fun _ => List.length_map _) inRange

/-! ### Accepted tasks -/

/-- What the symbols of a pattern are. -/
structure IsUniverse (pattern : TaskPattern) (symbols : List Text) : Prop where
  length : symbols.length = pattern.symbolCount
  nodup : symbols.Nodup
  equallyLong : ∀ name ∈ symbols, ∀ other ∈ symbols, name.length = other.length
  sorted : symbols.Pairwise (· < ·)

/-- What the market symbols of a pattern are, over its symbols. -/
structure IsMarketExpansion (pattern : TaskPattern) (symbols : List Text) (count : Nat)
    (market : List Text) : Prop where
  length : market.length = count
  nodup : market.Nodup
  starts : market.take pattern.symbolCount = symbols
  blocks : ∀ source < pattern.regionalSourceCount,
    (market.drop ((source + 1) * pattern.symbolCount)).take pattern.symbolCount =
      symbols.map fun name => name ++ ['&', Char.ofNat ('A'.toNat + source)]

theorem isUniverse (pattern : TaskPattern) : IsUniverse pattern pattern.symbolNames where
  length := symbolNames_length pattern
  nodup := symbolNames_nodup pattern
  equallyLong := fun _ mem _ mem' =>
    (symbolNames_equally_long pattern mem).trans (symbolNames_equally_long pattern mem').symm
  sorted := symbolNames_sorted pattern

theorem isMarketExpansion {pattern : TaskPattern} (admissible : pattern.Admissible) {count : Nat}
    (counted : pattern.marketSymbolCount = .ok count) :
    IsMarketExpansion pattern pattern.symbolNames count
      (withRegionalSources pattern.regionalSourceCount pattern.symbolNames) := by
  obtain ⟨value, -⟩ := marketSymbolCount_eq_ok.mp counted
  constructor
  · rw [withRegionalSources_length, symbolNames_length, value]
  · exact withRegionalSources_nodup admissible.regional_le (symbolNames_nodup pattern)
      fun _ => ampersand_notMem_symbolNames
  · have first := withRegionalSources_take pattern.regionalSourceCount pattern.symbolNames
    rwa [symbolNames_length] at first
  · intro source inRange
    have block := withRegionalSources_block pattern.symbolNames inRange
    rwa [symbolNames_length] at block

/-- What a function returns that reserves `count` strings for its result. -/
def reserved (count : Nat) (result : List Text) : Except Text (List Text) :=
  if count ≤ vectorLimit stringSize then .ok result else .error "vector::reserve".toList

theorem reserve_eq {elementSize count : Nat} :
    reserve elementSize count =
      if count ≤ vectorLimit elementSize then .ok () else .error "vector::reserve".toList := by
  unfold reserve
  by_cases fits : count ≤ vectorLimit elementSize
  · rw [if_pos fits, if_neg (not_lt.mpr fits)]
  · rw [if_neg fits, if_pos (not_le.mp fits)]

theorem symbols_eq (pattern : TaskPattern) :
    pattern.symbols = reserved pattern.symbolCount pattern.symbolNames := by
  rw [TaskPattern.symbols, reserve_eq, reserved]
  split <;> rfl

/-- The symbols of an event type are the first ones. -/
theorem symbolsOf_eq {pattern : TaskPattern} (admissible : pattern.Admissible)
    (kind : EventKind) :
    pattern.symbolsOf kind = reserved ((pattern.quantity kind).getD 0)
      (pattern.symbolNames.take ((pattern.quantity kind).getD 0)) := by
  rw [TaskPattern.symbolsOf, reserve_eq, reserved, ← names_eq_take admissible]
  split <;> rfl

/-- The universe is part of its expansion, so it is reserved first and fails no earlier. -/
theorem marketSymbols_eq {pattern : TaskPattern} {count : Nat}
    (counted : pattern.marketSymbolCount = .ok count) :
    pattern.marketSymbols =
      reserved count (withRegionalSources pattern.regionalSourceCount pattern.symbolNames) := by
  obtain ⟨rfl, -⟩ := marketSymbolCount_eq_ok.mp counted
  have base : pattern.symbolCount ≤ pattern.symbolCount * (pattern.regionalSourceCount + 1) :=
    Nat.le_mul_of_pos_right _ (Nat.succ_pos _)
  by_cases fits : pattern.symbolCount * (pattern.regionalSourceCount + 1) ≤ vectorLimit stringSize
  · rw [marketSymbols_eq_ok.mpr ⟨fits, rfl⟩, reserved, if_pos fits]
  · rw [TaskPattern.marketSymbols, symbols_eq, counted, reserved, reserved, if_neg fits]
    by_cases named : pattern.symbolCount ≤ vectorLimit stringSize
    · rw [if_pos named]
      change (reserve stringSize _).bind _ = _
      rw [reserve_eq, if_neg fits]
      rfl
    · rw [if_neg named]
      rfl

/-- The universe of every accepted task: its base symbols are distinct, equally long and
sorted, those of an event type are the first ones, and its market symbols are the base
symbols and a distinct copy for every source. Each list is returned exactly when a vector
of its length can be reserved. -/
theorem universe_wellFormed {text : Text} {pattern : TaskPattern}
    (accepted : parseTask text = .ok pattern) :
    ∃ names, IsUniverse pattern names ∧
      pattern.symbols = reserved pattern.symbolCount names ∧
      (∀ kind, (pattern.quantity kind).getD 0 ≤ pattern.symbolCount ∧
        pattern.symbolsOf kind =
          reserved ((pattern.quantity kind).getD 0)
            (names.take ((pattern.quantity kind).getD 0))) ∧
      ∃ count market, pattern.marketSymbolCount = .ok count ∧
        IsMarketExpansion pattern names count market ∧
        pattern.marketSymbols = reserved count market := by
  have admissible := parseTask_admissible accepted
  have counted := marketSymbolCount_eq_ok.mpr ⟨rfl, admissible.market_fits⟩
  exact ⟨_, isUniverse pattern, symbols_eq pattern,
    fun kind => ⟨admissible.quantity_covered kind, symbolsOf_eq admissible kind⟩,
    _, _, counted, isMarketExpansion admissible counted, marketSymbols_eq counted⟩

/-- Two base symbols and one source make four market symbols. -/
theorem universe_wellFormed_twoSymbols :
    ∃ pattern names market, parseTask "SUB:Q2;T1&1".toList = .ok pattern ∧
      pattern.symbols = .ok names ∧ IsUniverse pattern names ∧
      pattern.symbolsOf .trade = .ok (names.take 1) ∧
      pattern.marketSymbols = .ok market ∧ IsMarketExpansion pattern names 4 market := by
  have accepted : parseTask "SUB:Q2;T1&1".toList =
      .ok { items := [⟨.quote, 2⟩, ⟨.trade, 1⟩], regionalSourceCount := 1 } := by
    decide +kernel
  obtain ⟨names, wellFormed, symbols, kinds, count, market, counted, expansion, expanded⟩ :=
    universe_wellFormed accepted
  obtain rfl : 4 = count := Except.ok.inj counted
  exact ⟨_, names, market, accepted, symbols, wellFormed, (kinds .trade).2, expanded, expansion⟩

/-- Some accepted universes cannot be reserved: no vector has `2 ^ 58` strings. -/
theorem universe_unreservable :
    ∃ pattern, parseTask "SUB:Q1#288230376151711744".toList = .ok pattern ∧
      pattern.symbolCount = 2 ^ 58 ∧ pattern.marketSymbolCount = .ok (2 ^ 58) ∧
      pattern.symbols = .error "vector::reserve".toList ∧
      pattern.marketSymbols = .error "vector::reserve".toList := by
  have accepted : parseTask "SUB:Q1#288230376151711744".toList =
      .ok ⟨[⟨.quote, 1⟩], 1000, some (2 ^ 58), 0, none⟩ := by
    decide +kernel
  exact ⟨_, accepted, rfl, rfl, rfl, rfl⟩

end LatencyTest
