import LatencyTest.Core.Parse

/-!
What every pattern accepted by `parseTask` satisfies. The lemmas follow the
stages of the parser: the item loop establishes the facts about the items, the
later stages extend the pattern without touching them.
-/

namespace LatencyTest

open Lib (FromChars fromCharsNat fromCharsNat_le fromCharsNat_rest)

/-- A computation that succeeds has a first step that succeeds. -/
theorem ok_of_bind {ε α β : Type} {x : Except ε α} {f : α → Except ε β} {b : β}
    (h : (x >>= f) = .ok b) : ∃ a, x = .ok a ∧ f a = .ok b := by
  cases x with
  | error e => cases h
  | ok a => exact ⟨a, rfl, h⟩

/-- Two steps that succeed one after the other. -/
theorem bind_eq_ok {ε α β : Type} {x : Except ε α} {f : α → Except ε β} {a : α} {b : β}
    (first : x = .ok a) (second : f a = .ok b) : (x >>= f) = .ok b := by
  rw [first]
  exact second

/-- A computation that fails has a first step that fails, or a second one. -/
theorem error_of_bind {ε α β : Type} {x : Except ε α} {f : α → Except ε β} {e : ε}
    (h : (x >>= f) = .error e) : x = .error e ∨ ∃ a, x = .ok a ∧ f a = .error e := by
  cases x with
  | error _ =>
      cases h
      exact .inl rfl
  | ok a => exact .inr ⟨a, rfl, h⟩

/-- The facts about the item list that the item loop maintains. -/
structure ItemsAdmissible (items : List PatternItem) : Prop where
  kinds_nodup : (items.map PatternItem.kind).Nodup
  quantity_pos : ∀ item ∈ items, 0 < item.quantity
  total_fits : (items.map PatternItem.quantity).sum < sizeLimit

theorem ItemsAdmissible.nil : ItemsAdmissible [] :=
  ⟨by simp, by simp, by simp [sizeLimit]⟩

/-- One accepted item keeps the item facts. -/
theorem ItemsAdmissible.snoc {items : List PatternItem} {kind : EventKind} {quantity total : Nat}
    (h : ItemsAdmissible items) (fresh : items.any (·.kind == kind) = false)
    (positive : quantity ≠ 0)
    (sum : eventCountFrom 0 (items ++ [⟨kind, quantity⟩]) = .ok total) :
    ItemsAdmissible (items ++ [⟨kind, quantity⟩]) := by
  obtain ⟨value, fits⟩ := eventCountFrom_ok (by simp [sizeLimit]) sum
  refine ⟨?_, ?_, ?_⟩
  · rw [List.map_append, List.nodup_append]
    refine ⟨h.kinds_nodup, by simp, ?_⟩
    intro k hk k' hk' eq
    obtain ⟨item, mem, rfl⟩ := List.mem_map.mp hk
    have unseen := List.any_eq_false.mp fresh item mem
    simp only [List.map_cons, List.map_nil, List.mem_singleton] at hk'
    simp [eq, hk'] at unseen
  · intro item mem
    rcases List.mem_append.mp mem with old | new
    · exact h.quantity_pos item old
    · rw [List.mem_singleton.mp new]
      exact Nat.pos_of_ne_zero positive
  · rw [Nat.zero_add] at value
    rwa [← value]

/-- The item loop keeps the item facts and never drops an accepted item. -/
theorem parseItems_ok {pos : Nat} {rest : Text} {items result : List PatternItem}
    (h : ItemsAdmissible items) (parsed : parseItems pos rest items = .ok result) :
    ItemsAdmissible result ∧ (rest ≠ [] → result ≠ []) ∧ (items ≠ [] → result ≠ []) := by
  fun_induction parseItems pos rest items with
  | case1 pos items =>
      cases parsed
      exact ⟨h, fun empty => absurd rfl empty, id⟩
  | case8 pos items code number kind _ fresh quantity positive total sum next scan =>
      cases parsed
      exact ⟨h.snoc (by simpa using fresh) positive sum, by simp, by simp⟩
  | case11 pos items code number kind _ fresh quantity positive total sum separator more scan
      isSeparator nonempty _ next ih =>
      obtain ⟨admissible, -, kept⟩ := ih (h.snoc (by simpa using fresh) positive sum) parsed
      exact ⟨admissible, fun _ => kept (by simp), fun _ => kept (by simp)⟩
  | _ => cases parsed

/-! ### The optional parts -/

/-- An accepted duration is positive and fits in 64 signed bits. -/
theorem parseDuration_ok {text : Text} {period : Int} (h : parseDuration text = .ok period) :
    0 < period ∧ period ≤ int64Max := by
  unfold parseDuration at h
  split at h
  · cases h
  · split at h
    rename_i multiplier number scaled
    split at h
    · cases h
    · rename_i value scan
      split at h
      · cases h
      · rename_i bounds
        push Not at bounds
        cases h
        have multiplier_pos : 0 < multiplier := by
          split_ifs at scaled <;> cases scaled <;> omega
        have scaled_le : value * multiplier ≤ ((int64Max / multiplier : Nat) : Int) * multiplier :=
          mul_le_mul_of_nonneg_right bounds.2 (by omega)
        have limit : ((int64Max / multiplier : Nat) : Int) * multiplier ≤ int64Max := by
          exact_mod_cast Nat.div_mul_le_self int64Max multiplier
        exact ⟨mul_pos bounds.1 (by omega), scaled_le.trans limit⟩

theorem parsePeriod_ok {text : Text} {found : Separators} {task result : TaskPattern}
    (h : parsePeriod text found task = .ok result) :
    result = task ∨ ∃ period, result = { task with publishPeriod := period } ∧
      0 < period ∧ period ≤ int64Max := by
  unfold parsePeriod at h
  split at h
  · cases h
    exact .inl rfl
  · dsimp only at h
    split at h
    · cases h
    · split at h
      · cases h
      · split at h
        · cases h
        · rename_i period parsed
          cases h
          exact .inr ⟨period, rfl, parseDuration_ok parsed⟩

theorem parseSymbolCount_ok {text : Text} {found : Separators} {task result : TaskPattern}
    (h : parseSymbolCount text found task = .ok result) :
    result = task ∨ ∃ count, result = { task with subscribedSymbolCount := some count } ∧
      0 < count ∧ task.symbolCount ≤ count ∧ count < sizeLimit := by
  unfold parseSymbolCount at h
  split at h
  · cases h
    exact .inl rfl
  · dsimp only at h
    split at h
    · cases h
    · split at h
      · cases h
      · split at h
        · cases h
        · rename_i count scan
          have bound := fromCharsNat_le (FromChars.whole_eq_some.mp scan)
          split_ifs at h with zero small
          cases h
          refine .inr ⟨count, rfl, by omega, by omega, ?_⟩
          simp only [sizeLimit] at bound ⊢
          omega

theorem parseRegional_ok {text : Text} {found : Separators} {task result : TaskPattern}
    (h : parseRegional text found task = .ok result) :
    result = task ∨ ∃ count total, result = { task with regionalSourceCount := count } ∧
      count ≤ 26 ∧ result.marketSymbolCount = .ok total := by
  unfold parseRegional at h
  split at h
  · cases h
    exact .inl rfl
  · dsimp only at h
    split at h
    · cases h
    · split at h
      · cases h
      · split at h
        · cases h
        · rename_i count scan
          split_ifs at h with range
          split at h
          · cases h
          · rename_i total market
            cases h
            exact .inr ⟨count, total, rfl, by omega, market⟩

theorem parseShuffle_ok {text : Text} {found : Separators} {task result : TaskPattern}
    (h : parseShuffle text found task = .ok result) :
    ∃ seed, result = { task with shuffleSeed := seed } := by
  unfold parseShuffle at h
  split at h
  · cases h
    exact ⟨task.shuffleSeed, rfl⟩
  · dsimp only at h
    split at h
    · cases h
    · split at h
      · cases h
      · split at h
        · cases h
        · cases h
          exact ⟨_, rfl⟩

/-! ### Accepted patterns -/

/-- What every accepted pattern satisfies. `market_fits` bounds every index the
publisher computes into its flattened pools. -/
structure TaskPattern.Admissible (pattern : TaskPattern) : Prop where
  items_ne_nil : pattern.items ≠ []
  items : ItemsAdmissible pattern.items
  quantity_le : ∀ item ∈ pattern.items, item.quantity ≤ pattern.symbolCount
  market_fits : pattern.symbolCount * (pattern.regionalSourceCount + 1) < sizeLimit
  regional_le : pattern.regionalSourceCount ≤ 26
  period_pos : 0 < pattern.publishPeriod
  period_le : pattern.publishPeriod ≤ int64Max

/-- The largest quantity of admissible items fits in a `std::size_t`. -/
theorem ItemsAdmissible.largest_lt {items : List PatternItem} (h : ItemsAdmissible items) :
    (items.map PatternItem.quantity).foldl max 0 < sizeLimit := by
  have bound : (items.map PatternItem.quantity).foldl max 0 ≤
      (items.map PatternItem.quantity).sum :=
    foldl_max_le.mpr ⟨Nat.zero_le _, fun v hv => List.single_le_sum (by simp) v hv⟩
  exact lt_of_le_of_lt bound h.total_fits

/-- `marketSymbolCount` returns normally exactly when the product fits. -/
theorem marketSymbolCount_eq_ok {pattern : TaskPattern} {total : Nat} :
    pattern.marketSymbolCount = .ok total ↔
      total = pattern.symbolCount * (pattern.regionalSourceCount + 1) ∧ total < sizeLimit := by
  have fits : pattern.symbolCount ≤ (sizeLimit - 1) / (pattern.regionalSourceCount + 1) ↔
      pattern.symbolCount * (pattern.regionalSourceCount + 1) ≤ sizeLimit - 1 :=
    Nat.le_div_iff_mul_le (Nat.succ_pos _)
  have limit_pos : 0 < sizeLimit := by simp [sizeLimit]
  unfold TaskPattern.marketSymbolCount
  split_ifs with exceeds
  · simp only [false_iff, not_and]
    rintro rfl
    omega
  · simp only [Except.ok.injEq]
    constructor
    · rintro rfl
      exact ⟨rfl, by omega⟩
    · intro h
      exact h.1.symm

/-- `marketSymbols` returns normally exactly when its vector can be reserved. -/
theorem marketSymbols_eq_ok {pattern : TaskPattern} {market : List Text} :
    pattern.marketSymbols = .ok market ↔
      pattern.symbolCount * (pattern.regionalSourceCount + 1) ≤ vectorLimit stringSize ∧
        market = withRegionalSources pattern.regionalSourceCount pattern.symbolNames := by
  have small : vectorLimit stringSize < sizeLimit := by decide
  constructor
  · intro expanded
    rw [TaskPattern.marketSymbols] at expanded
    obtain ⟨composite, named, afterNames⟩ := ok_of_bind expanded
    obtain ⟨count, counted, afterCount⟩ := ok_of_bind afterNames
    obtain ⟨_, reserved, returned⟩ := ok_of_bind afterCount
    obtain ⟨-, rfl⟩ := symbols_eq_ok.mp named
    obtain ⟨rfl, -⟩ := marketSymbolCount_eq_ok.mp counted
    exact ⟨reserve_eq_ok.mp reserved, (Except.ok.inj returned).symm⟩
  · rintro ⟨fits, rfl⟩
    have base : pattern.symbolCount ≤ vectorLimit stringSize :=
      (Nat.le_mul_of_pos_right _ (Nat.succ_pos _)).trans fits
    have counted := marketSymbolCount_eq_ok.mpr ⟨rfl, fits.trans_lt small⟩
    exact bind_eq_ok (symbols_eq_ok.mpr ⟨base, rfl⟩)
      (bind_eq_ok counted (bind_eq_ok (reserve_eq_ok.mpr fits) rfl))

/-- A separator is found at or after the start of its search and inside the text. -/
theorem separatorPosition_bounds (text : Text) {start : Nat} (c : Char)
    (inside : start ≤ text.length) :
    start ≤ separatorPosition text (findFrom c start text) ∧
      separatorPosition text (findFrom c start text) ≤ text.length := by
  unfold separatorPosition findFrom
  cases search : (text.drop start).findIdx? (· == c) with
  | none => exact ⟨inside, le_rfl⟩
  | some i =>
      have := (List.findIdx?_eq_some_iff_getElem.mp search).1
      rw [List.length_drop] at this
      simp only [Option.map_some, Option.getD_some]
      omega

/-- The items end after the task prefix and inside the text. -/
theorem patternEnd_bounds {text : Text} (isTask : taskPrefix.isPrefixOf text = true) :
    taskPrefix.length ≤ patternEnd text (findSeparators text) ∧
      patternEnd text (findSeparators text) ≤ text.length := by
  have each := fun c => separatorPosition_bounds text c
    (List.isPrefixOf_iff_prefix.mp isTask).length_le
  simp only [patternEnd, findSeparators, le_min_iff]
  exact ⟨⟨(each _).1, (each _).1, (each _).1, (each _).1⟩, min_le_of_left_le (each _).2⟩

/-- An accepted text passed every stage, each stage starting from the result of
the one before. -/
theorem parseTask_stages {text : Text} {pattern : TaskPattern} (h : parseTask text = .ok pattern) :
    taskPrefix.isPrefixOf text = true ∧ taskPrefix.length ≠ patternEnd text (findSeparators text) ∧
    ∃ items afterPeriod afterSymbols afterRegional,
      parseItems taskPrefix.length
        ((text.take (patternEnd text (findSeparators text))).drop taskPrefix.length) [] =
          .ok items ∧
      parsePeriod text (findSeparators text) { items := items } = .ok afterPeriod ∧
      parseSymbolCount text (findSeparators text) afterPeriod = .ok afterSymbols ∧
      parseRegional text (findSeparators text) afterSymbols = .ok afterRegional ∧
      parseShuffle text (findSeparators text) afterRegional = .ok pattern := by
  unfold parseTask at h
  split_ifs at h with notTask
  simp only [bind, Except.bind] at h
  split at h
  · cases h
  split_ifs at h with atEnd
  split at h
  · cases h
  rename_i items parsedItems
  split at h
  · cases h
  rename_i afterPeriod parsedPeriod
  split at h
  · cases h
  rename_i afterSymbols parsedSymbols
  split at h
  · cases h
  rename_i afterRegional parsedRegional
  exact ⟨by simpa using notTask, atEnd, items, afterPeriod, afterSymbols, afterRegional,
    parsedItems, parsedPeriod, parsedSymbols, parsedRegional, h⟩

/-- Every pattern `parseTask` accepts is admissible. -/
theorem parseTask_admissible {text : Text} {pattern : TaskPattern}
    (h : parseTask text = .ok pattern) : pattern.Admissible := by
  obtain ⟨isTask, atEnd, items, afterPeriod, afterSymbols, afterRegional, parsedItems,
    parsedPeriod, parsedSymbols, parsedRegional, parsedShuffle⟩ := parseTask_stages h
  obtain ⟨itemsOk, itemsFound, -⟩ := parseItems_ok .nil parsedItems
  have itemsNe : items ≠ [] := by
    apply itemsFound
    obtain ⟨later, inside⟩ := patternEnd_bounds isTask
    intro empty
    have := congrArg List.length empty
    simp only [List.length_drop, List.length_take, List.length_nil] at this
    omega
  -- The period stage leaves the items alone and bounds the period.
  have period : afterPeriod.items = items ∧ afterPeriod.subscribedSymbolCount = none ∧
      afterPeriod.regionalSourceCount = 0 ∧ 0 < afterPeriod.publishPeriod ∧
      afterPeriod.publishPeriod ≤ int64Max := by
    rcases parsePeriod_ok parsedPeriod with rfl | ⟨period, rfl, positive, bounded⟩
    · exact ⟨rfl, rfl, rfl, by simp, by simp [int64Max]⟩
    · exact ⟨rfl, rfl, rfl, positive, bounded⟩
  obtain ⟨keptItems, noUniverse, noRegions, periodPos, periodLe⟩ := period
  have largest : afterPeriod.symbolCount = (items.map PatternItem.quantity).foldl max 0 := by
    simp only [TaskPattern.symbolCount, noUniverse, keptItems]
  -- The symbol stage keeps every quantity inside a representable universe.
  have known : afterSymbols.items = items ∧ afterSymbols.regionalSourceCount = 0 ∧
      afterSymbols.publishPeriod = afterPeriod.publishPeriod ∧
      afterPeriod.symbolCount ≤ afterSymbols.symbolCount ∧
      afterSymbols.symbolCount < sizeLimit := by
    rcases parseSymbolCount_ok parsedSymbols with rfl | ⟨count, rfl, -, covers, fits⟩
    · exact ⟨keptItems, noRegions, rfl, le_rfl, largest ▸ itemsOk.largest_lt⟩
    · exact ⟨keptItems, noRegions, rfl, covers, fits⟩
  obtain ⟨symbolItems, symbolRegions, symbolPeriod, covers, fits⟩ := known
  have regions : afterRegional.items = items ∧
      afterRegional.publishPeriod = afterPeriod.publishPeriod ∧
      afterRegional.symbolCount = afterSymbols.symbolCount ∧
      afterRegional.regionalSourceCount ≤ 26 ∧
      afterRegional.symbolCount * (afterRegional.regionalSourceCount + 1) < sizeLimit := by
    rcases parseRegional_ok parsedRegional with rfl | ⟨count, total, rfl, bound, market⟩
    · refine ⟨symbolItems, symbolPeriod, rfl, by omega, ?_⟩
      rw [symbolRegions]
      simpa using fits
    · obtain ⟨value, small⟩ := marketSymbolCount_eq_ok.mp market
      exact ⟨symbolItems, symbolPeriod, rfl, bound, value ▸ small⟩
  obtain ⟨regionItems, regionPeriod, regionUniverse, bound, marketFits⟩ := regions
  obtain ⟨seed, rfl⟩ := parseShuffle_ok parsedShuffle
  have seedUniverse : { afterRegional with shuffleSeed := seed }.symbolCount =
      afterRegional.symbolCount := rfl
  exact
    { items_ne_nil := by rw [regionItems]; exact itemsNe
      items := by rw [regionItems]; exact itemsOk
      quantity_le := by
        intro item mem
        rw [regionItems] at mem
        rw [seedUniverse, regionUniverse]
        exact (quantity_le_largest mem).trans (largest ▸ covers)
      market_fits := by rw [seedUniverse]; exact marketFits
      regional_le := bound
      period_pos := by rw [regionPeriod]; exact periodPos
      period_le := by rw [regionPeriod]; exact periodLe }

end LatencyTest
