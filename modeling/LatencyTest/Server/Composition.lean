import LatencyTest.Server.Publish

/-!
What a publication is composed of. `Choice` is one selected event object with its
record key. A pool selects as many objects as its quantity, rotating over the
active base symbols (`Rotates`); the loops of `publish` keep `Prepared`, which
says what has been selected so far and that the selected objects carry the
stamp. From there `publish` never fails, and its publication is the selection
without the unsubscribed TimeAndSale events, followed by the marker.
-/

namespace LatencyTest

open Lib (checkedMod checkedMod_eq shuffleFrom shuffleFrom_perm foldlM_invariant)

/-! ### Well-formed tasks -/

/-- What holds of an active task between publications. -/
structure ActiveTask.WellFormed (active : ActiveTask) : Prop where
  admissible : active.pattern.Admissible
  count_pos : 0 < active.activeSymbolCount
  count_le : active.activeSymbolCount ≤ active.pattern.symbolCount
  quantity_le : ∀ item ∈ active.pattern.items, item.quantity ≤ active.activeSymbolCount
  market_lt : active.pattern.symbolCount * (active.pattern.regionalSourceCount + 1) < 2 ^ 63
  shape : active.pools.map EventPool.shape =
    (eventPools active.pattern active.activeSymbolCount).map EventPool.shape
  order : active.poolOrder.length = active.pools.length

namespace ActiveTask.WellFormed

variable {active : ActiveTask} (h : active.WellFormed)

include h

theorem pools_length : active.pools.length = active.pattern.items.length := by
  simpa [eventPools] using congrArg List.length h.shape

/-- The pool of an item of the pattern. -/
theorem pool_of_item {poolIndex : Nat} {item : PatternItem}
    (found : active.pattern.items[poolIndex]? = some item) :
    ∃ pool, active.pools[poolIndex]? = some pool ∧ pool.kind = item.kind ∧
      pool.quantity = item.quantity ∧
      pool.events.map Event.recordKey =
        (poolSymbols active.pattern active.activeSymbolCount item.kind).map
          (some item.kind, ·) := by
  have same := congrArg (·[poolIndex]?) h.shape
  simp only [List.getElem?_map, eventPools, found, Option.map_some,
    Option.map_eq_some_iff] at same
  obtain ⟨pool, here, shape⟩ := same
  simp only [EventPool.shape, List.map_map, Function.comp_def, makeEvent_recordKey,
    Prod.mk.injEq] at shape
  exact ⟨pool, here, shape.1, shape.2.1, shape.2.2⟩

end ActiveTask.WellFormed

/-! ### Event objects -/

/-- Setting the fields of an event keeps its record key. -/
@[simp] theorem stampEvent_recordKey (stamp : Stamp) (event : Event) :
    (stampEvent stamp event).recordKey = event.recordKey := by
  cases event <;> rfl

/-- Setting the fields twice is setting them once. -/
@[simp] theorem stampEvent_idem (stamp : Stamp) (event : Event) :
    stampEvent stamp (stampEvent stamp event) = stampEvent stamp event := by
  cases event <;> rfl

namespace ActiveTask

section CountRoute

variable (active : ActiveTask) (source : Nat)

@[simp] theorem countRoute_pools : (active.countRoute source).pools = active.pools := by
  unfold countRoute
  split <;> rfl

@[simp] theorem countRoute_publication :
    (active.countRoute source).publication = active.publication := by
  unfold countRoute
  split <;> rfl

@[simp] theorem countRoute_timeAndSaleHistory :
    (active.countRoute source).timeAndSaleHistory = active.timeAndSaleHistory := by
  unfold countRoute
  split <;> rfl

end CountRoute

/-- Counting a route touches no event object. -/
@[simp] theorem resolve_countRoute (active : ActiveTask) (source : Nat) (reference : Reference) :
    (active.countRoute source).resolve reference = active.resolve reference := by
  unfold countRoute
  split <;> cases reference <;> rfl

@[simp] theorem resolve_push (active : ActiveTask) (pushed reference : Reference) :
    (active.push pushed).resolve reference = active.resolve reference := by
  cases reference <;> rfl

@[simp] theorem resolve_retainTimeAndSale (active : ActiveTask) (limit : Nat) (symbol : Text)
    (record : TimeAndSaleRecord) (reference : Reference) :
    (active.retainTimeAndSale limit symbol record).resolve reference =
      active.resolve reference := by
  cases reference <;> rfl

/-- Writing an object changes that object only. -/
theorem resolve_writeEvent {active : ActiveTask} {poolIndex index : Nat} {old : Event}
    (found : active.resolve (.event poolIndex index) = some old) (event : Event)
    (reference : Reference) :
    (active.writeEvent poolIndex index event).resolve reference =
      if reference = .event poolIndex index then some event else active.resolve reference := by
  obtain ⟨pool, here, inside⟩ := Option.bind_eq_some_iff.mp found
  have bound := (List.getElem?_eq_some_iff.mp inside).1
  cases reference with
  | marker => rfl
  | event a b =>
      simp only [resolve, writeEvent, List.getElem?_modify, Reference.event.injEq]
      by_cases samePool : poolIndex = a
      · subst samePool
        simp only [here, ↓reduceIte, true_and, Option.bind_eq_bind, Option.bind_some]
        by_cases sameIndex : index = b
        · subst sameIndex
          simp [bound]
        · simp [sameIndex, Ne.symm sameIndex]
      · simp [samePool, Ne.symm samePool]

/-- Writing an object with the record key of the old one keeps the shape. -/
theorem writeEvent_shape {active : ActiveTask} {poolIndex index : Nat} {old event : Event}
    (found : active.resolve (.event poolIndex index) = some old)
    (same : event.recordKey = old.recordKey) :
    (active.writeEvent poolIndex index event).pools.map EventPool.shape =
      active.pools.map EventPool.shape := by
  obtain ⟨pool, here, inside⟩ := Option.bind_eq_some_iff.mp found
  apply List.ext_getElem?
  intro a
  simp only [writeEvent, List.getElem?_map, List.getElem?_modify]
  by_cases samePool : poolIndex = a
  · subst samePool
    have events : (pool.events.set index event).map Event.recordKey =
        pool.events.map Event.recordKey := by
      apply List.ext_getElem?
      intro b
      simp only [List.getElem?_map, List.getElem?_set]
      by_cases sameIndex : index = b
      · subst sameIndex
        obtain ⟨bound, value⟩ := List.getElem?_eq_some_iff.mp inside
        simp [bound, value, same]
      · simp [sameIndex]
    simp [here, EventPool.shape, events]
  · simp [samePool]

end ActiveTask

/-! ### Selecting -/

/-- One selected event object. -/
structure Choice where
  pool : Nat
  index : Nat
  kind : EventKind
  symbol : Text
deriving DecidableEq

def Choice.reference (choice : Choice) : Reference := .event choice.pool choice.index

/-- The routing of an event stays within the configured sources. -/
theorem route_ok (pattern : TaskPattern) (kind : EventKind) (random : UInt64) :
    ∃ source next, route pattern kind random = some (source, next) ∧
      source ≤ pattern.regionalSourceCount ∧ (kind = .timeAndSale → source = 0) := by
  unfold route
  split
  · exact ⟨0, random, rfl, Nat.zero_le _, fun _ => rfl⟩
  · rename_i other
    split
    · rw [checkedMod_eq (Nat.succ_pos _)]
      exact ⟨_, _, rfl, Nat.lt_succ_iff.mp (Nat.mod_lt _ (Nat.succ_pos _)),
        fun same => absurd same other⟩
    · exact ⟨0, random, rfl, Nat.zero_le _, fun _ => rfl⟩

/-- A flattened position does not wrap, stays inside the pool, and remembers the
base symbol. -/
theorem flattened {source base baseIndex sources : Nat} (inSources : source ≤ sources)
    (inBase : baseIndex < base) (fits : base * (sources + 1) < 2 ^ 63) :
    sizeAdd (sizeMul source base) baseIndex = source * base + baseIndex ∧
      source * base + baseIndex < base * (sources + 1) ∧
      (source * base + baseIndex) % base = baseIndex := by
  have product : source * base ≤ base * sources := by
    rw [Nat.mul_comm base sources]
    exact Nat.mul_le_mul_right base inSources
  have below : source * base + baseIndex < base * (sources + 1) := by
    rw [Nat.mul_add, Nat.mul_one]
    omega
  refine ⟨?_, below, ?_⟩
  · rw [sizeMul_eq (by unfold sizeLimit; omega), sizeAdd_eq (by unfold sizeLimit; omega)]
  · rw [Nat.mul_comm, Nat.mul_add_mod, Nat.mod_eq_of_lt inBase]

/-- The first base symbol a pool selects. -/
def firstIndex (publications : UInt64) (quantity base : Nat) : Nat :=
  sizeMul publications.toNat quantity % base

/-- The choices of one pool: as many as its quantity, one for each base symbol
of the rotation, each with the record key of its position. -/
structure Rotates (active : ActiveTask) (poolIndex : Nat) (item : PatternItem)
    (rounds : List Nat) (choices : List Choice) : Prop where
  rotation : choices.map (·.index % active.activeSymbolCount) =
    rounds.map fun i =>
      (firstIndex active.publications item.quantity active.activeSymbolCount + i) %
        active.activeSymbolCount
  pool : ∀ choice ∈ choices, choice.pool = poolIndex ∧ choice.kind = item.kind
  symbol : ∀ choice ∈ choices,
    (poolSymbols active.pattern active.activeSymbolCount item.kind)[choice.index]? =
      some choice.symbol
  composite : item.kind = .timeAndSale → ∀ choice ∈ choices,
    choice.index < active.activeSymbolCount

/-! ### The loops -/

/-- Whether a selected object is put into the publication. -/
def Choice.visible (subscribed : Finset Text) (choice : Choice) : Bool :=
  choice.kind ≠ .timeAndSale || choice.symbol ∈ subscribed

/-- The call of `retainTimeAndSale` for a selected object, if it makes one. -/
def Choice.retained (stamp : Stamp) (choice : Choice) : Option (Text × TimeAndSaleRecord) :=
  if choice.kind = .timeAndSale then some (choice.symbol, stamp.record) else none

/-- One retained record in the histories of a task. -/
def retainInto (limit : Nat) (histories : Text → Option TimeAndSaleHistory)
    (call : Text × TimeAndSaleRecord) : Text → Option TimeAndSaleHistory :=
  Function.update histories call.1 (some (((histories call.1).getD {}).retain limit call.2))

/-- The two states belong to one publication of one task: selecting objects
changes none of this. -/
structure SamePublication (a b : ActiveTask) : Prop where
  command : b.command = a.command
  pattern : b.pattern = a.pattern
  activeSymbolCount : b.activeSymbolCount = a.activeSymbolCount
  marker : b.marker = a.marker
  poolOrder : b.poolOrder = a.poolOrder
  tick : b.tick = a.tick
  publications : b.publications = a.publications
  skippedDeadlines : b.skippedDeadlines = a.skippedDeadlines

theorem SamePublication.trans {a b c : ActiveTask} (h : SamePublication a b)
    (h' : SamePublication b c) : SamePublication a c :=
  ⟨h'.1.trans h.1, h'.2.trans h.2, h'.3.trans h.3, h'.4.trans h.4, h'.5.trans h.5, h'.6.trans h.6,
    h'.7.trans h.7, h'.8.trans h.8⟩

theorem samePublication_countRoute (active : ActiveTask) (source : Nat) :
    SamePublication active (active.countRoute source) := by
  unfold ActiveTask.countRoute
  split <;> exact ⟨rfl, rfl, rfl, rfl, rfl, rfl, rfl, rfl⟩

theorem samePublication_writeEvent (active : ActiveTask) (pool index : Nat) (event : Event) :
    SamePublication active (active.writeEvent pool index event) :=
  ⟨rfl, rfl, rfl, rfl, rfl, rfl, rfl, rfl⟩

/-- A publication in preparation after the objects `chosen` were selected. -/
structure Prepared (context : PublishContext) (start : ActiveTask) (chosen : List Choice)
    (preparation : Preparation) : Prop where
  task : SamePublication start preparation.active
  shape : preparation.active.pools.map EventPool.shape = start.pools.map EventPool.shape
  stamped : ∀ choice ∈ chosen, ∃ event,
    preparation.active.resolve choice.reference = some event ∧
      stampEvent context.stamp event = event ∧
      event.recordKey = (some choice.kind, choice.symbol)
  publication : preparation.active.publication =
    (chosen.filter (Choice.visible context.subscribed)).map Choice.reference
  retained : preparation.retained = chosen.filterMap (Choice.retained context.stamp)
  history : preparation.active.timeAndSaleHistory =
    preparation.retained.foldl (retainInto context.timeSeriesHistoryLimit)
      start.timeAndSaleHistory

namespace Prepared

variable {context : PublishContext} {start : ActiveTask} {chosen : List Choice}
  {preparation : Preparation} (h : Prepared context start chosen preparation)

include h

theorem pattern : preparation.active.pattern = start.pattern := h.task.pattern

theorem activeSymbolCount : preparation.active.activeSymbolCount = start.activeSymbolCount :=
  h.task.activeSymbolCount

theorem wellFormed (wellFormed : start.WellFormed) : preparation.active.WellFormed := by
  have length : preparation.active.pools.length = start.pools.length := by
    simpa using congrArg List.length h.shape
  refine ⟨?_, ?_, ?_, ?_, ?_, ?_, ?_⟩
  · rw [h.pattern]
    exact wellFormed.admissible
  · rw [h.activeSymbolCount]
    exact wellFormed.count_pos
  · rw [h.activeSymbolCount, h.pattern]
    exact wellFormed.count_le
  · rw [h.activeSymbolCount, h.pattern]
    exact wellFormed.quantity_le
  · rw [h.pattern]
    exact wellFormed.market_lt
  · rw [h.pattern, h.activeSymbolCount, h.shape]
    exact wellFormed.shape
  · rw [h.task.poolOrder, length]
    exact wellFormed.order

/-- The random state is no part of what is known. -/
theorem withRandom (random : UInt64) :
    Prepared context start chosen { preparation with random := random } :=
  ⟨h.task, h.shape, h.stamped, h.publication, h.retained, h.history⟩

theorem counted (source : Nat) : Prepared context start chosen
    { preparation with active := preparation.active.countRoute source } where
  task := h.task.trans (samePublication_countRoute preparation.active source)
  shape := by simpa using h.shape
  stamped := by simpa using h.stamped
  publication := by simpa using h.publication
  retained := h.retained
  history := by simpa using h.history

/-- Writing the stamped object of a choice. -/
theorem written {choice : Choice} {old : Event}
    (found : preparation.active.resolve choice.reference = some old) :
    let active := preparation.active.writeEvent choice.pool choice.index
      (stampEvent context.stamp old)
    Prepared context start chosen { preparation with active := active } ∧
      active.resolve choice.reference = some (stampEvent context.stamp old) := by
  intro active
  have resolve := ActiveTask.resolve_writeEvent found (stampEvent context.stamp old)
  refine ⟨⟨h.task.trans (samePublication_writeEvent _ _ _ _), ?_, ?_, h.publication, h.retained,
    h.history⟩, ?_⟩
  · exact (ActiveTask.writeEvent_shape found (by simp)).trans h.shape
  · intro other mem
    obtain ⟨event, here, stamped, otherKey⟩ := h.stamped other mem
    dsimp only [active]
    rw [resolve]
    split
    · rename_i same
      refine ⟨_, rfl, stampEvent_idem _ _, ?_⟩
      have eq : event = old := Option.some.inj (here.symm.trans (same ▸ found))
      rw [stampEvent_recordKey, ← eq, otherKey]
    · exact ⟨event, here, stamped, otherKey⟩
  · dsimp only [active]
    rw [resolve]
    exact if_pos rfl

/-- Selecting the object of a choice after it was written. -/
theorem selected {choice : Choice} {event : Event}
    (found : preparation.active.resolve choice.reference = some event)
    (stamped : stampEvent context.stamp event = event)
    (key : event.recordKey = (some choice.kind, choice.symbol)) :
    Prepared context start (chosen ++ [choice])
      (selectEvent context choice.reference event preparation) := by
  have all : ∀ active : ActiveTask, (∀ reference, active.resolve reference =
      preparation.active.resolve reference) → ∀ other ∈ chosen ++ [choice], ∃ event,
        active.resolve other.reference = some event ∧ stampEvent context.stamp event = event ∧
          event.recordKey = (some other.kind, other.symbol) := by
    intro active same other mem
    rw [same]
    rcases List.mem_append.mp mem with old | new
    · exact h.stamped other old
    · rw [List.mem_singleton.mp new]
      exact ⟨event, found, stamped, key⟩
  cases event with
  | timeAndSale event =>
      simp only [Event.recordKey, Prod.mk.injEq, Option.some.injEq] at key
      obtain ⟨kind, symbol⟩ := key
      have call : choice.retained context.stamp =
          some (event.eventSymbol, context.stamp.record) := by
        rw [Choice.retained, if_pos kind.symm, symbol]
      have history : (preparation.active.retainTimeAndSale context.timeSeriesHistoryLimit
          event.eventSymbol context.stamp.record).timeAndSaleHistory =
          (preparation.retained ++ [(event.eventSymbol, context.stamp.record)]).foldl
            (retainInto context.timeSeriesHistoryLimit) start.timeAndSaleHistory := by
        rw [List.foldl_append, ← h.history]
        rfl
      unfold selectEvent
      dsimp only
      split
      · rename_i subscribed
        refine ⟨⟨h.task.1, h.task.2, h.task.3, h.task.4, h.task.5, h.task.6, h.task.7, h.task.8⟩,
          h.shape, all _ (by simp), ?_, ?_, history⟩
        · have visible : choice.visible context.subscribed = true := by
            simp [Choice.visible, ← symbol, subscribed]
          simp [ActiveTask.push, ActiveTask.retainTimeAndSale, h.publication, visible]
        · simp [h.retained, call]
      · rename_i unsubscribed
        refine ⟨⟨h.task.1, h.task.2, h.task.3, h.task.4, h.task.5, h.task.6, h.task.7, h.task.8⟩,
          h.shape, all _ (by simp), ?_, ?_, history⟩
        · have hidden : choice.visible context.subscribed = false := by
            simp [Choice.visible, ← kind, ← symbol, unsubscribed]
          simp [ActiveTask.retainTimeAndSale, h.publication, hidden]
        · simp [h.retained, call]
  | profile eventSymbol => simp [Event.recordKey] at key
  | textMessage event => simp [Event.recordKey] at key
  | _ event =>
      have other : choice.kind ≠ .timeAndSale := by
        rintro same
        simp [Event.recordKey, same] at key
      have visible : choice.visible context.subscribed = true := by simp [Choice.visible, other]
      have silent : choice.retained context.stamp = none := if_neg other
      exact ⟨⟨h.task.1, h.task.2, h.task.3, h.task.4, h.task.5, h.task.6, h.task.7, h.task.8⟩,
        h.shape, all _ (by simp [selectEvent]),
        by simp [selectEvent, ActiveTask.push, h.publication, visible],
        by simp [selectEvent, h.retained, silent], h.history⟩

end Prepared

/-- The symbol at a position of a pool. -/
theorem poolSymbols_getElem {pattern : TaskPattern} {count index : Nat} {kind : EventKind}
    (inside : index < count * (pattern.regionalSourceCount + 1))
    (composite : kind = .timeAndSale → index < count) :
    ∃ symbol, (poolSymbols pattern count kind)[index]? = some symbol := by
  have bound : index < (poolSymbols pattern count kind).length := by
    rw [poolSymbols_length]
    split
    · rename_i same
      exact composite same
    · exact inside
  exact ⟨_, List.getElem?_eq_getElem bound⟩

/-- One round of the event loop selects one object. -/
theorem publishEvent_ok {context : PublishContext} {start : ActiveTask} {chosen : List Choice}
    {preparation : Preparation} {poolIndex first i : Nat} {item : PatternItem}
    (wellFormed : start.WellFormed) (found : start.pattern.items[poolIndex]? = some item)
    (prepared : Prepared context start chosen preparation)
    (inFirst : first < start.activeSymbolCount) (inQuantity : i < item.quantity) :
    ∃ choice next, publishEvent context poolIndex first preparation i = some next ∧
      Prepared context start (chosen ++ [choice]) next ∧
      choice.index % start.activeSymbolCount = (first + i) % start.activeSymbolCount ∧
      choice.pool = poolIndex ∧ choice.kind = item.kind ∧
      (poolSymbols start.pattern start.activeSymbolCount item.kind)[choice.index]? =
        some choice.symbol ∧
      (item.kind = .timeAndSale → choice.index < start.activeSymbolCount) := by
  have covers := wellFormed.quantity_le item (List.mem_of_getElem? found)
  have fits : start.activeSymbolCount * (start.pattern.regionalSourceCount + 1) < 2 ^ 63 :=
    (Nat.mul_le_mul_right _ wellFormed.count_le).trans_lt wellFormed.market_lt
  have small : start.activeSymbolCount < 2 ^ 63 :=
    (Nat.le_mul_of_pos_right _ (Nat.succ_pos _)).trans_lt fits
  obtain ⟨pool, here, kind, -, keys⟩ := (prepared.wellFormed wellFormed).pool_of_item
    (by rw [prepared.pattern]; exact found)
  rw [prepared.pattern, prepared.activeSymbolCount] at keys
  obtain ⟨source, random, routed, inSources, compositeSource⟩ :=
    route_ok start.pattern item.kind preparation.random
  have inBase : (first + i) % start.activeSymbolCount < start.activeSymbolCount :=
    Nat.mod_lt _ wellFormed.count_pos
  obtain ⟨index, inside, residue⟩ := flattened inSources inBase fits
  have sum : sizeAdd first i = first + i := sizeAdd_eq (by unfold sizeLimit; omega)
  have composite : item.kind = .timeAndSale →
      source * start.activeSymbolCount + (first + i) % start.activeSymbolCount <
        start.activeSymbolCount := by
    intro same
    rw [compositeSource same]
    omega
  obtain ⟨symbol, position⟩ := poolSymbols_getElem inside composite
  have event := congrArg
    (·[source * start.activeSymbolCount + (first + i) % start.activeSymbolCount]?) keys
  simp only [List.getElem?_map, position, Option.map_some, Option.map_eq_some_iff] at event
  obtain ⟨old, here', key⟩ := event
  let choice : Choice := ⟨poolIndex,
    source * start.activeSymbolCount + (first + i) % start.activeSymbolCount, item.kind, symbol⟩
  have resolved : preparation.active.resolve choice.reference = some old := by
    simp [ActiveTask.resolve, Choice.reference, choice, here, here']
  obtain ⟨written, now⟩ := ((prepared.withRandom random).counted source).written
    (by simpa using resolved)
  have selected := written.selected now (stampEvent_idem _ _) (by simpa using key)
  refine ⟨choice, _, ?_, selected, residue, rfl, rfl, position, composite⟩
  simp only [publishEvent, prepared.pattern, prepared.activeSymbolCount, here, sum,
    checkedMod_eq wellFormed.count_pos, kind, routed, index, here', Option.bind_eq_bind,
    Option.bind_some]
  rfl

theorem Rotates.nil (active : ActiveTask) (poolIndex : Nat) (item : PatternItem) :
    Rotates active poolIndex item [] [] :=
  ⟨rfl, by simp, by simp, by simp⟩

/-- The event loop of one pool selects as many objects as its quantity. -/
theorem publishPool_ok {context : PublishContext} {start : ActiveTask} {chosen : List Choice}
    {preparation : Preparation} {poolIndex : Nat} {item : PatternItem}
    (wellFormed : start.WellFormed) (found : start.pattern.items[poolIndex]? = some item)
    (prepared : Prepared context start chosen preparation) :
    ∃ choices next, publishPool context preparation poolIndex = some next ∧
      Prepared context start (chosen ++ choices) next ∧
      Rotates start poolIndex item (List.range item.quantity) choices := by
  obtain ⟨pool, here, -, quantity, -⟩ := (prepared.wellFormed wellFormed).pool_of_item
    (by rw [prepared.pattern]; exact found)
  let first := firstIndex start.publications item.quantity start.activeSymbolCount
  have inFirst : first < start.activeSymbolCount := Nat.mod_lt _ wellFormed.count_pos
  let random := start.pattern.shuffleSeed.getD 0x22805 ^^^ start.publications ^^^
    (UInt64.ofNat poolIndex <<< 32)
  obtain ⟨next, done, choices, known, rotates⟩ := foldlM_invariant
    (publishEvent context poolIndex first)
    (fun rounds next => ∃ choices, Prepared context start (chosen ++ choices) next ∧
      Rotates start poolIndex item rounds choices)
    (List.range item.quantity) { preparation with random := random }
    ⟨[], by simpa using prepared.withRandom random, .nil start poolIndex item⟩ (by
      rintro rounds i within state ⟨choices, known, rotates⟩
      have inQuantity : i < item.quantity := by
        have mem := within.subset (List.mem_append_right rounds (List.mem_singleton_self i))
        exact List.mem_range.mp mem
      obtain ⟨choice, next, done, extended, residue, inPool, kind, symbol, composite⟩ :=
        publishEvent_ok wellFormed found known inFirst inQuantity
      refine ⟨next, done, choices ++ [choice], by simpa using extended, ?_, ?_, ?_, ?_⟩
      · rw [List.map_append, rotates.rotation, List.map_append, List.map_singleton, residue]
        rfl
      · simpa [or_imp, forall_and, inPool, kind] using rotates.pool
      · simpa [or_imp, forall_and, symbol] using rotates.symbol
      · intro same other mem
        rcases List.mem_append.mp mem with old | new
        · exact rotates.composite same other old
        · rw [List.mem_singleton.mp new]
          exact composite same)
  refine ⟨choices, next, ?_, known, rotates⟩
  simp only [publishPool, here, quantity, prepared.activeSymbolCount, prepared.pattern,
    prepared.task.publications, checkedMod_eq wellFormed.count_pos, Option.bind_eq_bind,
    Option.bind_some]
  exact done

/-! ### A whole publication -/

/-- The loop over the pools selects from each pool of the order. -/
theorem publishPools_ok (context : PublishContext) {start : ActiveTask} (order : List Nat)
    (wellFormed : start.WellFormed) (empty : start.publication = [])
    (perm : order.Perm (List.range start.pools.length)) :
    ∃ choices next, order.foldlM (publishPool context) { active := start } = some next ∧
      Prepared context start (order.flatMap choices) next ∧
      ∀ poolIndex item, start.pattern.items[poolIndex]? = some item →
        Rotates start poolIndex item (List.range item.quantity) (choices poolIndex) := by
  have nodup : order.Nodup := perm.nodup_iff.mpr List.nodup_range
  have nothing : Prepared context start [] { active := start } :=
    ⟨⟨rfl, rfl, rfl, rfl, rfl, rfl, rfl, rfl⟩, rfl, by simp, by simp [empty], rfl, rfl⟩
  obtain ⟨next, done, choices, known, rotates⟩ := foldlM_invariant (publishPool context)
    (fun visited next => ∃ choices, Prepared context start (visited.flatMap choices) next ∧
      ∀ poolIndex ∈ visited, ∀ item, start.pattern.items[poolIndex]? = some item →
        Rotates start poolIndex item (List.range item.quantity) (choices poolIndex))
    order { active := start } ⟨fun _ => [], by simpa using nothing, by simp⟩ (by
      rintro visited poolIndex within state ⟨choices, known, rotates⟩
      have mem : poolIndex ∈ order :=
        within.subset (List.mem_append_right visited (List.mem_singleton_self poolIndex))
      have fresh : poolIndex ∉ visited := by
        have distinct := within.sublist.nodup nodup
        rw [List.nodup_append] at distinct
        exact fun old => distinct.2.2 poolIndex old poolIndex (by simp) rfl
      have bound : poolIndex < start.pattern.items.length := by
        rw [← wellFormed.pools_length]
        exact List.mem_range.mp (perm.mem_iff.mp mem)
      have found := List.getElem?_eq_getElem bound
      obtain ⟨selected, next, done, extended, rotation⟩ := publishPool_ok wellFormed found known
      have others : ∀ other ∈ visited,
          Function.update choices poolIndex selected other = choices other := by
        intro other inVisited
        have ne : other ≠ poolIndex := fun same => fresh (same ▸ inVisited)
        exact Function.update_of_ne ne _ _
      refine ⟨next, done, Function.update choices poolIndex selected, ?_, ?_⟩
      · have old : visited.flatMap (Function.update choices poolIndex selected) =
            visited.flatMap choices := List.flatMap_congr others
        simpa [List.flatMap_append, old] using extended
      · intro other inBoth item here
        rcases List.mem_append.mp inBoth with inVisited | new
        · rw [others other inVisited]
          exact rotates other inVisited item here
        · rw [List.mem_singleton.mp new] at here ⊢
          rw [Function.update_self]
          rw [found, Option.some.injEq] at here
          exact here ▸ rotation)
  refine ⟨choices, next, done, known, ?_⟩
  intro poolIndex item here
  have bound := (List.getElem?_eq_some_iff.mp here).1
  rw [← wellFormed.pools_length] at bound
  exact rotates poolIndex (perm.mem_iff.mpr (List.mem_range.mpr bound)) item here

/-- The stamp of the next publication of a task. -/
def ActiveTask.nextStamp (api : DxApi) (nowNs : Int) (active : ActiveTask) : Stamp :=
  ⟨active.tick + 1, publishSequence api (active.tick + 1), nowNs⟩

/-- An event object as it is published: selected, and carrying the stamp. -/
def Choice.Published (stamp : Stamp) (choice : Choice) (event : Event) : Prop :=
  stampEvent stamp event = event ∧ event.recordKey = (some choice.kind, choice.symbol)

/-- What one publication of a task is, `choices` being the selection of each pool. -/
structure IsPublication (api : DxApi) (limit : Nat) (subscribed : Finset Text) (nowNs : Int)
    (active : ActiveTask) (choices : Nat → List Choice) (result : Published) : Prop where
  rotates : ∀ poolIndex item, active.pattern.items[poolIndex]? = some item →
    Rotates active poolIndex item (List.range item.quantity) (choices poolIndex)
  order : result.active.poolOrder.Perm (List.range active.pools.length)
  publication : result.active.publication =
    ((result.active.poolOrder.flatMap choices).filter (Choice.visible subscribed)).map
      Choice.reference ++ [.marker]
  events : ∃ selected, result.events = selected ++ [.textMessage result.active.marker] ∧
    List.Forall₂ (Choice.Published (active.nextStamp api nowNs))
      ((result.active.poolOrder.flatMap choices).filter (Choice.visible subscribed)) selected
  resolved : result.active.publication.mapM result.active.resolve = some result.events
  retained : result.retained = (result.active.poolOrder.flatMap choices).filterMap
    (Choice.retained (active.nextStamp api nowNs))
  history : result.active.timeAndSaleHistory =
    result.retained.foldl (retainInto limit) active.timeAndSaleHistory
  marker : result.active.marker = { active.marker with
    time := nowNs.tdiv 1000000
    sequence := publishSequence api (active.tick + 1)
    text := "LATENCY_BATCH:".toList ++ formatInt nowNs }
  command : result.active.command = active.command
  pattern : result.active.pattern = active.pattern
  activeSymbolCount : result.active.activeSymbolCount = active.activeSymbolCount
  tick : result.active.tick = active.tick + 1
  publications : result.active.publications = active.publications + 1
  wellFormed : result.active.WellFormed

/-- The order of a publication is a permutation of the pools. -/
theorem publishOrder_ok (active : ActiveTask) : ∃ order, publishOrder active = some order ∧
    order.Perm (List.range active.poolOrder.length) := by
  unfold publishOrder
  dsimp only
  cases active.pattern.shuffleSeed with
  | none => exact ⟨_, rfl, .refl _⟩
  | some seed => exact shuffleFrom_perm _ _ _ le_rfl

/-- The choices of a prepared publication are published as they are selected. -/
theorem Prepared.published {context : PublishContext} {start : ActiveTask} {chosen : List Choice}
    {preparation : Preparation} (h : Prepared context start chosen preparation)
    (visible : List Choice) (sub : ∀ choice ∈ visible, choice ∈ chosen) :
    ∃ events, List.Forall₂ (Choice.Published context.stamp) visible events ∧
      List.Forall₂ (fun reference event => preparation.active.resolve reference = some event)
        (visible.map Choice.reference) events := by
  induction visible with
  | nil => exact ⟨[], .nil, .nil⟩
  | cons choice visible ih =>
      obtain ⟨event, here, stamped, key⟩ := h.stamped choice (sub choice List.mem_cons_self)
      obtain ⟨events, published, resolved⟩ :=
        ih fun other mem => sub other (List.mem_cons_of_mem _ mem)
      exact ⟨event :: events, .cons ⟨stamped, key⟩ published, .cons here resolved⟩

/-- The references of a prepared publication resolve to what is published, and that of the
marker to the message of the marker. -/
theorem Prepared.resolve_publication {context : PublishContext} {start : ActiveTask}
    {chosen : List Choice} {preparation : Preparation}
    (h : Prepared context start chosen preparation) (sequence nowNs : Int) :
    let final := preparation.active.mark sequence nowNs
    ∃ selected, List.Forall₂ (Choice.Published context.stamp)
        (chosen.filter (Choice.visible context.subscribed)) selected ∧
      final.publication.mapM final.resolve = some (selected ++ [.textMessage final.marker]) := by
  intro final
  obtain ⟨selected, published, resolved⟩ :=
    h.published (chosen.filter (Choice.visible context.subscribed))
      fun choice mem => (List.mem_filter.mp mem).1
  refine ⟨selected, published, ?_⟩
  have publication : final.publication =
      (chosen.filter (Choice.visible context.subscribed)).map Choice.reference ++ [.marker] :=
    congrArg (· ++ [Reference.marker]) h.publication
  rw [Lib.mapM_eq_some, publication]
  refine List.rel_append ?_ (.cons rfl .nil)
  rw [List.forall₂_map_left_iff] at resolved ⊢
  exact resolved

/-- The order of a publication has a last pool. -/
theorem exists_lastPool {active : ActiveTask} (wellFormed : active.WellFormed) {order : List Nat}
    (perm : order.Perm (List.range active.pools.length)) :
    ∃ last pool, order.getLast? = some last ∧ active.pools[last]? = some pool := by
  have nonempty : order ≠ [] := by
    intro empty
    have length := perm.length_eq
    rw [empty, List.length_range, wellFormed.pools_length] at length
    exact wellFormed.admissible.items_ne_nil (List.length_eq_zero_iff.mp length.symm)
  have inPools : order.getLast nonempty < active.pools.length :=
    List.mem_range.mp (perm.mem_iff.mp (List.getLast_mem nonempty))
  exact ⟨_, _, List.getLast?_eq_some_getLast nonempty, List.getElem?_eq_getElem inPools⟩

/-- Publishing a well-formed task succeeds, and is a publication. -/
theorem publish_ok (api : DxApi) (limit : Nat) (subscribed : Finset Text) (nowNs : Int)
    {active : ActiveTask} (wellFormed : active.WellFormed) :
    ∃ choices result, publish api limit subscribed nowNs active = some result ∧
      IsPublication api limit subscribed nowNs active choices result := by
  let ticked : ActiveTask := { active with tick := active.tick + 1 }
  obtain ⟨order, ordered, perm⟩ := publishOrder_ok ticked
  have perm : order.Perm (List.range active.pools.length) := by
    rw [← wellFormed.order]
    exact perm
  obtain ⟨last, pool, isLast, lastPool⟩ := exists_lastPool wellFormed perm
  let start := { ticked with publication := [], poolOrder := order }.countLastBlock
    (subscriptionKind pool.kind)
  let context : PublishContext := ⟨active.nextStamp api nowNs, limit, subscribed⟩
  have startWellFormed : start.WellFormed :=
    ⟨wellFormed.admissible, wellFormed.count_pos, wellFormed.count_le, wellFormed.quantity_le,
      wellFormed.market_lt, wellFormed.shape, perm.length_eq.trans List.length_range⟩
  obtain ⟨choices, next, done, known, rotates⟩ :=
    publishPools_ok context order startWellFormed rfl perm
  let sequence := publishSequence api (active.tick + 1)
  let final := next.active.mark sequence nowNs
  obtain ⟨selected, published, read⟩ := known.resolve_publication sequence nowNs
  have kept : next.active.poolOrder = order := known.task.poolOrder
  refine ⟨choices, ⟨{ final with publications := final.publications + 1 }, next.retained,
    selected ++ [.textMessage final.marker]⟩, ?_, ?_⟩
  · have order' : publishOrder { active with tick := active.tick + 1 } = some order := ordered
    have loops : order.foldlM (publishPool context) { active := start } = some next := done
    simp only [publish, order', isLast, lastPool, Option.bind_eq_bind, Option.bind_some]
    refine Option.bind_eq_some_iff.mpr ⟨next, loops, ?_⟩
    exact Option.bind_eq_some_iff.mpr ⟨_, read, rfl⟩
  · have nextWellFormed := known.wellFormed startWellFormed
    rw [← kept] at perm
    rw [← kept] at published
    exact
      { rotates := fun poolIndex item here =>
          have rotation := rotates poolIndex item here
          ⟨rotation.rotation, rotation.pool, rotation.symbol, rotation.composite⟩
        order := perm
        publication := by
          have publication := known.publication
          rw [← kept] at publication
          exact congrArg (· ++ [Reference.marker]) publication
        events := ⟨selected, rfl, published⟩
        resolved := read
        retained := by
          have retained := known.retained
          rw [← kept] at retained
          exact retained
        history := known.history
        marker := by
          have marker : next.active.marker = active.marker := known.task.marker
          simp only [final, ActiveTask.mark, marker, sequence]
        command := known.task.command
        pattern := known.task.pattern
        activeSymbolCount := known.task.activeSymbolCount
        tick := known.task.tick
        publications := congrArg (· + 1) known.task.publications
        wellFormed :=
          ⟨nextWellFormed.admissible, nextWellFormed.count_pos, nextWellFormed.count_le,
            nextWellFormed.quantity_le, nextWellFormed.market_lt, nextWellFormed.shape,
            nextWellFormed.order⟩ }

end LatencyTest
