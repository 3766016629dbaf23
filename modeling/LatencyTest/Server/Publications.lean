import LatencyTest.Lib.Rotation
import LatencyTest.Server.Composition

/-!
The contents of a publication: how many events of each kind, on which symbols,
with which sequence, and which TimeAndSale events, for any task that was started
for an accepted pattern and has published any number of times.
-/

namespace LatencyTest

/-! ### Reading a published event -/

/-- Whether an event carries a publication sequence, in the field its kind uses. -/
def Event.Carries (sequence : Int) : Event → Prop
  | .quote event => event.bidSize = .finite sequence
  | .trade event => event.sequence = sequence
  | .tradeEth event => event.sequence = sequence
  | .summary event => event.dayId = sequence
  | .timeAndSale event => event.sequence = sequence
  | .profile _ => False
  | .textMessage event => event.sequence = sequence

/-- The retained form of a TimeAndSale event. -/
def TimeAndSale.record (event : TimeAndSale) : TimeAndSaleRecord :=
  ⟨event.timeNanos, event.sequence, event.price⟩

namespace Choice.Published

variable {stamp : Stamp} {choice : Choice} {event : Event} (h : Choice.Published stamp choice event)

include h

/-- A published event carries the sequence of its publication. -/
theorem carries : event.Carries stamp.sequence := by
  obtain ⟨fixed, key⟩ := h
  cases event with
  | profile eventSymbol => simp [Event.recordKey] at key
  | textMessage event => simp [Event.recordKey] at key
  | quote event =>
      simp only [stampEvent, Event.quote.injEq] at fixed
      exact (congrArg Quote.bidSize fixed).symm
  | trade event =>
      simp only [stampEvent, Event.trade.injEq] at fixed
      exact (congrArg Trade.sequence fixed).symm
  | tradeEth event =>
      simp only [stampEvent, Event.tradeEth.injEq] at fixed
      exact (congrArg Trade.sequence fixed).symm
  | summary event =>
      simp only [stampEvent, Event.summary.injEq] at fixed
      exact (congrArg Summary.dayId fixed).symm
  | timeAndSale event =>
      simp only [stampEvent, Event.timeAndSale.injEq] at fixed
      exact (congrArg TimeAndSale.sequence fixed).symm

theorem eventSymbol : event.eventSymbol = choice.symbol := by
  rw [← event.recordKey_snd, h.2]

/-- A choice of kind TimeAndSale is published as an event without flags that
carries the record of the publication. -/
theorem timeAndSale :
    (timeAndSales [event]).map (fun event => (event.eventSymbol, event.record)) =
        (choice.retained stamp).toList ∧
      ∀ live ∈ timeAndSales [event], live.eventFlags = {} := by
  obtain ⟨fixed, key⟩ := h
  cases event with
  | timeAndSale event =>
      simp only [stampEvent, Event.timeAndSale.injEq] at fixed
      simp only [Event.recordKey, Prod.mk.injEq, Option.some.injEq] at key
      have flags := (congrArg TimeAndSale.eventFlags fixed).symm
      have record : event.record = stamp.record := by rw [← fixed]; rfl
      constructor
      · rw [Choice.retained, if_pos key.1.symm, ← key.2]
        simp [timeAndSales, record]
      · simpa [timeAndSales] using flags
  | profile eventSymbol => simp [Event.recordKey] at key
  | textMessage event => simp [Event.recordKey] at key
  | _ event =>
      have other : choice.kind ≠ .timeAndSale := by
        rintro same
        simp [Event.recordKey, same] at key
      simp [timeAndSales, Choice.retained, other]

end Choice.Published

/-! ### TimeAndSale events -/

/-- Published events have the record keys of their choices. -/
theorem Choice.Published.keys {stamp : Stamp} {chosen : List Choice} {events : List Event}
    (h : List.Forall₂ (Choice.Published stamp) chosen events) :
    events.map Event.recordKey = chosen.map fun choice => (some choice.kind, choice.symbol) := by
  induction h with
  | nil => rfl
  | cons here _ ih => rw [List.map_cons, List.map_cons, here.2, ih]

theorem Choice.Published.timeAndSales {stamp : Stamp} {chosen : List Choice} {events : List Event}
    (h : List.Forall₂ (Choice.Published stamp) chosen events) :
    (LatencyTest.timeAndSales events).map (fun event => (event.eventSymbol, event.record)) =
        chosen.filterMap (Choice.retained stamp) ∧
      ∀ live ∈ LatencyTest.timeAndSales events, live.eventFlags = {} := by
  induction h with
  | nil => exact ⟨rfl, by simp⟩
  | @cons choice event chosen events here _ ih =>
      obtain ⟨record, flags⟩ := here.timeAndSale
      obtain ⟨records, rest⟩ := ih
      have split : LatencyTest.timeAndSales (event :: events) =
          LatencyTest.timeAndSales [event] ++ LatencyTest.timeAndSales events :=
        timeAndSales_append [event] events
      rw [split]
      constructor
      · rw [List.map_append, record, records, List.filterMap_cons]
        cases choice.retained stamp <;> rfl
      · intro live mem
        rcases List.mem_append.mp mem with first | later
        · exact flags live first
        · exact rest live later

theorem Choice.Published.exists_choice {stamp : Stamp} {chosen : List Choice} {events : List Event}
    (h : List.Forall₂ (Choice.Published stamp) chosen events) {event : Event}
    (mem : event ∈ events) : ∃ choice ∈ chosen, Choice.Published stamp choice event := by
  induction h with
  | nil => cases mem
  | cons here _ ih =>
      rcases List.mem_cons.mp mem with rfl | later
      · exact ⟨_, List.mem_cons_self, here⟩
      · obtain ⟨choice, inside, published⟩ := ih later
        exact ⟨choice, List.mem_cons_of_mem _ inside, published⟩

/-- A TimeAndSale choice is visible when its symbol is subscribed. -/
theorem filterMap_retained_visible (stamp : Stamp) (subscribed : Finset Text)
    (chosen : List Choice) :
    (chosen.filter (Choice.visible subscribed)).filterMap (Choice.retained stamp) =
      (chosen.filterMap (Choice.retained stamp)).filter (·.1 ∈ subscribed) := by
  rw [List.filterMap_filter, List.filter_filterMap]
  congr 1
  funext choice
  by_cases same : choice.kind = .timeAndSale
  · by_cases mem : choice.symbol ∈ subscribed <;>
      simp [Choice.visible, Choice.retained, same, mem, Option.filter]
  · simp [Choice.visible, Choice.retained, same]

/-- The base symbols whose TimeAndSale objects the next publication selects. -/
def ActiveTask.selectedTimeAndSales (active : ActiveTask) : List Text :=
  match active.pattern.quantity .timeAndSale with
  | none => []
  | some quantity =>
      (List.range quantity).filterMap fun i =>
        active.pattern.symbolNames[(firstIndex active.publications quantity
          active.activeSymbolCount + i) % active.activeSymbolCount]?

theorem ActiveTask.selectedTimeAndSales_length (active : ActiveTask) :
    active.selectedTimeAndSales.length ≤ (active.pattern.quantity .timeAndSale).getD 0 := by
  unfold selectedTimeAndSales
  cases active.pattern.quantity .timeAndSale with
  | none => exact le_rfl
  | some quantity => exact (List.length_filterMap_le _ _).trans_eq List.length_range

/-- Whether the live TimeAndSale events of a task include a symbol. -/
def ActiveTask.PublishesTimeAndSale (active : ActiveTask) (symbol : Text) : Prop :=
  active.pattern.quantity .timeAndSale ≠ none ∧
    symbol ∈ active.pattern.symbolNames.take active.activeSymbolCount

namespace ActiveTask

theorem publishes_of_selected {active : ActiveTask} (positive : 0 < active.activeSymbolCount)
    {symbol : Text} (selected : symbol ∈ active.selectedTimeAndSales) :
    active.PublishesTimeAndSale symbol := by
  unfold selectedTimeAndSales at selected
  cases configured : active.pattern.quantity .timeAndSale with
  | none => simp [configured] at selected
  | some quantity =>
      rw [configured] at selected
      obtain ⟨i, -, found⟩ := List.mem_filterMap.mp selected
      rw [← List.getElem?_take_of_lt (Nat.mod_lt _ positive)] at found
      exact ⟨by simp [configured], List.mem_of_getElem? found⟩

/-- The rotation reaches every symbol: base symbol `j` is selected after `j / q`
publications of `q` symbols each. -/
theorem selected_of_rotation {active : ActiveTask} {quantity j : Nat} {symbol : Text}
    (configured : active.pattern.quantity .timeAndSale = some quantity) (positive : 0 < quantity)
    (found : active.pattern.symbolNames[j]? = some symbol) (inBase : j < active.activeSymbolCount)
    (small : active.activeSymbolCount < 2 ^ 63)
    (publications : active.publications = UInt64.ofNat (j / quantity)) :
    symbol ∈ active.selectedTimeAndSales := by
  have rounds : active.publications.toNat = j / quantity := by
    rw [publications, UInt64.toNat_ofNat']
    exact Nat.mod_eq_of_lt ((Nat.div_le_self _ _).trans_lt (by omega))
  have multiple : j / quantity * quantity ≤ j := Nat.div_mul_le_self j quantity
  have first : firstIndex active.publications quantity active.activeSymbolCount =
      j / quantity * quantity := by
    rw [firstIndex, rounds, sizeMul_eq (by unfold sizeLimit; omega), Nat.mod_eq_of_lt (by omega)]
  have index : j / quantity * quantity + j % quantity = j := Nat.div_add_mod' j quantity
  rw [selectedTimeAndSales, configured]
  refine List.mem_filterMap.mpr ⟨j % quantity, List.mem_range.mpr (Nat.mod_lt _ positive), ?_⟩
  rw [first, index, Nat.mod_eq_of_lt inBase, found]

end ActiveTask

/-! ### The pools of a publication -/

/-- Only the one list of a family is left when the others are empty. -/
theorem flatMap_eq_of_unique {α β : Type} {elements : List α} {family : α → List β} {a : α}
    (nodup : elements.Nodup) (mem : a ∈ elements)
    (others : ∀ b ∈ elements, b ≠ a → family b = []) : elements.flatMap family = family a := by
  obtain ⟨before, after, rfl⟩ := List.append_of_mem mem
  rw [List.nodup_append, List.nodup_cons] at nodup
  obtain ⟨-, ⟨notAfter, -⟩, apart⟩ := nodup
  have empty : ∀ part : List α, (∀ b ∈ part, b ∈ before ++ a :: after ∧ b ≠ a) →
      part.flatMap family = [] := by
    intro part inside
    exact List.flatMap_eq_nil_iff.mpr fun b here => others b (inside b here).1 (inside b here).2
  rw [List.flatMap_append, List.flatMap_cons,
    empty before fun b here => ⟨by simp [here], apart b here a (by simp)⟩,
    empty after fun b here => ⟨by simp [here], fun same => notAfter (same ▸ here)⟩]
  simp

namespace IsPublication

variable {api : DxApi} {limit : Nat} {subscribed : Finset Text} {nowNs : Int}
  {active : ActiveTask} {choices : Nat → List Choice} {result : Published}
  (h : IsPublication api limit subscribed nowNs active choices result)

include h

/-- The TimeAndSale events of a publication are those retained for subscribed
symbols, in order, as live events without flags. -/
theorem timeAndSales_events :
    (timeAndSales result.events).map (fun event => (event.eventSymbol, event.record)) =
        result.retained.filter (·.1 ∈ subscribed) ∧
      ∀ live ∈ timeAndSales result.events, live.eventFlags = {} := by
  obtain ⟨selected, events, published⟩ := h.events
  obtain ⟨records, flags⟩ := Choice.Published.timeAndSales published
  have marker : timeAndSales result.events = timeAndSales selected := by
    rw [events, timeAndSales_append]
    simp [timeAndSales]
  rw [marker, records, h.retained, filterMap_retained_visible]
  exact ⟨rfl, flags⟩

theorem poolOrder_nodup : result.active.poolOrder.Nodup :=
  h.order.nodup_iff.mpr List.nodup_range

/-- Every pool that is visited belongs to an item. -/
theorem item_of_visited (wellFormed : active.WellFormed) {poolIndex : Nat}
    (mem : poolIndex ∈ result.active.poolOrder) :
    ∃ item, active.pattern.items[poolIndex]? = some item := by
  have bound := List.mem_range.mp (h.order.mem_iff.mp mem)
  rw [wellFormed.pools_length] at bound
  exact ⟨_, List.getElem?_eq_getElem bound⟩

theorem visited_of_item (wellFormed : active.WellFormed) {poolIndex : Nat} {item : PatternItem}
    (found : active.pattern.items[poolIndex]? = some item) :
    poolIndex ∈ result.active.poolOrder := by
  have bound := (List.getElem?_eq_some_iff.mp found).1
  rw [← wellFormed.pools_length] at bound
  exact h.order.mem_iff.mpr (List.mem_range.mpr bound)

/-- The objects of one kind are the selection of the one pool of that kind. -/
theorem chosen_of_kind (wellFormed : active.WellFormed) {poolIndex : Nat} {item : PatternItem}
    (found : active.pattern.items[poolIndex]? = some item) :
    (result.active.poolOrder.flatMap choices).filter (·.kind = item.kind) = choices poolIndex := by
  have distinct := wellFormed.admissible.items.kinds_nodup
  rw [List.filter_flatMap,
    flatMap_eq_of_unique h.poolOrder_nodup (h.visited_of_item wellFormed found)]
  · apply List.filter_eq_self.mpr
    intro choice mem
    exact decide_eq_true ((h.rotates poolIndex item found).pool choice mem).2
  · intro other mem ne
    obtain ⟨item', found'⟩ := h.item_of_visited wellFormed mem
    apply List.filter_eq_nil_iff.mpr
    intro choice here same
    apply ne
    have kind := ((h.rotates other item' found').pool choice here).2
    have eq : item'.kind = item.kind := by
      rw [← kind]
      exact of_decide_eq_true same
    have bound : other < (active.pattern.items.map PatternItem.kind).length := by
      rw [List.length_map]
      exact (List.getElem?_eq_some_iff.mp found').1
    refine (List.getElem?_inj bound distinct).mp ?_
    rw [List.getElem?_map, List.getElem?_map, found', found, Option.map_some, Option.map_some, eq]

/-- Every configured kind other than TimeAndSale has exactly its quantity of
events in the publication. -/
theorem count_of_kind (wellFormed : active.WellFormed) {item : PatternItem}
    (mem : item ∈ active.pattern.items) (market : item.kind ≠ .timeAndSale) :
    (result.events.filter fun event => event.recordKey.1 = some item.kind).length =
      item.quantity := by
  obtain ⟨poolIndex, bound, rfl⟩ := List.getElem_of_mem mem
  have found := List.getElem?_eq_getElem bound
  obtain ⟨selected, events, published⟩ := h.events
  have rotates := h.rotates poolIndex _ found
  have quantity := congrArg List.length rotates.rotation
  rw [List.length_map, List.length_map, List.length_range] at quantity
  have keys := Choice.Published.keys published
  have counted : (selected.filter fun event =>
      event.recordKey.1 = some active.pattern.items[poolIndex].kind).length =
      ((selected.map Event.recordKey).filter fun key =>
        key.1 = some active.pattern.items[poolIndex].kind).length := by
    rw [List.filter_map, List.length_map]
    rfl
  have visible : (((result.active.poolOrder.flatMap choices).filter
      (Choice.visible subscribed)).filter
        (·.kind = active.pattern.items[poolIndex].kind)) = choices poolIndex := by
    rw [List.filter_filter, ← h.chosen_of_kind wellFormed found]
    apply List.filter_congr
    intro choice _
    by_cases same : choice.kind = active.pattern.items[poolIndex].kind
    · simp [Choice.visible, same, market]
    · simp [same]
  rw [events, List.filter_append, List.length_append, counted, keys, List.filter_map,
    List.length_map]
  have noMarker : ([Event.textMessage result.active.marker].filter fun event =>
      event.recordKey.1 = some active.pattern.items[poolIndex].kind) = [] := by
    simp [Event.recordKey]
  rw [noMarker, List.length_nil, Nat.add_zero, ← quantity, ← visible]
  congr 1
  apply List.filter_congr
  intro choice _
  simp

/-- No event object is selected twice. -/
theorem publication_nodup (wellFormed : active.WellFormed) :
    result.active.publication.Nodup := by
  have each : ∀ poolIndex ∈ result.active.poolOrder,
      ((choices poolIndex).map Choice.reference).Nodup ∧
      ∀ choice ∈ choices poolIndex, choice.pool = poolIndex := by
    intro poolIndex mem
    obtain ⟨item, found⟩ := h.item_of_visited wellFormed mem
    have rotates := h.rotates poolIndex item found
    have covers := wellFormed.quantity_le item (List.mem_of_getElem? found)
    have indices : ((choices poolIndex).map (·.index % active.activeSymbolCount)).Nodup := by
      rw [rotates.rotation]
      exact Lib.rotation_nodup covers
    refine ⟨List.Nodup.map_on ?_ (indices.of_map _),
      fun choice here => (rotates.pool choice here).1⟩
    intro a ha b hb eq
    apply List.inj_on_of_nodup_map indices ha hb
    rw [Choice.reference, Choice.reference, Reference.event.injEq] at eq
    rw [eq.2]
  have chosen : ((result.active.poolOrder.flatMap choices).map Choice.reference).Nodup := by
    rw [List.map_flatMap, List.nodup_flatMap]
    refine ⟨fun poolIndex mem => (each poolIndex mem).1, ?_⟩
    apply h.poolOrder_nodup.imp_of_mem
    intro a b ha hb ne reference inA inB
    obtain ⟨choice, here, rfl⟩ := List.mem_map.mp inA
    obtain ⟨other, there, same⟩ := List.mem_map.mp inB
    rw [Choice.reference, Choice.reference, Reference.event.injEq] at same
    have inOther := (each b hb).2 other there
    exact ne (((each a ha).2 choice here).symm.trans (same.1.symm.trans inOther))
  rw [h.publication, List.nodup_append]
  refine ⟨(List.filter_sublist.map _).nodup chosen, by simp, ?_⟩
  intro reference mem other isMarker same
  obtain ⟨choice, -, rfl⟩ := List.mem_map.mp mem
  rw [List.mem_singleton.mp isMarker] at same
  simp [Choice.reference] at same

/-- The retained symbols are those of the TimeAndSale choices. -/
theorem retained_eq_chosen : result.retained.map Prod.fst =
    ((result.active.poolOrder.flatMap choices).filter (·.kind = .timeAndSale)).map
      Choice.symbol := by
  rw [h.retained]
  induction result.active.poolOrder.flatMap choices with
  | nil => rfl
  | cons choice chosen ih =>
      by_cases same : choice.kind = .timeAndSale <;> simp [Choice.retained, same, ih]

/-- The symbols of the retained records are the rotation of the TimeAndSale pool
over the active base symbols. -/
theorem retained_symbols (wellFormed : active.WellFormed) :
    result.retained.map Prod.fst = active.selectedTimeAndSales := by
  rw [h.retained_eq_chosen, ActiveTask.selectedTimeAndSales, TaskPattern.quantity]
  cases search : active.pattern.items.find? fun item => item.kind == .timeAndSale with
  | none =>
      have absent := List.find?_eq_none.mp search
      have empty :
          (result.active.poolOrder.flatMap choices).filter (·.kind = .timeAndSale) = [] := by
        apply List.filter_eq_nil_iff.mpr
        intro choice mem same
        obtain ⟨poolIndex, visited, here⟩ := List.mem_flatMap.mp mem
        obtain ⟨item, found⟩ := h.item_of_visited wellFormed visited
        have kind := ((h.rotates poolIndex item found).pool choice here).2
        refine absent item (List.mem_of_getElem? found) ?_
        rw [← kind, of_decide_eq_true same]
        rfl
      rw [empty]
      rfl
  | some item =>
      have kind : item.kind = .timeAndSale := by simpa using List.find?_some search
      obtain ⟨poolIndex, bound, rfl⟩ := List.getElem_of_mem (List.mem_of_find?_eq_some search)
      have found := List.getElem?_eq_getElem bound
      have rotates := h.rotates poolIndex _ found
      have chosen := h.chosen_of_kind wellFormed found
      rw [kind] at chosen
      have symbols : ∀ choice ∈ choices poolIndex,
          active.pattern.symbolNames[choice.index % active.activeSymbolCount]? =
            some choice.symbol := by
        intro choice mem
        have inBase := rotates.composite kind choice mem
        have here := rotates.symbol choice mem
        rw [poolSymbols, if_pos kind, resize_eq_take (by
          rw [symbolNames_length]
          exact wellFormed.count_le), List.getElem?_take_of_lt inBase] at here
        rwa [Nat.mod_eq_of_lt inBase]
      have named : (choices poolIndex).map Choice.symbol =
          ((choices poolIndex).map (·.index % active.activeSymbolCount)).filterMap
            (active.pattern.symbolNames[·]?) := by
        rw [List.filterMap_map, ← List.filterMap_eq_map]
        exact List.filterMap_congr fun choice mem => (symbols choice mem).symm
      rw [chosen, named, rotates.rotation, List.filterMap_map]
      rfl

/-- The TimeAndSale events of a publication are the selected ones whose symbol is
subscribed. -/
theorem timeAndSales_symbols (wellFormed : active.WellFormed) :
    (timeAndSales result.events).map TimeAndSale.eventSymbol =
      active.selectedTimeAndSales.filter (· ∈ subscribed) := by
  have records := congrArg (List.map Prod.fst) h.timeAndSales_events.1
  rw [List.map_map] at records
  rw [← h.retained_symbols wellFormed, List.filter_map]
  exact records

/-- A published event other than the marker has a configured kind, lies on an
active record key, and carries the sequence of the marker. -/
theorem selected_events (wellFormed : active.WellFormed) {event : Event}
    (mem : event ∈ result.events.dropLast) :
    (∃ item ∈ active.pattern.items, event.recordKey.1 = some item.kind) ∧
      event.eventSymbol ∈ withRegionalSources active.pattern.regionalSourceCount
        (active.pattern.symbolNames.take active.activeSymbolCount) ∧
      event.Carries result.active.marker.sequence := by
  obtain ⟨selected, events, published⟩ := h.events
  rw [events, List.dropLast_concat] at mem
  obtain ⟨choice, visible, here⟩ := Choice.Published.exists_choice published mem
  obtain ⟨poolIndex, visited, inPool⟩ := List.mem_flatMap.mp (List.mem_filter.mp visible).1
  obtain ⟨item, found⟩ := h.item_of_visited wellFormed visited
  have rotates := h.rotates poolIndex item found
  have kind := (rotates.pool choice inPool).2
  have symbol := List.mem_of_getElem? (rotates.symbol choice inPool)
  have base : resize active.pattern.symbolNames active.activeSymbolCount =
      active.pattern.symbolNames.take active.activeSymbolCount :=
    resize_eq_take (by rw [symbolNames_length]; exact wellFormed.count_le)
  refine ⟨⟨item, List.mem_of_getElem? found, ?_⟩, ?_, ?_⟩
  · rw [here.2, kind]
  · rw [here.eventSymbol]
    rw [poolSymbols, base] at symbol
    split at symbol
    · exact List.mem_append_left _ symbol
    · exact symbol
  · rw [h.marker]
    exact here.carries

end IsPublication

/-! ### Tasks that publish -/

/-- What a pending task was checked for. -/
structure PendingTask.WellFormed (pending : PendingTask) : Prop where
  admissible : pending.pattern.Admissible
  count_le : pending.activeSymbolCount ≤ pending.pattern.symbolCount
  quantity_le : ∀ item ∈ pending.pattern.items, item.quantity ≤ pending.activeSymbolCount
  market_lt : pending.pattern.symbolCount * (pending.pattern.regionalSourceCount + 1) < 2 ^ 63

/-- The checks of a start request make its task well formed. -/
theorem pendingTask_wellFormed {text : Text} {pending : PendingTask} {configured : Option Nat}
    (parsed : parseTask text = .ok pending.pattern)
    (resolved : resolveActiveSymbolCount configured pending.pattern =
      .ok pending.activeSymbolCount)
    (small : pending.pattern.symbolCount * (pending.pattern.regionalSourceCount + 1) < 2 ^ 63) :
    pending.WellFormed := by
  obtain ⟨-, bounded, covers⟩ := resolveActiveSymbolCount_ok resolved
  exact ⟨parseTask_admissible parsed, bounded, covers, small⟩

/-- A started task is well formed. Its base symbols are not empty, since they
cover a positive quantity. -/
theorem startTask_wellFormed {pending : PendingTask} (h : pending.WellFormed) :
    (startTask pending).WellFormed where
  admissible := h.admissible
  count_pos := by
    obtain ⟨item, mem⟩ := List.exists_mem_of_ne_nil _ h.admissible.items_ne_nil
    exact (h.admissible.items.quantity_pos item mem).trans_le (h.quantity_le item mem)
  count_le := h.count_le
  quantity_le := h.quantity_le
  market_lt := h.market_lt
  shape := rfl
  order := List.length_range

/-- A task after a series of publications, each with the TimeAndSale symbols then
subscribed and its time. -/
def publishAll (api : DxApi) (limit : Nat) (active : ActiveTask) :
    List (Finset Text × Int) → Option ActiveTask
  | [] => some active
  | (subscribed, nowNs) :: rest =>
      (publish api limit subscribed nowNs active).bind fun result =>
        publishAll api limit result.active rest

/-- Publishing never fails and never changes the task. -/
theorem publishAll_ok (api : DxApi) (limit : Nat) {active : ActiveTask}
    (wellFormed : active.WellFormed) (rounds : List (Finset Text × Int)) :
    ∃ last, publishAll api limit active rounds = some last ∧ last.WellFormed ∧
      last.command = active.command ∧ last.pattern = active.pattern ∧
      last.activeSymbolCount = active.activeSymbolCount := by
  induction rounds generalizing active with
  | nil => exact ⟨active, rfl, wellFormed, rfl, rfl, rfl⟩
  | cons round rounds ih =>
      obtain ⟨choices, result, done, h⟩ := publish_ok api limit round.1 round.2 wellFormed
      obtain ⟨last, rest, kept, command, pattern, count⟩ := ih h.wellFormed
      refine ⟨last, ?_, kept, command.trans h.command, pattern.trans h.pattern,
        count.trans h.activeSymbolCount⟩
      rw [publishAll, done]
      exact rest

/-- The tick counts the publications. -/
theorem publishAll_tick {api : DxApi} {limit : Nat} {active last : ActiveTask}
    (wellFormed : active.WellFormed) {rounds : List (Finset Text × Int)}
    (run : publishAll api limit active rounds = some last) :
    last.tick = active.tick + UInt32.ofNat rounds.length := by
  induction rounds generalizing active with
  | nil =>
      cases run
      simp
  | cons round rounds ih =>
      obtain ⟨choices, result, done, h⟩ := publish_ok api limit round.1 round.2 wellFormed
      rw [publishAll, done, Option.bind_some] at run
      rw [ih h.wellFormed run, h.tick, List.length_cons, Nat.add_comm rounds.length 1,
        UInt32.ofNat_add, UInt32.add_assoc]
      rfl

/-- Every publication of a started task succeeds, visits every pool once, and
consists of the configured quantity of each market kind, the subscribed ones of
the selected TimeAndSale events, and the marker. Its event objects are distinct,
lie on active record keys and carry the sequence of the marker. -/
theorem publication_composition (api : DxApi) (limit : Nat) {text : Text} {pattern : TaskPattern}
    {configured : Option Nat} {count : Nat} (parsed : parseTask text = .ok pattern)
    (resolved : resolveActiveSymbolCount configured pattern = .ok count)
    (poolsExist : pattern.symbolCount * (pattern.regionalSourceCount + 1) < 2 ^ 63)
    (profileSymbols marketSymbols : List Text) (previous : List (Finset Text × Int))
    (subscribed : Finset Text) (nowNs : Int) :
    ∃ active result,
      publishAll api limit (startTask ⟨text, pattern, count, profileSymbols, marketSymbols⟩)
        previous = some active ∧
      publish api limit subscribed nowNs active = some result ∧
      result.active.poolOrder.Perm (List.range active.pools.length) ∧
      (∀ item ∈ pattern.items, item.kind ≠ .timeAndSale →
        (result.events.filter fun event => event.recordKey.1 = some item.kind).length =
          item.quantity) ∧
      (timeAndSales result.events).map TimeAndSale.eventSymbol =
        active.selectedTimeAndSales.filter (· ∈ subscribed) ∧
      (timeAndSales result.events).length ≤ (pattern.quantity .timeAndSale).getD 0 ∧
      result.events.getLast? = some (.textMessage result.active.marker) ∧
      result.active.publication.mapM result.active.resolve = some result.events ∧
      result.active.publication.Nodup ∧
      ∀ event ∈ result.events.dropLast,
        (∃ item ∈ pattern.items, event.recordKey.1 = some item.kind) ∧
        event.eventSymbol ∈
          withRegionalSources pattern.regionalSourceCount (pattern.symbolNames.take count) ∧
        event.Carries result.active.marker.sequence := by
  let pending : PendingTask := ⟨text, pattern, count, profileSymbols, marketSymbols⟩
  have checked : pending.WellFormed := pendingTask_wellFormed parsed resolved poolsExist
  obtain ⟨active, reached, wellFormed, -, samePattern, sameCount⟩ :=
    publishAll_ok api limit (startTask_wellFormed checked) previous
  obtain ⟨choices, result, done, h⟩ := publish_ok api limit subscribed nowNs wellFormed
  have pattern_eq : active.pattern = pattern := samePattern
  have count_eq : active.activeSymbolCount = count := sameCount
  have symbols := h.timeAndSales_symbols wellFormed
  refine ⟨active, result, reached, done, h.order, ?_, symbols, ?_, ?_, h.resolved,
    h.publication_nodup wellFormed, ?_⟩
  · rw [← pattern_eq]
    intro item mem market
    exact h.count_of_kind wellFormed mem market
  · rw [← List.length_map TimeAndSale.eventSymbol, symbols, ← pattern_eq]
    exact (List.length_filter_le _ _).trans active.selectedTimeAndSales_length
  · obtain ⟨selected, events, -⟩ := h.events
    rw [events]
    exact List.getLast?_concat
  · rw [← pattern_eq, ← count_eq]
    intro event mem
    exact h.selected_events wellFormed mem

/-- The third publication of three pools over two base symbols and their regional
variants, while no TimeAndSale symbol is subscribed. -/
theorem publication_composition_three_pools :
    ∃ active result,
      publishAll .release 8 (startTask ⟨"SUB:Q1;T2;N1#2&1~7".toList,
        ⟨[⟨.quote, 1⟩, ⟨.trade, 2⟩, ⟨.timeAndSale, 1⟩], 1000, some 2, 1, some 7⟩, 2, [], []⟩)
        [(∅, 1000000), (∅, 2000000)] = some active ∧
      publish .release 8 ∅ 3000000 active = some result ∧
      (result.events.filter fun event => event.recordKey.1 = some .trade).length = 2 ∧
      timeAndSales result.events = [] ∧ result.active.publication.Nodup := by
  have parsed : parseTask "SUB:Q1;T2;N1#2&1~7".toList =
      .ok ⟨[⟨.quote, 1⟩, ⟨.trade, 2⟩, ⟨.timeAndSale, 1⟩], 1000, some 2, 1, some 7⟩ := by
    decide +kernel
  have resolved : resolveActiveSymbolCount none
      ⟨[⟨.quote, 1⟩, ⟨.trade, 2⟩, ⟨.timeAndSale, 1⟩], 1000, some 2, 1, some 7⟩ = .ok 2 := rfl
  obtain ⟨active, result, reached, published, -, counts, selected, -, -, -, distinct, -⟩ :=
    publication_composition .release 8 parsed resolved (by decide) [] []
      [(∅, 1000000), (∅, 2000000)] ∅ 3000000
  refine ⟨active, result, reached, published, counts ⟨.trade, 2⟩ (by decide) (by decide), ?_,
    distinct⟩
  simpa using selected

end LatencyTest
