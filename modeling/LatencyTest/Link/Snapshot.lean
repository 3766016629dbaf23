import LatencyTest.Server.History
import LatencyTest.Client.Tracker

/-!
The snapshot protocol between the two programs. The server closes every snapshot
with its last event (`snapshotEvents_closes`) and counts its snapshots by the flags
the client counts by (`snapshotEvents_flagCounts`), so a client that receives the
events of each symbol in order, interleaved and divided into callbacks in any way,
agrees with the server on all counts (`snapshot_agreement`).
-/

namespace LatencyTest

/-! ### The flags of a snapshot -/

/-- Reconstructed records do not close a snapshot. -/
theorem made_closes (symbol : Text) (records : List TimeAndSaleRecord) {rest : List TimeAndSale}
    (closes : Closes rest) : Closes (records.map (makeTimeAndSale symbol) ++ rest) := by
  induction records with
  | nil => exact closes
  | cons record records ih => exact .cons rfl ih

/-- The last event of a snapshot closes it, and no other. -/
theorem snapshotEvents_closes (found : Option TimeAndSaleHistory) (symbol : Text)
    (fromTime : Int) : Closes (snapshotEvents found symbol fromTime) := by
  rcases snapshotEvents_cases found symbol fromTime with
    ⟨-, -, events⟩ | ⟨-, newest, older, -, events⟩ | ⟨-, only, -, events⟩ |
    ⟨-, newest, middle, oldest, -, events⟩
  · rw [events]
    exact .last rfl
  · rw [events, List.cons_append]
    exact .cons rfl (made_closes symbol older (.last rfl))
  · rw [events]
    exact .last rfl
  · rw [events, List.cons_append]
    exact .cons rfl (made_closes symbol middle (.last rfl))

/-- The counts of the snapshot of a request. -/
def requestCounts (found : Option TimeAndSaleHistory) (fromTime : Int) : TrackerCounter → Nat
  | .snapshotEvents => (requestedRecords found fromTime).length
  | .snapshotBegins => 1
  | .snapshotEnds => if isSnipped found fromTime then 0 else 1
  | .snapshotSnips => if isSnipped found fromTime then 1 else 0
  | .snapshotRemovals => if isSnipped found fromTime then 0 else 1
  | .completedSymbols => 1
  | _ => 0

theorem snapshotEvents_flagCounts (found : Option TimeAndSaleHistory) (symbol : Text)
    (fromTime : Int) :
    flagCounts (snapshotEvents found symbol fromTime) = requestCounts found fromTime := by
  funext counter
  rcases snapshotEvents_cases found symbol fromTime with
    ⟨cut, records, events⟩ | ⟨cut, newest, older, records, events⟩ |
    ⟨cut, only, records, events⟩ | ⟨cut, newest, middle, oldest, records, events⟩
  all_goals
    cases counter <;>
      simp [flagCounts, requestCounts, cut, records, events, boundaryEvent, beginSnapshot,
        snipSnapshot, makeTimeAndSale, EventFlags.or, EventFlags.SNAPSHOT_BEGIN,
        EventFlags.SNAPSHOT_END, EventFlags.SNAPSHOT_SNIP, EventFlags.REMOVE_EVENT,
        List.countP_append, List.countP_map, Function.comp_def]

/-! ### The indices of a snapshot -/

/-- Where a record stands in the index of its symbol. -/
def TimeAndSaleRecord.position (record : TimeAndSaleRecord) : Int × Int :=
  (record.timeNanos / 1000000, record.sequence)

/-- Records of distinct positions whose positions the index tells apart. -/
structure Indexed (api : DxApi) (records : List TimeAndSaleRecord) : Prop where
  distinct : (records.map TimeAndSaleRecord.position).Nodup
  injective : Set.InjOn (fun position : Int × Int => api.index position.1 position.2)
    {position | position ∈ records.map TimeAndSaleRecord.position}

/-- The index tells valid sequences apart. -/
theorem Indexed.of_valid {api : DxApi} {records : List TimeAndSaleRecord}
    (distinct : (records.map TimeAndSaleRecord.position).Nodup)
    (valid : ∀ record ∈ records, 0 ≤ record.sequence ∧ record.sequence ≤ api.maxSequence) :
    Indexed api records where
  distinct := distinct
  injective := by
    intro a memA b memB eq
    obtain ⟨x, memX, rfl⟩ := List.mem_map.mp memA
    obtain ⟨y, memY, rfl⟩ := List.mem_map.mp memB
    obtain ⟨time, sequence⟩ :=
      api.index_injective (valid x memX).1 (valid x memX).2 (valid y memY).1 (valid y memY).2 eq
    exact Prod.ext time sequence

/-- The indices of a snapshot are those of its records. -/
theorem snapshotEvents_indices (api : DxApi) (found : Option TimeAndSaleHistory) (symbol : Text)
    (fromTime : Int) :
    indicesOf api (snapshotEvents found symbol fromTime) =
      (requestedRecords found fromTime).map fun record =>
        api.index record.position.1 record.position.2 := by
  rw [← snapshotEvents_actual found symbol fromTime, List.map_map]
  rfl

/-- The indices of a snapshot are distinct. -/
theorem snapshotEvents_indices_nodup {api : DxApi} {found : Option TimeAndSaleHistory}
    (indexed : ∀ history, found = some history → Indexed api history.records) (symbol : Text)
    (fromTime : Int) : (indicesOf api (snapshotEvents found symbol fromTime)).Nodup := by
  rw [snapshotEvents_indices]
  cases found with
  | none => exact List.nodup_nil
  | some history =>
      have known := indexed history rfl
      have all : (history.records.map fun record =>
          api.index record.position.1 record.position.2).Nodup := by
        have mapped := List.Nodup.map_on
          (fun a memA b memB eq => known.injective memA memB eq) known.distinct
        rwa [List.map_map] at mapped
      have part : List.Sublist (requestedRecords (some history) fromTime)
          history.records.reverse := List.takeWhile_sublist _
      apply List.Nodup.sublist (part.map _)
      rw [List.map_reverse]
      exact List.nodup_reverse.mpr all

/-! ### Both programs -/

/-- A delivery of a publication to a tracker: the events of every symbol arrive in
order, with any interleaving and in any callbacks, and only after them the live
events of the symbol. -/
structure Delivery (published : List TimeAndSale) (live : Text → List TimeAndSale)
    (callbacks : List (List Event × Int)) : Prop where
  order : ∀ symbol, (timeAndSales (callbacks.flatMap Prod.fst)).filter (·.eventSymbol = symbol) =
    published.filter (·.eventSymbol = symbol) ++ live symbol
  unflagged : ∀ symbol, ∀ event ∈ live symbol, event.eventFlags = {}
  /-- Live events follow a snapshot of their symbol. -/
  after : ∀ symbol, live symbol ≠ [] → ∃ event ∈ published, event.eventSymbol = symbol

/-- The run of the symbol of a request: it completes, and counts as the server. -/
theorem localRun_request {api : DxApi} {active : ActiveTask} {symbol : Text} {fromTime : Int}
    (indexed : ∀ history, active.timeAndSaleHistory symbol = some history →
      Indexed api history.records)
    {live : List TimeAndSale} (unflagged : ∀ event ∈ live, event.eventFlags = {}) :
    let found := active.timeAndSaleHistory symbol
    let run := (SymbolState.machine api).localRun symbol {}
      (snapshotEvents found symbol fromTime ++ live)
    run.1.complete = true ∧
      run.2 = requestCounts found fromTime + Pi.single .liveEvents live.length := by
  intro found run
  obtain ⟨complete, counted⟩ := SymbolState.localRun_snapshot api symbol {}
    (snapshotEvents_closes found symbol fromTime) rfl
    (.inr (snapshotEvents_begin found symbol fromTime))
    (snapshotEvents_indices_nodup indexed symbol fromTime) (by simp)
  have afterwards := SymbolState.localRun_live api symbol complete unflagged
  rw [snapshotEvents_flagCounts] at counted
  simp only [run, Lib.KeyedMachine.localRun_append, afterwards, counted]
  exact ⟨complete, trivial⟩

/-- Among elements with distinct keys only one has the key of an element. -/
theorem filter_key {α κ : Type} [DecidableEq κ] {key : α → κ} {xs : List α}
    (distinct : (xs.map key).Nodup) {x : α} (mem : x ∈ xs) :
    xs.filter (key · = key x) = [x] := by
  induction xs with
  | nil => cases mem
  | cons y xs ih =>
      rw [List.map_cons, List.nodup_cons] at distinct
      rcases List.mem_cons.mp mem with rfl | later
      · have none : xs.filter (key · = key x) = [] := List.filter_eq_nil_iff.mpr fun z memZ same =>
          distinct.1 (of_decide_eq_true same ▸ List.mem_map_of_mem memZ)
        rw [List.filter_cons_of_pos (by simp), none]
      · have other : key y ≠ key x := fun same => distinct.1 (same ▸ List.mem_map_of_mem later)
        rw [List.filter_cons_of_neg (by simpa using other), ih distinct.2 later]

/-- What a delivery does to the tracker: every requested symbol completes, and the
counters are the sums of the counts of the requests and their live events. -/
theorem delivery_counts {api : DxApi} {active : ActiveTask} {requests : List (Text × Int)}
    (oncePerSymbol : (requests.map Prod.fst).Nodup)
    (indexed : ∀ symbol history, active.timeAndSaleHistory symbol = some history →
      Indexed api history.records)
    (subscribedAtNs : Int) {live : Text → List TimeAndSale}
    {callbacks : List (List Event × Int)}
    (delivery : Delivery (publishTimeSeriesSnapshots active requests).events live callbacks) :
    let start := ({} : TimeSeriesTracker).beginSnapshot requests.length subscribedAtNs
    let tracker := start.handleAll api callbacks
    (∀ request ∈ requests, (tracker.symbols request.1).complete = true) ∧
      tracker.expectedSymbols = requests.length ∧
      tracker.counters = (requests.map fun request =>
        requestCounts (active.timeAndSaleHistory request.1) request.2 +
          Pi.single .liveEvents (live request.1).length).sum := by
  intro start tracker
  let inputs := TimeSeriesTracker.inputs (callbacks.flatMap Prod.fst)
  have follows := TimeSeriesTracker.handleAll_follows api start callbacks
  have perRequest : ∀ request ∈ requests,
      let run := (SymbolState.machine api).localRun request.1 {}
        (Lib.KeyedMachine.inputsOf request.1 inputs)
      run.1.complete = true ∧
        run.2 = requestCounts (active.timeAndSaleHistory request.1) request.2 +
          Pi.single .liveEvents (live request.1).length := by
    intro request mem
    rw [TimeSeriesTracker.inputsOf_inputs, delivery.order, publishTimeSeriesSnapshots_filter,
      filter_key oncePerSymbol mem, List.flatMap_singleton]
    exact localRun_request (indexed request.1) (delivery.unflagged request.1)
  have covers : ∀ input ∈ inputs, input.1 ∈ (requests.map Prod.fst).toFinset := by
    intro input mem
    obtain ⟨event, received, rfl⟩ := List.mem_map.mp mem
    have ofSymbol : event ∈ (timeAndSales (callbacks.flatMap Prod.fst)).filter
        (·.eventSymbol = event.eventSymbol) := List.mem_filter.mpr ⟨received, by simp⟩
    rw [delivery.order] at ofSymbol
    have published : ∃ other ∈ (publishTimeSeriesSnapshots active requests).events,
        other.eventSymbol = event.eventSymbol := by
      rcases List.mem_append.mp ofSymbol with sent | later
      · exact ⟨event, (List.mem_filter.mp sent).1, rfl⟩
      · exact delivery.after _ (List.ne_nil_of_mem later)
    obtain ⟨other, sent, same⟩ := published
    rw [publishTimeSeriesSnapshots_events] at sent
    obtain ⟨request, requested, part⟩ := List.mem_flatMap.mp sent
    rw [List.mem_toFinset, ← same, snapshotEvents_symbol part]
    exact List.mem_map_of_mem requested
  refine ⟨?_, follows.expectedSymbols, ?_⟩
  · intro request mem
    rw [follows.symbols, Lib.KeyedMachine.run_state]
    exact (perRequest request mem).1
  · have zero : start.counters = 0 := by
      funext counter
      cases counter <;> rfl
    rw [follows.counters, zero, zero_add, Lib.KeyedMachine.run_output _ _ _ _ covers,
      List.sum_toFinset _ oncePerSymbol, List.map_map]
    congr 1
    exact List.map_congr_left fun request mem => (perRequest request mem).2

/-- For every history whose records the index tells apart and every request list
without repeated symbols, whatever the interleaving and the callbacks: every
requested symbol completes, the client counts what the server counts, no index is
seen twice and every live event is counted as live. -/
theorem snapshot_agreement (api : DxApi) (active : ActiveTask) (requests : List (Text × Int))
    (oncePerSymbol : (requests.map Prod.fst).Nodup)
    (indexed : ∀ symbol history, active.timeAndSaleHistory symbol = some history →
      Indexed api history.records)
    (subscribedAtNs : Int) (live : Text → List TimeAndSale)
    (callbacks : List (List Event × Int))
    (delivery : Delivery (publishTimeSeriesSnapshots active requests).events live callbacks) :
    let snapshot := publishTimeSeriesSnapshots active requests
    let tracker := (({} : TimeSeriesTracker).beginSnapshot requests.length
      subscribedAtNs).handleAll api callbacks
    (∀ request ∈ requests, (tracker.symbols request.1).complete = true) ∧
      tracker.expectedSymbols = requests.length ∧
      tracker.completedSymbols = requests.length ∧
      tracker.snapshotBegins = requests.length ∧
      tracker.snapshotEnds = snapshot.completeSnapshots ∧
      tracker.snapshotSnips = snapshot.snippedSnapshots ∧
      tracker.snapshotEvents = snapshot.actualEvents ∧
      tracker.snapshotRemovals = snapshot.completeSnapshots ∧
      tracker.duplicateIndices = 0 ∧
      tracker.prematureLiveEvents = 0 ∧
      tracker.liveEvents = (requests.map fun request => (live request.1).length).sum := by
  intro snapshot tracker
  obtain ⟨complete, expected, counters⟩ :=
    delivery_counts oncePerSymbol indexed subscribedAtNs delivery
  have server : snapshot = _ := foldl_appendSnapshot active.timeAndSaleHistory {} requests
  have count : ∀ counter, tracker.counters counter = (requests.map fun request =>
      (requestCounts (active.timeAndSaleHistory request.1) request.2 +
        Pi.single .liveEvents (live request.1).length : TrackerCounter → Nat) counter).sum := by
    intro counter
    rw [counters, Pi.list_sum_apply, List.map_map]
    rfl
  rw [server]
  exact ⟨complete, expected,
    (count .completedSymbols).trans (by simp [requestCounts]),
    (count .snapshotBegins).trans (by simp [requestCounts]),
    (count .snapshotEnds).trans (by simp [requestCounts]),
    (count .snapshotSnips).trans (by simp [requestCounts]),
    (count .snapshotEvents).trans (by simp [requestCounts]),
    (count .snapshotRemovals).trans (by simp [requestCounts]),
    (count .duplicateIndices).trans (by simp [requestCounts]),
    (count .prematureLiveEvents).trans (by simp [requestCounts]),
    (count .liveEvents).trans (by simp [requestCounts])⟩

/-- One snapshot is cut and the other one is empty, and they arrive interleaved with
a live event. -/
theorem snapshot_agreement_interleaved :
    let symbol : Text := "SYM00".toList
    let other : Text := "SYM01".toList
    let pending : PendingTask :=
      ⟨"SUB:N2".toList, { items := [⟨.timeAndSale, 2⟩] }, 2, [symbol, other], [symbol, other]⟩
    let newest : TimeAndSale :=
      { eventSymbol := symbol, timeNanos := 2000000, sequence := 2, price := .finite 102
        size := .finite 1 }
    let callbacks : List (List Event × Int) :=
      [([.timeAndSale (snipSnapshot (beginSnapshot newest)), .profile symbol], 5000000),
        ([.timeAndSale { newest with timeNanos := 3000000, sequence := 3 },
          .timeAndSale (boundaryEvent other 1
            ((EventFlags.SNAPSHOT_BEGIN.or .REMOVE_EVENT).or .SNAPSHOT_END))], 6000000)]
    let active := { startTask pending with
      timeAndSaleHistory :=
        Function.update (fun _ => none) symbol (some ⟨[⟨2000000, 2, .finite 102⟩], true⟩) }
    let tracker := (({} : TimeSeriesTracker).beginSnapshot 2 4000000).handleAll .release callbacks
    (publishTimeSeriesSnapshots active [(symbol, 1), (other, 1)]).snippedSnapshots = 1 ∧
      tracker.completedSymbols = 2 ∧ tracker.snapshotSnips = 1 ∧ tracker.liveEvents = 1 := by
  intro symbol other pending newest callbacks active tracker
  let live : Text → List TimeAndSale := fun s =>
    if s = symbol then [{ newest with timeNanos := 3000000, sequence := 3 }] else []
  have indexed : ∀ s history, active.timeAndSaleHistory s = some history →
      Indexed .release history.records := by
    intro s history found
    by_cases same : s = symbol
    · rw [same] at found
      cases found
      exact Indexed.of_valid (by decide) (by decide)
    · simp only [active, Function.update_of_ne same] at found
      cases found
  have order : ∀ s, (timeAndSales (callbacks.flatMap Prod.fst)).filter (·.eventSymbol = s) =
      (publishTimeSeriesSnapshots active [(symbol, 1), (other, 1)]).events.filter
        (·.eventSymbol = s) ++ live s := by
    intro s
    by_cases first : s = symbol
    · rw [first]
      decide
    by_cases second : s = other
    · rw [second]
      decide
    have nothing : ∀ events : List TimeAndSale,
        (∀ event ∈ events, event.eventSymbol = symbol ∨ event.eventSymbol = other) →
        events.filter (·.eventSymbol = s) = [] := by
      intro events known
      apply List.filter_eq_nil_iff.mpr
      intro event mem same
      rw [decide_eq_true_eq] at same
      rcases known event mem with here | here
      · exact first (same.symm.trans here)
      · exact second (same.symm.trans here)
    rw [nothing _ (by decide), nothing _ (by decide)]
    simp [live, first]
  have delivery : Delivery (publishTimeSeriesSnapshots active [(symbol, 1), (other, 1)]).events
      live callbacks := by
    refine ⟨order, ?_, ?_⟩
    · intro s event mem
      by_cases first : s = symbol
      · simp only [live, first, if_true, List.mem_singleton] at mem
        rw [mem]
      · simp [live, first] at mem
    · intro s some
      by_cases first : s = symbol
      · rw [first]
        decide
      · simp [live, first] at some
  obtain ⟨-, -, completed, -, -, snips, -, -, -, -, lives⟩ :=
    snapshot_agreement .release active [(symbol, 1), (other, 1)] (by decide) indexed
      4000000 live callbacks delivery
  exact ⟨by decide, completed, snips.trans (by decide), lives.trans (by decide)⟩

end LatencyTest
