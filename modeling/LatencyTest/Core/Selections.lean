import LatencyTest.Core.SourceTime
import LatencyTest.Lib.Records

/-!
The three source-time selections against their definition: what a sequence of
observations leaves in a `SourceTimeMethodComparison`. The map of last source
times holds the greatest one of every series and the scalar the greatest of all
(`Follows`), so the stored latencies are those of the strict records of the two
notions of series.
-/

namespace LatencyTest

/-- The arguments of one `observe` call. -/
structure ObserveCall where
  kind : EventKind
  symbol : Text
  sourceTimeMs : Int
  observedAtNs : Int
deriving DecidableEq

namespace ObserveCall

/-- The stream an observation belongs to. -/
def series (call : ObserveCall) : EventKind × Text := (call.kind, call.symbol)

/-- The raw difference of the two clocks in milliseconds. -/
def latencyMs (call : ObserveCall) : Int := call.observedAtNs.tdiv 1000000 - call.sourceTimeMs

/-- The sample a selection keeps of an observation. -/
def latencyNs (call : ObserveCall) : Int := max 0 call.latencyMs * 1000000

/-- The latency sample is clamped. -/
def negative (call : ObserveCall) : Bool := decide (call.latencyMs < 0)

/-- Both clock values are `int64_t` and the observation clock is not negative. -/
structure InRange (call : ObserveCall) : Prop where
  sourceTime : -2 ^ 63 ≤ call.sourceTimeMs ∧ call.sourceTimeMs < 2 ^ 63
  observedAt : 0 ≤ call.observedAtNs ∧ call.observedAtNs < 2 ^ 63

/-- The raw difference with the observation clock floored to milliseconds. -/
def flooredMs (call : ObserveCall) : Int := call.observedAtNs / 1000000 - call.sourceTimeMs

/-- The latency a selection should keep of an observation. -/
def sampleNs (call : ObserveCall) : Int := max 0 call.flooredMs * 1000000

/-- No intermediate of the latency computation leaves `int64_t`. -/
structure NoOverflow (call : ObserveCall) : Prop where
  observedAtMs : -2 ^ 63 ≤ call.observedAtNs.tdiv 1000000 ∧
    call.observedAtNs.tdiv 1000000 < 2 ^ 63
  latencyMs : -2 ^ 63 ≤ call.latencyMs ∧ call.latencyMs < 2 ^ 63
  latencyNs : -2 ^ 63 ≤ call.latencyNs ∧ call.latencyNs < 2 ^ 63

/-- Truncation and flooring agree on an observation clock from zero on. -/
theorem InRange.latencyMs_eq {call : ObserveCall} (range : call.InRange) :
    call.latencyMs = call.flooredMs := by
  rw [latencyMs, Int.tdiv_eq_ediv_of_nonneg range.observedAt.1, flooredMs]

theorem InRange.latencyNs_eq {call : ObserveCall} (range : call.InRange) :
    call.latencyNs = call.sampleNs := by
  rw [latencyNs, range.latencyMs_eq, sampleNs]

/-- A counted observation is computed without overflow. -/
theorem InRange.noOverflow {call : ObserveCall} (range : call.InRange)
    (positive : 0 < call.sourceTimeMs) : call.NoOverflow := by
  obtain ⟨_, sourceLt⟩ := range.sourceTime
  obtain ⟨observedNonneg, observedLt⟩ := range.observedAt
  constructor
  · rw [Int.tdiv_eq_ediv_of_nonneg observedNonneg]
    omega
  · rw [range.latencyMs_eq, flooredMs]
    omega
  · rw [range.latencyNs_eq, sampleNs, flooredMs]
    omega

end ObserveCall

/-- The observations that are not ignored. -/
def counted (calls : List ObserveCall) : List ObserveCall :=
  calls.filter fun call => 0 < call.sourceTimeMs

/-- The counted observations whose source time is strictly greater than every
earlier one of the same event kind and symbol. -/
def perSeriesSelection (calls : List ObserveCall) : List ObserveCall :=
  Lib.records ObserveCall.series ObserveCall.sourceTimeMs (counted calls)

/-- The counted observations whose source time is strictly greater than every
earlier one. -/
def globalSelection (calls : List ObserveCall) : List ObserveCall :=
  Lib.records (fun _ => ()) ObserveCall.sourceTimeMs (counted calls)

namespace SourceTimeMethodComparison

/-- The state after a sequence of `observe` calls. -/
def observeAll (methods : SourceTimeMethodComparison) (calls : List ObserveCall) :
    SourceTimeMethodComparison :=
  calls.foldl (fun methods call =>
    methods.observe call.kind call.symbol call.sourceTimeMs call.observedAtNs) methods

theorem observeAll_snoc (methods : SourceTimeMethodComparison) (calls : List ObserveCall)
    (call : ObserveCall) :
    methods.observeAll (calls ++ [call]) =
      (methods.observeAll calls).observe call.kind call.symbol call.sourceTimeMs
        call.observedAtNs := by
  simp [observeAll]

theorem code_injective : Function.Injective EventKind.code := by
  intro kind kind' same
  cases kind <;> cases kind' <;> first | rfl | cases same

/-- The formatted map key identifies the series. -/
theorem seriesKey_inj {kind kind' : EventKind} {symbol symbol' : Text} :
    seriesKey kind symbol = seriesKey kind' symbol' ↔ (kind, symbol) = (kind', symbol') := by
  constructor
  · intro same
    obtain ⟨code, tail⟩ := List.cons.inj same
    rw [code_injective code, (List.cons.inj tail).2]
  · intro same
    rw [(Prod.mk.inj same).1, (Prod.mk.inj same).2]

/-! ### One observation -/

/-- The new source time exceeds the remembered one, if there is one. -/
def Exceeds (last : Option Int) (sourceTimeMs : Int) : Prop :=
  ∀ previous, last = some previous → previous < sourceTimeMs

theorem not_exceeds {last : Option Int} {sourceTimeMs : Int}
    (stays : ¬ Exceeds last sourceTimeMs) :
    ∃ previous, last = some previous ∧ ¬ previous < sourceTimeMs := by
  rw [Exceeds] at stays
  push Not at stays
  obtain ⟨previous, same, le⟩ := stays
  exact ⟨previous, same, le.not_gt⟩

theorem observeSeries_accept {series : Text} {sourceTimeMs : Int} (latencyMs latencyNs : Int)
    {methods : SourceTimeMethodComparison}
    (exceeds : Exceeds (methods.lastBySeries series) sourceTimeMs) :
    observeSeries series sourceTimeMs latencyMs latencyNs methods =
      { methods with
        lastBySeries := Function.update methods.lastBySeries series (some sourceTimeMs)
        data := { methods.data with
          perSeriesMonotonic := methods.data.perSeriesMonotonic ++ [latencyNs]
          negativeClamped := clamp latencyMs 1 methods.data.negativeClamped } } := by
  rw [observeSeries]
  cases last : methods.lastBySeries series with
  | none => rfl
  | some previous => simp [exceeds previous last]

theorem observeSeries_reject {series : Text} {sourceTimeMs : Int} (latencyMs latencyNs : Int)
    {methods : SourceTimeMethodComparison}
    (stays : ¬ Exceeds (methods.lastBySeries series) sourceTimeMs) :
    observeSeries series sourceTimeMs latencyMs latencyNs methods =
      { methods with
        data := { methods.data with
          perSeriesRejected := methods.data.perSeriesRejected + 1 } } := by
  obtain ⟨previous, last, notLess⟩ := not_exceeds stays
  simp [observeSeries, last, notLess]

theorem observeGlobal_accept {sourceTimeMs : Int} (latencyMs latencyNs : Int)
    {methods : SourceTimeMethodComparison} (exceeds : Exceeds methods.lastGlobal sourceTimeMs) :
    observeGlobal sourceTimeMs latencyMs latencyNs methods =
      { methods with
        lastGlobal := some sourceTimeMs
        data := { methods.data with
          globalMonotonic := methods.data.globalMonotonic ++ [latencyNs]
          negativeClamped := clamp latencyMs 2 methods.data.negativeClamped } } := by
  rw [observeGlobal]
  cases last : methods.lastGlobal with
  | none => rfl
  | some previous => simp [exceeds previous last]

theorem observeGlobal_reject {sourceTimeMs : Int} (latencyMs latencyNs : Int)
    {methods : SourceTimeMethodComparison} (stays : ¬ Exceeds methods.lastGlobal sourceTimeMs) :
    observeGlobal sourceTimeMs latencyMs latencyNs methods =
      { methods with
        data := { methods.data with globalRejected := methods.data.globalRejected + 1 } } := by
  obtain ⟨previous, last, notLess⟩ := not_exceeds stays
  simp [observeGlobal, last, notLess]

theorem clamp_self (call : ObserveCall) (method : Fin 3) (counts : Fin 3 → Nat) :
    clamp call.latencyMs method counts method =
      counts method + [call].countP ObserveCall.negative := by
  by_cases negative : call.latencyMs < 0 <;>
    simp [clamp, ObserveCall.negative, negative]

theorem clamp_other (latencyMs : Int) {method other : Fin 3} (ne : other ≠ method)
    (counts : Fin 3 → Nat) : clamp latencyMs method counts other = counts other := by
  rw [clamp]
  split
  · exact Function.update_of_ne ne _ _
  · rfl

/-! ### Whole sequences -/

/-- The samples, the rejections and the clamped count of one method are those of
a selection of the observations `seen`. -/
structure Samples (samples : List Int) (rejected clamped : Nat)
    (selection seen : List ObserveCall) : Prop where
  samples : samples = selection.map ObserveCall.latencyNs
  rejected : selection.length + rejected = seen.length
  clamped : clamped = selection.countP ObserveCall.negative

theorem Samples.accept {samples : List Int} {rejected : Nat} {method : Fin 3}
    {counts : Fin 3 → Nat} {selection seen : List ObserveCall} (call : ObserveCall)
    (h : Samples samples rejected (counts method) selection seen) :
    Samples (samples ++ [call.latencyNs]) rejected (clamp call.latencyMs method counts method)
      (selection ++ [call]) (seen ++ [call]) := by
  constructor
  · rw [h.samples, List.map_append, List.map_singleton]
  · have := h.rejected
    simp only [List.length_append, List.length_singleton]
    omega
  · rw [clamp_self, h.clamped, List.countP_append]

theorem Samples.reject {samples : List Int} {rejected clamped : Nat}
    {selection seen : List ObserveCall} (call : ObserveCall)
    (h : Samples samples rejected clamped selection seen) :
    Samples samples (rejected + 1) clamped (selection ++ []) (seen ++ [call]) := by
  constructor
  · rw [h.samples, List.append_nil]
  · have := h.rejected
    simp only [List.append_nil, List.length_append, List.length_singleton]
    omega
  · rw [h.clamped, List.append_nil]

/-- What the comparison holds after the observations `seen`, all of which count. -/
structure Follows (methods : SourceTimeMethodComparison) (seen : List ObserveCall) : Prop where
  all : Samples methods.data.all 0 (methods.data.negativeClamped 0) seen seen
  perSeries : Samples methods.data.perSeriesMonotonic methods.data.perSeriesRejected
    (methods.data.negativeClamped 1)
    (Lib.records ObserveCall.series ObserveCall.sourceTimeMs seen) seen
  global : Samples methods.data.globalMonotonic methods.data.globalRejected
    (methods.data.negativeClamped 2)
    (Lib.records (fun _ => ()) ObserveCall.sourceTimeMs seen) seen
  lastBySeries : ∀ kind symbol, methods.lastBySeries (seriesKey kind symbol) =
    Lib.greatest ObserveCall.series ObserveCall.sourceTimeMs seen (kind, symbol)
  lastGlobal : methods.lastGlobal =
    Lib.greatest (fun _ => ()) ObserveCall.sourceTimeMs seen ()

theorem reset_follows (methods : SourceTimeMethodComparison) : methods.reset.Follows [] where
  all := ⟨rfl, rfl, rfl⟩
  perSeries := ⟨rfl, rfl, rfl⟩
  global := ⟨rfl, rfl, rfl⟩
  lastBySeries _ _ := rfl
  lastGlobal := rfl

/-- An ignored observation changes nothing. -/
theorem observe_ignored (methods : SourceTimeMethodComparison) {call : ObserveCall}
    (ignored : call.sourceTimeMs ≤ 0) :
    methods.observe call.kind call.symbol call.sourceTimeMs call.observedAtNs = methods :=
  if_pos ignored

/-- The per-series stage decides as the records do, whatever else the state holds. -/
theorem observeSeries_follows {methods : SourceTimeMethodComparison} {seen : List ObserveCall}
    (call : ObserveCall)
    (samples : Samples methods.data.perSeriesMonotonic methods.data.perSeriesRejected
      (methods.data.negativeClamped 1)
      (Lib.records ObserveCall.series ObserveCall.sourceTimeMs seen) seen)
    (last : ∀ kind symbol, methods.lastBySeries (seriesKey kind symbol) =
      Lib.greatest ObserveCall.series ObserveCall.sourceTimeMs seen (kind, symbol)) :
    let next := observeSeries (seriesKey call.kind call.symbol) call.sourceTimeMs call.latencyMs
      call.latencyNs methods
    Samples next.data.perSeriesMonotonic next.data.perSeriesRejected (next.data.negativeClamped 1)
        (Lib.records ObserveCall.series ObserveCall.sourceTimeMs (seen ++ [call]))
        (seen ++ [call]) ∧
      ∀ kind symbol, next.lastBySeries (seriesKey kind symbol) =
        Lib.greatest ObserveCall.series ObserveCall.sourceTimeMs (seen ++ [call])
          (kind, symbol) := by
  intro next
  have decides : Exceeds (methods.lastBySeries (seriesKey call.kind call.symbol))
      call.sourceTimeMs ↔ Lib.Advances ObserveCall.series ObserveCall.sourceTimeMs seen call := by
    rw [Lib.advances_iff, last]
    rfl
  rw [Lib.records_snoc]
  by_cases advances : Lib.Advances ObserveCall.series ObserveCall.sourceTimeMs seen call
  · rw [if_pos advances, show next = _ from observeSeries_accept _ _ (decides.mpr advances)]
    refine ⟨samples.accept call, ?_⟩
    intro kind symbol
    simp only [Lib.greatest_snoc, Function.update_apply, seriesKey_inj, last, advances, and_true,
      ObserveCall.series, eq_comm]
  · rw [if_neg advances, show next = _ from observeSeries_reject _ _ (mt decides.mp advances)]
    refine ⟨samples.reject call, ?_⟩
    intro kind symbol
    rw [Lib.greatest_snoc, if_neg fun both => advances both.2]
    exact last kind symbol

/-- The global stage decides as the records of a single series do. -/
theorem observeGlobal_follows {methods : SourceTimeMethodComparison} {seen : List ObserveCall}
    (call : ObserveCall)
    (samples : Samples methods.data.globalMonotonic methods.data.globalRejected
      (methods.data.negativeClamped 2)
      (Lib.records (fun _ => ()) ObserveCall.sourceTimeMs seen) seen)
    (last : methods.lastGlobal =
      Lib.greatest (fun _ => ()) ObserveCall.sourceTimeMs seen ()) :
    let next := observeGlobal call.sourceTimeMs call.latencyMs call.latencyNs methods
    Samples next.data.globalMonotonic next.data.globalRejected (next.data.negativeClamped 2)
        (Lib.records (fun _ => ()) ObserveCall.sourceTimeMs (seen ++ [call])) (seen ++ [call]) ∧
      next.lastGlobal =
        Lib.greatest (fun _ => ()) ObserveCall.sourceTimeMs (seen ++ [call]) () := by
  intro next
  have decides : Exceeds methods.lastGlobal call.sourceTimeMs ↔
      Lib.Advances (fun _ => ()) ObserveCall.sourceTimeMs seen call := by
    rw [Lib.advances_iff, last]
    rfl
  rw [Lib.records_snoc, Lib.greatest_snoc]
  by_cases advances : Lib.Advances (fun _ => ()) ObserveCall.sourceTimeMs seen call
  · rw [if_pos advances, if_pos ⟨rfl, advances⟩,
      show next = _ from observeGlobal_accept _ _ (decides.mpr advances)]
    exact ⟨samples.accept call, rfl⟩
  · rw [if_neg advances, if_neg fun both => advances both.2,
      show next = _ from observeGlobal_reject _ _ (mt decides.mp advances)]
    exact ⟨samples.reject call, last⟩

/-- The per-series stage leaves the other two selections alone. -/
theorem observeSeries_frame (series : Text) (sourceTimeMs latencyMs latencyNs : Int)
    (methods : SourceTimeMethodComparison) :
    let next := observeSeries series sourceTimeMs latencyMs latencyNs methods
    next.data.all = methods.data.all ∧ next.data.globalMonotonic = methods.data.globalMonotonic ∧
      next.data.globalRejected = methods.data.globalRejected ∧
      next.lastGlobal = methods.lastGlobal ∧
      ∀ method, method ≠ 1 →
        next.data.negativeClamped method = methods.data.negativeClamped method := by
  intro next
  by_cases exceeds : Exceeds (methods.lastBySeries series) sourceTimeMs
  · rw [show next = _ from observeSeries_accept _ _ exceeds]
    exact ⟨rfl, rfl, rfl, rfl, fun method ne => clamp_other _ ne _⟩
  · rw [show next = _ from observeSeries_reject _ _ exceeds]
    exact ⟨rfl, rfl, rfl, rfl, fun _ _ => rfl⟩

/-- The global stage leaves the other two selections alone. -/
theorem observeGlobal_frame (sourceTimeMs latencyMs latencyNs : Int)
    (methods : SourceTimeMethodComparison) :
    let next := observeGlobal sourceTimeMs latencyMs latencyNs methods
    next.data.all = methods.data.all ∧
      next.data.perSeriesMonotonic = methods.data.perSeriesMonotonic ∧
      next.data.perSeriesRejected = methods.data.perSeriesRejected ∧
      next.lastBySeries = methods.lastBySeries ∧
      ∀ method, method ≠ 2 →
        next.data.negativeClamped method = methods.data.negativeClamped method := by
  intro next
  by_cases exceeds : Exceeds methods.lastGlobal sourceTimeMs
  · rw [show next = _ from observeGlobal_accept _ _ exceeds]
    exact ⟨rfl, rfl, rfl, rfl, fun method ne => clamp_other _ ne _⟩
  · rw [show next = _ from observeGlobal_reject _ _ exceeds]
    exact ⟨rfl, rfl, rfl, rfl, fun _ _ => rfl⟩

/-- The unconditional append of a counted observation, which clamps for `method`. -/
def appendAll (method : Fin 3) (methods : SourceTimeMethodComparison) (call : ObserveCall) :
    SourceTimeMethodComparison :=
  { methods with
    data := { methods.data with
      all := methods.data.all ++ [call.latencyNs]
      negativeClamped := clamp call.latencyMs method methods.data.negativeClamped } }

theorem observe_counted (methods : SourceTimeMethodComparison) {call : ObserveCall}
    (positive : 0 < call.sourceTimeMs) :
    methods.observe call.kind call.symbol call.sourceTimeMs call.observedAtNs =
      observeGlobal call.sourceTimeMs call.latencyMs call.latencyNs
        (observeSeries (seriesKey call.kind call.symbol) call.sourceTimeMs call.latencyMs
          call.latencyNs (methods.appendAll 0 call)) :=
  if_neg positive.not_ge

/-- A counted observation extends what the comparison follows. -/
theorem observe_follows {methods : SourceTimeMethodComparison} {seen : List ObserveCall}
    (follows : methods.Follows seen) (call : ObserveCall) (positive : 0 < call.sourceTimeMs) :
    (methods.observe call.kind call.symbol call.sourceTimeMs call.observedAtNs).Follows
      (seen ++ [call]) := by
  rw [observe_counted _ positive]
  set appended := methods.appendAll 0 call
  set series := observeSeries (seriesKey call.kind call.symbol) call.sourceTimeMs call.latencyMs
    call.latencyNs appended
  have clamped (method : Fin 3) (ne : method ≠ 0) :
      appended.data.negativeClamped method = methods.data.negativeClamped method :=
    clamp_other _ ne _
  obtain ⟨allSeries, globalSeries, rejectedSeries, lastSeries, clampedSeries⟩ :=
    observeSeries_frame (seriesKey call.kind call.symbol) call.sourceTimeMs call.latencyMs
      call.latencyNs appended
  obtain ⟨allGlobal, perSeriesGlobal, rejectedGlobal, lastGlobal, clampedGlobal⟩ :=
    observeGlobal_frame call.sourceTimeMs call.latencyMs call.latencyNs series
  obtain ⟨perSeriesSamples, perSeriesLast⟩ :=
    @observeSeries_follows appended _ call
      (by rw [clamped 1 (by simp)]; exact follows.perSeries) follows.lastBySeries
  obtain ⟨globalSamples, globalLast⟩ :=
    @observeGlobal_follows series _ call
      (by
        rw [globalSeries, rejectedSeries, clampedSeries 2 (by simp), clamped 2 (by simp)]
        exact follows.global)
      (lastSeries.trans follows.lastGlobal)
  constructor
  · rw [allGlobal, clampedGlobal 0 (by simp), allSeries, clampedSeries 0 (by simp)]
    exact follows.all.accept call
  · rw [perSeriesGlobal, rejectedGlobal, clampedGlobal 1 (by simp)]
    exact perSeriesSamples
  · exact globalSamples
  · rw [lastGlobal]
    exact perSeriesLast
  · exact globalLast

theorem counted_snoc (calls : List ObserveCall) (call : ObserveCall) :
    counted (calls ++ [call]) =
      counted calls ++ if 0 < call.sourceTimeMs then [call] else [] := by
  by_cases positive : 0 < call.sourceTimeMs <;> simp [counted, positive]

/-- After any sequence of calls the comparison follows the counted ones. -/
theorem observeAll_follows (methods : SourceTimeMethodComparison) (calls : List ObserveCall) :
    (methods.reset.observeAll calls).Follows (counted calls) := by
  induction calls using List.reverseRecOn with
  | nil => exact reset_follows methods
  | append_singleton calls call ih =>
      rw [observeAll_snoc, counted_snoc]
      by_cases positive : 0 < call.sourceTimeMs
      · rw [if_pos positive]
        exact observe_follows ih call positive
      · rw [if_neg positive, List.append_nil, observe_ignored _ (not_lt.mp positive)]
        exact ih

/-- The selections equal their reference definition, sample by sample and in
order, and each count is that of its selection. -/
theorem observeAll_selections (methods : SourceTimeMethodComparison) (calls : List ObserveCall)
    (range : ∀ call ∈ calls, call.InRange) :
    let data := (methods.reset.observeAll calls).data
    data.all = (counted calls).map ObserveCall.sampleNs ∧
      data.perSeriesMonotonic = (perSeriesSelection calls).map ObserveCall.sampleNs ∧
      data.globalMonotonic = (globalSelection calls).map ObserveCall.sampleNs ∧
      data.perSeriesMonotonic.length + data.perSeriesRejected = data.all.length ∧
      data.globalMonotonic.length + data.globalRejected = data.all.length ∧
      data.negativeClamped 0 = (counted calls).countP (fun call => call.flooredMs < 0) ∧
      data.negativeClamped 1 = (perSeriesSelection calls).countP (fun call => call.flooredMs < 0) ∧
      data.negativeClamped 2 = (globalSelection calls).countP (fun call => call.flooredMs < 0) ∧
      ∀ call ∈ counted calls, call.NoOverflow := by
  intro data
  have follows := observeAll_follows methods calls
  have inRange (selection : List ObserveCall) (sub : selection.Sublist (counted calls)) :
      ∀ call ∈ selection, call.InRange := fun call mem =>
    range call (List.mem_filter.mp (sub.subset mem)).1
  have samples (selection : List ObserveCall) (sub : selection.Sublist (counted calls)) :
      selection.map ObserveCall.latencyNs = selection.map ObserveCall.sampleNs :=
    List.map_congr_left fun call mem => (inRange selection sub call mem).latencyNs_eq
  have clamped (selection : List ObserveCall) (sub : selection.Sublist (counted calls)) :
      selection.countP ObserveCall.negative =
        selection.countP fun call => call.flooredMs < 0 := by
    refine List.countP_congr fun call mem => ?_
    rw [ObserveCall.negative, (inRange selection sub call mem).latencyMs_eq]
  have whole : (counted calls).Sublist (counted calls) := .refl _
  have perSeries : (perSeriesSelection calls).Sublist (counted calls) :=
    Lib.select_sublist_self _ _
  have global : (globalSelection calls).Sublist (counted calls) := Lib.select_sublist_self _ _
  refine ⟨?_, ?_, ?_, ?_, ?_, ?_, ?_, ?_, ?_⟩
  · rw [← samples _ whole]
    exact follows.all.samples
  · rw [← samples _ perSeries]
    exact follows.perSeries.samples
  · rw [← samples _ global]
    exact follows.global.samples
  · rw [follows.perSeries.samples, follows.all.samples, List.length_map, List.length_map]
    exact follows.perSeries.rejected
  · rw [follows.global.samples, follows.all.samples, List.length_map, List.length_map]
    exact follows.global.rejected
  · rw [← clamped _ whole]
    exact follows.all.clamped
  · rw [← clamped _ perSeries]
    exact follows.perSeries.clamped
  · rw [← clamped _ global]
    exact follows.global.clamped
  · intro call mem
    have positive : 0 < call.sourceTimeMs := of_decide_eq_true (List.mem_filter.mp mem).2
    exact (inRange _ whole call mem).noOverflow positive

/-- A stream of two trades of one symbol at the same time, an older trade of
another symbol, a newer TradeETH event and one without a source time. -/
def mixedCalls : List ObserveCall :=
  [⟨.trade, ['A'], 3, 5000000⟩, ⟨.trade, ['A'], 3, 5000000⟩, ⟨.trade, ['B'], 2, 1999999⟩,
    ⟨.tradeEth, ['A'], 4, 9000000⟩, ⟨.trade, ['C'], 0, 9000000⟩]

theorem observeAll_selections_mixed :
    (({} : SourceTimeMethodComparison).reset.observeAll mixedCalls).data.perSeriesMonotonic =
        [2000000, 0, 5000000] ∧
      (({} : SourceTimeMethodComparison).reset.observeAll mixedCalls).data.globalMonotonic =
        [2000000, 5000000] := by
  have range : ∀ call ∈ mixedCalls, call.InRange := by
    intro call mem
    simp only [mixedCalls, List.mem_cons, List.not_mem_nil, or_false] at mem
    rcases mem with rfl | rfl | rfl | rfl | rfl <;> exact ⟨by simp, by simp⟩
  obtain ⟨_, perSeries, global, _⟩ := observeAll_selections {} mixedCalls range
  constructor
  · rw [perSeries]
    rfl
  · rw [global]
    rfl

/-- The three selections are nested, so are the clamped counts, and the global
method rejects at least what the per-series one does. -/
theorem observeAll_nested (methods : SourceTimeMethodComparison) (calls : List ObserveCall) :
    let data := (methods.reset.observeAll calls).data
    (globalSelection calls).Sublist (perSeriesSelection calls) ∧
      (perSeriesSelection calls).Sublist (counted calls) ∧
      data.globalMonotonic = (globalSelection calls).map ObserveCall.latencyNs ∧
      data.perSeriesMonotonic = (perSeriesSelection calls).map ObserveCall.latencyNs ∧
      data.all = (counted calls).map ObserveCall.latencyNs ∧
      data.negativeClamped 2 ≤ data.negativeClamped 1 ∧
      data.negativeClamped 1 ≤ data.negativeClamped 0 ∧
      data.perSeriesRejected ≤ data.globalRejected := by
  intro data
  have follows := observeAll_follows methods calls
  have inner : (globalSelection calls).Sublist (perSeriesSelection calls) :=
    Lib.records_sublist (fun _ _ _ => rfl) _
  have outer : (perSeriesSelection calls).Sublist (counted calls) := Lib.select_sublist_self _ _
  refine ⟨inner, outer, follows.global.samples, follows.perSeries.samples, follows.all.samples,
    ?_, ?_, ?_⟩
  · rw [follows.global.clamped, follows.perSeries.clamped]
    exact inner.countP_le
  · rw [follows.perSeries.clamped, follows.all.clamped]
    exact outer.countP_le
  · have perSeries := follows.perSeries.rejected
    have global := follows.global.rejected
    have fewer := inner.length_le
    rw [globalSelection, perSeriesSelection] at fewer
    dsimp only [data]
    omega

/-- Two call sequences that agree on every series leave the same per-series
selection, however the series are interleaved. -/
theorem observeAll_interleaving (methods methods' : SourceTimeMethodComparison)
    {calls calls' : List ObserveCall}
    (sameSeries : ∀ key, calls.filter (fun call => call.series = key) =
      calls'.filter fun call => call.series = key) :
    let data := (methods.reset.observeAll calls).data
    let data' := (methods'.reset.observeAll calls').data
    data.all.Perm data'.all ∧ data.perSeriesMonotonic.Perm data'.perSeriesMonotonic ∧
      data.perSeriesRejected = data'.perSeriesRejected ∧
      data.negativeClamped 0 = data'.negativeClamped 0 ∧
      data.negativeClamped 1 = data'.negativeClamped 1 := by
  intro data data'
  have follows := observeAll_follows methods calls
  have follows' := observeAll_follows methods' calls'
  have sameCounted : ∀ key, (counted calls).filter (fun call => call.series = key) =
      (counted calls').filter fun call => call.series = key := by
    intro key
    rw [counted, counted, List.filter_comm, sameSeries key, List.filter_comm]
  have all : (counted calls).Perm (counted calls') := Lib.perm_of_series sameCounted
  have perSeries : (perSeriesSelection calls).Perm (perSeriesSelection calls') := by
    refine @Lib.perm_of_series _ _ _ _ ObserveCall.series _ _ ?_
    intro key
    rw [perSeriesSelection, perSeriesSelection, Lib.filter_records, sameCounted key,
      Lib.filter_records]
  refine ⟨?_, ?_, ?_, ?_, ?_⟩
  · rw [follows.all.samples, follows'.all.samples]
    exact all.map _
  · rw [follows.perSeries.samples, follows'.perSeries.samples]
    exact perSeries.map _
  · have rejected := follows.perSeries.rejected
    have rejected' := follows'.perSeries.rejected
    have length := all.length_eq
    have selected := perSeries.length_eq
    rw [perSeriesSelection, perSeriesSelection] at selected
    dsimp only [data, data']
    omega
  · rw [follows.all.clamped, follows'.all.clamped]
    exact all.countP_eq _
  · rw [follows.perSeries.clamped, follows'.perSeries.clamped]
    exact perSeries.countP_eq _

/-- A newer and an older trade of two symbols in both orders: only the global
selection tells them apart. -/
theorem observeAll_interleaving_swapped :
    let newer : ObserveCall := ⟨.trade, ['A'], 3, 5000000⟩
    let older : ObserveCall := ⟨.trade, ['B'], 2, 5000000⟩
    let data := (({} : SourceTimeMethodComparison).reset.observeAll [newer, older]).data
    let data' := (({} : SourceTimeMethodComparison).reset.observeAll [older, newer]).data
    data.perSeriesMonotonic.Perm data'.perSeriesMonotonic ∧
      data.globalMonotonic.length ≠ data'.globalMonotonic.length := by
  intro newer older data data'
  have sameSeries : ∀ key, [newer, older].filter (fun call => call.series = key) =
      [older, newer].filter fun call => call.series = key := by
    intro key
    have distinct : newer.series ≠ older.series := by
      intro same
      cases same
    by_cases first : newer.series = key
    · subst first
      simp [distinct.symm]
    · simp [List.filter_cons, first]
  refine ⟨(observeAll_interleaving {} {} sameSeries).2.1, ?_⟩
  intro same
  cases same

end SourceTimeMethodComparison

end LatencyTest
