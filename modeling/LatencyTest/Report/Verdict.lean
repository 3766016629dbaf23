import LatencyTest.Client.Integrity
import LatencyTest.Report.Readback

/-!
What the verdicts of a summary say about the run it reports. The analyzer re-derives
them from a few columns of the totals (`verdicts_accept_iff`). They are sound: rows
that pass come from a run whose publications were all delivered as published. They
are not complete: a run without batch latencies fails, and a task without regular
events has none.
-/

namespace LatencyTest

/-- What every whole-run row asks of the totals it was written from. -/
structure Totals.Passes (totals : Totals) (role : ClientRole) : Prop where
  batches : 0 < totals.batches.length
  negative : totals.negative = 0
  missing : totals.missing = 0
  pending : totals.pending = 0
  delivery : role = .feed ∨
    ∀ kind, totals.delivery.listenerDeficit kind = 0 ∧ totals.delivery.excess kind = 0

theorem event_ne_batch : eventLabel.text ≠ batchLabel.text := by
  decide +kernel

/-- All whole-run rows pass exactly when the totals do. -/
theorem totalRows_pass_iff (pattern : TaskPattern) (totals : Totals) (role : ClientRole) :
    (∀ spec ∈ totalRows pattern totals, spec.verdict role totals = true) ↔
      totals.Passes role := by
  constructor
  · intro passing
    have all := of_decide_eq_true (passing _ List.mem_cons_self)
    obtain ⟨batches, negative, missing, pending, delivered⟩ := all
    refine ⟨batches, negative, missing, pending, ?_⟩
    rcases delivered with batch | feed | ⟨deficit, excess⟩
    · exact absurd batch event_ne_batch
    · exact .inl feed
    · right
      intro kind
      exact ⟨Finset.sum_eq_zero_iff.mp deficit kind (Finset.mem_univ kind),
        Finset.sum_eq_zero_iff.mp excess kind (Finset.mem_univ kind)⟩
  · intro passes spec _
    refine decide_eq_true ⟨passes.batches, passes.negative, passes.missing, passes.pending, ?_⟩
    rcases passes.delivery with feed | exact
    · exact .inr (.inl feed)
    · exact .inr (.inr ⟨Finset.sum_eq_zero fun kind _ => (exact kind).1,
        Finset.sum_eq_zero fun kind _ => (exact kind).2⟩)

variable (input : DoubleInput) (path profile : Text)

/-- The rows that the analyzer reads from a summary all pass exactly when the totals
in it do. -/
theorem verdicts_accept_iff (r : Reporter) (windows : List (Int × Int × Window))
    {totals : Totals} (exact : totals.Exact) (stop : Int) {rows : List LatencyRunRow}
    (read : readLatencyTotals input path profile (some (r.summaryFile windows totals stop)) =
      .ok rows) :
    (∀ row ∈ rows, row.integrityOk = true) ↔ totals.Passes r.role := by
  have verdicts := verdicts_summaryFile input path profile r windows exact stop read
  have flags := congrArg (List.map Prod.snd) verdicts
  rw [List.map_map, List.map_map] at flags
  rw [← totalRows_pass_iff r.pattern]
  have rowFlags : (∀ row ∈ rows, row.integrityOk = true) ↔
      ∀ flag ∈ rows.map LatencyRunRow.integrityOk, flag = true := by
    rw [List.forall_mem_map]
  rw [rowFlags]
  have same : rows.map LatencyRunRow.integrityOk =
      (totalRows r.pattern totals).map (TotalRow.verdict r.role totals) := flags
  rw [same, List.forall_mem_map]

/-! ### The totals of a run -/

namespace ClientRun

open Collector

variable (api : DxApi) {config : Config} {pattern : TaskPattern} (run : ClientRun)

/-- The calls up to the last window. -/
def history (run : ClientRun) : List Collector.Call :=
  run.calls ++ [.takeWindow true run.finalNow]

/-- The totals of a run are those of a collector with nothing pending. -/
structure Concluded (c : Collector) (totals : Totals) : Prop where
  settled : ∀ k : Int, c.pending[k]? = none
  ledger : c.ledger =
    { delivery := totals.delivery
      eventSamples := fun kind => totals.eventsByKind kind
      batchSamples := totals.batches
      negative := totals.negative
      missing := totals.missing }
  pending : totals.pending = 0

theorem size_eq_zero {c : Collector} (settled : ∀ k : Int, c.pending[k]? = none) :
    c.pending.size = 0 := by
  rw [← Std.TreeMap.length_toList, List.length_eq_zero_iff, List.eq_nil_iff_forall_not_mem]
  rintro ⟨sequence, batch⟩ mem
  have found := Std.TreeMap.mem_toList_iff_getElem?_eq_some.mp mem
  rw [settled sequence] at found
  cases found

theorem concluded :
    Concluded ((collector config pattern).run api run.history) (run.totals api config pattern) := by
  have after : (collector config pattern).run api run.history =
      ((run.atFinal api config pattern).takeWindow true run.finalNow).2 := by
    rw [history, run_append]
    rfl
  obtain ⟨measuring, refusing⟩ := run.atFinal_phase api config pattern
  obtain ⟨follows, same⟩ := takeWindow_follows (run.atFinal api config pattern) true run.finalNow
  have closed := closed_late api ⟨follows.measuring.trans measuring, same.trans refusing,
    takeWindow_all_pending _ run.finalNow⟩ run.late
  rw [after]
  exact ⟨takeWindow_all_pending _ run.finalNow, closed.2.symm, size_eq_zero closed.1.pending⟩

/-- A run begins its measurement once. -/
theorem history_once : (run.history.filter Call.isBegin).length ≤ 1 := by
  have others : ∀ calls : List Collector.Call, .beginMeasurement ∉ calls →
      calls.filter Call.isBegin = [] := by
    intro calls absent
    rw [List.filter_eq_nil_iff]
    intro call mem begins
    cases call with
    | beginMeasurement => exact absent mem
    | _ => cases begins
  obtain ⟨before, after⟩ := not_or.mp (mt List.mem_append.mpr run.once)
  rw [history, calls, List.filter_append, List.filter_append, others _ before,
    List.filter_cons_of_pos rfl, others _ after]
  exact le_rfl

theorem gathered : ∃ b, Gathers ((collector config pattern).run api run.history) b :=
  ⟨_, gathers_reachable api pattern config.batchTimeout (config.role = .feed) run.history_once⟩

/-- The rules of a run are those of its collector. -/
theorem history_rules :
    ((collector config pattern).run api run.history).rules =
      ⟨fun kind => (pattern.quantity kind.toEventKind).getD 0, decide (config.role = .feed)⟩ :=
  run_rules api _ _

/-- Rows that pass come from a STREAM_FEED run that delivered every publication as
it was published, with one latency for each event. -/
theorem integrity_sound (streaming : config.role = .streamFeed) (r : Reporter)
    (windows : List (Int × Int × Window)) (stop : Int) {rows : List LatencyRunRow}
    (exact : (run.totals api config pattern).Exact)
    (read : readLatencyTotals input path profile
      (some (r.summaryFile windows (run.totals api config pattern) stop)) = .ok rows)
    (passing : ∀ row ∈ rows, row.integrityOk = true) :
    let totals := run.totals api config pattern
    (∀ kind, totals.delivery.published kind = totals.delivery.delivered kind ∧
        totals.delivery.delivered kind = (totals.eventsByKind kind).length ∧
        totals.delivery.listenerDeficit kind = 0 ∧ totals.delivery.excess kind = 0) ∧
      totals.delivery.partialPublications = 0 ∧ totals.delivery.emptyPublications = 0 ∧
      totals.delivery.uncorrelatedEvents = 0 := by
  intro totals
  have passes := (verdicts_accept_iff input path profile r windows exact stop read).mp passing
  obtain ⟨b, gathers⟩ := @gathered api config pattern run
  have concluded := @concluded api config pattern run
  have rules := @history_rules api config pattern run
  let c := (collector config pattern).run api run.history
  have preserving : c.allowConflation = false := by
    have conflation : c.allowConflation = decide (config.role = .feed) :=
      congrArg Rules.allowConflation rules
    rw [conflation, streaming]
    rfl
  have negative : c.negativeTotal = 0 :=
    (congrArg Ledger.negative concluded.ledger).trans passes.negative
  have missing : c.missingTotal = 0 :=
    (congrArg Ledger.missing concluded.ledger).trans passes.missing
  have delivery : c.deliveryTotal = totals.delivery := congrArg Ledger.delivery concluded.ledger
  have complete := gathers.complete concluded.settled preserving missing
  obtain ⟨measured, -⟩ := gathers.measured_exactly concluded.settled negative
  rw [delivery] at complete
  refine ⟨?_, complete.partialPublications, complete.emptyPublications,
    complete.uncorrelatedEvents⟩
  intro kind
  refine ⟨complete.published kind, ?_, complete.listenerDeficit kind, complete.excess kind⟩
  have samples := congrArg (fun ledger => (ledger.eventSamples kind).card) concluded.ledger
  have lengths : (c.eventGlobalByKind kind).length = (totals.eventsByKind kind).length := samples
  rw [← lengths, measured kind, delivery]

/-- Statistics of latencies that are all the same number of microseconds. -/
private def evenFormatting : Formatting where
  utcTimestamp _ := .lit "2026-01-01T00:00:00.000Z"
  nominalEventsPerSecond count period := .ofNat (count * 1000 / period.toNat)
  listenerCoverage delivered published := .ofNat (delivered / published)
  statistics latencies :=
    let each := .ofInt (latencies.headD 0 / 1000)
    { minimum := each, mean := each, p50 := each, p90 := each, p95 := each, p99 := each,
      p999 := each, maximum := each, q1 := each, q3 := each, iqr := .ofNat 0,
      outlierThreshold := each, outlierCount := 0 }

private def reporter (pattern : TaskPattern) (role : ClientRole) : Reporter where
  pattern := pattern
  role := role
  eventsBatchLimit := .lit "optimal"
  aggregationPeriodMs := 0
  runStart := 0
  formatting := evenFormatting

/-- One publication: its marker, and the events delivered a microsecond after it. -/
private def onePublication (events : List Event) : ClientRun where
  warmUp := []
  measured := [.callback
    { events := .textMessage
        { eventSymbol := "LATENCY_MARKER:".toList, text := "LATENCY_BATCH:1000".toList,
          sequence := 5 } :: events
      marketCallback := true
      observed := 2000
      duration := 1 }]
  tail := []
  finalNow := 3000
  late := []

private def tradeConfig : Config := { task := "SUB:T1".toList }

private def tradeTask : TaskPattern := { items := [⟨.trade, 1⟩] }

private def tradeTotals : Totals :=
  (onePublication [.trade { eventSymbol := "SYM0".toList, sequence := 5 }]).totals .release
    tradeConfig tradeTask

private theorem tradeTotals_exact : tradeTotals.Exact := by
  constructor <;> decide +kernel

private theorem trade_rows : ∃ rows,
    readLatencyTotals .ofDigits [] [] (some
      ((reporter tradeTask .streamFeed).summaryFile [] tradeTotals 3000)) = .ok rows ∧
    rows.all LatencyRunRow.integrityOk = true := by
  rw [readLatencyTotals_summaryFile]
  exact ⟨_, rfl, by decide +kernel⟩

/-- A trade that is delivered with its marker passes. -/
theorem integrity_sound_trade :
    (∀ kind, tradeTotals.delivery.published kind = tradeTotals.delivery.delivered kind ∧
        tradeTotals.delivery.delivered kind = (tradeTotals.eventsByKind kind).length ∧
        tradeTotals.delivery.listenerDeficit kind = 0 ∧
        tradeTotals.delivery.excess kind = 0) ∧
      tradeTotals.delivery.partialPublications = 0 ∧
      tradeTotals.delivery.emptyPublications = 0 ∧
      tradeTotals.delivery.uncorrelatedEvents = 0 := by
  obtain ⟨rows, read, passing⟩ := trade_rows
  exact integrity_sound .ofDigits [] [] .release _ rfl _ [] 3000 tradeTotals_exact read
    (List.all_eq_true.mp passing)

/-- When every publication of a run was full, no batch ended without a marker and no
anomaly occurred, the rows pass exactly if the task has regular events. -/
theorem integrity_complete_iff {r : Reporter} (role : r.role = config.role)
    (windows : List (Int × Int × Window)) (stop : Int)
    {rows : List LatencyRunRow} (exact : (run.totals api config pattern).Exact)
    (read : readLatencyTotals input path profile
      (some (r.summaryFile windows (run.totals api config pattern) stop)) = .ok rows)
    (counted : 0 < (run.totals api config pattern).delivery.fullPublications)
    (whole : (run.totals api config pattern).delivery.partialPublications = 0)
    (nonempty : (run.totals api config pattern).delivery.emptyPublications = 0)
    (marked : unmarkedFinished api (collector config pattern) run.history = 0)
    (ordered : (run.totals api config pattern).negative = 0) :
    (∀ row ∈ rows, row.integrityOk = true) ↔ regularEventCount pattern ≠ 0 := by
  rw [verdicts_accept_iff input path profile r windows exact stop read, role]
  obtain ⟨b, gathers⟩ := @gathered api config pattern run
  have concluded := @concluded api config pattern run
  have rules := @history_rules api config pattern run
  let c := (collector config pattern).run api run.history
  let totals := run.totals api config pattern
  have delivery : c.deliveryTotal = totals.delivery := congrArg Ledger.delivery concluded.ledger
  have negative : c.negativeTotal = 0 :=
    (congrArg Ledger.negative concluded.ledger).trans ordered
  have batches : totals.batches.length = finishedMarked b := by
    have samples := congrArg (fun ledger => ledger.batchSamples.card) concluded.ledger
    have lengths : c.batchGlobal.length = totals.batches.length := samples
    rw [← lengths]
    exact (gathers.measured_exactly concluded.settled negative).2
  have evidence : 0 < totals.batches.length ↔ regularEventCount pattern ≠ 0 := by
    have expected : c.expectedByKind = fun kind => (pattern.quantity kind.toEventKind).getD 0 :=
      congrArg Rules.expectedByKind rules
    have regular : regularEventCount pattern = ∑ kind, c.expectedByKind kind := by
      rw [expected]
      rfl
    rw [batches, regular]
    rw [← delivery] at counted whole nonempty
    exact gathers.finishedMarked_pos_iff concluded.settled counted whole nonempty
  have missed : totals.missing = c.missingTotal :=
    (congrArg Ledger.missing concluded.ledger).symm
  obtain ⟨-, conflating, preserving⟩ := delivery_accounting api pattern config.batchTimeout
    (config.role = .feed) run.history run.history_once
  constructor
  · exact fun passes => evidence.mp passes.batches
  · intro regular
    by_cases feed : config.role = .feed
    · have missing : c.missingTotal = 0 := conflating (decide_eq_true feed)
      exact ⟨evidence.mpr regular, ordered, missed.trans missing, concluded.pending, .inl feed⟩
    · have streaming : decide (config.role = .feed) = false := decide_eq_false feed
      have sum := preserving streaming
      have none : unmarkedFinished api (create pattern config.batchTimeout
          (decide (config.role = .feed))) run.history = 0 := marked
      have missing : c.missingTotal = 0 := by
        refine sum.trans ?_
        rw [none]
        rw [← delivery] at whole nonempty
        exact Nat.add_eq_zero_iff.mpr ⟨Nat.add_eq_zero_iff.mpr ⟨whole, nonempty⟩, rfl⟩
      have conflation : c.allowConflation = false :=
        (congrArg Rules.allowConflation rules).trans streaming
      have complete := gathers.complete concluded.settled conflation missing
      rw [delivery] at complete
      exact ⟨evidence.mpr regular, ordered, missed.trans missing, concluded.pending,
        .inr fun kind => ⟨complete.listenerDeficit kind, complete.excess kind⟩⟩

/-- The task of that trade has regular events, so its rows pass. -/
theorem integrity_complete_trade : ∃ rows,
    readLatencyTotals .ofDigits [] [] (some
      ((reporter tradeTask .streamFeed).summaryFile [] tradeTotals 3000)) = .ok rows ∧
    ∀ row ∈ rows, row.integrityOk = true := by
  obtain ⟨rows, read, -⟩ := trade_rows
  refine ⟨rows, read, (integrity_complete_iff .ofDigits [] [] .release _ rfl [] 3000
    tradeTotals_exact read ?_ ?_ ?_ ?_ ?_).mpr ?_⟩
  all_goals decide +kernel

private def seriesConfig : Config := { task := "SUB:N1".toList, role := .feed }

private def seriesTask : TaskPattern := { items := [⟨.timeAndSale, 1⟩] }

private def seriesTotals : Totals :=
  (onePublication []).totals .release seriesConfig seriesTask

private theorem series_rows : ∃ rows,
    readLatencyTotals .ofDigits [] [] (some
      ((reporter seriesTask .feed).summaryFile [] seriesTotals 3000)) = .ok rows ∧
    rows.all LatencyRunRow.integrityOk = false := by
  rw [readLatencyTotals_summaryFile]
  exact ⟨_, rfl, by decide +kernel⟩

/-- A TimeAndSale task has full publications and no batch latencies, so every run of
it fails. -/
theorem integrity_rejects_time_series :
    ¬ ∀ (input : DoubleInput) (path profile : Text) (api : DxApi) (config : Config)
      (pattern : TaskPattern) (run : ClientRun) (r : Reporter)
      (windows : List (Int × Int × Window)) (stop : Int) (rows : List LatencyRunRow),
      config.admission = .ok pattern → r.role = config.role →
      (run.totals api config pattern).Exact →
      readLatencyTotals input path profile
        (some (r.summaryFile windows (run.totals api config pattern) stop)) = .ok rows →
      0 < (run.totals api config pattern).delivery.fullPublications →
      (run.totals api config pattern).delivery.partialPublications = 0 →
      (run.totals api config pattern).delivery.emptyPublications = 0 →
      unmarkedFinished api (collector config pattern) run.history = 0 →
      (run.totals api config pattern).negative = 0 →
      ∀ row ∈ rows, row.integrityOk = true := by
  intro claim
  obtain ⟨rows, read, failing⟩ := series_rows
  have exact : seriesTotals.Exact := by
    constructor <;> decide +kernel
  have passing := claim .ofDigits [] [] .release seriesConfig seriesTask (onePublication [])
    (reporter seriesTask .feed) [] 3000 rows (by decide +kernel) rfl exact read
    (by decide +kernel) (by decide +kernel) (by decide +kernel) (by decide +kernel)
    (by decide +kernel)
  rw [List.all_eq_true.mpr passing] at failing
  cases failing

end ClientRun

end LatencyTest
