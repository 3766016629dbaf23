import LatencyTest.Client.Session
import LatencyTest.Report.Csv
import LatencyTest.Report.Files

/-!
The summary file: what `Reporter` writes (`src/client.cpp`) and what
`readLatencyTotals` makes of it (`src/monitoring.cpp`). Counters are printed as
integers; times, ratios and statistics are printed in ways that no verdict depends
on, so their texts are parameters (`Formatting`).
-/

namespace LatencyTest

open Lib (digits)

/-! ### Writing -/

/-- The printed statistics of some latencies, other than their number. -/
structure StatisticsTexts where
  minimum : PlainText
  mean : PlainText
  p50 : PlainText
  p90 : PlainText
  p95 : PlainText
  p99 : PlainText
  p999 : PlainText
  maximum : PlainText
  q1 : PlainText
  q3 : PlainText
  iqr : PlainText
  outlierThreshold : PlainText
  outlierCount : Nat

/-- How times and floating-point values are printed. -/
structure Formatting where
  utcTimestamp : Int → PlainText
  nominalEventsPerSecond : Nat → Int → PlainText
  listenerCoverage : Nat → Nat → PlainText
  statistics : List Int → StatisticsTexts

/-- Flattens delivery counters into the values written to one report row. -/
structure DeliveryView where
  published : Nat
  delivered : Nat
  listenerDeficit : Nat
  excess : Nat
  fullPublications : Nat
  partialPublications : Nat
  emptyPublications : Nat
  uncorrelatedEvents : Nat

/-- The counters of the given kinds. -/
def deliveryView (delivery : DeliveryCounters) (kinds : Finset RegularKind) : DeliveryView where
  published := ∑ kind ∈ kinds, delivery.published kind
  delivered := ∑ kind ∈ kinds, delivery.delivered kind
  listenerDeficit := ∑ kind ∈ kinds, delivery.listenerDeficit kind
  excess := ∑ kind ∈ kinds, delivery.excess kind
  fullPublications := delivery.fullPublications
  partialPublications := delivery.partialPublications
  emptyPublications := delivery.emptyPublications
  uncorrelatedEvents := delivery.uncorrelatedEvents

def feedName : PlainText := .lit "feed"

def streamFeedName : PlainText := .lit "stream-feed"

/-- The command-line name of a client endpoint role. -/
def roleName : ClientRole → PlainText
  | .feed => feedName
  | .streamFeed => streamFeedName

def quoteLabel : PlainText := .lit "event-quote"

def tradeLabel : PlainText := .lit "event-trade"

def tradeEthLabel : PlainText := .lit "event-trade-eth"

def summaryLabel : PlainText := .lit "event-summary"

/-- The sample-kind label of a supported market event. -/
def eventSampleKind : RegularKind → PlainText
  | .quote => quoteLabel
  | .trade => tradeLabel
  | .tradeEth => tradeEthLabel
  | .summary => summaryLabel

def eventLabel : PlainText := .lit "event"

def batchLabel : PlainText := .lit "batch"

/-- The label of a whole-run row. -/
def totalLabel (kind : PlainText) : PlainText where
  text := kind.text ++ "-total".toList
  plain c mem := (List.mem_append.mp mem).elim (kind.plain c)
    (List.all_eq_true.mp (by decide +kernel : "-total".toList.all plainChar = true) c)

/-- `EVENT_KINDS`, in order. -/
def eventKinds : List RegularKind := [.quote, .trade, .tradeEth, .summary]

/-- A heading of both the summary and the time-series report. -/
def clockAnomaliesHeading : PlainText := .lit "clock_anomalies"

def summaryHeadings : List PlainText :=
  [.lit "window_start_utc", .lit "window_end_utc", .lit "sample_kind", .lit "samples",
    .lit "expected_per_batch", .lit "publish_period_ms", .lit "nominal_events_per_second",
    .lit "endpoint_role", .lit "events_batch_limit", .lit "aggregation_period_ms",
    .lit "published", .lit "delivered", .lit "listener_deficit", .lit "listener_coverage",
    .lit "excess_events", .lit "full_publications", .lit "partial_publications",
    .lit "empty_publications", .lit "uncorrelated_events", .lit "callbacks",
    clockAnomaliesHeading, .lit "missing_batches", .lit "pending_batches", .lit "min_us",
    .lit "mean_us", .lit "p50_us", .lit "p90_us", .lit "p95_us", .lit "p99_us", .lit "p999_us",
    .lit "max_us", .lit "q1_us", .lit "q3_us", .lit "iqr_us", .lit "outlier_threshold_us",
    .lit "outliers"]

/-- A Reporter: the task, the role, the names of the effective limits, and the start
of the measurement. -/
structure Reporter where
  pattern : TaskPattern
  role : ClientRole
  eventsBatchLimit : PlainText
  aggregationPeriodMs : Int
  runStart : Int
  formatting : Formatting

namespace Reporter

variable (r : Reporter)

/-- The counters that every row of one window or of the totals repeats. -/
structure Common where
  callbacks : Nat
  negative : Nat
  missing : Nat
  pending : Nat

/-- The fields of one row of the summary. -/
def summaryFields (start stop : Int) (kind : PlainText) (latencies : List Int)
    (expectedPerBatch : Nat) (common : Common) (delivery : DeliveryView) : List PlainText :=
  let f := r.formatting
  let s := f.statistics latencies
  [f.utcTimestamp start, f.utcTimestamp stop, kind, .ofNat latencies.length,
    .ofNat expectedPerBatch, .ofInt r.pattern.publishPeriod,
    f.nominalEventsPerSecond (regularEventCount r.pattern) r.pattern.publishPeriod,
    roleName r.role, r.eventsBatchLimit, .ofInt r.aggregationPeriodMs,
    .ofNat delivery.published, .ofNat delivery.delivered, .ofNat delivery.listenerDeficit,
    f.listenerCoverage delivery.delivered delivery.published, .ofNat delivery.excess,
    .ofNat delivery.fullPublications, .ofNat delivery.partialPublications,
    .ofNat delivery.emptyPublications, .ofNat delivery.uncorrelatedEvents,
    .ofNat common.callbacks, .ofNat common.negative, .ofNat common.missing,
    .ofNat common.pending, s.minimum, s.mean, s.p50, s.p90, s.p95, s.p99, s.p999, s.maximum, s.q1,
    s.q3, s.iqr, s.outlierThreshold, .ofNat s.outlierCount]

/-- The rows of a window or of the totals: all events, the events of each kind, the
batches. `label` names a row by its sample kind. -/
def rows (start stop : Int) (label : PlainText → PlainText) (latencies : List Int)
    (latenciesOf : RegularKind → List Int) (batches : List Int) (common : Common)
    (delivery : DeliveryCounters) : List (List PlainText) :=
  r.summaryFields start stop (label eventLabel) latencies (regularEventCount r.pattern) common
      (deliveryView delivery Finset.univ) ::
    eventKinds.map (fun kind =>
      r.summaryFields start stop (label (eventSampleKind kind)) (latenciesOf kind)
        ((r.pattern.quantity kind.toEventKind).getD 0) common (deliveryView delivery {kind})) ++
    [r.summaryFields start stop (label batchLabel) batches 1 common
      (deliveryView delivery Finset.univ)]

/-- `window`: the rows of one window. -/
def window (start stop : Int) (data : Window) : List (List PlainText) :=
  r.rows start stop id (data.events.map Sample.latencyNs)
    (fun kind => (data.events.filter (·.kind = kind)).map Sample.latencyNs)
    (data.batches.map Sample.latencyNs)
    ⟨data.callbacks, data.negative, data.missing, data.pending⟩ data.delivery

/-- `final`: the rows of the totals. -/
def final (totals : Totals) (stop : Int) : List (List PlainText) :=
  r.rows r.runStart stop totalLabel (eventKinds.flatMap totals.eventsByKind) totals.eventsByKind
    totals.batches ⟨totals.callbacks, totals.negative, totals.missing, totals.pending⟩
    totals.delivery

/-- The summary file of a run: the windows with their bounds, then the totals. -/
def summaryFile (windows : List (Int × Int × Window)) (totals : Totals) (stop : Int) : Text :=
  fileText ((summaryHeadings ::
    ((windows.flatMap fun (start, stop, data) => r.window start stop data) ++
      r.final totals stop)).map csvLine)

end Reporter

/-! ### Reading -/

/-- One whole-run latency row. -/
structure LatencyRunRow where
  profile : Text
  sampleKind : Text
  nominalEventsPerSecond : ℚ
  samples : ℚ
  expectedPerBatch : ℚ
  endpointRole : Text := "stream-feed".toList
  eventsBatchLimit : Text := "unknown".toList
  aggregationPeriodMs : ℚ := 0
  published : ℚ := 0
  delivered : ℚ := 0
  listenerDeficit : ℚ := 0
  listenerCoverage : ℚ := 0
  excessEvents : ℚ := 0
  fullPublications : ℚ := 0
  partialPublications : ℚ := 0
  emptyPublications : ℚ := 0
  uncorrelatedEvents : ℚ := 0
  callbacks : ℚ
  clockAnomalies : ℚ
  missingBatches : ℚ
  pendingBatches : ℚ
  minimumUs : ℚ
  meanUs : ℚ
  p50Us : ℚ
  p90Us : ℚ
  p95Us : ℚ
  p99Us : ℚ
  p999Us : ℚ
  maximumUs : ℚ
  outliers : ℚ
  integrityOk : Bool := false

/-- The positions of the columns of a summary. -/
structure SummaryColumns where
  kindIndex : Option Nat
  samplesIndex : Option Nat
  expectedIndex : Option Nat
  nominalIndex : Option Nat
  roleIndex : Option Nat
  eventsBatchLimitIndex : Option Nat
  aggregationPeriodIndex : Option Nat
  publishedIndex : Option Nat
  deliveredIndex : Option Nat
  listenerDeficitIndex : Option Nat
  listenerCoverageIndex : Option Nat
  excessIndex : Option Nat
  fullIndex : Option Nat
  partialIndex : Option Nat
  emptyIndex : Option Nat
  uncorrelatedIndex : Option Nat
  callbacksIndex : Option Nat
  clockIndex : Option Nat
  missingIndex : Option Nat
  pendingIndex : Option Nat
  minIndex : Option Nat
  meanIndex : Option Nat
  p50Index : Option Nat
  p90Index : Option Nat
  p95Index : Option Nat
  p99Index : Option Nat
  p999Index : Option Nat
  maxIndex : Option Nat
  outliersIndex : Option Nat
deriving DecidableEq

def findSummaryColumns (headings : List Text) : SummaryColumns where
  kindIndex := indexOf headings "sample_kind".toList
  samplesIndex := indexOf headings "samples".toList
  expectedIndex := indexOf headings "expected_per_batch".toList
  nominalIndex := indexOf headings "nominal_events_per_second".toList
  roleIndex := indexOf headings "endpoint_role".toList
  eventsBatchLimitIndex := indexOf headings "events_batch_limit".toList
  aggregationPeriodIndex := indexOf headings "aggregation_period_ms".toList
  publishedIndex := indexOf headings "published".toList
  deliveredIndex := indexOf headings "delivered".toList
  listenerDeficitIndex :=
    (indexOf headings "listener_deficit".toList).or (indexOf headings "not_delivered".toList)
  listenerCoverageIndex :=
    (indexOf headings "listener_coverage".toList).or (indexOf headings "delivery_ratio".toList)
  excessIndex := indexOf headings "excess_events".toList
  fullIndex := indexOf headings "full_publications".toList
  partialIndex := indexOf headings "partial_publications".toList
  emptyIndex := indexOf headings "empty_publications".toList
  uncorrelatedIndex := indexOf headings "uncorrelated_events".toList
  callbacksIndex := indexOf headings "callbacks".toList
  clockIndex := indexOf headings "clock_anomalies".toList
  missingIndex := indexOf headings "missing_batches".toList
  pendingIndex := indexOf headings "pending_batches".toList
  minIndex := indexOf headings "min_us".toList
  meanIndex := indexOf headings "mean_us".toList
  p50Index := indexOf headings "p50_us".toList
  p90Index := indexOf headings "p90_us".toList
  p95Index := indexOf headings "p95_us".toList
  p99Index := indexOf headings "p99_us".toList
  p999Index := indexOf headings "p999_us".toList
  maxIndex := indexOf headings "max_us".toList
  outliersIndex := indexOf headings "outliers".toList

/-- The columns without which a summary is not compared. -/
def SummaryColumns.required (c : SummaryColumns) : List (Option Nat) :=
  [c.kindIndex, c.samplesIndex, c.expectedIndex, c.callbacksIndex, c.clockIndex, c.missingIndex,
    c.minIndex, c.meanIndex, c.p50Index, c.p90Index, c.p95Index, c.p99Index, c.p999Index,
    c.maxIndex, c.outliersIndex]

section Reading

variable (input : DoubleInput) (path profile : Text)

/-- The field of a column. -/
def fieldAt (columns : List Text) (index : Option Nat) : Option Text :=
  index.bind fun i => columns[i]?

/-- A number that has to be there. -/
def number (columns : List Text) (index : Option Nat) : Except Text ℚ :=
  match fieldAt columns index with
  | none => .error ("missing value in latency summary: ".toList ++ path)
  | some text => input.parseNumber text

/-- A number that is read when its column exists. -/
def numberIfPresent (columns : List Text) (index : Option Nat) (fallback : ℚ) : Except Text ℚ :=
  if index.isSome then number input path columns index else .ok fallback

/-- A number whose absence or failure to parse is replaced. -/
def optionalNumber (columns : List Text) (index : Option Nat) (fallback : ℚ) : ℚ :=
  match fieldAt columns index with
  | none => fallback
  | some text => (input.parseNumber text).toOption.getD fallback

/-- One whole-run row, before its verdict. -/
def readLatencyRow (c : SummaryColumns) (kind : Text) (columns : List Text) :
    Except Text LatencyRunRow := do
  let samples ← number input path columns c.samplesIndex
  let expected ← number input path columns c.expectedIndex
  let callbacks ← number input path columns c.callbacksIndex
  let clockAnomalies ← number input path columns c.clockIndex
  let missingBatches ← number input path columns c.missingIndex
  let minimumUs ← number input path columns c.minIndex
  let meanUs ← number input path columns c.meanIndex
  let p50Us ← number input path columns c.p50Index
  let p90Us ← number input path columns c.p90Index
  let p95Us ← number input path columns c.p95Index
  let p99Us ← number input path columns c.p99Index
  let p999Us ← number input path columns c.p999Index
  let maximumUs ← number input path columns c.maxIndex
  let outliers ← number input path columns c.outliersIndex
  let pending ← numberIfPresent input path columns c.pendingIndex 0
  let nominal ← numberIfPresent input path columns c.nominalIndex expected
  let published := optionalNumber input columns c.publishedIndex samples
  let delivered := optionalNumber input columns c.deliveredIndex samples
  .ok
    { profile := profile
      sampleKind := kind
      nominalEventsPerSecond := nominal
      samples := samples
      expectedPerBatch := expected
      endpointRole := (fieldAt columns c.roleIndex).getD "stream-feed".toList
      eventsBatchLimit := (fieldAt columns c.eventsBatchLimitIndex).getD "unknown".toList
      aggregationPeriodMs := optionalNumber input columns c.aggregationPeriodIndex 0
      published := published
      delivered := delivered
      listenerDeficit := optionalNumber input columns c.listenerDeficitIndex 0
      listenerCoverage := optionalNumber input columns c.listenerCoverageIndex
        (if published ≠ 0 then delivered / published else 0)
      excessEvents := optionalNumber input columns c.excessIndex 0
      fullPublications := optionalNumber input columns c.fullIndex 0
      partialPublications := optionalNumber input columns c.partialIndex 0
      emptyPublications := optionalNumber input columns c.emptyIndex 0
      uncorrelatedEvents := optionalNumber input columns c.uncorrelatedIndex 0
      callbacks := callbacks
      clockAnomalies := clockAnomalies
      missingBatches := missingBatches
      pendingBatches := pending
      minimumUs := minimumUs
      meanUs := meanUs
      p50Us := p50Us
      p90Us := p90Us
      p95Us := p95Us
      p99Us := p99Us
      p999Us := p999Us
      maximumUs := maximumUs
      outliers := outliers }

/-- The rows of the lines whose sample kind ends in `-total`. -/
def readLatencyRows (c : SummaryColumns) : List Text → Except Text (List LatencyRunRow)
  | [] => .ok []
  | line :: lines =>
      let columns := parseCsvRow line
      match fieldAt columns c.kindIndex with
      | none => readLatencyRows c lines
      | some kind =>
          if endsWith kind "-total".toList then do
            let row ← readLatencyRow input path profile c kind columns
            let rows ← readLatencyRows c lines
            .ok (row :: rows)
          else readLatencyRows c lines

end Reading

/-- The samples of the whole-run batch row. -/
def batchesOf (rows : List LatencyRunRow) : ℚ :=
  ((rows.find? (·.sampleKind = "batch-total".toList)).map LatencyRunRow.samples).getD 0

/-- The verdict on a row. -/
def LatencyRunRow.judge (batches : ℚ) (row : LatencyRunRow) : LatencyRunRow :=
  let exactDelivery := row.sampleKind = "batch-total".toList ∨ row.endpointRole = "feed".toList ∨
    (row.listenerDeficit = 0 ∧ row.excessEvents = 0)
  { row with
    nominalEventsPerSecond :=
      if row.sampleKind = "batch-total".toList then 0 else row.nominalEventsPerSecond
    integrityOk := decide (batches > 0 ∧ row.clockAnomalies = 0 ∧ row.missingBatches = 0 ∧
      row.pendingBatches = 0 ∧ exactDelivery) }

/-- Reads whole-run rows from one latency summary. -/
def readLatencyTotals (input : DoubleInput) (path profile : Text) (file : Option Text) :
    Except Text (List LatencyRunRow) :=
  match file.map getLines with
  | none => .error ("cannot read latency summary: ".toList ++ path)
  | some [] => .error ("empty latency summary: ".toList ++ path)
  | some (line :: lines) =>
      let c := findSummaryColumns (parseCsvRow line)
      if c.required.any Option.isNone then
        .error ("latency summary has no comparison columns: ".toList ++ path)
      else do
        let rows ← readLatencyRows input path profile c lines
        .ok (rows.map (LatencyRunRow.judge (batchesOf rows)))

end LatencyTest
