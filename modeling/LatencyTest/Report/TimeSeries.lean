import LatencyTest.Client.Snapshots
import LatencyTest.Report.Readback

/-!
The time-series report: what `TimeSeriesTracker::writeReport` writes
(`src/client.cpp`), what `readTimeSeries` makes of it (`src/monitoring.cpp`), and
what its verdict says of the snapshots (`time_series_sound`). The verdict compares
totals over all symbols, so it does not tell which symbol a SNAPSHOT_BEGIN was for,
nor whether it came before the end of the snapshot.
-/

namespace LatencyTest

open Lib (digits)

/-! ### Writing -/

/-- The resource statistics of the client, as printed. -/
structure ResourceTexts where
  cpuCorePercent : PlainText
  cpuHostPercent : PlainText
  rssMeanBytes : PlainText
  rssMaximumBytes : PlainText
  samples : Nat

/-- How the report prints times and statistics. -/
structure TimeSeriesFormatting where
  millisecondsSince : Int → Int → PlainText
  statistics : List Int → StatisticsTexts

def timeSeriesHeadings : List PlainText :=
  [.lit "from_time_ms", .lit "requested_symbols", .lit "observed_symbols",
    .lit "completed_symbols", .lit "snapshot_events", .lit "snapshot_callbacks",
    .lit "snapshot_begin", .lit "snapshot_end", .lit "snapshot_snip", .lit "snapshot_remove",
    .lit "duplicate_indices", .lit "premature_live_events", .lit "live_events",
    clockAnomaliesHeading, .lit "first_event_delay_ms", .lit "snapshot_duration_ms",
    .lit "first_live_relative_to_global_completion_ms", .lit "live_latency_samples",
    .lit "live_latency_mean_us", .lit "live_latency_p50_us", .lit "live_latency_p90_us",
    .lit "live_latency_p99_us", .lit "live_latency_p999_us", .lit "live_latency_max_us",
    .lit "unsubscribed_after_snapshot", .lit "cpu_core_percent", .lit "cpu_host_percent",
    .lit "rss_mean_bytes", .lit "rss_maximum_bytes", .lit "resource_samples"]

namespace TimeSeriesTracker

variable (t : TimeSeriesTracker) (formatting : TimeSeriesFormatting) (fromTimeMs : Int)
  (unsubscribedAfterSnapshot : Bool) (resources : ResourceTexts)

/-- The fields of the row of the report. -/
def reportFields : List PlainText :=
  let f := formatting
  let s := f.statistics t.liveLatencies
  [.ofInt fromTimeMs, .ofNat t.expectedSymbols, .ofNat t.observedSymbols.card,
    .ofNat t.completedSymbols, .ofNat t.snapshotEvents, .ofNat t.snapshotCallbacks,
    .ofNat t.snapshotBegins, .ofNat t.snapshotEnds, .ofNat t.snapshotSnips,
    .ofNat t.snapshotRemovals, .ofNat t.duplicateIndices, .ofNat t.prematureLiveEvents,
    .ofNat t.liveEvents, .ofNat t.clockAnomalies,
    f.millisecondsSince t.firstObservedNs t.subscribedAtNs,
    f.millisecondsSince t.completedAtNs t.subscribedAtNs,
    f.millisecondsSince t.firstLiveNs t.completedAtNs, .ofNat t.liveLatencies.length,
    s.mean, s.p50, s.p90, s.p99, s.p999, s.maximum, .ofNat unsubscribedAfterSnapshot.toNat,
    resources.cpuCorePercent, resources.cpuHostPercent, resources.rssMeanBytes,
    resources.rssMaximumBytes, .ofNat resources.samples]

/-- Writes one whole-run CSV row describing snapshot, live delivery, and measurement
resources. -/
def writeReport : Text :=
  fileText [csvLine timeSeriesHeadings,
    csvLine (t.reportFields formatting fromTimeMs unsubscribedAfterSnapshot resources)]

end TimeSeriesTracker

/-! ### Reading -/

/-- One TimeAndSale HISTORY snapshot and live-cutover result. What is missing in a
report without its column is not a number there. -/
structure TimeSeriesRunRow where
  profile : Text
  requestedSymbols : ℚ
  observedSymbols : ℚ
  completedSymbols : ℚ
  snapshotEvents : ℚ
  snapshotCallbacks : ℚ
  snapshotBegins : ℚ
  snapshotEnds : ℚ
  snapshotSnips : ℚ
  snapshotRemovals : ℚ
  duplicateIndices : ℚ
  prematureLiveEvents : ℚ
  liveEvents : ℚ
  clockAnomalies : ℚ
  firstEventDelayMs : ℚ
  snapshotDurationMs : ℚ
  firstLiveRelativeToGlobalCompletionMs : ℚ
  liveLatencySamples : ℚ
  liveLatencyMeanUs : ℚ
  liveLatencyP50Us : ℚ
  liveLatencyP90Us : ℚ
  liveLatencyP99Us : ℚ
  liveLatencyP999Us : ℚ
  liveLatencyMaximumUs : ℚ
  unsubscribedAfterSnapshot : Bool
  cpuCorePercent : Option ℚ
  cpuHostPercent : Option ℚ
  rssMeanBytes : Option ℚ
  rssMaximumBytes : Option ℚ
  resourceSamples : Option ℚ
  integrityOk : Bool := false

/-- The verdict on a row. -/
def TimeSeriesRunRow.judge (row : TimeSeriesRunRow) : TimeSeriesRunRow :=
  { row with
    integrityOk := decide (row.requestedSymbols > 0 ∧
      row.completedSymbols = row.requestedSymbols ∧ row.snapshotBegins = row.requestedSymbols ∧
      row.snapshotEnds + row.snapshotSnips = row.requestedSymbols ∧ row.duplicateIndices = 0 ∧
      row.prematureLiveEvents = 0 ∧ row.clockAnomalies = 0 ∧
      (row.unsubscribedAfterSnapshot = true ∨ row.liveLatencySamples > 0)) }

section Reading

variable (input : DoubleInput) (path profile : Text)

/-- A number of a column that has to be there. -/
def timeSeriesNumber (headings columns : List Text) (name : Text) : Except Text ℚ :=
  match indexOf headings name with
  | none =>
      .error ("time-series result has no ".toList ++ name ++ " column: ".toList ++ path)
  | some index =>
      match columns[index]? with
      | none => .error ("time-series result has no ".toList ++ name ++ " value: ".toList ++ path)
      | some text => input.parseNumber text

/-- A number of a column, or else of the column that reports had before. -/
def timeSeriesNumberOr (headings columns : List Text) (name former : Text) : Except Text ℚ :=
  match timeSeriesNumber input path headings columns name with
  | .ok value => .ok value
  | .error _ => timeSeriesNumber input path headings columns former

/-- A number that is not a number when its column is missing. -/
def timeSeriesOptional (headings columns : List Text) (name : Text) : Except Text (Option ℚ) :=
  if indexOf headings name = none then .ok none
  else (timeSeriesNumber input path headings columns name).map some

/-- The row of a report, before its verdict. -/
def readTimeSeriesRow (headings columns : List Text) : Except Text TimeSeriesRunRow := do
  let number (name : String) := timeSeriesNumber input path headings columns name.toList
  let optionalNumber (name : String) := timeSeriesOptional input path headings columns name.toList
  let requestedSymbols ← number "requested_symbols"
  let observedSymbols ← number "observed_symbols"
  let completedSymbols ← number "completed_symbols"
  let snapshotEvents ← number "snapshot_events"
  let snapshotCallbacks ← number "snapshot_callbacks"
  let snapshotBegins ← number "snapshot_begin"
  let snapshotEnds ← number "snapshot_end"
  let snapshotSnips ← number "snapshot_snip"
  let snapshotRemovals ← number "snapshot_remove"
  let duplicateIndices ← number "duplicate_indices"
  let prematureLiveEvents ← number "premature_live_events"
  let liveEvents ← number "live_events"
  let clockAnomalies ← number "clock_anomalies"
  let firstEventDelayMs ← number "first_event_delay_ms"
  let snapshotDurationMs ← number "snapshot_duration_ms"
  let firstLive ← timeSeriesNumberOr input path headings columns
    "first_live_relative_to_global_completion_ms".toList "first_live_after_snapshot_ms".toList
  let liveLatencySamples ← number "live_latency_samples"
  let liveLatencyMeanUs ← number "live_latency_mean_us"
  let liveLatencyP50Us ← number "live_latency_p50_us"
  let liveLatencyP90Us ← number "live_latency_p90_us"
  let liveLatencyP99Us ← number "live_latency_p99_us"
  let liveLatencyP999Us ← number "live_latency_p999_us"
  let liveLatencyMaximumUs ← number "live_latency_max_us"
  let unsubscribedAfterSnapshot ← optionalNumber "unsubscribed_after_snapshot"
  let cpuCorePercent ← optionalNumber "cpu_core_percent"
  let cpuHostPercent ← optionalNumber "cpu_host_percent"
  let rssMeanBytes ← optionalNumber "rss_mean_bytes"
  let rssMaximumBytes ← optionalNumber "rss_maximum_bytes"
  let resourceSamples ← optionalNumber "resource_samples"
  .ok
    { profile := profile
      requestedSymbols := requestedSymbols
      observedSymbols := observedSymbols
      completedSymbols := completedSymbols
      snapshotEvents := snapshotEvents
      snapshotCallbacks := snapshotCallbacks
      snapshotBegins := snapshotBegins
      snapshotEnds := snapshotEnds
      snapshotSnips := snapshotSnips
      snapshotRemovals := snapshotRemovals
      duplicateIndices := duplicateIndices
      prematureLiveEvents := prematureLiveEvents
      liveEvents := liveEvents
      clockAnomalies := clockAnomalies
      firstEventDelayMs := firstEventDelayMs
      snapshotDurationMs := snapshotDurationMs
      firstLiveRelativeToGlobalCompletionMs := firstLive
      liveLatencySamples := liveLatencySamples
      liveLatencyMeanUs := liveLatencyMeanUs
      liveLatencyP50Us := liveLatencyP50Us
      liveLatencyP90Us := liveLatencyP90Us
      liveLatencyP99Us := liveLatencyP99Us
      liveLatencyP999Us := liveLatencyP999Us
      liveLatencyMaximumUs := liveLatencyMaximumUs
      unsubscribedAfterSnapshot := decide (unsubscribedAfterSnapshot.getD 0 ≠ 0)
      cpuCorePercent := cpuCorePercent
      cpuHostPercent := cpuHostPercent
      rssMeanBytes := rssMeanBytes
      rssMaximumBytes := rssMaximumBytes
      resourceSamples := resourceSamples }

/-- Reads the TimeAndSale snapshot and live-cutover counters produced by one client
execution. -/
def readTimeSeries (file : Option Text) : Except Text TimeSeriesRunRow :=
  match file.map getLines with
  | none => .error ("cannot read time-series result: ".toList ++ path)
  | some (headingsLine :: valuesLine :: _) =>
      (readTimeSeriesRow input path profile (parseCsvRow headingsLine)
        (parseCsvRow valuesLine)).map TimeSeriesRunRow.judge
  | some _ => .error ("incomplete time-series result: ".toList ++ path)

/-! ### Reading it back -/

/-- The report is read column by column. -/
theorem readTimeSeries_writeReport (t : TimeSeriesTracker) (formatting : TimeSeriesFormatting)
    (fromTimeMs : Int) (unsubscribed : Bool) (resources : ResourceTexts) :
    readTimeSeries input path profile
        (some (t.writeReport formatting fromTimeMs unsubscribed resources)) =
      (readTimeSeriesRow input path profile (timeSeriesHeadings.map PlainText.text)
        ((t.reportFields formatting fromTimeMs unsubscribed resources).map PlainText.text)).map
          TimeSeriesRunRow.judge := by
  have lines : getLines (t.writeReport formatting fromTimeMs unsubscribed resources) =
      [csvLine timeSeriesHeadings,
        csvLine (t.reportFields formatting fromTimeMs unsubscribed resources)] := by
    apply getLines_fileText
    intro line mem c here
    rw [List.mem_cons, List.mem_singleton] at mem
    rcases mem with rfl | rfl
    · exact ne_newline_of_mem_csvLine here
    · exact ne_newline_of_mem_csvLine here
  have headings : parseCsvRow (csvLine timeSeriesHeadings) =
      timeSeriesHeadings.map PlainText.text := parseCsvRow_csvLine (List.cons_ne_nil _ _)
  have fields : parseCsvRow
      (csvLine (t.reportFields formatting fromTimeMs unsubscribed resources)) =
        (t.reportFields formatting fromTimeMs unsubscribed resources).map PlainText.text :=
    parseCsvRow_csvLine (List.cons_ne_nil _ _)
  rw [readTimeSeries, Option.map_some, lines, ← headings, ← fields]

/-- Where the columns are that the verdict compares. -/
theorem timeSeries_columns :
    [ "requested_symbols", "completed_symbols", "snapshot_begin", "snapshot_end", "snapshot_snip",
      "premature_live_events" ].map (fun name =>
        indexOf (timeSeriesHeadings.map PlainText.text) name.toList) =
      [some 1, some 3, some 6, some 7, some 8, some 11] := by
  decide +kernel

/-- A counter is read from its column. -/
theorem timeSeriesNumber_written {headings columns : List Text} {name : Text} {index : Nat}
    {text : Text} (found : indexOf headings name = some index)
    (field : columns[index]? = some text) :
    timeSeriesNumber input path headings columns name = input.parseNumber text := by
  rw [timeSeriesNumber, found]
  dsimp only
  rw [field]

/-- What the verdict needs of a row, as it was written. -/
structure TimeSeriesReadAs (row : TimeSeriesRunRow) (t : TimeSeriesTracker) : Prop where
  requestedSymbols : input.parseNumber (digits t.expectedSymbols) = .ok row.requestedSymbols
  completedSymbols : input.parseNumber (digits t.completedSymbols) = .ok row.completedSymbols
  snapshotBegins : input.parseNumber (digits t.snapshotBegins) = .ok row.snapshotBegins
  snapshotEnds : input.parseNumber (digits t.snapshotEnds) = .ok row.snapshotEnds
  snapshotSnips : input.parseNumber (digits t.snapshotSnips) = .ok row.snapshotSnips
  prematureLiveEvents :
    input.parseNumber (digits t.prematureLiveEvents) = .ok row.prematureLiveEvents

theorem readTimeSeriesRow_written (t : TimeSeriesTracker) (formatting : TimeSeriesFormatting)
    (fromTimeMs : Int) (unsubscribed : Bool) (resources : ResourceTexts) {row : TimeSeriesRunRow}
    (read : readTimeSeriesRow input path profile (timeSeriesHeadings.map PlainText.text)
      ((t.reportFields formatting fromTimeMs unsubscribed resources).map PlainText.text) =
        .ok row) : TimeSeriesReadAs input row t := by
  have columns := timeSeries_columns
  simp only [List.map_cons, List.map_nil, List.cons.injEq] at columns
  obtain ⟨requested, completed, begins, ends, snips, premature, -⟩ := columns
  unfold readTimeSeriesRow at read
  dsimp only at read
  obtain ⟨requestedSymbols, isRequested, read⟩ := ok_of_bind read
  obtain ⟨observedSymbols, -, read⟩ := ok_of_bind read
  obtain ⟨completedSymbols, isCompleted, read⟩ := ok_of_bind read
  obtain ⟨snapshotEvents, -, read⟩ := ok_of_bind read
  obtain ⟨snapshotCallbacks, -, read⟩ := ok_of_bind read
  obtain ⟨snapshotBegins, isBegins, read⟩ := ok_of_bind read
  obtain ⟨snapshotEnds, isEnds, read⟩ := ok_of_bind read
  obtain ⟨snapshotSnips, isSnips, read⟩ := ok_of_bind read
  obtain ⟨snapshotRemovals, -, read⟩ := ok_of_bind read
  obtain ⟨duplicateIndices, -, read⟩ := ok_of_bind read
  obtain ⟨prematureLiveEvents, isPremature, read⟩ := ok_of_bind read
  obtain ⟨liveEvents, -, read⟩ := ok_of_bind read
  obtain ⟨clockAnomalies, -, read⟩ := ok_of_bind read
  obtain ⟨firstEventDelayMs, -, read⟩ := ok_of_bind read
  obtain ⟨snapshotDurationMs, -, read⟩ := ok_of_bind read
  obtain ⟨firstLive, -, read⟩ := ok_of_bind read
  obtain ⟨liveLatencySamples, -, read⟩ := ok_of_bind read
  obtain ⟨liveLatencyMeanUs, -, read⟩ := ok_of_bind read
  obtain ⟨liveLatencyP50Us, -, read⟩ := ok_of_bind read
  obtain ⟨liveLatencyP90Us, -, read⟩ := ok_of_bind read
  obtain ⟨liveLatencyP99Us, -, read⟩ := ok_of_bind read
  obtain ⟨liveLatencyP999Us, -, read⟩ := ok_of_bind read
  obtain ⟨liveLatencyMaximumUs, -, read⟩ := ok_of_bind read
  obtain ⟨unsubscribedAfterSnapshot, -, read⟩ := ok_of_bind read
  obtain ⟨cpuCorePercent, -, read⟩ := ok_of_bind read
  obtain ⟨cpuHostPercent, -, read⟩ := ok_of_bind read
  obtain ⟨rssMeanBytes, -, read⟩ := ok_of_bind read
  obtain ⟨rssMaximumBytes, -, read⟩ := ok_of_bind read
  obtain ⟨resourceSamples, -, read⟩ := ok_of_bind read
  cases read
  constructor
  · rw [← isRequested, timeSeriesNumber_written input path requested rfl]
    rfl
  · rw [← isCompleted, timeSeriesNumber_written input path completed rfl]
    rfl
  · rw [← isBegins, timeSeriesNumber_written input path begins rfl]
    rfl
  · rw [← isEnds, timeSeriesNumber_written input path ends rfl]
    rfl
  · rw [← isSnips, timeSeriesNumber_written input path snips rfl]
    rfl
  · rw [← isPremature, timeSeriesNumber_written input path premature rfl]
    rfl

/-- A row that passes was written by a tracker whose counters pass. -/
theorem passes_of_integrityOk {t : TimeSeriesTracker} (bound : t.expectedSymbols < 2 ^ 53)
    {row : TimeSeriesRunRow} (read : TimeSeriesReadAs input row t)
    (passing : row.judge.integrityOk = true) : t.Passes t.expectedSymbols := by
  have requested : row.requestedSymbols = t.expectedSymbols :=
    Except.ok.inj (read.requestedSymbols.symm.trans (input.parseNumber_digits bound))
  obtain ⟨-, completed, begins, closings, -, premature, -, -⟩ := of_decide_eq_true passing
  rw [requested] at completed begins closings
  have small : (t.expectedSymbols : ℚ) < 2 ^ 53 := by exact_mod_cast bound
  have nonneg : ∀ {n : Nat} {value : ℚ}, input.parseNumber (digits n) = .ok value →
      0 ≤ value := by
    intro n value written
    rcases input.parseNumber_cases written with same | big
    · rw [same]
      exact Nat.cast_nonneg n
    · exact le_trans (by norm_num) big
  have counter : ∀ {n : Nat} {value : ℚ}, input.parseNumber (digits n) = .ok value →
      value < 2 ^ 53 → value = n := by
    intro n value written less
    rcases input.parseNumber_cases written with same | big
    · exact same
    · exact absurd big (not_le.mpr less)
  constructor
  · exact input.eq_of_parseNumber (completed ▸ read.completedSymbols) bound
  · exact input.eq_of_parseNumber (begins ▸ read.snapshotBegins) bound
  · have endsNonneg := nonneg read.snapshotEnds
    have snipsNonneg := nonneg read.snapshotSnips
    have ends := counter read.snapshotEnds (by linarith)
    have snips := counter read.snapshotSnips (by linarith)
    rw [ends, snips] at closings
    exact_mod_cast closings
  · have none := counter read.prematureLiveEvents (by rw [premature]; norm_num)
    rw [premature] at none
    exact_mod_cast none.symm

end Reading

/-! ### The verdict -/

namespace TimeSeriesTracker

variable (input : DoubleInput) (path profile : Text) (api : DxApi)

/-- A tracker of which the snapshots of some symbols are requested. -/
def requesting (measuring : Bool) (expectedSymbols : Nat) (subscribedAtNs : Int) :
    TimeSeriesTracker :=
  ({ measuring := measuring } : TimeSeriesTracker).beginSnapshot expectedSymbols subscribedAtNs

/-- A report that passes comes from a run in which every requested symbol was
completed by an event with one of SNAPSHOT_END and SNAPSHOT_SNIP, and its first event
carried SNAPSHOT_BEGIN or completed it. There were as many SNAPSHOT_BEGIN events as
symbols, so if all first events carried one, no other event did. -/
theorem time_series_sound (measuring : Bool) (requested : Finset Text)
    (bound : requested.card < 2 ^ 53) (subscribedAtNs : Int) (calls : List TrackerCall)
    (covered : ∀ event ∈ timeAndSales (calls.flatMap TrackerCall.events),
      event.eventSymbol ∈ requested)
    (formatting : TimeSeriesFormatting) (fromTimeMs : Int) (unsubscribed : Bool)
    (resources : ResourceTexts) {row : TimeSeriesRunRow}
    (read : readTimeSeries input path profile
      (some (((requesting measuring requested.card subscribedAtNs).run api calls).writeReport
        formatting fromTimeMs unsubscribed resources)) = .ok row)
    (passing : row.integrityOk = true) :
    (∀ symbol ∈ requested,
      (∃ event ∈ closing (received calls symbol), event.eventFlags.closings = 1) ∧
      ∃ first ∈ (received calls symbol).head?,
        first.eventFlags.snapshotBegin = true ∨ first.eventFlags.closes = true) ∧
    ∑ symbol ∈ requested, begins (received calls symbol) = requested.card ∧
    ((∀ symbol ∈ requested, ∃ first ∈ (received calls symbol).head?,
        first.eventFlags.snapshotBegin = true) →
      ∀ symbol ∈ requested, ∃ first rest, received calls symbol = first :: rest ∧
        first.eventFlags.snapshotBegin = true ∧
        ∀ other ∈ rest, other.eventFlags.snapshotBegin = false) := by
  let start := requesting measuring requested.card subscribedAtNs
  have fresh : start.counters = 0 := by
    funext counter
    cases counter <;> rfl
  have expected : (start.run api calls).expectedSymbols = requested.card :=
    (run_follows api start calls).expectedSymbols
  rw [readTimeSeries_writeReport] at read
  cases written : readTimeSeriesRow input path profile (timeSeriesHeadings.map PlainText.text)
      (((start.run api calls).reportFields formatting fromTimeMs unsubscribed resources).map
        PlainText.text) with
  | error message =>
      rw [written] at read
      cases read
  | ok found =>
      rw [written] at read
      cases read
      have readAs := readTimeSeriesRow_written input path profile _ _ _ _ _ written
      have passes := passes_of_integrityOk input (expected.trans_lt bound) readAs passing
      rw [expected] at passes
      obtain ⟨symbols, total⟩ := passes_symbols api covered fresh rfl passes
      exact ⟨symbols, total, fun first symbol mem => begins_once total first mem⟩

private def evenSeriesFormatting : TimeSeriesFormatting where
  millisecondsSince stop start :=
    if stop = 0 ∨ start = 0 then .ofNat 0 else .ofInt ((stop - start) / 1000000)
  statistics latencies :=
    let each := .ofInt (latencies.headD 0 / 1000)
    { minimum := each, mean := each, p50 := each, p90 := each, p95 := each, p99 := each,
      p999 := each, maximum := each, q1 := each, q3 := each, iqr := .ofNat 0,
      outlierThreshold := each, outlierCount := 0 }

private def noResources : ResourceTexts := ⟨.ofNat 0, .ofNat 0, .ofNat 0, .ofNat 0, 0⟩

private def seriesEvent (symbol : Text) (index : Int) (flags : EventFlags) : Event :=
  .timeAndSale { eventSymbol := symbol, eventFlags := flags, timeNanos := index * 1000000 }

/-- One callback with the events of a snapshot subscription made a millisecond earlier. -/
private def seriesCalls (events : List Event) : List TrackerCall := [.handle events 5000000]

private def seriesReport (requested : Finset Text) (events : List Event) : Text :=
  ((requesting false requested.card 4000000).run .release (seriesCalls events)).writeReport
    evenSeriesFormatting 3 true noResources

/-- The analyzer passes the report if it passes the row in it. -/
private theorem series_row {requested : Finset Text} {events : List Event}
    (passes : (readTimeSeriesRow .ofDigits [] [] (timeSeriesHeadings.map PlainText.text)
        ((((requesting false requested.card 4000000).run .release
          (seriesCalls events)).reportFields evenSeriesFormatting 3 true noResources).map
            PlainText.text)).toOption.any (fun row => row.judge.integrityOk) = true) :
    ∃ row, readTimeSeries .ofDigits [] [] (some (seriesReport requested events)) = .ok row ∧
      row.integrityOk = true := by
  rw [seriesReport, readTimeSeries_writeReport]
  cases found : readTimeSeriesRow .ofDigits [] [] (timeSeriesHeadings.map PlainText.text)
      ((((requesting false requested.card 4000000).run .release
        (seriesCalls events)).reportFields evenSeriesFormatting 3 true noResources).map
          PlainText.text) with
  | error message =>
      rw [found] at passes
      cases passes
  | ok row =>
      rw [found] at passes
      exact ⟨row.judge, rfl, passes⟩

/-- A snapshot of two events passes, and no other event than the first begins it. -/
theorem time_series_sound_single :
    let symbol : Text := "SYM0".toList
    let events := [seriesEvent symbol 4 .SNAPSHOT_BEGIN, seriesEvent symbol 3 .SNAPSHOT_END]
    ∃ first rest, received (seriesCalls events) symbol = first :: rest ∧
      first.eventFlags.snapshotBegin = true ∧
      ∀ other ∈ rest, other.eventFlags.snapshotBegin = false := by
  intro symbol events
  obtain ⟨row, read, passing⟩ := @series_row {symbol} events (by decide +kernel)
  obtain ⟨-, -, once⟩ := time_series_sound .ofDigits [] [] .release false {symbol}
    (by decide) 4000000 (seriesCalls events) (by decide +kernel) evenSeriesFormatting 3 true
    noResources read passing
  exact once (by decide +kernel) symbol (Finset.mem_singleton_self symbol)

/-- A snapshot with one SNAPSHOT_BEGIN event, which comes first and before the event
that completes the symbol. -/
def Announced (events : List TimeAndSale) : Prop :=
  ∃ first rest, events = first :: rest ∧ first.eventFlags.snapshotBegin = true ∧
    (∀ other ∈ rest, other.eventFlags.snapshotBegin = false) ∧
    first.eventFlags.closes = false ∧ (closing rest).isSome = true

/-- Whether reports of a run pass only if the snapshots of all requested symbols are
announced. -/
def PassesAnnounced (requested : Finset Text) (calls : List TrackerCall) : Prop :=
  (∀ event ∈ timeAndSales (calls.flatMap TrackerCall.events), event.eventSymbol ∈ requested) →
  ∀ (input : DoubleInput) (path profile : Text) (api : DxApi) (measuring : Bool)
    (subscribedAtNs : Int) (formatting : TimeSeriesFormatting) (fromTimeMs : Int)
    (unsubscribed : Bool) (resources : ResourceTexts) (row : TimeSeriesRunRow),
    readTimeSeries input path profile
      (some (((requesting measuring requested.card subscribedAtNs).run api calls).writeReport
        formatting fromTimeMs unsubscribed resources)) = .ok row →
    row.integrityOk = true → ∀ symbol ∈ requested, Announced (received calls symbol)

private def unannouncedEvents : List Event :=
  [seriesEvent "SYM0".toList 4 .SNAPSHOT_BEGIN,
    seriesEvent "SYM0".toList 3 (.or .SNAPSHOT_BEGIN .SNAPSHOT_END),
    seriesEvent "SYM1".toList 4 .SNAPSHOT_END]

private def emptySnapshot : List Event :=
  [seriesEvent "SYM0".toList 3 (.or .SNAPSHOT_BEGIN .SNAPSHOT_END)]

/-- A second SNAPSHOT_BEGIN of one symbol makes up for the missing one of another, and
the single event of an empty snapshot begins and completes it. -/
theorem time_series_verdict_unannounced :
    ¬ PassesAnnounced {"SYM0".toList, "SYM1".toList} (seriesCalls unannouncedEvents) ∧
      ¬ PassesAnnounced {"SYM0".toList} (seriesCalls emptySnapshot) := by
  constructor
  · intro sound
    obtain ⟨row, read, passing⟩ :=
      @series_row {"SYM0".toList, "SYM1".toList} unannouncedEvents (by decide +kernel)
    obtain ⟨first, rest, events, begin, -⟩ := sound (by decide +kernel) .ofDigits [] [] .release
      false 4000000 evenSeriesFormatting 3 true noResources row read passing "SYM1".toList
      (by decide)
    have only : received (seriesCalls unannouncedEvents) "SYM1".toList =
        [{ eventSymbol := "SYM1".toList, eventFlags := .SNAPSHOT_END, timeNanos := 4000000 }] := by
      decide +kernel
    rw [only] at events
    cases events
    cases begin
  · intro sound
    obtain ⟨row, read, passing⟩ :=
      @series_row {"SYM0".toList} emptySnapshot (by decide +kernel)
    obtain ⟨first, rest, events, -, -, unfinished, -⟩ := sound (by decide +kernel) .ofDigits [] []
      .release false 4000000 evenSeriesFormatting 3 true noResources row read passing
      "SYM0".toList (by decide)
    have only : received (seriesCalls emptySnapshot) "SYM0".toList =
        [{ eventSymbol := "SYM0".toList
           eventFlags := EventFlags.or .SNAPSHOT_BEGIN .SNAPSHOT_END
           timeNanos := 3000000 }] := by
      decide +kernel
    rw [only] at events
    cases events
    cases unfinished

end TimeSeriesTracker

end LatencyTest
