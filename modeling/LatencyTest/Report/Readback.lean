import LatencyTest.Report.Summary

/-!
Reading a summary back. The analyzer takes the columns apart by name and re-derives
a verdict for each whole-run row; `verdicts_summaryFile` says what these verdicts
are, in terms of the totals that `Reporter::final` wrote.
-/

namespace LatencyTest

open Lib (digits)

/-! ### The file -/

/-- Where `readLatencyTotals` finds the columns of the header it was written with. -/
def writtenColumns : SummaryColumns where
  kindIndex := some 2
  samplesIndex := some 3
  expectedIndex := some 4
  nominalIndex := some 6
  roleIndex := some 7
  eventsBatchLimitIndex := some 8
  aggregationPeriodIndex := some 9
  publishedIndex := some 10
  deliveredIndex := some 11
  listenerDeficitIndex := some 12
  listenerCoverageIndex := some 13
  excessIndex := some 14
  fullIndex := some 15
  partialIndex := some 16
  emptyIndex := some 17
  uncorrelatedIndex := some 18
  callbacksIndex := some 19
  clockIndex := some 20
  missingIndex := some 21
  pendingIndex := some 22
  minIndex := some 23
  meanIndex := some 24
  p50Index := some 25
  p90Index := some 26
  p95Index := some 27
  p99Index := some 28
  p999Index := some 29
  maxIndex := some 30
  outliersIndex := some 35

theorem findSummaryColumns_summaryHeadings :
    findSummaryColumns (summaryHeadings.map PlainText.text) = writtenColumns := by
  decide +kernel

variable (input : DoubleInput) (path profile : Text)

/-- A written row is read with its sample kind. -/
theorem sampleKind_written {fields : List PlainText} {kind : PlainText}
    (label : fields[2]? = some kind) :
    parseCsvRow (csvLine fields) = fields.map PlainText.text ∧
      fieldAt (fields.map PlainText.text) writtenColumns.kindIndex = some kind.text := by
  constructor
  · apply parseCsvRow_csvLine
    rintro rfl
    cases label
  · rw [fieldAt, writtenColumns, Option.bind_some, List.getElem?_map, label]
    rfl

/-- A written line is skipped unless its sample kind is that of a whole-run row. -/
theorem readLatencyRows_skip {fields : List PlainText} (lines : List Text) {kind : PlainText}
    (label : fields[2]? = some kind) (window : endsWith kind.text "-total".toList = false) :
    readLatencyRows input path profile writtenColumns (csvLine fields :: lines) =
      readLatencyRows input path profile writtenColumns lines := by
  obtain ⟨row, found⟩ := sampleKind_written label
  rw [readLatencyRows, row, found]
  dsimp only
  rw [if_neg (by rw [window]; exact Bool.false_ne_true)]

theorem readLatencyRows_total {fields : List PlainText} (lines : List Text) {kind : PlainText}
    (label : fields[2]? = some kind) (total : endsWith kind.text "-total".toList = true) :
    readLatencyRows input path profile writtenColumns (csvLine fields :: lines) = (do
      let row ← readLatencyRow input path profile writtenColumns kind.text
        (fields.map PlainText.text)
      let rows ← readLatencyRows input path profile writtenColumns lines
      .ok (row :: rows)) := by
  obtain ⟨row, found⟩ := sampleKind_written label
  rw [readLatencyRows, row, found]
  dsimp only
  rw [if_pos total]

/-! ### One row -/

/-- What the verdict needs of a row, as it was written. -/
structure ReadAs (row : LatencyRunRow) (kind role : PlainText) (samples : Nat)
    (common : Reporter.Common) (delivery : DeliveryView) : Prop where
  sampleKind : row.sampleKind = kind.text
  endpointRole : row.endpointRole = role.text
  samples : row.samples = samples
  clockAnomalies : row.clockAnomalies = common.negative
  missingBatches : row.missingBatches = common.missing
  pendingBatches : row.pendingBatches = common.pending
  listenerDeficit : row.listenerDeficit = delivery.listenerDeficit
  excessEvents : row.excessEvents = delivery.excess

/-- A counter that is written as a number is read as that number. -/
theorem number_written (columns : List Text) (i : Nat) {n : Nat} (bound : n < 2 ^ 53)
    (field : columns[i]? = some (digits n)) :
    number input path columns (some i) = .ok (n : ℚ) := by
  rw [number, fieldAt, Option.bind_some, field]
  exact input.parseNumber_digits bound

theorem optionalNumber_written (columns : List Text) (i : Nat) {n : Nat} (fallback : ℚ)
    (bound : n < 2 ^ 53) (field : columns[i]? = some (digits n)) :
    optionalNumber input columns (some i) fallback = n := by
  rw [optionalNumber, fieldAt, Option.bind_some, field]
  dsimp only
  rw [input.parseNumber_digits bound]
  rfl

theorem readLatencyRow_written (r : Reporter) {start stop : Int} {kind : PlainText}
    {latencies : List Int} {expected : Nat} {common : Reporter.Common} {delivery : DeliveryView}
    {row : LatencyRunRow} (samples : latencies.length < 2 ^ 53)
    (negative : common.negative < 2 ^ 53) (missing : common.missing < 2 ^ 53)
    (pending : common.pending < 2 ^ 53) (deficit : delivery.listenerDeficit < 2 ^ 53)
    (excess : delivery.excess < 2 ^ 53)
    (read : readLatencyRow input path profile writtenColumns kind.text
      ((r.summaryFields start stop kind latencies expected common delivery).map PlainText.text) =
        .ok row) :
    ReadAs row kind (roleName r.role) latencies.length common delivery := by
  let columns :=
    (r.summaryFields start stop kind latencies expected common delivery).map PlainText.text
  have samplesWritten := number_written input path columns 3 samples rfl
  have clockWritten := number_written input path columns 20 negative rfl
  have missingWritten := number_written input path columns 21 missing rfl
  have pendingWritten := number_written input path columns 22 pending rfl
  have deficitWritten := optionalNumber_written input columns 12 0 deficit rfl
  have excessWritten := optionalNumber_written input columns 14 0 excess rfl
  unfold readLatencyRow at read
  obtain ⟨samplesRead, isSamples, read⟩ := ok_of_bind read
  obtain ⟨expectedRead, -, read⟩ := ok_of_bind read
  obtain ⟨callbacksRead, -, read⟩ := ok_of_bind read
  obtain ⟨clockRead, isClock, read⟩ := ok_of_bind read
  obtain ⟨missingRead, isMissing, read⟩ := ok_of_bind read
  obtain ⟨minimumRead, -, read⟩ := ok_of_bind read
  obtain ⟨meanRead, -, read⟩ := ok_of_bind read
  obtain ⟨p50Read, -, read⟩ := ok_of_bind read
  obtain ⟨p90Read, -, read⟩ := ok_of_bind read
  obtain ⟨p95Read, -, read⟩ := ok_of_bind read
  obtain ⟨p99Read, -, read⟩ := ok_of_bind read
  obtain ⟨p999Read, -, read⟩ := ok_of_bind read
  obtain ⟨maximumRead, -, read⟩ := ok_of_bind read
  obtain ⟨outliersRead, -, read⟩ := ok_of_bind read
  obtain ⟨pendingRead, isPending, read⟩ := ok_of_bind read
  obtain ⟨nominalRead, -, read⟩ := ok_of_bind read
  cases read
  constructor
  · rfl
  · rfl
  · exact Except.ok.inj (isSamples.symm.trans samplesWritten)
  · exact Except.ok.inj (isClock.symm.trans clockWritten)
  · exact Except.ok.inj (isMissing.symm.trans missingWritten)
  · exact Except.ok.inj (isPending.symm.trans pendingWritten)
  · exact deficitWritten
  · exact excessWritten

/-! ### All rows -/

/-- The labels of windows are not those of whole-run rows. -/
theorem window_labels :
    endsWith eventLabel.text "-total".toList = false ∧
      (∀ kind, endsWith (eventSampleKind kind).text "-total".toList = false) ∧
      endsWith batchLabel.text "-total".toList = false := by
  decide +kernel

theorem readLatencyRows_window (r : Reporter) (start stop : Int) (data : Window)
    (lines : List Text) :
    readLatencyRows input path profile writtenColumns
        ((r.window start stop data).map csvLine ++ lines) =
      readLatencyRows input path profile writtenColumns lines := by
  obtain ⟨event, kinds, batch⟩ := window_labels
  simp only [Reporter.window, Reporter.rows, eventKinds, List.map_cons, List.map_nil,
    List.cons_append, List.nil_append]
  rw [readLatencyRows_skip input path profile _ rfl event,
    readLatencyRows_skip input path profile _ rfl (kinds .quote),
    readLatencyRows_skip input path profile _ rfl (kinds .trade),
    readLatencyRows_skip input path profile _ rfl (kinds .tradeEth),
    readLatencyRows_skip input path profile _ rfl (kinds .summary),
    readLatencyRows_skip input path profile _ rfl batch]

/-- The rows of the windows are skipped. -/
theorem readLatencyRows_windows (r : Reporter) (windows : List (Int × Int × Window))
    (lines : List Text) :
    readLatencyRows input path profile writtenColumns
        ((windows.flatMap fun (start, stop, data) => r.window start stop data).map csvLine ++
          lines) =
      readLatencyRows input path profile writtenColumns lines := by
  induction windows with
  | nil => rfl
  | cons window windows ih =>
      obtain ⟨start, stop, data⟩ := window
      rw [List.flatMap_cons, List.map_append, List.append_assoc,
        readLatencyRows_window input path profile r start stop data, ih]

/-- The counters of a final report that a verdict reads, as they are below 2^53. -/
structure Totals.Exact (totals : Totals) : Prop where
  events : (eventKinds.flatMap totals.eventsByKind).length < 2 ^ 53
  batches : totals.batches.length < 2 ^ 53
  negative : totals.negative < 2 ^ 53
  missing : totals.missing < 2 ^ 53
  pending : totals.pending < 2 ^ 53
  listenerDeficit : ∑ kind, totals.delivery.listenerDeficit kind < 2 ^ 53
  excess : ∑ kind, totals.delivery.excess kind < 2 ^ 53

theorem endsWith_totalLabel (kind : PlainText) :
    endsWith (totalLabel kind).text "-total".toList = true :=
  endsWith_append_self kind.text _

theorem length_eventsByKind_le (totals : Totals) (kind : RegularKind) :
    (totals.eventsByKind kind).length ≤ (eventKinds.flatMap totals.eventsByKind).length := by
  have mem : kind ∈ eventKinds := by cases kind <;> decide
  exact (List.sublist_flatten_of_mem (List.mem_map_of_mem mem)).length_le

/-- What distinguishes the whole-run rows of one report. -/
structure TotalRow where
  label : PlainText
  latencies : List Int
  expectedPerBatch : Nat
  kinds : Finset RegularKind

/-- The whole-run rows: all events, the events of each kind, the batches. -/
def totalRows (pattern : TaskPattern) (totals : Totals) : List TotalRow :=
  ⟨eventLabel, eventKinds.flatMap totals.eventsByKind, regularEventCount pattern, Finset.univ⟩ ::
    eventKinds.map (fun kind => ⟨eventSampleKind kind, totals.eventsByKind kind,
      (pattern.quantity kind.toEventKind).getD 0, {kind}⟩) ++
    [⟨batchLabel, totals.batches, 1, Finset.univ⟩]

def Totals.common (totals : Totals) : Reporter.Common :=
  ⟨totals.callbacks, totals.negative, totals.missing, totals.pending⟩

/-- `final` writes one line for each of them. -/
theorem final_eq (r : Reporter) (totals : Totals) (stop : Int) :
    r.final totals stop = (totalRows r.pattern totals).map fun row =>
      r.summaryFields r.runStart stop (totalLabel row.label) row.latencies row.expectedPerBatch
        totals.common (deliveryView totals.delivery row.kinds) := rfl

/-- Every number of the rows is below 2^53. -/
theorem Totals.Exact.rows {totals : Totals} (exact : totals.Exact) (pattern : TaskPattern)
    {row : TotalRow} (mem : row ∈ totalRows pattern totals) :
    row.latencies.length < 2 ^ 53 ∧
      (deliveryView totals.delivery row.kinds).listenerDeficit < 2 ^ 53 ∧
      (deliveryView totals.delivery row.kinds).excess < 2 ^ 53 := by
  have deficit : ∀ kinds : Finset RegularKind,
      ∑ kind ∈ kinds, totals.delivery.listenerDeficit kind < 2 ^ 53 := fun kinds =>
    (Finset.sum_le_univ_sum_of_nonneg fun _ => Nat.zero_le _).trans_lt exact.listenerDeficit
  have excess : ∀ kinds : Finset RegularKind,
      ∑ kind ∈ kinds, totals.delivery.excess kind < 2 ^ 53 := fun kinds =>
    (Finset.sum_le_univ_sum_of_nonneg fun _ => Nat.zero_le _).trans_lt exact.excess
  refine ⟨?_, deficit row.kinds, excess row.kinds⟩
  rw [totalRows, List.cons_append, List.mem_cons, List.mem_append, List.mem_map,
    List.mem_singleton] at mem
  rcases mem with rfl | ⟨kind, -, rfl⟩ | rfl
  · exact exact.events
  · exact (length_eventsByKind_le totals kind).trans_lt exact.events
  · exact exact.batches

/-- The whole-run rows are read as they were written. -/
theorem readLatencyRows_totals (r : Reporter) {totals : Totals} (exact : totals.Exact)
    (stop : Int) {written : List TotalRow} (known : written ⊆ totalRows r.pattern totals)
    {rows : List LatencyRunRow}
    (read : readLatencyRows input path profile writtenColumns ((written.map fun row =>
      r.summaryFields r.runStart stop (totalLabel row.label) row.latencies row.expectedPerBatch
        totals.common (deliveryView totals.delivery row.kinds)).map csvLine) = .ok rows) :
    List.Forall₂ (fun row spec => ReadAs row (totalLabel spec.label) (roleName r.role)
      spec.latencies.length totals.common (deliveryView totals.delivery spec.kinds))
      rows written := by
  induction written generalizing rows with
  | nil =>
      cases read
      exact .nil
  | cons spec written ih =>
      rw [List.map_cons, List.map_cons,
        readLatencyRows_total input path profile _ rfl (endsWith_totalLabel spec.label)] at read
      obtain ⟨row, rowRead, read⟩ := ok_of_bind read
      obtain ⟨rest, restRead, read⟩ := ok_of_bind read
      cases read
      obtain ⟨samples, deficit, excess⟩ := exact.rows r.pattern (known List.mem_cons_self)
      exact .cons (readLatencyRow_written input path profile r samples exact.negative
        exact.missing exact.pending deficit excess rowRead)
        (ih (fun other mem => known (List.mem_cons_of_mem _ mem)) restRead)

/-! ### The verdicts -/

/-- The verdict on a whole-run row, from the totals it was written from. -/
def TotalRow.verdict (role : ClientRole) (totals : Totals) (row : TotalRow) : Bool :=
  decide (0 < totals.batches.length ∧ totals.negative = 0 ∧ totals.missing = 0 ∧
    totals.pending = 0 ∧ (row.label.text = batchLabel.text ∨ role = .feed ∨
      (∑ kind ∈ row.kinds, totals.delivery.listenerDeficit kind = 0 ∧
        ∑ kind ∈ row.kinds, totals.delivery.excess kind = 0)))

theorem batchTotal_eq : "batch-total".toList = batchLabel.text ++ "-total".toList := by
  decide +kernel

theorem sampleKind_eq_batchTotal (label : PlainText) :
    (totalLabel label).text = "batch-total".toList ↔ label.text = batchLabel.text := by
  rw [batchTotal_eq, totalLabel, List.append_left_inj]

theorem roleName_eq_feed (role : ClientRole) :
    (roleName role).text = "feed".toList ↔ role = .feed := by
  cases role <;> decide +kernel

/-- Judging a row that was read as written gives its verdict. -/
theorem judge_readAs {row : LatencyRunRow} {spec : TotalRow} {role : ClientRole}
    {totals : Totals} (read : ReadAs row (totalLabel spec.label) (roleName role)
      spec.latencies.length totals.common (deliveryView totals.delivery spec.kinds)) :
    (row.judge totals.batches.length).sampleKind = (totalLabel spec.label).text ∧
      (row.judge totals.batches.length).integrityOk = spec.verdict role totals := by
  refine ⟨read.sampleKind, ?_⟩
  unfold LatencyRunRow.judge TotalRow.verdict
  dsimp only
  rw [decide_eq_decide, read.sampleKind, read.endpointRole, read.clockAnomalies,
    read.missingBatches, read.pendingBatches, read.listenerDeficit, read.excessEvents,
    sampleKind_eq_batchTotal, roleName_eq_feed]
  simp only [Totals.common, deliveryView, gt_iff_lt, Nat.cast_pos, Nat.cast_eq_zero]

theorem find?_forall₂ {α β : Type} {R : α → β → Prop} {p : α → Bool} {q : β → Bool}
    (same : ∀ a b, R a b → p a = q b) {xs : List α} {ys : List β} (h : List.Forall₂ R xs ys)
    {y : β} (found : ys.find? q = some y) : ∃ x, xs.find? p = some x ∧ R x y := by
  induction h with
  | nil => cases found
  | @cons a b xs ys related rest ih =>
      rw [List.find?_cons] at found ⊢
      rw [same a b related]
      cases here : q b with
      | true =>
          rw [here] at found
          cases found
          exact ⟨a, rfl, related⟩
      | false =>
          rw [here] at found
          exact ih found

/-- The batch row gives the number of batch samples. -/
theorem batchesOf_readAs {pattern : TaskPattern} {totals : Totals} {role : ClientRole}
    {rows : List LatencyRunRow}
    (read : List.Forall₂ (fun row spec => ReadAs row (totalLabel spec.label) (roleName role)
      spec.latencies.length totals.common (deliveryView totals.delivery spec.kinds))
      rows (totalRows pattern totals)) :
    batchesOf rows = totals.batches.length := by
  have labels : ∀ (row : LatencyRunRow) (spec : TotalRow),
      ReadAs row (totalLabel spec.label) (roleName role) spec.latencies.length totals.common
        (deliveryView totals.delivery spec.kinds) →
      decide (row.sampleKind = "batch-total".toList) =
        decide (spec.label.text = batchLabel.text) := by
    intro row spec readAs
    rw [decide_eq_decide, readAs.sampleKind, sampleKind_eq_batchTotal]
  have written : (totalRows pattern totals).find? (fun spec =>
      decide (spec.label.text = batchLabel.text)) = some ⟨batchLabel, totals.batches, 1,
        Finset.univ⟩ := rfl
  obtain ⟨row, found, readAs⟩ := find?_forall₂ labels read written
  rw [batchesOf, found]
  exact readAs.samples

/-- Judging rows that were read as written gives their verdicts. -/
theorem judge_rows {role : ClientRole} {totals : Totals} {rows : List LatencyRunRow}
    {written : List TotalRow}
    (read : List.Forall₂ (fun row spec => ReadAs row (totalLabel spec.label) (roleName role)
      spec.latencies.length totals.common (deliveryView totals.delivery spec.kinds))
      rows written) :
    rows.map ((fun row => (row.sampleKind, row.integrityOk)) ∘
        LatencyRunRow.judge totals.batches.length) =
      written.map fun row => ((totalLabel row.label).text, row.verdict role totals) := by
  induction read with
  | nil => rfl
  | cons related rest ih =>
      obtain ⟨kind, verdict⟩ := judge_readAs related
      rw [List.map_cons, List.map_cons, ih]
      exact congrArg (· :: _) (Prod.ext kind verdict)

/-- The analyzer finds its columns in a summary file, and reads the whole-run rows. -/
theorem readLatencyTotals_summaryFile (r : Reporter) (windows : List (Int × Int × Window))
    (totals : Totals) (stop : Int) :
    readLatencyTotals input path profile (some (r.summaryFile windows totals stop)) = (do
      let rows ← readLatencyRows input path profile writtenColumns
        ((r.final totals stop).map csvLine)
      .ok (rows.map (LatencyRunRow.judge (batchesOf rows)))) := by
  have lines : getLines (r.summaryFile windows totals stop) = csvLine summaryHeadings ::
      ((windows.flatMap fun (start, stop, data) => r.window start stop data).map csvLine ++
        (r.final totals stop).map csvLine) := by
    rw [Reporter.summaryFile, getLines_fileText, List.map_cons, List.map_append]
    intro line mem c here
    obtain ⟨fields, -, rfl⟩ := List.mem_map.mp mem
    exact ne_newline_of_mem_csvLine here
  have headings : parseCsvRow (csvLine summaryHeadings) =
      summaryHeadings.map PlainText.text := parseCsvRow_csvLine (List.cons_ne_nil _ _)
  have complete : writtenColumns.required.any Option.isNone = false := rfl
  unfold readLatencyTotals
  rw [Option.map_some, lines]
  dsimp only
  rw [headings, findSummaryColumns_summaryHeadings, complete, if_neg Bool.false_ne_true,
    readLatencyRows_windows]

/-- The verdicts that the analyzer derives from a summary file. -/
theorem verdicts_summaryFile (r : Reporter) (windows : List (Int × Int × Window))
    {totals : Totals} (exact : totals.Exact) (stop : Int) {rows : List LatencyRunRow}
    (read : readLatencyTotals input path profile (some (r.summaryFile windows totals stop)) =
      .ok rows) :
    rows.map (fun row => (row.sampleKind, row.integrityOk)) =
      (totalRows r.pattern totals).map fun row =>
        ((totalLabel row.label).text, row.verdict r.role totals) := by
  rw [readLatencyTotals_summaryFile] at read
  obtain ⟨raw, rawRead, read⟩ := ok_of_bind read
  cases read
  rw [final_eq] at rawRead
  have readAs := readLatencyRows_totals input path profile r exact stop
    (List.Subset.refl _) rawRead
  rw [List.map_map, batchesOf_readAs readAs]
  exact judge_rows readAs

end LatencyTest
