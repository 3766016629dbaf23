import LatencyTest.Server.History

/-!
The form of a HISTORY snapshot on the wire: its records are the retained ones of
the requested range, newest first, its boundary event closes it exactly when it is
not snipped, and its flags depend on the position of an event only (`Framed`).
-/

namespace LatencyTest

/-- An event without its flags. -/
def TimeAndSale.unflagged (event : TimeAndSale) : TimeAndSale := { event with eventFlags := {} }

/-- Every event has the flags of its position: SNAPSHOT_BEGIN the first one,
SNAPSHOT_END or SNAPSHOT_SNIP the last one, and REMOVE_EVENT the closing boundary. -/
def Framed (snipped : Prop) (snapshot : List TimeAndSale) : Prop :=
  ∀ before event after, snapshot = before ++ event :: after →
    (event.eventFlags.snapshotBegin = true ↔ before = []) ∧
      (event.eventFlags.snapshotEnd = true ↔ after = [] ∧ ¬ snipped) ∧
      (event.eventFlags.snapshotSnip = true ↔ after = [] ∧ snipped) ∧
      (event.eventFlags.removeEvent = true ↔ after = [] ∧ ¬ snipped)

/-- An element of a list is the first, the last, or one between them. -/
theorem position_cases {α : Type} {first last x : α} {middle before after : List α}
    (split : first :: middle ++ [last] = before ++ x :: after) :
    (before = [] ∧ after ≠ [] ∧ x = first) ∨ (before ≠ [] ∧ after ≠ [] ∧ x ∈ middle) ∨
      (before ≠ [] ∧ after = [] ∧ x = last) := by
  rcases before with _ | ⟨y, before⟩
  · obtain ⟨same, rest⟩ := List.cons.inj split
    refine .inl ⟨rfl, ?_, same.symm⟩
    intro empty
    simp [empty] at rest
  · have rest : middle ++ [last] = before ++ x :: after := (List.cons.inj split).2
    rcases List.eq_nil_or_concat after with rfl | ⟨inner, final, rfl⟩
    · obtain ⟨-, same⟩ := List.append_inj' rest rfl
      exact .inr (.inr ⟨by simp, rfl, (List.cons.inj same).1.symm⟩)
    · have regroup : middle ++ [last] = (before ++ x :: inner) ++ [final] := by
        rw [rest, List.concat_eq_append, List.append_assoc, List.cons_append]
      obtain ⟨same, -⟩ := List.append_inj' regroup rfl
      refine .inr (.inl ⟨by simp, by simp, ?_⟩)
      rw [same]
      simp

theorem position_singleton {α : Type} {only x : α} {before after : List α}
    (split : [only] = before ++ x :: after) : before = [] ∧ after = [] ∧ x = only := by
  rcases List.singleton_eq_append_iff.mp split with ⟨rfl, rest⟩ | ⟨rfl, rest⟩
  · obtain ⟨rfl, rfl⟩ := List.cons.inj rest
    exact ⟨rfl, rfl, rfl⟩
  · cases rest

/-- The flags of a snapshot are those of the positions. -/
theorem snapshotEvents_framed (found : Option TimeAndSaleHistory) (symbol : Text)
    (fromTime : Int) :
    Framed (isSnipped found fromTime = true) (snapshotEvents found symbol fromTime) := by
  intro before event after split
  have plain : ∀ records : List TimeAndSaleRecord,
      ∀ event ∈ records.map (makeTimeAndSale symbol), event.eventFlags = {} := by
    intro records event mem
    obtain ⟨record, -, rfl⟩ := List.mem_map.mp mem
    rfl
  rcases snapshotEvents_cases found symbol fromTime with
    ⟨cut, -, events⟩ | ⟨cut, newest, older, -, events⟩ | ⟨cut, only, -, events⟩ |
    ⟨cut, newest, middle, oldest, -, events⟩
  · obtain ⟨rfl, rfl, rfl⟩ := position_singleton (events.symm.trans split)
    simp [cut, boundaryEvent, EventFlags.or, EventFlags.SNAPSHOT_BEGIN, EventFlags.REMOVE_EVENT,
      EventFlags.SNAPSHOT_END]
  · rcases position_cases (events.symm.trans split) with
      ⟨rfl, later, rfl⟩ | ⟨earlier, later, mem⟩ | ⟨earlier, rfl, rfl⟩
    · simp [later, beginSnapshot, EventFlags.SNAPSHOT_BEGIN]
    · simp [earlier, later, plain _ _ mem]
    · simp [cut, earlier, boundaryEvent, EventFlags.or, EventFlags.REMOVE_EVENT,
        EventFlags.SNAPSHOT_END]
  · obtain ⟨rfl, rfl, rfl⟩ := position_singleton (events.symm.trans split)
    simp [cut, snipSnapshot, beginSnapshot, EventFlags.or, EventFlags.SNAPSHOT_BEGIN,
      EventFlags.SNAPSHOT_SNIP]
  · rcases position_cases (events.symm.trans split) with
      ⟨rfl, later, rfl⟩ | ⟨earlier, later, mem⟩ | ⟨earlier, rfl, rfl⟩
    · simp [later, beginSnapshot, EventFlags.SNAPSHOT_BEGIN]
    · simp [earlier, later, plain _ _ mem]
    · simp [cut, earlier, snipSnapshot, makeTimeAndSale, EventFlags.or, EventFlags.SNAPSHOT_SNIP]

/-- Apart from the flags, a snapshot is its requested records and, unless it is
snipped, the boundary event. -/
theorem snapshotEvents_unflagged (found : Option TimeAndSaleHistory) (symbol : Text)
    (fromTime : Int) :
    (snapshotEvents found symbol fromTime).map TimeAndSale.unflagged =
      (requestedRecords found fromTime).map (makeTimeAndSale symbol) ++
        if isSnipped found fromTime then [] else [boundaryEvent symbol fromTime {}] := by
  have plain : ∀ records : List TimeAndSaleRecord,
      (records.map (makeTimeAndSale symbol)).map TimeAndSale.unflagged =
        records.map (makeTimeAndSale symbol) := by
    intro records
    rw [List.map_map]
    rfl
  rcases snapshotEvents_cases found symbol fromTime with
    ⟨cut, records, events⟩ | ⟨cut, newest, older, records, events⟩ |
    ⟨cut, only, records, events⟩ | ⟨cut, newest, middle, oldest, records, events⟩
  · rw [events, records, cut]
    rfl
  · rw [events, records, cut, List.map_append, List.map_cons, plain, List.map_cons]
    rfl
  · rw [events, records, cut]
    rfl
  · rw [events, records, cut, if_pos rfl, List.append_nil]
    simp only [List.cons_append, List.map_cons, List.map_append, plain, List.map_nil]
    rfl

section Retained

variable {found : Option TimeAndSaleHistory}
  (sorted : (found.getD {}).records.Pairwise fun a b => a.timeNanos ≤ b.timeNanos)
  (fromTime : Int)

include sorted

/-- The scan that stops at the first older record misses none. -/
theorem requestedRecords_sorted : requestedRecords found fromTime =
    ((found.getD {}).records.filter (inRange fromTime)).reverse := by
  cases found with
  | none => rfl
  | some history => exact Lib.recent_eq (inRange_monotone sorted fromTime)

/-- A truncated history that starts after the requested time has a record of the
range, its oldest one. -/
theorem isSnipped_sorted : isSnipped found fromTime = true ↔
    (found.getD {}).truncated = true ∧ ∃ oldest, (found.getD {}).records.head? = some oldest ∧
      fromTime < millis oldest.timeNanos := by
  have requested := requestedRecords_sorted sorted fromTime
  rw [isSnipped, Bool.and_eq_true, requested]
  cases found with
  | none => simp [isTruncated]
  | some history =>
      obtain ⟨records, truncated⟩ := history
      cases records with
      | nil => simp [isTruncated]
      | cons oldest records =>
          simp only [isTruncated, List.head?_cons, Bool.and_eq_true, decide_eq_true_eq, gt_iff_lt,
            Option.getD_some, Option.some.injEq, exists_eq_left']
          constructor
          · rintro ⟨both, -⟩
            exact both
          · intro both
            have mem : oldest ∈ (oldest :: records).filter (inRange fromTime) :=
              List.mem_filter.mpr ⟨List.mem_cons_self, inRange_iff.mpr both.2.le⟩
            refine ⟨both, ?_⟩
            simp [List.ne_nil_of_mem mem]

end Retained

/-- Each snapshot of a task is well formed. The history of a symbol is the last
records retained for it, the snapshot of a request is its records of the range,
newest first, closed by the boundary event unless it is snipped, its flags are
those of the positions, and it is snipped exactly when the history was truncated
and starts after the requested time. -/
theorem snapshot_wellFormed (limit : Nat) (pending : PendingTask)
    (calls : List (Text × TimeAndSaleRecord)) (before after : List (Text × Int)) (symbol : Text)
    (sorted : (recordsOf symbol calls).Pairwise fun a b => a.timeNanos ≤ b.timeNanos)
    (fromTime : Int) :
    let task := retainAll limit (startTask pending) calls
    let records := recordsOf symbol calls
    let history := (task.timeAndSaleHistory symbol).getD {}
    let snipped := history.truncated = true ∧ ∃ oldest, history.records.head? = some oldest ∧
      fromTime < millis oldest.timeNanos
    history.records = records.drop (records.length - min records.length limit) ∧
      (history.truncated = true ↔ history.records.length < records.length) ∧
      ∃ snapshot boundary,
        (publishTimeSeriesSnapshots task (before ++ (symbol, fromTime) :: after)).events =
          (publishTimeSeriesSnapshots task before).events ++ snapshot ++
            (publishTimeSeriesSnapshots task after).events ∧
        snapshot.map TimeAndSale.unflagged =
          ((history.records.filter fun record => fromTime ≤ millis record.timeNanos).reverse.map
            (makeTimeAndSale symbol)) ++ boundary ∧
        (snipped → boundary = []) ∧
        (¬ snipped → boundary = [boundaryEvent symbol fromTime {}]) ∧
        snapshot ≠ [] ∧ Framed snipped snapshot := by
  intro task records history snipped
  have found : task.timeAndSaleHistory symbol = historyOf limit none records := by
    rw [retainAll_history, foldl_retainInto]
    rfl
  have kept : history = { records := records.drop (records.length - limit)
                          truncated := decide (records.length > limit) } := by
    rw [← historyOf_getD, ← found]
  have sortedKept : history.records.Pairwise fun a b => a.timeNanos ≤ b.timeNanos := by
    rw [kept]
    exact sorted.sublist (List.drop_sublist _ _)
  have cut : isSnipped (task.timeAndSaleHistory symbol) fromTime = true ↔ snipped :=
    isSnipped_sorted sortedKept fromTime
  let boundary := if isSnipped (task.timeAndSaleHistory symbol) fromTime then []
    else [boundaryEvent symbol fromTime {}]
  refine ⟨?_, ?_, _, boundary, publishTimeSeriesSnapshots_append task before after symbol fromTime,
    ?_, ?_, ?_, snapshotEvents_ne_nil _ _ _, ?_⟩
  · have dropped : records.length - min records.length limit = records.length - limit := by
      omega
    rw [kept, dropped]
  · rw [kept, decide_eq_true_eq, List.length_drop]
    omega
  · have range : (fun record : TimeAndSaleRecord => decide (fromTime ≤ millis record.timeNanos)) =
        inRange fromTime := by
      funext record
      simp [inRange]
    rw [snapshotEvents_unflagged, requestedRecords_sorted sortedKept, range]
  · intro short
    exact if_pos (cut.mpr short)
  · intro complete
    exact if_neg (mt cut.mp complete)
  · have framed := snapshotEvents_framed (task.timeAndSaleHistory symbol) symbol fromTime
    rwa [cut] at framed

/-- Three records in a history of two, requested from the first: the snapshot is
snipped at the second. -/
theorem snapshot_wellFormed_three :
    let symbol : Text := "SYM00".toList
    let pending : PendingTask :=
      ⟨"SUB:N1".toList, { items := [⟨.timeAndSale, 1⟩] }, 1, [symbol], [symbol]⟩
    let records : List TimeAndSaleRecord :=
      [⟨1000000, 1, .finite 101⟩, ⟨2000000, 2, .finite 102⟩, ⟨3000000, 3, .finite 103⟩]
    let task := retainAll 2 (startTask pending) (records.map fun record => (symbol, record))
    ∃ snapshot, (publishTimeSeriesSnapshots task [(symbol, 1)]).events = snapshot ∧
      snapshot.map TimeAndSale.unflagged =
        [makeTimeAndSale symbol ⟨3000000, 3, .finite 103⟩,
          makeTimeAndSale symbol ⟨2000000, 2, .finite 102⟩] ∧
      Framed True snapshot := by
  intro symbol pending records task
  have sorted : (recordsOf symbol (records.map fun record => (symbol, record))).Pairwise
      fun a b => a.timeNanos ≤ b.timeNanos := by
    decide
  obtain ⟨kept, -, snapshot, boundary, published, content, cut, -, -, framed⟩ :=
    snapshot_wellFormed 2 pending (records.map fun record => (symbol, record)) [] [] symbol
      sorted 1
  have snipped : ((task.timeAndSaleHistory symbol).getD {}).truncated = true ∧ ∃ oldest,
      ((task.timeAndSaleHistory symbol).getD {}).records.head? = some oldest ∧
        1 < millis oldest.timeNanos :=
    ⟨by decide, ⟨2000000, 2, .finite 102⟩, by decide, by decide⟩
  refine ⟨snapshot, by simpa [publishTimeSeriesSnapshots] using published, ?_, ?_⟩
  · rw [content, cut snipped, List.append_nil]
    decide
  · rwa [eq_true snipped] at framed

end LatencyTest
