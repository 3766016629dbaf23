import LatencyTest.Lib.Bounded
import LatencyTest.Server.Publications

/-!
The bounded TimeAndSale history and the snapshots taken from it
(`Generator::publishTimeSeriesSnapshots`). A snapshot of a symbol goes from the
newest retained record back to the requested time. It ends with a REMOVE event at
that time and SNAPSHOT_END when it is held to be complete, and with SNAPSHOT_SNIP
on its last record when the history was truncated inside the requested range.
Tracing of subscriptions is not modelled.
-/

namespace LatencyTest

open Lib (pushBounded recent)

/-! ### The source -/

/-- `timeNanos / 1'000'000`. -/
def millis (timeNanos : Int) : Int := timeNanos.tdiv 1000000

/-- Reconstructs a publishable TimeAndSale event from a retained record. -/
def makeTimeAndSale (symbol : Text) (record : TimeAndSaleRecord) : TimeAndSale where
  eventSymbol := symbol
  timeNanos := record.timeNanos
  sequence := record.sequence
  price := record.price
  size := .finite 1

/-- Whether records of the requested range may have been dropped. -/
def isTruncated (found : Option TimeAndSaleHistory) (fromTime : Int) : Bool :=
  match found with
  | none => false
  | some history =>
      history.truncated &&
        match history.records.head? with
        | none => false
        | some oldest => millis oldest.timeNanos > fromTime

/-- The retained records of the requested range, newest first. -/
def requestedRecords (found : Option TimeAndSaleHistory) (fromTime : Int) :
    List TimeAndSaleRecord :=
  match found with
  | none => []
  | some history =>
      history.records.reverse.takeWhile fun record => ¬ millis record.timeNanos < fromTime

/-- The event at the requested time that closes a complete snapshot. `setTime`
sets the milliseconds of the event time. -/
def boundaryEvent (symbol : Text) (fromTime : Int) (eventFlags : EventFlags) : TimeAndSale where
  eventSymbol := symbol
  timeNanos := fromTime * 1000000
  eventFlags := eventFlags

/-- Whether the snapshot of a request ends in the middle of its range. -/
def isSnipped (found : Option TimeAndSaleHistory) (fromTime : Int) : Bool :=
  isTruncated found fromTime && !(requestedRecords found fromTime).isEmpty

def beginSnapshot (event : TimeAndSale) : TimeAndSale :=
  { event with eventFlags := .SNAPSHOT_BEGIN }

def snipSnapshot (event : TimeAndSale) : TimeAndSale :=
  { event with eventFlags := event.eventFlags.or .SNAPSHOT_SNIP }

/-- The events of one request. -/
def snapshotEvents (found : Option TimeAndSaleHistory) (symbol : Text) (fromTime : Int) :
    List TimeAndSale :=
  let actual := (requestedRecords found fromTime).map (makeTimeAndSale symbol)
  let begun := actual.modifyHead beginSnapshot
  if isSnipped found fromTime then begun.modify (begun.length - 1) snipSnapshot
  else if actual = [] then
    [boundaryEvent symbol fromTime
      ((EventFlags.SNAPSHOT_BEGIN.or .REMOVE_EVENT).or .SNAPSHOT_END)]
  else begun ++ [boundaryEvent symbol fromTime (EventFlags.REMOVE_EVENT.or .SNAPSHOT_END)]

/-- A snapshot publication and the counts the publisher logs with it. -/
structure Snapshot where
  events : List TimeAndSale := []
  actualEvents : Nat := 0
  completeSnapshots : Nat := 0
  snippedSnapshots : Nat := 0
deriving DecidableEq

/-- The body of the loop over the requests. -/
def appendSnapshot (histories : Text → Option TimeAndSaleHistory) (snapshot : Snapshot)
    (request : Text × Int) : Snapshot :=
  let found := histories request.1
  { events := snapshot.events ++ snapshotEvents found request.1 request.2
    actualEvents := snapshot.actualEvents + (requestedRecords found request.2).length
    completeSnapshots := snapshot.completeSnapshots + if isSnipped found request.2 then 0 else 1
    snippedSnapshots := snapshot.snippedSnapshots + if isSnipped found request.2 then 1 else 0 }

/-- Publishes retained TimeAndSale HISTORY snapshots for newly requested symbols. -/
def publishTimeSeriesSnapshots (active : ActiveTask) (requests : List (Text × Int)) : Snapshot :=
  requests.foldl (appendSnapshot active.timeAndSaleHistory) {}

/-! ### The events of a snapshot -/

/-- The loop over the requests appends the events and adds the counts of each. -/
theorem foldl_appendSnapshot (histories : Text → Option TimeAndSaleHistory)
    (snapshot : Snapshot) (requests : List (Text × Int)) :
    requests.foldl (appendSnapshot histories) snapshot =
      { events := snapshot.events ++ requests.flatMap fun request =>
          snapshotEvents (histories request.1) request.1 request.2
        actualEvents := snapshot.actualEvents + (requests.map fun request =>
          (requestedRecords (histories request.1) request.2).length).sum
        completeSnapshots := snapshot.completeSnapshots + (requests.map fun request =>
          if isSnipped (histories request.1) request.2 then 0 else 1).sum
        snippedSnapshots := snapshot.snippedSnapshots + (requests.map fun request =>
          if isSnipped (histories request.1) request.2 then 1 else 0).sum } := by
  induction requests generalizing snapshot with
  | nil => simp
  | cons request requests ih => simp [ih, appendSnapshot, Nat.add_assoc]

/-- The snapshots of different requests are independent. -/
theorem publishTimeSeriesSnapshots_events (active : ActiveTask) (requests : List (Text × Int)) :
    (publishTimeSeriesSnapshots active requests).events =
      requests.flatMap fun request =>
        snapshotEvents (active.timeAndSaleHistory request.1) request.1 request.2 := by
  rw [publishTimeSeriesSnapshots, foldl_appendSnapshot]
  rfl

/-- Changing the last element in place. -/
theorem modify_last {α : Type} (change : α → α) (xs : List α) (x : α) :
    (xs ++ [x]).modify ((xs ++ [x]).length - 1) change = xs ++ [change x] := by
  rw [List.length_append, List.length_singleton, Nat.add_sub_cancel]
  induction xs with
  | nil => rfl
  | cons y xs ih =>
      rw [List.cons_append, List.length_cons, List.modify_succ_cons, ih, List.cons_append]

/-- The four forms of a snapshot: without records, with records and closed by the
boundary event, cut after its only record, cut after its last one. -/
theorem snapshotEvents_cases (found : Option TimeAndSaleHistory) (symbol : Text)
    (fromTime : Int) :
    let make := makeTimeAndSale symbol
    (isSnipped found fromTime = false ∧ requestedRecords found fromTime = [] ∧
        snapshotEvents found symbol fromTime = [boundaryEvent symbol fromTime
          ((EventFlags.SNAPSHOT_BEGIN.or .REMOVE_EVENT).or .SNAPSHOT_END)]) ∨
      (isSnipped found fromTime = false ∧ ∃ newest older,
        requestedRecords found fromTime = newest :: older ∧
        snapshotEvents found symbol fromTime = beginSnapshot (make newest) :: older.map make ++
          [boundaryEvent symbol fromTime (EventFlags.REMOVE_EVENT.or .SNAPSHOT_END)]) ∨
      (isSnipped found fromTime = true ∧ ∃ only, requestedRecords found fromTime = [only] ∧
        snapshotEvents found symbol fromTime = [snipSnapshot (beginSnapshot (make only))]) ∨
      (isSnipped found fromTime = true ∧ ∃ newest middle oldest,
        requestedRecords found fromTime = newest :: (middle ++ [oldest]) ∧
        snapshotEvents found symbol fromTime = beginSnapshot (make newest) :: middle.map make ++
          [snipSnapshot (make oldest)]) := by
  intro make
  unfold snapshotEvents
  dsimp only
  cases cut : isSnipped found fromTime with
  | false =>
      cases records : requestedRecords found fromTime with
      | nil => exact .inl ⟨rfl, rfl, rfl⟩
      | cons newest older => exact .inr (.inl ⟨rfl, newest, older, rfl, rfl⟩)
  | true =>
      refine .inr (.inr ?_)
      cases records : requestedRecords found fromTime with
      | nil => simp [isSnipped, records] at cut
      | cons newest older =>
          rcases List.eq_nil_or_concat older with rfl | ⟨middle, oldest, rfl⟩
          · exact .inl ⟨rfl, newest, rfl, rfl⟩
          · refine .inr ⟨rfl, newest, middle, oldest, by rw [List.concat_eq_append], ?_⟩
            rw [if_pos rfl, List.concat_eq_append, List.map_cons, List.modifyHead_cons,
              List.map_append, List.map_singleton, ← List.cons_append]
            exact modify_last snipSnapshot _ _

/-- A snapshot is its requested records followed, unless it is snipped, by one
REMOVE event with SNAPSHOT_END. -/
theorem snapshotEvents_split (found : Option TimeAndSaleHistory) (symbol : Text)
    (fromTime : Int) :
    ∃ actual closing, snapshotEvents found symbol fromTime = actual ++ closing ∧
      actual.map TimeAndSale.record = requestedRecords found fromTime ∧
      (∀ event ∈ actual, event.eventSymbol = symbol ∧ event.eventFlags.removeEvent = false ∧
        event.eventFlags.snapshotEnd = false) ∧
      (isSnipped found fromTime = true → closing = []) ∧
      (isSnipped found fromTime = false → ∃ flags, closing = [boundaryEvent symbol fromTime flags] ∧
        flags.removeEvent = true ∧ flags.snapshotEnd = true) := by
  have made : ∀ records : List TimeAndSaleRecord,
      (records.map (makeTimeAndSale symbol)).map TimeAndSale.record = records := by
    intro records
    rw [List.map_map]
    exact List.map_id _
  rcases snapshotEvents_cases found symbol fromTime with
    ⟨cut, records, events⟩ | ⟨cut, newest, older, records, events⟩ |
    ⟨cut, only, records, events⟩ | ⟨cut, newest, middle, oldest, records, events⟩
  · refine ⟨[], _, events, records.symm, by simp, ?_, fun _ => ⟨_, rfl, rfl, rfl⟩⟩
    rw [cut]
    simp
  · refine ⟨_, _, events, ?_, ?_, ?_, fun _ => ⟨_, rfl, rfl, rfl⟩⟩
    · rw [records, List.map_cons, made]
      rfl
    · simp [beginSnapshot, makeTimeAndSale, EventFlags.SNAPSHOT_BEGIN]
    · rw [cut]
      simp
  · refine ⟨_, [], events.trans (List.append_nil _).symm, ?_, ?_, fun _ => rfl, ?_⟩
    · rw [records]
      rfl
    · simp [snipSnapshot, beginSnapshot, makeTimeAndSale, EventFlags.or,
        EventFlags.SNAPSHOT_BEGIN, EventFlags.SNAPSHOT_SNIP]
    · rw [cut]
      simp
  · refine ⟨_, [], events.trans (List.append_nil _).symm, ?_, ?_, fun _ => rfl, ?_⟩
    · rw [records, List.cons_append, List.map_cons, List.map_append, made]
      rfl
    · simp [snipSnapshot, beginSnapshot, makeTimeAndSale, EventFlags.or,
        EventFlags.SNAPSHOT_BEGIN, EventFlags.SNAPSHOT_SNIP, or_imp, forall_and]
    · rw [cut]
      simp

/-- A snapshot starts with SNAPSHOT_BEGIN. -/
theorem snapshotEvents_begin (found : Option TimeAndSaleHistory) (symbol : Text)
    (fromTime : Int) : ∃ first rest, snapshotEvents found symbol fromTime = first :: rest ∧
      first.eventFlags.snapshotBegin = true := by
  rcases snapshotEvents_cases found symbol fromTime with
    ⟨-, -, events⟩ | ⟨-, newest, older, -, events⟩ | ⟨-, only, -, events⟩ |
    ⟨-, newest, middle, oldest, -, events⟩
  all_goals exact ⟨_, _, events, rfl⟩

/-- A snapshot has at least its boundary event or a cut record. -/
theorem snapshotEvents_ne_nil (found : Option TimeAndSaleHistory) (symbol : Text)
    (fromTime : Int) : snapshotEvents found symbol fromTime ≠ [] := by
  obtain ⟨first, rest, events, -⟩ := snapshotEvents_begin found symbol fromTime
  rw [events]
  exact List.cons_ne_nil first rest

/-- The snapshot events that are no REMOVE events are the requested records. -/
theorem snapshotEvents_actual (found : Option TimeAndSaleHistory) (symbol : Text)
    (fromTime : Int) :
    ((snapshotEvents found symbol fromTime).filter fun event => !event.eventFlags.removeEvent).map
        TimeAndSale.record = requestedRecords found fromTime := by
  obtain ⟨actual, closing, split, records, plain, snipped, complete⟩ :=
    snapshotEvents_split found symbol fromTime
  have kept : actual.filter (fun event => !event.eventFlags.removeEvent) = actual :=
    List.filter_eq_self.mpr fun event mem => by simp [(plain event mem).2.1]
  have gone : closing.filter (fun event => !event.eventFlags.removeEvent) = [] := by
    cases cut : isSnipped found fromTime with
    | true => simp [snipped cut]
    | false =>
        obtain ⟨flags, rfl, remove, -⟩ := complete cut
        simp [boundaryEvent, remove]
  rw [split, List.filter_append, kept, gone, List.append_nil, records]

/-- Every event of the snapshot is of the requested symbol. -/
theorem snapshotEvents_symbol {found : Option TimeAndSaleHistory} {symbol : Text}
    {fromTime : Int} {event : TimeAndSale} (mem : event ∈ snapshotEvents found symbol fromTime) :
    event.eventSymbol = symbol := by
  obtain ⟨actual, closing, split, -, plain, snipped, complete⟩ :=
    snapshotEvents_split found symbol fromTime
  rw [split] at mem
  rcases List.mem_append.mp mem with record | boundary
  · exact (plain event record).1
  · cases cut : isSnipped found fromTime with
    | true => simp [snipped cut] at boundary
    | false =>
        obtain ⟨flags, rfl, -, -⟩ := complete cut
        rw [List.mem_singleton.mp boundary]
        rfl

/-- A snapshot carries SNAPSHOT_END exactly when it is not snipped. -/
theorem snapshotEvents_end (found : Option TimeAndSaleHistory) (symbol : Text) (fromTime : Int) :
    (∃ event ∈ snapshotEvents found symbol fromTime, event.eventFlags.snapshotEnd = true) ↔
      isSnipped found fromTime = false := by
  obtain ⟨actual, closing, split, -, plain, snipped, complete⟩ :=
    snapshotEvents_split found symbol fromTime
  rw [split]
  cases cut : isSnipped found fromTime with
  | true =>
      rw [snipped cut, List.append_nil]
      constructor
      · rintro ⟨event, mem, ended⟩
        rw [(plain event mem).2.2] at ended
        cases ended
      · intro other
        cases other
  | false =>
      obtain ⟨flags, rfl, -, ended⟩ := complete cut
      exact ⟨fun _ => rfl,
        fun _ => ⟨_, List.mem_append_right _ (List.mem_singleton_self _), ended⟩⟩

/-! ### Everything ever published -/

/-- The records retained for one symbol, in order. -/
def recordsOf (symbol : Text) (calls : List (Text × TimeAndSaleRecord)) :
    List TimeAndSaleRecord :=
  (calls.filter (·.1 = symbol)).map Prod.snd

/-- The history of a symbol after its records were retained. -/
def historyOf (limit : Nat) (start : Option TimeAndSaleHistory)
    (records : List TimeAndSaleRecord) : Option TimeAndSaleHistory :=
  records.foldl (fun found record => some ((found.getD {}).retain limit record)) start

/-- The history of a symbol depends on the records of that symbol only. -/
theorem foldl_retainInto (limit : Nat) (histories : Text → Option TimeAndSaleHistory)
    (calls : List (Text × TimeAndSaleRecord)) (symbol : Text) :
    calls.foldl (retainInto limit) histories symbol =
      historyOf limit (histories symbol) (recordsOf symbol calls) := by
  induction calls generalizing histories with
  | nil => rfl
  | cons call calls ih =>
      rw [List.foldl_cons, ih]
      by_cases same : call.1 = symbol
      · subst same
        simp [retainInto, recordsOf, historyOf]
      · simp [retainInto, recordsOf, same, Function.update_of_ne (Ne.symm same)]

theorem historyOf_snoc (limit : Nat) (start : Option TimeAndSaleHistory)
    (records : List TimeAndSaleRecord) (record : TimeAndSaleRecord) :
    historyOf limit start (records ++ [record]) =
      some (((historyOf limit start records).getD {}).retain limit record) := by
  simp [historyOf]

theorem retain_eq (limit : Nat) (history : TimeAndSaleHistory) (record : TimeAndSaleRecord) :
    history.retain limit record =
      { records := pushBounded limit history.records record
        truncated := history.truncated || decide (history.records.length + 1 > limit) } := by
  unfold TimeAndSaleHistory.retain pushBounded
  dsimp only
  rw [List.length_append, List.length_singleton]
  split
  · rename_i full
    simp [full]
  · rename_i within
    simp [within]

/-- The history holds the last records and knows whether it dropped any. -/
theorem historyOf_getD (limit : Nat) (records : List TimeAndSaleRecord) :
    (historyOf limit none records).getD {} =
      { records := records.drop (records.length - limit)
        truncated := decide (records.length > limit) } := by
  induction records using List.reverseRecOn with
  | nil => simp [historyOf]
  | append_singleton records record ih =>
      have pushed : pushBounded limit (records.drop (records.length - limit)) record =
          (records ++ [record]).drop ((records ++ [record]).length - limit) := by
        rw [← Lib.foldl_pushBounded, ← Lib.foldl_pushBounded, List.foldl_append]
        rfl
      rw [historyOf_snoc, ih, retain_eq, Option.getD_some, pushed, List.length_drop,
        List.length_append, List.length_singleton, ← Bool.decide_or]
      congr 2
      rw [eq_iff_iff]
      omega

theorem historyOf_eq (limit : Nat) {records : List TimeAndSaleRecord} (nonempty : records ≠ []) :
    historyOf limit none records = some
      { records := records.drop (records.length - limit)
        truncated := decide (records.length > limit) } := by
  rw [← historyOf_getD]
  obtain ⟨before, last, rfl⟩ := List.eq_nil_or_concat records |>.resolve_left nonempty
  rw [List.concat_eq_append, historyOf_snoc]
  rfl

/-- The boundary of a full history falls inside one millisecond, and that is the
requested one: the newest dropped record has it, and so has the oldest kept. -/
def BoundaryLost (limit : Nat) (records : List TimeAndSaleRecord) (fromTime : Int) : Prop :=
  ∃ dropped newest oldest kept, records = dropped ++ newest :: oldest :: kept ∧
    (oldest :: kept).length = limit ∧ millis newest.timeNanos = fromTime ∧
    millis oldest.timeNanos = fromTime

theorem millis_mono {a b : Int} (h : a ≤ b) : millis a ≤ millis b :=
  Int.tdiv_le_tdiv (by omega) h

/-- Whether a record is of the requested range. -/
def inRange (fromTime : Int) (record : TimeAndSaleRecord) : Bool :=
  ¬ millis record.timeNanos < fromTime

theorem inRange_iff {fromTime : Int} {record : TimeAndSaleRecord} :
    inRange fromTime record = true ↔ fromTime ≤ millis record.timeNanos := by
  simp [inRange]

/-- Once records are of the requested range, later ones are. -/
theorem inRange_monotone {records : List TimeAndSaleRecord}
    (sorted : records.Pairwise fun a b => a.timeNanos ≤ b.timeNanos) (fromTime : Int) :
    records.Pairwise fun a b => inRange fromTime a = true → inRange fromTime b = true := by
  apply sorted.imp
  intro a b le here
  rw [inRange_iff] at here ⊢
  exact here.trans (millis_mono le)

/-- The snapshot of a request is not snipped although its boundary is lost. -/
theorem dropped_of_lost {limit : Nat} {records : List TimeAndSaleRecord} {fromTime : Int}
    (lost : BoundaryLost limit records fromTime) :
    isTruncated (some
        { records := records.drop (records.length - limit)
          truncated := decide (records.length > limit) }) fromTime = false ∧
      ∃ record ∈ records.take (records.length - limit), inRange fromTime record = true := by
  obtain ⟨dropped, newest, oldest, kept, rfl, length, atNewest, atOldest⟩ := lost
  have split : dropped ++ newest :: oldest :: kept = (dropped ++ [newest]) ++ oldest :: kept := by
    simp
  have count : (dropped ++ newest :: oldest :: kept).length - limit =
      (dropped ++ [newest]).length := by
    rw [split, List.length_append, length, Nat.add_sub_cancel]
  rw [count, split, List.take_left, List.drop_left]
  constructor
  · simp [isTruncated, atOldest]
  · exact ⟨newest, by simp, inRange_iff.mpr atNewest.ge⟩

/-- When a dropped record is of the requested range and the snapshot is not snipped,
its boundary is lost. -/
theorem lost_of_dropped {limit : Nat} (positive : 1 ≤ limit) {records : List TimeAndSaleRecord}
    (sorted : records.Pairwise fun a b => a.timeNanos ≤ b.timeNanos) {fromTime : Int}
    (complete : isSnipped (some
      { records := records.drop (records.length - limit)
        truncated := decide (records.length > limit) }) fromTime = false)
    {record : TimeAndSaleRecord} (mem : record ∈ records.take (records.length - limit))
    (here : inRange fromTime record = true) : BoundaryLost limit records fromTime := by
  have full : records.length > limit := by
    by_contra within
    rw [Nat.sub_eq_zero_of_le (not_lt.mp within)] at mem
    cases mem
  obtain ⟨dropped, newest, oldest, kept, before, after⟩ := Lib.exists_boundary positive full
  have length : (oldest :: kept).length = limit := by
    rw [← after, List.length_drop]
    omega
  have split : records = (dropped ++ [newest]) ++ oldest :: kept := by
    rw [← before, ← after, List.take_append_drop]
  have monotone := inRange_monotone sorted fromTime
  rw [split, List.pairwise_append] at sorted
  obtain ⟨droppedSorted, -, across⟩ := sorted
  -- The range goes on to the end: the newest dropped and the oldest kept record have it.
  have atMost : record.timeNanos ≤ newest.timeNanos := by
    rw [before] at mem
    rcases List.mem_append.mp mem with older | last
    · exact (List.pairwise_append.mp droppedSorted).2.2 record older newest (by simp)
    · rw [List.mem_singleton.mp last]
  have toNewest := millis_mono atMost
  have toOldest := millis_mono (across newest (by simp) oldest (by simp))
  have reached := inRange_iff.mp here
  have found : oldest ∈ recent (inRange fromTime) (oldest :: kept) := by
    rw [Lib.recent_eq (monotone.sublist (after ▸ List.drop_sublist _ _)), List.mem_reverse,
      List.mem_filter, inRange_iff]
    exact ⟨List.mem_cons_self, by omega⟩
  have notEmpty : requestedRecords (some
      { records := oldest :: kept, truncated := true }) fromTime ≠ [] := List.ne_nil_of_mem found
  have within : millis oldest.timeNanos ≤ fromTime := by
    by_contra later
    rw [after, decide_eq_true full] at complete
    simp [isSnipped, isTruncated, not_le.mp later, notEmpty] at complete
  exact ⟨dropped, newest, oldest, kept, by simp [split], length, by omega, by omega⟩

/-- A snapshot that claims to be complete has every record of the requested range
ever published, unless the boundary of the history was lost in the requested
millisecond. -/
theorem requested_complete_iff {limit : Nat} (positive : 1 ≤ limit)
    {records : List TimeAndSaleRecord}
    (sorted : records.Pairwise fun a b => a.timeNanos ≤ b.timeNanos) (fromTime : Int) :
    (isSnipped (historyOf limit none records) fromTime = false →
      (records.filter fun record => fromTime ≤ millis record.timeNanos).Subperm
        (requestedRecords (historyOf limit none records) fromTime)) ↔
      ¬ BoundaryLost limit records fromTime := by
  by_cases empty : records = []
  · subst empty
    simp [historyOf, requestedRecords, BoundaryLost]
  have range : (fun record : TimeAndSaleRecord => decide (fromTime ≤ millis record.timeNanos)) =
      inRange fromTime := by
    funext record
    simp [inRange]
  have requested : requestedRecords (historyOf limit none records) fromTime =
      recent (inRange fromTime) (records.drop (records.length - limit)) := by
    rw [historyOf_eq limit empty]
    rfl
  rw [range, requested, Lib.recent_complete_iff _ (inRange_monotone sorted fromTime),
    historyOf_eq limit empty]
  constructor
  · intro complete lost
    obtain ⟨notTruncated, record, mem, here⟩ := dropped_of_lost lost
    exact complete (by rw [isSnipped, notTruncated, Bool.false_and]) record mem here
  · intro notLost complete record mem here
    exact notLost (lost_of_dropped positive sorted complete mem here)

/-! ### Snapshots of a task -/

/-- A task after records were retained for any symbols. -/
def retainAll (limit : Nat) (active : ActiveTask) (calls : List (Text × TimeAndSaleRecord)) :
    ActiveTask :=
  calls.foldl (fun active call => active.retainTimeAndSale limit call.1 call.2) active

theorem retainAll_history (limit : Nat) (active : ActiveTask)
    (calls : List (Text × TimeAndSaleRecord)) :
    (retainAll limit active calls).timeAndSaleHistory =
      calls.foldl (retainInto limit) active.timeAndSaleHistory := by
  induction calls generalizing active with
  | nil => rfl
  | cons call calls ih => exact ih _

/-- The snapshot of one request in the publication for a list of requests. -/
theorem publishTimeSeriesSnapshots_append (active : ActiveTask)
    (before after : List (Text × Int)) (symbol : Text) (fromTime : Int) :
    (publishTimeSeriesSnapshots active (before ++ (symbol, fromTime) :: after)).events =
      (publishTimeSeriesSnapshots active before).events ++
        snapshotEvents (active.timeAndSaleHistory symbol) symbol fromTime ++
        (publishTimeSeriesSnapshots active after).events := by
  simp only [publishTimeSeriesSnapshots_events, List.flatMap_append, List.flatMap_cons,
    List.append_assoc]

/-- The events of a symbol are the snapshots of its requests. -/
theorem publishTimeSeriesSnapshots_filter (active : ActiveTask) (requests : List (Text × Int))
    (symbol : Text) :
    (publishTimeSeriesSnapshots active requests).events.filter (·.eventSymbol = symbol) =
      (requests.filter (·.1 = symbol)).flatMap fun request =>
        snapshotEvents (active.timeAndSaleHistory request.1) request.1 request.2 := by
  rw [publishTimeSeriesSnapshots_events]
  induction requests with
  | nil => rfl
  | cons request requests ih =>
      rw [List.flatMap_cons, List.filter_append, ih]
      by_cases same : request.1 = symbol
      · rw [List.filter_cons_of_pos (by simpa using same), List.flatMap_cons]
        congr 1
        exact List.filter_eq_self.mpr fun event mem => by simp [snapshotEvents_symbol mem, same]
      · have other : (snapshotEvents (active.timeAndSaleHistory request.1) request.1
            request.2).filter (·.eventSymbol = symbol) = [] :=
          List.filter_eq_nil_iff.mpr fun event mem => by simp [snapshotEvents_symbol mem, same]
        rw [other, List.nil_append, List.filter_cons_of_neg (by simpa using same)]

/-- A snapshot closed with SNAPSHOT_END has every record of the requested range
ever published for its symbol, exactly unless the history dropped a record of the
requested millisecond and kept the next one of that same millisecond. -/
theorem snapshot_end_complete_iff {limit : Nat} (positive : 1 ≤ limit) (pending : PendingTask)
    (calls : List (Text × TimeAndSaleRecord)) (before after : List (Text × Int)) (symbol : Text)
    (sorted : (recordsOf symbol calls).Pairwise fun a b => a.timeNanos ≤ b.timeNanos)
    (fromTime : Int) :
    let task := retainAll limit (startTask pending) calls
    ∃ snapshot, (publishTimeSeriesSnapshots task (before ++ (symbol, fromTime) :: after)).events =
        (publishTimeSeriesSnapshots task before).events ++ snapshot ++
          (publishTimeSeriesSnapshots task after).events ∧
      (∀ event ∈ snapshot, event.eventSymbol = symbol) ∧
      (((∃ event ∈ snapshot, event.eventFlags.snapshotEnd = true) →
        ((recordsOf symbol calls).filter fun record => fromTime ≤ millis record.timeNanos).Subperm
          ((snapshot.filter fun event => !event.eventFlags.removeEvent).map TimeAndSale.record)) ↔
        ¬ BoundaryLost limit (recordsOf symbol calls) fromTime) := by
  intro task
  refine ⟨_, publishTimeSeriesSnapshots_append task before after symbol fromTime,
    fun event mem => snapshotEvents_symbol mem, ?_⟩
  have history : task.timeAndSaleHistory symbol =
      historyOf limit none (recordsOf symbol calls) := by
    rw [retainAll_history, foldl_retainInto]
    rfl
  rw [history, snapshotEvents_end, snapshotEvents_actual]
  exact requested_complete_iff positive sorted fromTime

/-- Two records of one millisecond and a history of one: the snapshot ends with
SNAPSHOT_END and lacks the first. -/
theorem snapshot_end_incomplete :
    ¬ ∀ (limit : Nat) (pending : PendingTask) (calls : List (Text × TimeAndSaleRecord))
      (symbol : Text) (fromTime : Int), 1 ≤ limit →
      ((recordsOf symbol calls).Pairwise fun a b => a.timeNanos ≤ b.timeNanos) →
      let snapshot := (publishTimeSeriesSnapshots (retainAll limit (startTask pending) calls)
        [(symbol, fromTime)]).events
      (∃ event ∈ snapshot, event.eventFlags.snapshotEnd = true) →
      ((recordsOf symbol calls).filter fun record => fromTime ≤ millis record.timeNanos).Subperm
        ((snapshot.filter fun event => !event.eventFlags.removeEvent).map TimeAndSale.record) := by
  intro claim
  let symbol : Text := "SYM00".toList
  have contained := claim 1
    ⟨"SUB:N1".toList, { items := [⟨.timeAndSale, 1⟩] }, 1, [symbol], [symbol]⟩
    [(symbol, ⟨1000000, 1, .finite 101⟩), (symbol, ⟨1500000, 2, .finite 102⟩)] symbol 1
    (by decide) (by decide) (by decide)
  exact absurd contained.length_le (by decide)

/-- With one record a millisecond the snapshot is complete. -/
theorem snapshot_end_complete_two_millis :
    let symbol : Text := "SYM00".toList
    let pending : PendingTask :=
      ⟨"SUB:N1".toList, { items := [⟨.timeAndSale, 1⟩] }, 1, [symbol], [symbol]⟩
    let calls := [(symbol, ⟨1000000, 1, .finite 101⟩), (symbol, ⟨2000000, 2, .finite 102⟩)]
    ∃ snapshot, (publishTimeSeriesSnapshots (retainAll 1 (startTask pending) calls)
        [(symbol, 2)]).events = snapshot ∧
      ((∃ event ∈ snapshot, event.eventFlags.snapshotEnd = true) →
      ((recordsOf symbol calls).filter fun record => 2 ≤ millis record.timeNanos).Subperm
        ((snapshot.filter fun event => !event.eventFlags.removeEvent).map TimeAndSale.record)) := by
  intro symbol pending calls
  have kept : ¬ BoundaryLost 1 (recordsOf symbol calls) 2 := by
    rintro ⟨dropped, newest, oldest, kept, split, length, atNewest, atOldest⟩
    have records : recordsOf symbol calls =
        [⟨1000000, 1, .finite 101⟩, ⟨2000000, 2, .finite 102⟩] := by
      decide
    rw [records] at split
    cases dropped with
    | nil =>
        rw [List.nil_append, List.cons.injEq] at split
        rw [← split.1] at atNewest
        exact absurd atNewest (by decide)
    | cons first dropped =>
        have lengths := congrArg List.length split
        simp only [List.length_cons, List.length_append, List.length_nil] at lengths
        omega
  obtain ⟨snapshot, published, -, complete⟩ :=
    snapshot_end_complete_iff (le_refl 1) pending calls [] [] symbol (by decide) 2
  exact ⟨snapshot, by simpa [publishTimeSeriesSnapshots] using published, complete.mpr kept⟩

end LatencyTest
