import LatencyTest.Client.Evidence

/-!
The representation invariant of the pending batches. Whatever calls are made, in whatever
order and with any number of `beginMeasurement`, the batch that is pending under a sequence
is the replay of a group of items (`Tracks`), and a replay is what an entry should be
(`Represents`): consistent counters, a buffer that is empty once the timestamp is known, and
an observation time that no event of the batch is after.
-/

namespace LatencyTest

/-! ### Replays -/

namespace PendingBatch

theorem lastObserved_le_observe (batch : PendingBatch) (item : Item) :
    batch.lastObserved ≤ (batch.observe item).lastObserved := by
  cases item with
  | marker timestamp observed => exact le_max_left _ _
  | event event => exact le_max_left _ _
  | expire => exact le_rfl

/-- No event of a group was observed after the last observation of its batch. -/
theorem observed_le_replay {group : Group} {event : PendingEvent} (mem : event ∈ group.events) :
    event.observed ≤ (replay group).lastObserved := by
  induction group using List.reverseRecOn with
  | nil => cases mem
  | append_singleton group item ih =>
      rw [replay_snoc]
      rw [Group.events_append] at mem
      rcases List.mem_append.mp mem with earlier | last
      · exact (ih earlier).trans (lastObserved_le_observe _ item)
      · cases item with
        | event other =>
            rw [List.mem_singleton.mp last]
            exact le_max_right _ _
        | _ => cases last

/-- The first observation of a batch without a marker is that of its first event. -/
theorem replay_firstObserved {group : Group} (unmarked : group.markers = []) {first : PendingEvent}
    (head : group.events.head? = some first) :
    (replay group).firstObserved = first.observed := by
  induction group using List.reverseRecOn with
  | nil => cases head
  | append_singleton group item ih =>
      rw [Group.markers_append, List.append_eq_nil_iff] at unmarked
      rw [Group.events_append, List.head?_append] at head
      rw [replay_snoc]
      cases item with
      | marker timestamp observed => cases unmarked.2
      | event event =>
          simp only [observe, observeEvent, replay_received]
          cases before : Group.events group with
          | nil =>
              rw [before] at head
              cases head
              rfl
          | cons other events =>
              rw [before] at head ih
              rw [if_neg (by simp)]
              exact ih unmarked.1 head
      | expire =>
          apply ih unmarked.1
          simpa [Group.events] using head

theorem drained_fields (batch : PendingBatch) :
    batch.drained.received = batch.received ∧
      batch.drained.receivedByKind = batch.receivedByKind ∧
      batch.drained.firstObserved = batch.firstObserved ∧
      batch.drained.lastObserved = batch.lastObserved := by
  unfold drained
  cases batch.timestamp with
  | none => exact ⟨rfl, rfl, rfl, rfl⟩
  | some publishTime => exact ⟨rfl, rfl, rfl, rfl⟩

end PendingBatch

namespace Collector

/-! ### Runs with any number of beginnings -/

/-- The pending batches are the replays of accepted groups. -/
structure Tracks (c : Collector) (b : Batches) : Prop extends Replays c b where
  allowed : ∀ (k : Int) group, b.pending[k]? = some group → k ∉ c.preMeasurementSequences

theorem tracks_kept : Kept Tracks where
  accept := by
    intro c c' b sequence item h live accepted step
    refine ⟨h.toReplays.accept live accepted step, ?_⟩
    intro k group found
    rw [step.phase.preMeasurementSequences]
    rw [Batches.getElem?_accept] at found
    split_ifs at found with same finished
    · rw [same]
      exact ((acceptBatch_iff c sequence).mp accepted).1
    · exact h.allowed k group found
  close := by
    intro c b sequence batch h found
    refine ⟨h.toReplays.close found, ?_⟩
    intro k group remains
    rw [(finish_spec c sequence batch).phase.preMeasurementSequences]
    rw [Batches.close, Lib.getElem?_erase] at remains
    split at remains
    · cases remains
    · exact h.allowed k group remains
  congr := by
    intro c c' b h same pending _
    refine ⟨h.toReplays.congr same pending, ?_⟩
    rw [same.preMeasurementSequences]
    exact h.allowed
  ended h := ⟨⟨h.batches, h.pending, h.live⟩, h.allowed⟩

/-- Before the first `beginMeasurement` nothing is pending. -/
structure Reached (c : Collector) (b : Batches) : Prop extends Tracks c b where
  idle : c.measuring = false → ∀ k : Int, c.pending[k]? = none

theorem reached_nothing {c : Collector} {b : Batches} (pending : ∀ k : Int, c.pending[k]? = none)
    (groups : ∀ k : Int, b.pending[k]? = none)
    (live : ∀ group ∈ b.groups, group ≠ [] ∧ ∀ item ∈ group, item ≠ .expire) : Reached c b := by
  refine ⟨⟨replays_nothing pending groups live, ?_⟩, fun _ => pending⟩
  intro k group found
  rw [groups] at found
  cases found

theorem reached_create (pattern : TaskPattern) (timeout : Int) (allowConflation : Bool) :
    Reached (create pattern timeout allowConflation) {} :=
  reached_nothing (fun k => by simp [create]) (fun k => by simp) (by simp)

/-- Every call keeps the entries, whatever the phase. -/
theorem Reached.call {c : Collector} {b : Batches} (h : Reached c b) (api : DxApi) (call : Call) :
    Reached (c.call api call) (gatherCall api c b call) := by
  cases call with
  | handle events marketCallback observed duration =>
      cases phase : c.measuring with
      | true =>
          refine ⟨tracks_kept.handle h.toTracks api phase events marketCallback observed duration,
            ?_⟩
          intro stopped
          have still := (handle_follows api phase events marketCallback observed duration).1
          rw [Collector.call, still.measuring, phase] at stopped
          cases stopped
      | false =>
          -- Only the blacklist grows, and there is no entry that it could forbid.
          have groups : ∀ k : Int, b.pending[k]? = none := by
            intro k
            have here := h.batches k
            rw [h.idle phase k] at here
            exact Option.map_eq_none_iff.mp here.symm
          rw [Collector.call, handle_idle api phase, gatherCall, phase, if_neg Bool.false_ne_true]
          exact reached_nothing (h.idle phase) groups h.live
  | beginMeasurement =>
      refine reached_nothing (fun k => by simp [Collector.call, beginMeasurement])
        (fun k => by simp [gatherCall]) ?_
      intro group mem
      rcases Batches.mem_groups.mp mem with finished | ⟨k, found⟩
      · exact h.live group (Batches.mem_groups.mpr (.inl finished))
      · simp [gatherCall] at found
  | endMeasurement => exact ⟨tracks_kept.ended h.toTracks, h.idle⟩
  | takeWindow expireAll now =>
      refine ⟨tracks_kept.takeWindow h.toTracks api expireAll now, ?_⟩
      intro stopped k
      rw [Collector.call, (takeWindow_follows c expireAll now).1.measuring] at stopped
      rw [Collector.call, getElem?_takeWindow, h.idle stopped k]
      rfl

theorem Reached.run {c : Collector} {b : Batches} (h : Reached c b) (api : DxApi)
    (calls : List Call) : Reached (c.run api calls) (gather api c b calls) := by
  induction calls generalizing c b with
  | nil => exact h
  | cons call calls ih => exact ih (h.call api call)

/-! ### What an entry is -/

/-- What the entry of a sequence is, given the items it was made of. -/
structure Represents (c : Collector) (sequence : Int) (group : Group) (batch : PendingBatch) :
    Prop where
  allowed : sequence ∉ c.preMeasurementSequences
  timestamp : batch.timestamp = group.markers.head?
  received : batch.received = group.events.length
  receivedByKind : batch.received = ∑ kind, batch.receivedByKind kind
  observed : ∀ event ∈ group.events, event.observed ≤ batch.lastObserved
  marked : batch.timestamp.isSome → batch.events = [] ∧ batch.receivedByKind ≠ c.expectedByKind
  unmarked : batch.timestamp = none →
    1 ≤ batch.received ∧ batch.events = group.events ∧
      (∀ kind, (batch.events.filter (·.kind = kind)).length = batch.receivedByKind kind) ∧
      batch.events.head?.map PendingEvent.observed = some batch.firstObserved

theorem Tracks.represents {c : Collector} {b : Batches} (h : Tracks c b) {sequence : Int}
    {batch : PendingBatch} (found : c.pending[sequence]? = some batch) :
    ∃ group, b.pending[sequence]? = some group ∧ Represents c sequence group batch := by
  have shape := h.shape found
  obtain ⟨group, gathered, rfl⟩ := h.group_of_pending found
  obtain ⟨received, receivedByKind, firstObserved, lastObserved⟩ :=
    (PendingBatch.replay group).drained_fields
  obtain ⟨-, -, stamped, -⟩ :=
    drained_settlement (PendingBatch.replay group) c.expectedByKind
  rw [PendingBatch.replay_received] at received
  rw [PendingBatch.replay_receivedByKind] at receivedByKind
  rw [PendingBatch.replay_timestamp] at stamped
  refine ⟨group, gathered, h.allowed sequence group gathered, stamped, received, ?_, ?_, ?_, ?_⟩
  · rw [received, receivedByKind, group.sum_receivedByKind]
  · intro event mem
    rw [lastObserved]
    exact PendingBatch.observed_le_replay mem
  · intro known
    obtain ⟨publishTime, known⟩ := Option.isSome_iff_exists.mp known
    obtain ⟨incomplete, empty⟩ := shape.marked publishTime known
    refine ⟨empty, ?_⟩
    intro same
    rw [PendingBatch.complete, decide_eq_false_iff_not, same] at incomplete
    exact incomplete fun _ => rfl
  · intro unstamped
    have nonempty := shape.unmarked unstamped
    have kept : (PendingBatch.replay group).drained.events = group.events := by
      rw [stamped, ← PendingBatch.replay_timestamp] at unstamped
      rw [PendingBatch.drained, unstamped, PendingBatch.replay_events]
    rw [stamped, List.head?_eq_none_iff] at unstamped
    refine ⟨Nat.one_le_iff_ne_zero.mpr nonempty, kept, ?_, ?_⟩
    · intro kind
      rw [kept, receivedByKind]
      rfl
    · rw [received] at nonempty
      obtain ⟨first, rest, events⟩ :=
        List.exists_cons_of_length_pos (Nat.pos_of_ne_zero nonempty)
      have head : group.events.head? = some first := by rw [events, List.head?_cons]
      rw [kept, head, firstObserved, PendingBatch.replay_firstObserved unstamped head]
      rfl

/-- The entries of every reachable state are what they should be, and a window that does not
expire everything removes those whose reference time is older than the cutoff, and nothing
else. -/
theorem pending_represented (api : DxApi) (pattern : TaskPattern) (timeout : Int)
    (allowConflation : Bool) (calls : List Call) :
    let fresh := create pattern timeout allowConflation
    let c := fresh.run api calls
    (∀ (k : Int) batch, c.pending[k]? = some batch →
      ∃ group, (gather api fresh {} calls).pending[k]? = some group ∧
        Represents c k group batch) ∧
    ∀ now k : Int, (c.takeWindow false now).2.pending[k]? =
      (c.pending[k]?).filter fun batch =>
        decide (now - c.batchTimeout * 1000000 ≤ batch.timestamp.getD batch.firstObserved) := by
  intro fresh c
  have reached := (reached_create pattern timeout allowConflation).run api calls
  refine ⟨fun k batch found => reached.represents found, ?_⟩
  intro now k
  rw [getElem?_takeWindow]
  congr 1
  funext batch
  rw [expires, Bool.false_or, ← decide_not]
  exact decide_eq_decide.mpr not_lt

end Collector

end LatencyTest
