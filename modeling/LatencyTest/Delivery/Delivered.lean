import LatencyTest.Delivery.Counts

/-!
What a delivery client reports, in terms of the calls of its listeners. A counter counts the calls
that add to it between its two loads, none of them in part; a call within the elapsed time is one
of them; the maximum is that of a call (`Observed.delivered`).
-/

namespace LatencyTest.Delivery

open Lib (Shared)
open Lib.Shared (added amount amountOf completed counterOf)

variable {κ : Type} {listener : κ → Listener}

/-- The calls that add to a counter between two lengths of the history. -/
def countedCalls (history : List Entry) (loads : Nat × Nat) (calls : Nat) (counter : Counter) :
    Finset (Fin calls) :=
  Finset.univ.filter fun i => ∃ entry ∈ (history.take loads.2).drop loads.1,
    entry.thread = i ∧ amountOf counter entry.operation ≠ 0

/-- A report in terms of the calls of the listeners. A counter is loaded at two lengths of the
history, after the warm-up and before the elapsed time, and after the elapsed time; it is the sum
of what the calls in between add to it, and all calls that begin and end within the elapsed time
are among them. The maximum is over all calls, those of the warm-up included. -/
structure Delivered (listener : κ → Listener) (watches : Bool) (settings : Settings)
    (since : Int) (report : DeliveryReport) (world : World) (calls : List κ)
    (loads : Counter → Nat × Nat) : Prop where
  called : world.state.threads.map Lib.Thread.operations = calls.map listener
  measured : ∀ counter, report.measured counter =
    (∑ i ∈ countedCalls world.state.history (loads counter) calls.length counter,
      amount counter (listener calls[i])) % sizeLimit
  warm : ∃ warmAt ≤ report.startedSteady, Lasted watches since settings.warmup warmAt world ∧
    ∀ counter, ∀ entry ∈ world.state.history.drop (loads counter).1, warmAt ≤ entry.time
  started : ∀ counter, ∀ entry ∈ world.state.history.take (loads counter).1,
    entry.time ≤ report.startedSteady
  ended : ∀ counter, ∀ entry ∈ world.state.history.drop (loads counter).2,
    report.endedSteady ≤ entry.time
  elapsed : report.startedSteady ≤ report.endedSteady ∧ report.endedSteady ≤ world.steady
  lasts : Lasted watches report.startedSteady settings.duration report.endedSteady world
  complete : ∀ i : Fin calls.length, completed world.state.history i = listener calls[i] →
    (∀ entry ∈ world.state.history, entry.thread = i →
      report.startedSteady < entry.time ∧ entry.time < report.endedSteady) →
    ∀ counter, amount counter (listener calls[i]) ≠ 0 →
      i ∈ countedCalls world.state.history (loads counter) calls.length counter
  maximum_called : report.maximumBatch = 0 ∨ ∃ i : Fin calls.length,
    .raise report.maximumBatch ∈ listener calls[i]
  maximum_above : ∀ i : Fin calls.length, completed world.state.history i = listener calls[i] →
    (∀ entry ∈ world.state.history, entry.thread = i → entry.time < report.endedSteady) →
    ∀ value, .raise value ∈ listener calls[i] → value ≤ report.maximumBatch

/-- What a thread has completed in the past it has still completed. -/
theorem completed_begins {past history : List Entry} (isPrefix : past <+: history)
    (index : Nat) : completed past index <+: completed history index := by
  obtain ⟨later, rfl⟩ := isPrefix
  rw [Shared.completed_append]
  exact List.prefix_append _ _

/-- What a thread adds to a counter, it adds with one of its entries. -/
theorem amount_ne_zero_iff {history : List Entry} {index : Nat} {counter : Counter} :
    amount counter (completed history index) ≠ 0 ↔
      ∃ entry ∈ history, entry.thread = index ∧ amountOf counter entry.operation ≠ 0 := by
  constructor
  · intro adds
    by_contra none
    refine adds (List.sum_eq_zero_iff.mpr fun value mem => ?_)
    obtain ⟨operation, here, rfl⟩ := List.mem_map.mp mem
    obtain ⟨entry, own, rfl⟩ := List.mem_map.mp here
    obtain ⟨inHistory, same⟩ := List.mem_filter.mp own
    by_contra positive
    exact none ⟨entry, inHistory, of_decide_eq_true same, positive⟩
  · rintro ⟨entry, mem, own, positive⟩ nothing
    refine positive (List.sum_eq_zero_iff.mp nothing _ (List.mem_map_of_mem ?_))
    exact List.mem_map_of_mem (List.mem_filter.mpr ⟨mem, decide_eq_true own⟩)

section Counted

variable {watches : Bool} {settings : Settings} {since : Int} {report : DeliveryReport}
  {world : World} {calls : List κ}

/-- A call has completed the first ones of its operations. -/
theorem Sound.completed_begins_call (sound : Sound world)
    (called : world.state.threads.map Lib.Thread.operations = calls.map listener)
    (i : Fin calls.length) : completed world.state.history i <+: listener calls[i] := by
  have found : (world.state.threads.map Lib.Thread.operations)[i.val]? =
      some (listener calls[i]) := by
    rw [called, List.getElem?_map, List.getElem?_eq_getElem i.isLt]
    rfl
  rw [List.getElem?_map, Option.map_eq_some_iff] at found
  obtain ⟨thread, found, same⟩ := found
  rw [sound.linear.ordered i thread found, same]
  exact List.take_prefix _ _

/-- What a past adds to a counter, call by call. -/
theorem Sound.added_eq_sum (sound : Sound world)
    (called : world.state.threads.map Lib.Thread.operations = calls.map listener)
    {past : List Entry} (isPrefix : past <+: world.state.history) (counter : Counter) :
    added counter past = ∑ i : Fin calls.length, amount counter (completed past i) := by
  have length : world.state.threads.length = calls.length := by
    rw [← List.length_map Lib.Thread.operations, called, List.length_map]
  rw [Shared.added_eq_sum counter fun entry mem => sound.linear.known entry (isPrefix.subset mem),
    length, Finset.sum_range]

theorem Observed.second_happened {o : Observation}
    (observed : Observed watches settings since report o world) (counter : Counter) :
    o.second counter <+: world.state.history :=
  (observed.second counter).2.trans observed.last

theorem Observed.first_begins {o : Observation}
    (observed : Observed watches settings since report o world) (counter : Counter) :
    o.first counter <+: o.second counter :=
  (observed.first counter).2.trans (observed.between.trans (observed.second counter).1)

/-- The lengths of the history at the two loads of a counter. -/
def Observation.loads (o : Observation) (counter : Counter) : Nat × Nat :=
  ((o.first counter).length, (o.second counter).length)

/-- What happens between the two loads of a counter. -/
theorem Observed.between_loads {o : Observation}
    (observed : Observed watches settings since report o world) (counter : Counter) :
    o.second counter = o.first counter ++
      (world.state.history.take (o.loads counter).2).drop (o.loads counter).1 := by
  obtain ⟨later, grown⟩ := observed.first_begins counter
  have second := List.prefix_iff_eq_take.mp (observed.second_happened counter)
  dsimp only [Observation.loads]
  rw [← second, ← grown, List.drop_left]

/-- A call is counted if the counter has something new of it at its second load. -/
theorem Observed.mem_countedCalls {o : Observation}
    (observed : Observed watches settings since report o world) {counter : Counter}
    {i : Fin calls.length} :
    i ∈ countedCalls world.state.history (o.loads counter) calls.length counter ↔
      amount counter (completed (o.first counter) i) ≠
        amount counter (completed (o.second counter) i) := by
  rw [observed.between_loads counter, Shared.completed_append, Shared.amount_append, Ne,
    Nat.left_eq_add, countedCalls, Finset.mem_filter, ← Ne, amount_ne_zero_iff]
  exact and_iff_right (Finset.mem_univ i)

/-- What is not yet in a history comes after it. -/
theorem Observed.not_before_loads {o : Observation}
    (observed : Observed watches settings since report o world) (counter : Counter) :
    (∀ entry ∈ world.state.history.drop (o.loads counter).1, o.warmAt ≤ entry.time) ∧
      (∀ entry ∈ world.state.history.take (o.loads counter).1,
        entry.time ≤ report.startedSteady) ∧
        ∀ entry ∈ world.state.history.drop (o.loads counter).2,
          report.endedSteady ≤ entry.time := by
  refine ⟨fun entry mem => observed.warm.after entry ?_,
    fun entry mem => observed.started.before entry ?_,
    fun entry mem => observed.ended.after entry ?_⟩
  · exact List.drop_subset_drop_left _ (observed.first counter).1.length_le mem
  · have happened := (observed.first_begins counter).trans (observed.second_happened counter)
    rw [Observation.loads, ← List.prefix_iff_eq_take.mp happened] at mem
    exact (observed.first counter).2.subset mem
  · exact List.drop_subset_drop_left _ (observed.second counter).1.length_le mem

/-- A call within the elapsed time adds to its counters between their loads. -/
theorem Observed.counted_within {o : Observation}
    (observed : Observed watches settings since report o world) {i : Fin calls.length}
    (within : ∀ entry ∈ world.state.history, entry.thread = i →
      report.startedSteady < entry.time ∧ entry.time < report.endedSteady) {counter : Counter}
    (adds : amount counter (completed world.state.history i) ≠ 0) :
    i ∈ countedCalls world.state.history (o.loads counter) calls.length counter := by
  obtain ⟨entry, mem, own, positive⟩ := amount_ne_zero_iff.mp adds
  obtain ⟨late, early⟩ := within entry mem own
  obtain ⟨-, before, after⟩ := observed.not_before_loads counter
  have early' : entry ∈ world.state.history.take (o.loads counter).2 := by
    rw [← List.take_append_drop (o.loads counter).2 world.state.history] at mem
    exact (List.mem_append.mp mem).resolve_right fun rest => (after entry rest).not_gt early
  refine Finset.mem_filter.mpr ⟨Finset.mem_univ i, entry, ?_, own, positive⟩
  rw [← List.take_append_drop (o.loads counter).1 (world.state.history.take _)] at early'
  refine (List.mem_append.mp early').resolve_left fun past => (before entry ?_).not_gt late
  have shorter : (o.loads counter).1 ≤ (o.loads counter).2 :=
    (observed.first_begins counter).length_le
  rw [List.take_take, Nat.min_eq_left shorter] at past
  exact past

/-- The maximum is that of a call. -/
theorem Observed.maximum_called {o : Observation}
    (observed : Observed watches settings since report o world)
    (called : world.state.threads.map Lib.Thread.operations = calls.map listener) :
    report.maximumBatch = 0 ∨ ∃ i : Fin calls.length,
      .raise report.maximumBatch ∈ listener calls[i] := by
  rcases observed.maximum.1 with zero | ⟨entry, mem, raises⟩
  · exact .inl zero
  · right
    have inHistory := observed.last.subset mem
    have length : entry.thread < calls.length := by
      rw [← List.length_map listener, ← called, List.length_map]
      exact observed.sound.linear.known entry inHistory
    refine ⟨⟨entry.thread, length⟩, (observed.sound.completed_begins_call called _).subset ?_⟩
    rw [← raises]
    exact List.mem_map_of_mem (List.mem_filter.mpr ⟨inHistory, decide_eq_true rfl⟩)

/-- What a call raises before the end of the elapsed time the maximum has reached. -/
theorem Observed.maximum_above {o : Observation}
    (observed : Observed watches settings since report o world) (index : Nat)
    (before : ∀ entry ∈ world.state.history, entry.thread = index →
      entry.time < report.endedSteady)
    (value : Int) (mem : .raise value ∈ completed world.state.history index) :
    value ≤ report.maximumBatch := by
  obtain ⟨entry, here, raises⟩ := List.mem_map.mp mem
  obtain ⟨inHistory, own⟩ := List.mem_filter.mp here
  have early := before entry inHistory (of_decide_eq_true own)
  obtain ⟨rest, history⟩ := observed.ended.past_begins
  have inEnded : entry ∈ o.ended := by
    rw [← history] at inHistory
    refine (List.mem_append.mp inHistory).resolve_right fun late => ?_
    refine early.not_ge (observed.ended.after entry ?_)
    rw [← history, List.drop_left]
    exact late
  have second := observed.second .callbacks
  exact observed.maximum.2 (.inr ⟨entry, second.2.subset (second.1.subset inEnded), raises⟩)

/-- Of each call a counter has everything or nothing. -/
theorem Sound.amount_eq_zero_or_call
    (distinct : ∀ heard, ((listener heard).filterMap counterOf).Nodup)
    (sound : Sound world)
    (called : world.state.threads.map Lib.Thread.operations = calls.map listener)
    (counter : Counter) (i : Fin calls.length) {past : List Entry}
    (isPrefix : past <+: world.state.history) :
    amount counter (completed past i) = 0 ∨
      amount counter (completed past i) = amount counter (listener calls[i]) :=
  Shared.amount_eq_zero_or_whole (distinct _)
    ((completed_begins isPrefix i).trans (sound.completed_begins_call called i)) counter

section Loads

variable {o : Observation} (observed : Observed watches settings since report o world)
include observed

/-- What a call adds between the two loads of a counter. -/
theorem Observed.amount_sub
    (distinct : ∀ heard, ((listener heard).filterMap counterOf).Nodup)
    (called : world.state.threads.map Lib.Thread.operations = calls.map listener)
    (counter : Counter) (i : Fin calls.length) :
    amount counter (completed (o.second counter) i) -
        amount counter (completed (o.first counter) i) =
      if amount counter (completed (o.first counter) i) ≠
        amount counter (completed (o.second counter) i) then amount counter (listener calls[i])
      else 0 := by
  have grown := observed.first_begins counter
  have happened := observed.second_happened counter
  have le := Shared.amount_mono (completed_begins grown i) counter
  have first := observed.sound.amount_eq_zero_or_call distinct called counter i
    (grown.trans happened)
  have second := observed.sound.amount_eq_zero_or_call distinct called counter i happened
  split <;> omega

/-- The calls of which a counter has something new at its second load are what it measures. -/
theorem Observed.measured_eq_sum
    (distinct : ∀ heard, ((listener heard).filterMap counterOf).Nodup)
    (called : world.state.threads.map Lib.Thread.operations = calls.map listener)
    (counter : Counter) :
    report.measured counter =
      (∑ i ∈ countedCalls world.state.history (o.loads counter) calls.length counter,
        amount counter (listener calls[i])) % sizeLimit := by
  have grown := observed.first_begins counter
  have happened := observed.second_happened counter
  have le (i : Fin calls.length) := Shared.amount_mono (completed_begins grown i) counter
  have filtered : countedCalls world.state.history (o.loads counter) calls.length counter =
      Finset.univ.filter fun i : Fin calls.length =>
        amount counter (completed (o.first counter) i) ≠
          amount counter (completed (o.second counter) i) := by
    ext i
    rw [observed.mem_countedCalls, Finset.mem_filter]
    exact (and_iff_right (Finset.mem_univ i)).symm
  rw [observed.measured, observed.sound.added_eq_sum called happened,
    observed.sound.added_eq_sum called (grown.trans happened),
    ← Finset.sum_tsub_distrib _ fun i _ => le i,
    Finset.sum_congr rfl fun i _ => observed.amount_sub distinct called counter i,
    filtered, Finset.sum_filter]

theorem Observed.delivered
    (distinct : ∀ heard, ((listener heard).filterMap counterOf).Nodup)
    (called : world.state.threads.map Lib.Thread.operations = calls.map listener) :
    ∃ loads, Delivered listener watches settings since report world calls loads := by
  exact ⟨o.loads,
    { called := called
      measured := observed.measured_eq_sum distinct called
      warm := ⟨o.warmAt, observed.ordered.1, observed.warmed,
        fun counter => (observed.not_before_loads counter).1⟩
      started := fun counter => (observed.not_before_loads counter).2.1
      ended := fun counter => (observed.not_before_loads counter).2.2
      elapsed := ⟨observed.ordered.2, observed.ended.passed⟩
      lasts := observed.lasts
      complete := fun i done within counter adds => observed.counted_within within (by rwa [done])
      maximum_called := observed.maximum_called called
      maximum_above := fun i done before value mem =>
        observed.maximum_above i.val before value (done ▸ mem) }⟩

end Loads

end Counted

end LatencyTest.Delivery
