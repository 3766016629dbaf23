import LatencyTest.Client.Grouping

/-!
The batches of a run, as groups of items. The collector forgets an item as soon as
it is counted; `Batches` keeps it in the group of its batch, from the item that
creates the batch to the one that finishes it. `Gathers` says that the collector
is determined by these groups: its pending batches are their replays, and its
ledger is what the finished groups contribute and the others have contributed so
far. No restriction is put on what arrives (`gathers_run`).
-/

namespace LatencyTest

open Lib (entrySum entryWeight)

/-! ### Groups of a run -/

/-- The groups of a run: of the batches that were finished, in order, and of the
pending ones. -/
structure Batches where
  finished : List Group := []
  pending : Std.TreeMap Int Group := ∅

namespace Batches

/-- The items of the pending batch of a sequence. -/
def group (b : Batches) (sequence : Int) : Group := (b.pending[sequence]?).getD []

/-- An accepted item joins the batch of its sequence, which it may finish. -/
def accept (rules : Rules) (b : Batches) (sequence : Int) (item : Item) : Batches :=
  let group := b.group sequence ++ [item]
  if (PendingBatch.replay group).ready rules.expectedByKind then
    { finished := b.finished ++ [group], pending := b.pending.erase sequence }
  else { b with pending := b.pending.insert sequence group }

/-- The batch of a sequence is finished as it is. -/
def close (b : Batches) (sequence : Int) : Batches where
  finished := b.finished ++ [b.group sequence]
  pending := b.pending.erase sequence

/-- The groups of a run, finished or not. -/
def groups (b : Batches) : List Group := b.finished ++ b.pending.toList.map Prod.snd

@[simp] theorem groups_empty : ({} : Batches).groups = [] := rfl

/-- The pending groups after an item is accepted. -/
theorem getElem?_accept (rules : Rules) (b : Batches) (sequence : Int) (item : Item) (k : Int) :
    (b.accept rules sequence item).pending[k]? =
      if k = sequence then
        if (PendingBatch.replay (b.group sequence ++ [item])).ready rules.expectedByKind then none
        else some (b.group sequence ++ [item])
      else b.pending[k]? := by
  unfold accept
  dsimp only
  cases (PendingBatch.replay (b.group sequence ++ [item])).ready rules.expectedByKind with
  | true => exact Lib.getElem?_erase b.pending sequence k
  | false => exact Lib.getElem?_insert b.pending sequence k (b.group sequence ++ [item])

theorem mem_groups {b : Batches} {group : Group} :
    group ∈ b.groups ↔ group ∈ b.finished ∨ ∃ k : Int, b.pending[k]? = some group := by
  simp only [groups, List.mem_append, List.mem_map, Prod.exists,
    Std.TreeMap.mem_toList_iff_getElem?_eq_some]
  constructor
  · rintro (finished | ⟨k, _, found, rfl⟩)
    · exact .inl finished
    · exact .inr ⟨k, found⟩
  · rintro (finished | ⟨k, found⟩)
    · exact .inl finished
    · exact .inr ⟨k, group, found, rfl⟩

/-- An accepted item makes one new group. -/
theorem mem_groups_accept {rules : Rules} {b : Batches} {sequence : Int} {item : Item}
    {group : Group} (mem : group ∈ (b.accept rules sequence item).groups) :
    group = b.group sequence ++ [item] ∨ group ∈ b.groups := by
  rcases mem_groups.mp mem with finished | ⟨k, found⟩
  · unfold accept at finished
    dsimp only at finished
    split at finished
    · rcases List.mem_append.mp finished with old | new
      · exact .inr (mem_groups.mpr (.inl old))
      · exact .inl (List.mem_singleton.mp new)
    · exact .inr (mem_groups.mpr (.inl finished))
  · rw [getElem?_accept] at found
    split_ifs at found
    · cases found
      exact .inl rfl
    · exact .inr (mem_groups.mpr (.inr ⟨k, found⟩))

/-- A sum over the groups of a run, with a weight for the finished ones and one for
the others. -/
def total {M : Type} [AddCommMonoid M] (finished pending : Group → M) (b : Batches) : M :=
  (b.finished.map finished).sum + entrySum pending b.pending

section Total

variable {M : Type} [AddCommMonoid M] (finished pending : Group → M) (b : Batches)

@[simp] theorem total_empty : total finished pending ({} : Batches) = 0 := by
  simp [total]

/-- The sum without the batch of a sequence. -/
def others (sequence : Int) : M :=
  (b.finished.map finished).sum + entrySum pending (b.pending.erase sequence)

theorem total_eq_others (sequence : Int) :
    b.total finished pending =
      entryWeight pending b.pending[sequence]? + b.others finished pending sequence := by
  rw [total, others, Lib.entrySum_eq_add_erase pending b.pending sequence]
  abel

theorem total_close (sequence : Int) :
    (b.close sequence).total finished pending =
      finished (b.group sequence) + b.others finished pending sequence := by
  simp only [total, close, others, List.map_append, List.map_singleton, List.sum_append,
    List.sum_singleton]
  abel

theorem total_accept (rules : Rules) (sequence : Int) (item : Item) :
    (b.accept rules sequence item).total finished pending =
      (if (PendingBatch.replay (b.group sequence ++ [item])).ready rules.expectedByKind then
        finished (b.group sequence ++ [item]) else pending (b.group sequence ++ [item])) +
        b.others finished pending sequence := by
  unfold accept
  dsimp only
  cases (PendingBatch.replay (b.group sequence ++ [item])).ready rules.expectedByKind with
  | true =>
      simp only [↓reduceIte, total, others, List.map_append, List.map_singleton, List.sum_append,
        List.sum_singleton]
      abel
  | false =>
      simp only [Bool.false_eq_true, ↓reduceIte, total, others]
      rw [Lib.entrySum_eq_add_erase pending _ sequence, Lib.getElem?_insert, if_pos rfl,
        Lib.entryWeight_some]
      have rest : entrySum pending ((b.pending.insert sequence
          (b.group sequence ++ [item])).erase sequence) = entrySum pending
            (b.pending.erase sequence) := by
        refine Lib.entrySum_congr pending fun k => ?_
        rw [Lib.getElem?_erase, Lib.getElem?_erase, Lib.getElem?_insert]
        split
        · rfl
        · rfl
      rw [rest]
      abel

/-- A sum is determined by the weights of the groups of the run. -/
theorem total_congr {finished finished' pending pending' : Group → M} {b : Batches}
    (closed : ∀ group ∈ b.finished, finished group = finished' group)
    (opened : ∀ (k : Int) group, b.pending[k]? = some group → pending group = pending' group) :
    b.total finished pending = b.total finished' pending' := by
  rw [total, total, List.map_congr_left closed, Lib.entrySum_congr_weight opened]

theorem map_total {N : Type} [AddCommMonoid N] (hom : M →+ N) :
    hom (b.total finished pending) = b.total (hom ∘ finished) (hom ∘ pending) := by
  rw [total, map_add, map_list_sum, List.map_map, Lib.map_entrySum]
  rfl

/-- With one weight for all groups it does not matter which ones are finished. -/
theorem total_self (weight : Group → M) : b.total weight weight = (b.groups.map weight).sum := by
  rw [total, groups, List.map_append, List.sum_append, List.map_map]
  rfl

/-- A weight of groups that an item adds to, and that finishing does not change. -/
theorem total_close_self (weight : Group → M) (none : weight [] = 0) (sequence : Int) :
    (b.close sequence).total weight weight = b.total weight weight := by
  rw [total_close, total_eq_others weight weight b sequence, group]
  cases b.pending[sequence]? with
  | none => rw [Option.getD_none, none, Lib.entryWeight_none]
  | some group => rfl

theorem total_accept_self (weight : Group → M) (none : weight [] = 0) (rules : Rules)
    (sequence : Int) {item : Item} {gain : M}
    (adds : ∀ group, weight (group ++ [item]) = weight group + gain) :
    (b.accept rules sequence item).total weight weight = b.total weight weight + gain := by
  rw [total_accept, ite_self, adds, total_eq_others weight weight b sequence, group,
    add_right_comm]
  cases b.pending[sequence]? with
  | none => rw [Option.getD_none, none, Lib.entryWeight_none]
  | some group => rfl

end Total

end Batches

namespace Collector

/-! ### The groups along a run -/

/-- The groups after one event of a callback. -/
def gatherEvent (api : DxApi) (observed : Int) (c : Collector) (b : Batches) (event : Event) :
    Batches :=
  match itemOf api observed event with
  | none => b
  | some (sequence, item) => if c.acceptBatch sequence then b.accept c.rules sequence item else b

def gatherEvents (api : DxApi) (observed : Int) (c : Collector) (b : Batches) : List Event → Batches
  | [] => b
  | event :: events =>
      gatherEvents api observed (handleEvent api observed c event)
        (gatherEvent api observed c b event) events

/-- The groups after a call. `beginMeasurement` drops what is pending. -/
def gatherCall (api : DxApi) (c : Collector) (b : Batches) : Call → Batches
  | .handle events _ observed _ =>
      if c.measuring then
        gatherEvents api observed (c.receiveProfiles events).countCallback b events
      else b
  | .beginMeasurement => { b with pending := ∅ }
  | .endMeasurement => b
  | .takeWindow expireAll now => ((c.expired expireAll now).map Prod.fst).foldl Batches.close b

/-- The groups after a run. -/
def gather (api : DxApi) (c : Collector) (b : Batches) : List Call → Batches
  | [] => b
  | call :: calls => gather api (c.call api call) (gatherCall api c b call) calls

theorem gather_append (api : DxApi) (c : Collector) (b : Batches) (xs ys : List Call) :
    gather api c b (xs ++ ys) = gather api (c.run api xs) (gather api c b xs) ys := by
  induction xs generalizing c b with
  | nil => rfl
  | cons call xs ih => exact ih _ _

/-! ### Relations that the calls keep -/

/-- A relation between the collector and the groups that is kept by what a call is made of:
an accepted item, a finished batch, and a change outside correlation. -/
structure Kept (related : Collector → Batches → Prop) : Prop where
  accept : ∀ {c c' : Collector} {b : Batches} {sequence : Int} {item : Item}, related c b →
    item ≠ .expire → c.acceptBatch sequence = true → Steps c c' sequence item →
    related c' (b.accept c.rules sequence item)
  close : ∀ {c : Collector} {b : Batches} {sequence : Int} {batch : PendingBatch}, related c b →
    c.pending[sequence]? = some batch → related (c.finish sequence batch) (b.close sequence)
  congr : ∀ {c c' : Collector} {b : Batches}, related c b → SamePhase c c' →
    (∀ k : Int, c'.pending[k]? = c.pending[k]?) → c'.ledger = c.ledger → related c' b
  ended : ∀ {c : Collector} {b : Batches}, related c b → related c.endMeasurement b

namespace Kept

variable {related : Collector → Batches → Prop}

/-- One event of a callback. -/
theorem event (kept : Kept related) {c : Collector} {b : Batches} (h : related c b) (api : DxApi)
    (observed : Int) (event : Event) :
    related (handleEvent api observed c event) (gatherEvent api observed c b event) := by
  have step := handleEvent_spec api observed c event
  unfold gatherEvent
  cases carried : itemOf api observed event with
  | none =>
      rw [carried] at step
      have same : Gains c (handleEvent api observed c event) 0 := step
      exact kept.congr h same.phase (fun k => by rw [same.pending]) (by rw [same.ledger, add_zero])
  | some entry =>
      obtain ⟨sequence, item⟩ := entry
      rw [carried] at step
      have live := itemOf_live carried
      dsimp only
      cases accepted : c.acceptBatch sequence with
      | true => exact kept.accept h live accepted step
      | false =>
          rw [StepsBy, Steps, step_rejected live accepted] at step
          refine kept.congr h step.phase ?_ (by rw [step.ledger, add_zero])
          intro k
          rw [step.pending]
          split
          · rename_i same
            rw [same]
            rfl
          · rfl

theorem events (kept : Kept related) {c : Collector} {b : Batches} (h : related c b) (api : DxApi)
    (observed : Int) (events : List Event) :
    related (events.foldl (handleEvent api observed) c)
      (gatherEvents api observed c b events) := by
  induction events generalizing c b with
  | nil => exact h
  | cons event events ih => exact ih (kept.event h api observed event)

/-- A callback of the measurement. -/
theorem handle (kept : Kept related) {c : Collector} {b : Batches} (h : related c b) (api : DxApi)
    (measuring : c.measuring = true) (events : List Event) (marketCallback : Bool)
    (observed duration : Int) :
    related (c.call api (.handle events marketCallback observed duration))
      (gatherCall api c b (.handle events marketCallback observed duration)) := by
  have counted : related (c.receiveProfiles events).countCallback b :=
    kept.congr h ⟨rfl, rfl, rfl, rfl, rfl, rfl⟩ (fun _ => rfl) rfl
  have processed := kept.events counted api observed events
  rw [Collector.call, handle_measuring api measuring, gatherCall, if_pos measuring]
  dsimp only
  split
  · exact kept.congr processed ⟨rfl, rfl, rfl, rfl, rfl, rfl⟩ (fun _ => rfl) rfl
  · exact processed

/-- The expiry loop over entries of distinct sequences, all of them pending. -/
theorem foldl_finish (kept : Kept related) {c : Collector} {b : Batches} (h : related c b)
    {entries : List (Int × PendingBatch)} (expires : PendingBatch → Bool)
    (distinct : entries.Pairwise fun a b => a.1 ≠ b.1)
    (found : ∀ entry ∈ entries, c.pending[entry.1]? = some entry.2) :
    related (entries.foldl
      (fun current entry => if expires entry.2 then current.finish entry.1 entry.2 else current) c)
      (((entries.filter fun entry => expires entry.2).map Prod.fst).foldl Batches.close b) := by
  induction entries generalizing c b with
  | nil => exact h
  | cons entry entries ih =>
      obtain ⟨fresh, distinct⟩ := List.pairwise_cons.mp distinct
      have here := found entry List.mem_cons_self
      rw [List.foldl_cons]
      by_cases due : expires entry.2 = true
      · rw [if_pos due, List.filter_cons_of_pos (by simpa using due), List.map_cons,
          List.foldl_cons]
        apply ih (kept.close h here) distinct
        intro other mem
        rw [(finish_spec c entry.1 entry.2).pending, if_neg (fresh other mem).symm]
        exact found other (List.mem_cons_of_mem _ mem)
      · rw [if_neg due, List.filter_cons_of_neg (by simpa using due)]
        exact ih h distinct fun other mem => found other (List.mem_cons_of_mem _ mem)

theorem takeWindow (kept : Kept related) {c : Collector} {b : Batches} (h : related c b)
    (api : DxApi) (expireAll : Bool) (now : Int) :
    related (c.call api (.takeWindow expireAll now))
      (gatherCall api c b (.takeWindow expireAll now)) := by
  have expired := kept.foldl_finish h (c.expires expireAll now)
    (Lib.toList_keys_pairwise c.pending)
    fun _ mem => Std.TreeMap.mem_toList_iff_getElem?_eq_some.mp mem
  exact kept.congr expired ⟨rfl, rfl, rfl, rfl, rfl, rfl⟩ (fun _ => rfl) rfl

/-- One call during the measurement. -/
theorem call (kept : Kept related) {c : Collector} {b : Batches} (h : related c b) (api : DxApi)
    (measuring : c.measuring = true) {call : Call} (noBegin : call ≠ .beginMeasurement) :
    related (c.call api call) (gatherCall api c b call) := by
  cases call with
  | handle events marketCallback observed duration =>
      exact kept.handle h api measuring events marketCallback observed duration
  | beginMeasurement => exact absurd rfl noBegin
  | endMeasurement => exact kept.ended h
  | takeWindow expireAll now => exact kept.takeWindow h api expireAll now

end Kept

/-! ### The pending batches are the replays of their groups -/

/-- A group of a batch that is pending: it has items, and they do not complete it. -/
structure Pending (expectedByKind : RegularKind → Nat) (group : Group) : Prop where
  nonempty : group ≠ []
  unfinished : (PendingBatch.replay group).ready expectedByKind = false

structure Replays (c : Collector) (b : Batches) : Prop where
  batches : ∀ k : Int, c.pending[k]? =
    (b.pending[k]?).map fun group => (PendingBatch.replay group).drained
  pending : ∀ (k : Int) group, b.pending[k]? = some group → Pending c.expectedByKind group
  live : ∀ group ∈ b.groups, group ≠ [] ∧ ∀ item ∈ group, item ≠ .expire

namespace Replays

variable {c : Collector} {b : Batches}

/-- The group of a pending batch. -/
theorem group_of_pending (h : Replays c b) {sequence : Int} {batch : PendingBatch}
    (found : c.pending[sequence]? = some batch) :
    ∃ group, b.pending[sequence]? = some group ∧ (PendingBatch.replay group).drained = batch := by
  rw [h.batches] at found
  exact Option.map_eq_some_iff.mp found

/-- The batch of a sequence is the one its group leads to. -/
theorem batchAfter (h : Replays c b) (sequence : Int) :
    c.batches sequence = c.rules.batchAfter (b.group sequence) ∧
      (PendingBatch.replay (b.group sequence)).ready c.expectedByKind = false := by
  have here := h.batches sequence
  rw [Collector.batches, here, Batches.group]
  cases found : b.pending[sequence]? with
  | none => exact ⟨rfl, by simp [PendingBatch.ready, PendingBatch.replay]⟩
  | some group =>
      have pending := h.pending sequence group found
      exact ⟨(Rules.batchAfter_unfinished pending.nonempty pending.unfinished).symm,
        pending.unfinished⟩

/-- The items of a pending group are live. -/
theorem live_group (h : Replays c b) (sequence : Int) :
    ∀ item ∈ b.group sequence, item ≠ .expire := by
  intro item mem
  rw [Batches.group] at mem
  cases found : b.pending[sequence]? with
  | none =>
      rw [found] at mem
      cases mem
  | some group =>
      rw [found] at mem
      exact (h.live group (Batches.mem_groups.mpr (.inr ⟨sequence, found⟩))).2 item mem

/-- An accepted item changes the batch of its sequence as it changes the replay. -/
theorem advances (h : Replays c b) {c' : Collector} {sequence : Int} {item : Item}
    (live : item ≠ .expire) (accepted : c.acceptBatch sequence = true)
    (step : Steps c c' sequence item) :
    ∃ gain, Advances c c' sequence (c.rules.batchAfter (b.group sequence ++ [item])) gain ∧
      c.rules.ledgerAfter (b.group sequence) + gain =
        c.rules.ledgerAfter (b.group sequence ++ [item]) := by
  obtain ⟨current, unfinished⟩ := h.batchAfter sequence
  obtain ⟨state, gain⟩ := @Rules.accept_batchAfter c.rules _ _ live unfinished
  rw [Steps, step_accepted live accepted, current, state] at step
  exact ⟨_, step, gain⟩

theorem accept (h : Replays c b) {c' : Collector} {sequence : Int} {item : Item}
    (live : item ≠ .expire) (accepted : c.acceptBatch sequence = true)
    (step : Steps c c' sequence item) : Replays c' (b.accept c.rules sequence item) := by
  obtain ⟨gain, step, -⟩ := h.advances live accepted step
  have alive : ∀ other ∈ b.group sequence ++ [item], other ≠ .expire := by
    intro other mem
    rcases List.mem_append.mp mem with old | new
    · exact h.live_group sequence other old
    · rw [List.mem_singleton.mp new]
      exact live
  constructor
  · intro k
    rw [step.pending, Batches.getElem?_accept, Rules.batchAfter]
    by_cases same : k = sequence
    · rw [if_pos same, if_pos same]
      cases (PendingBatch.replay (b.group sequence ++ [item])).ready c.rules.expectedByKind with
      | true => simp
      | false => simp
    · rw [if_neg same, if_neg same]
      exact h.batches k
  · intro k group found
    rw [step.phase.expectedByKind]
    rw [Batches.getElem?_accept] at found
    split_ifs at found with same finished
    · cases found
      exact ⟨by simp, Bool.eq_false_iff.mpr finished⟩
    · exact h.pending k group found
  · intro group mem
    rcases Batches.mem_groups_accept mem with rfl | old
    · exact ⟨by simp, alive⟩
    · exact h.live group old

theorem close (h : Replays c b) {sequence : Int} {batch : PendingBatch}
    (found : c.pending[sequence]? = some batch) :
    Replays (c.finish sequence batch) (b.close sequence) := by
  have step := finish_spec c sequence batch
  obtain ⟨group, gathered, rfl⟩ := h.group_of_pending found
  have named : b.group sequence = group := by rw [Batches.group, gathered, Option.getD_some]
  constructor
  · intro k
    rw [step.pending, Batches.close, Lib.getElem?_erase]
    split
    · rfl
    · exact h.batches k
  · intro k other found
    rw [step.phase.expectedByKind]
    rw [Batches.close, Lib.getElem?_erase] at found
    split at found
    · cases found
    · exact h.pending k other found
  · intro other mem
    rw [Batches.mem_groups, Batches.close, named] at mem
    rcases mem with finished | ⟨k, found⟩
    · rcases List.mem_append.mp finished with old | new
      · exact h.live other (Batches.mem_groups.mpr (.inl old))
      · rw [List.mem_singleton.mp new]
        exact h.live group (Batches.mem_groups.mpr (.inr ⟨sequence, gathered⟩))
    · rw [Lib.getElem?_erase] at found
      split at found
      · cases found
      · exact h.live other (Batches.mem_groups.mpr (.inr ⟨k, found⟩))

/-- A change outside correlation. -/
theorem congr (h : Replays c b) {c' : Collector} (same : SamePhase c c')
    (pending : ∀ k : Int, c'.pending[k]? = c.pending[k]?) : Replays c' b := by
  constructor
  · intro k
    rw [pending]
    exact h.batches k
  · intro k group found
    rw [same.expectedByKind]
    exact h.pending k group found
  · exact h.live

end Replays

/-- With nothing pending on either side there is nothing to replay. -/
theorem replays_nothing {c : Collector} {b : Batches} (pending : ∀ k : Int, c.pending[k]? = none)
    (groups : ∀ k : Int, b.pending[k]? = none)
    (live : ∀ group ∈ b.groups, group ≠ [] ∧ ∀ item ∈ group, item ≠ .expire) : Replays c b := by
  refine ⟨?_, ?_, live⟩
  · intro k
    rw [pending, groups]
    rfl
  · intro k group found
    rw [groups] at found
    cases found

/-! ### The collector is determined by its groups -/

structure Gathers (c : Collector) (b : Batches) : Prop where
  batches : ∀ k : Int, c.pending[k]? =
    (b.pending[k]?).map fun group => (PendingBatch.replay group).drained
  pending : ∀ (k : Int) group, b.pending[k]? = some group → Pending c.expectedByKind group
  live : ∀ group ∈ b.groups, group ≠ [] ∧ ∀ item ∈ group, item ≠ .expire
  ledger : c.ledger = b.total c.rules.contribution c.rules.ledgerAfter

theorem Gathers.replays {c : Collector} {b : Batches} (h : Gathers c b) : Replays c b :=
  ⟨h.batches, h.pending, h.live⟩

theorem Replays.gathers {c : Collector} {b : Batches} (h : Replays c b)
    (ledger : c.ledger = b.total c.rules.contribution c.rules.ledgerAfter) : Gathers c b :=
  ⟨h.batches, h.pending, h.live, ledger⟩

/-- The weight of the group of a sequence in the ledger. -/
theorem Gathers.ledgerAfter {c : Collector} {b : Batches} (sequence : Int) :
    entryWeight c.rules.ledgerAfter b.pending[sequence]? =
      c.rules.ledgerAfter (b.group sequence) := by
  rw [Batches.group]
  cases b.pending[sequence]? with
  | none => rfl
  | some group => rfl

/-- An accepted item. -/
theorem Gathers.accept {c c' : Collector} {b : Batches} (h : Gathers c b) {sequence : Int}
    {item : Item} (live : item ≠ .expire) (accepted : c.acceptBatch sequence = true)
    (step : Steps c c' sequence item) : Gathers c' (b.accept c.rules sequence item) := by
  apply (h.replays.accept live accepted step).gathers
  obtain ⟨_, step, gain⟩ := h.replays.advances live accepted step
  have closed : c.rules.ledgerAfter (b.group sequence ++ [item]) =
      if (PendingBatch.replay (b.group sequence ++ [item])).ready c.rules.expectedByKind then
        c.rules.contribution (b.group sequence ++ [item])
      else c.rules.ledgerAfter (b.group sequence ++ [item]) := by
    split
    · rename_i finished
      rw [← Rules.ledgerAfter_flush, Rules.batchAfter, if_pos (.inr finished),
        Lib.entryWeight_none, add_zero]
    · rfl
  rw [step.ledger, step.phase.rules_eq, h.ledger, b.total_accept, b.total_eq_others _ _ sequence,
    Gathers.ledgerAfter, add_right_comm, gain, ← closed]

/-- Finishing a pending batch. -/
theorem Gathers.close {c : Collector} {b : Batches} (h : Gathers c b) {sequence : Int}
    {batch : PendingBatch} (found : c.pending[sequence]? = some batch) :
    Gathers (c.finish sequence batch) (b.close sequence) := by
  apply (h.replays.close found).gathers
  have step := finish_spec c sequence batch
  obtain ⟨group, gathered, rfl⟩ := h.replays.group_of_pending found
  have named : b.group sequence = group := by rw [Batches.group, gathered, Option.getD_some]
  have pending := h.pending sequence group gathered
  have flush := Rules.ledgerAfter_flush c.rules group
  rw [Rules.batchAfter_unfinished pending.nonempty pending.unfinished, Lib.entryWeight_some]
    at flush
  rw [step.ledger, step.phase.rules_eq, h.ledger, b.total_close, b.total_eq_others _ _ sequence,
    Gathers.ledgerAfter, named, add_right_comm, flush]

/-- A change outside correlation. -/
theorem Gathers.congr {c c' : Collector} {b : Batches} (h : Gathers c b) (same : SamePhase c c')
    (pending : ∀ k : Int, c'.pending[k]? = c.pending[k]?) (ledger : c'.ledger = c.ledger) :
    Gathers c' b :=
  (h.replays.congr same pending).gathers (by rw [ledger, same.rules_eq, h.ledger])

theorem Gathers.gains {c c' : Collector} {b : Batches} (h : Gathers c b) (same : Gains c c' 0) :
    Gathers c' b :=
  h.congr same.phase (fun k => by rw [same.pending]) (by rw [same.ledger, add_zero])

theorem gathers_kept : Kept Gathers where
  accept h := h.accept
  close h := h.close
  congr h := h.congr
  ended h := ⟨h.batches, h.pending, h.live, h.ledger⟩

/-- A run of a measuring collector. -/
theorem gathers_run (api : DxApi) {c : Collector} {b : Batches} (h : Gathers c b)
    (measuring : c.measuring = true) {calls : List Call} (noBegin : .beginMeasurement ∉ calls) :
    Gathers (c.run api calls) (gather api c b calls) := by
  induction calls generalizing c b with
  | nil => exact h
  | cons call calls ih =>
      obtain ⟨ne, noBegin⟩ := not_or.mp (mt List.mem_cons.mpr noBegin)
      have still := (call_follows api measuring (Ne.symm ne)).1.measuring.trans measuring
      exact ih (gathers_kept.call h api measuring (Ne.symm ne)) still noBegin

/-- Without pending batches and with an empty ledger, no item has been gathered. -/
theorem gathers_nothing {c : Collector} (none : ∀ k : Int, c.pending[k]? = none)
    (ledger : c.ledger = 0) : Gathers c {} := by
  have replays : Replays c {} := replays_nothing none (fun k => by simp) (by simp)
  exact replays.gathers (by rw [ledger, Batches.total_empty])

theorem gathers_begun {c : Collector} {rules : Rules} {blacklisted : Finset Int}
    (begun : Begun c rules blacklisted) : Gathers c {} :=
  gathers_nothing (congrFun begun.batches) begun.ledger

/-- Before the measurement nothing is gathered. -/
theorem gather_idle (api : DxApi) {c : Collector} (idle : Idle c) {calls : List Call}
    (noBegin : .beginMeasurement ∉ calls) : gather api c {} calls = {} := by
  induction calls generalizing c with
  | nil => rfl
  | cons call calls ih =>
      obtain ⟨ne, noBegin⟩ := not_or.mp (mt List.mem_cons.mpr noBegin)
      have nothing : gatherCall api c {} call = {} := by
        cases call with
        | handle events marketCallback observed duration =>
            rw [gatherCall, if_neg (by rw [idle.measuring]; exact Bool.false_ne_true)]
        | beginMeasurement => exact absurd rfl ne
        | endMeasurement => rfl
        | takeWindow expireAll now =>
            rw [gatherCall, expired, idle.pending]
            rfl
      rw [gather, nothing]
      exact ih (idle_call api idle (Ne.symm ne)).1 noBegin

theorem gathers_idle {c : Collector} (idle : Idle c) : Gathers c {} := by
  have none : ∀ k : Int, c.pending[k]? = none := by
    intro k
    rw [Option.eq_none_iff_forall_ne_some]
    intro batch found
    have mem := Std.TreeMap.mem_toList_iff_getElem?_eq_some.mpr found
    rw [idle.pending] at mem
    cases mem
  exact gathers_nothing none idle.ledger

/-- A run with one `beginMeasurement` gathers what comes after it. -/
theorem gathers_history (api : DxApi) (pattern : TaskPattern) (timeout : Int)
    (allowConflation : Bool) {warmUp rest : List Call}
    (once : .beginMeasurement ∉ warmUp ++ rest) :
    let fresh := create pattern timeout allowConflation
    Gathers (fresh.run api (warmUp ++ .beginMeasurement :: rest))
      (gather api fresh {} (warmUp ++ .beginMeasurement :: rest)) := by
  intro fresh
  obtain ⟨before, after⟩ := not_or.mp (mt List.mem_append.mpr once)
  have idle := idle_create pattern timeout allowConflation
  rw [gather_append, gather_idle api idle before, run_append]
  exact gathers_run api (gathers_begun (begun_of_idle (idle_run api idle before).1)) rfl after

/-- Every state reached with at most one `beginMeasurement` is determined by the
groups of its run. -/
theorem gathers_reachable (api : DxApi) (pattern : TaskPattern) (timeout : Int)
    (allowConflation : Bool) {calls : List Call}
    (once : (calls.filter Call.isBegin).length ≤ 1) :
    let fresh := create pattern timeout allowConflation
    Gathers (fresh.run api calls) (gather api fresh {} calls) := by
  intro fresh
  by_cases begins : .beginMeasurement ∈ calls
  · obtain ⟨warmUp, rest, rfl, before⟩ := List.eq_append_cons_of_mem begins
    apply gathers_history api pattern timeout allowConflation
    rw [List.mem_append]
    rintro (early | late)
    · exact before early
    · exact once_after once late
  · have idle := idle_create pattern timeout allowConflation
    rw [gather_idle api idle begins]
    exact gathers_idle (idle_run api idle begins).1

end Collector

end LatencyTest
