import Mathlib

/-!
Counters that threads share. A thread adds to counters and raises a maximum. An addition is one
atomic step; raising the maximum is a loop around a weak compare-and-exchange, which may fail
although it finds what it expects. The threads take their steps in any order. The history has
the completed operations, each with the time of the step that completed it.

The counters are as if every operation was one step (`Linear.replayed`), a thread completes its
operations in their order (`Linear.ordered`), and only the progress of other threads prolongs
the loop of a thread (`steps_le_raises`).
-/

namespace LatencyTest.Lib

/-- What a thread does to the counters. -/
inductive Operation (κ ν : Type) where
  | add (counter : κ) (amount : Nat)
  | raise (value : ν)
deriving DecidableEq

/-- The operations of a thread, how many of them are complete, and the value its exchange
expects. -/
structure Thread (κ ν : Type) where
  operations : List (Operation κ ν)
  done : Nat := 0
  expected : Option ν := none

/-- A completed operation. -/
structure Entry (κ ν : Type) where
  time : Int
  thread : Nat
  operation : Operation κ ν

/-- Counters, a maximum, and the threads that share them. -/
structure Shared (κ ν : Type) where
  counts : κ → Nat
  maximum : ν
  threads : List (Thread κ ν) := []
  history : List (Entry κ ν) := []

variable {κ ν : Type}

namespace Shared

/-! ### Histories -/

/-- A thread completes an operation. -/
def complete (shared : Shared κ ν) (index : Nat) (thread : Thread κ ν)
    (operation : Operation κ ν) (time : Int) : Shared κ ν :=
  { shared with
    threads := shared.threads.set index { thread with done := thread.done + 1, expected := none }
    history := shared.history ++ [⟨time, index, operation⟩] }

/-- A thread starts. -/
def spawn (shared : Shared κ ν) (operations : List (Operation κ ν)) : Shared κ ν :=
  { shared with threads := shared.threads ++ [{ operations := operations }] }

/-- The operations that a thread has completed in a history. -/
def completed (history : List (Entry κ ν)) (index : Nat) : List (Operation κ ν) :=
  (history.filter fun entry => entry.thread = index).map Entry.operation

theorem completed_append (history later : List (Entry κ ν)) (index : Nat) :
    completed (history ++ later) index = completed history index ++ completed later index := by
  rw [completed, List.filter_append, List.map_append]
  rfl

theorem completed_singleton (entry : Entry κ ν) (index : Nat) :
    completed [entry] index = if entry.thread = index then [entry.operation] else [] := by
  unfold completed
  by_cases own : entry.thread = index <;> simp [own]

@[simp] theorem history_complete (shared : Shared κ ν) (index : Nat) (thread : Thread κ ν)
    (operation : Operation κ ν) (time : Int) :
    (shared.complete index thread operation time).history =
      shared.history ++ [⟨time, index, operation⟩] := rfl

/-- What holds of every thread still does when one is replaced. -/
theorem forall_mem_set {threads : List (Thread κ ν)} {holds : Thread κ ν → Prop}
    (each : ∀ thread ∈ threads, holds thread) (index : Nat) {new : Thread κ ν}
    (here : holds new) : ∀ thread ∈ threads.set index new, holds thread := by
  intro thread mem
  rcases List.mem_or_eq_of_mem_set mem with old | rfl
  · exact each thread old
  · exact here

/-- A new thread leaves the others where they are. -/
theorem getElem?_spawn {shared : Shared κ ν} {index : Nat} {thread : Thread κ ν}
    (found : shared.threads[index]? = some thread) (operations : List (Operation κ ν)) :
    (shared.spawn operations).threads[index]? = some thread :=
  (List.getElem?_append_left (List.getElem?_eq_some_iff.mp found).1).trans found

section

variable [DecidableEq κ]

/-- How much an operation adds to a counter. -/
def amountOf (counter : κ) : Operation κ ν → Nat
  | .add other amount => if other = counter then amount else 0
  | .raise _ => 0

/-- How much some operations add to a counter. -/
def amount (counter : κ) (operations : List (Operation κ ν)) : Nat :=
  (operations.map (amountOf counter)).sum

/-- How much a history adds to a counter. -/
def added (counter : κ) (history : List (Entry κ ν)) : Nat :=
  amount counter (history.map Entry.operation)

theorem amount_append (counter : κ) (operations later : List (Operation κ ν)) :
    amount counter (operations ++ later) = amount counter operations + amount counter later := by
  rw [amount, List.map_append, List.sum_append]
  rfl

theorem amount_mono {operations done : List (Operation κ ν)}
    (isPrefix : done <+: operations) (counter : κ) :
    amount counter done ≤ amount counter operations := by
  obtain ⟨later, rfl⟩ := isPrefix
  rw [amount_append]
  exact Nat.le_add_right _ _

theorem added_append (counter : κ) (history later : List (Entry κ ν)) :
    added counter (history ++ later) = added counter history + added counter later := by
  rw [added, List.map_append, amount_append]
  rfl

/-- The counter that an operation adds to. -/
def counterOf : Operation κ ν → Option κ
  | .add counter _ => some counter
  | .raise _ => none

theorem amount_eq_zero {counter : κ} {operations : List (Operation κ ν)}
    (other : counter ∉ operations.filterMap counterOf) : amount counter operations = 0 := by
  rw [amount, List.sum_eq_zero_iff]
  intro value mem
  obtain ⟨operation, here, rfl⟩ := List.mem_map.mp mem
  cases operation with
  | add counter' amount =>
      refine if_neg fun same => other ?_
      exact List.mem_filterMap.mpr ⟨.add counter' amount, here, congrArg some same⟩
  | raise value => rfl

/-- Operations on distinct counters have added all they add to a counter, or nothing. -/
theorem amount_eq_zero_or_whole {operations done : List (Operation κ ν)}
    (distinct : (operations.filterMap counterOf).Nodup) (isPrefix : done <+: operations)
    (counter : κ) : amount counter done = 0 ∨ amount counter done = amount counter operations := by
  obtain ⟨later, rfl⟩ := isPrefix
  rw [List.filterMap_append, List.nodup_append] at distinct
  by_cases mem : counter ∈ done.filterMap counterOf
  · right
    rw [amount_append, amount_eq_zero fun mem' => distinct.2.2 counter mem counter mem' rfl,
      Nat.add_zero]
  · exact .inl (amount_eq_zero mem)

/-- A history adds what the operations of its threads add. -/
theorem added_eq_sum (counter : κ) {history : List (Entry κ ν)} {threads : Nat}
    (known : ∀ entry ∈ history, entry.thread < threads) :
    added counter history = ∑ index ∈ Finset.range threads,
      amount counter (completed history index) := by
  induction history with
  | nil => simp [added, amount, completed]
  | cons entry history ih =>
      have rest := ih fun other mem => known other (List.mem_cons_of_mem entry mem)
      have here := known entry List.mem_cons_self
      have split : ∀ index, amount counter (completed (entry :: history) index) =
          (if entry.thread = index then amountOf counter entry.operation else 0) +
            amount counter (completed history index) := by
        intro index
        rw [← List.singleton_append, completed_append, amount_append, completed_singleton]
        split <;> simp [amount]
      rw [Finset.sum_congr rfl fun i _ => split i, Finset.sum_add_distrib, Finset.sum_ite_eq,
        if_pos (Finset.mem_range.mpr here), ← rest, added, List.map_cons, amount, List.map_cons,
        List.sum_cons]
      rfl

end

variable [DecidableEq κ] [LinearOrder ν]

/-! ### Steps -/

/-- The loop of a thread has read the maximum, and goes on if that is too low. -/
def observe (shared : Shared κ ν) (index : Nat) (thread : Thread κ ν) (value : ν) (time : Int) :
    Shared κ ν :=
  if shared.maximum < value then
    { shared with
      threads := shared.threads.set index { thread with expected := some shared.maximum } }
  else shared.complete index thread (.raise value) time

/-- A step of a thread; `fails` makes an exchange fail that could succeed. Counters wrap around
at `limit`. -/
def step (limit : Nat) (shared : Shared κ ν) (index : Nat) (fails : Bool) (time : Int) :
    Shared κ ν :=
  match shared.threads[index]? with
  | none => shared
  | some thread =>
      match thread.operations[thread.done]? with
      | none => shared
      | some (.add counter amount) =>
          complete
            { shared with
              counts := Function.update shared.counts counter
                ((shared.counts counter + amount) % limit) }
            index thread (.add counter amount) time
      | some (.raise value) =>
          match thread.expected with
          | none => shared.observe index thread value time
          | some expected =>
              if shared.maximum = expected ∧ fails = false then
                complete { shared with maximum := value } index thread (.raise value) time
              else shared.observe index thread value time

/-- What the counters and the maximum are after an operation. -/
def apply (limit : Nat) (state : (κ → Nat) × ν) : Operation κ ν → (κ → Nat) × ν
  | .add counter amount =>
      (Function.update state.1 counter ((state.1 counter + amount) % limit), state.2)
  | .raise value => (state.1, max state.2 value)

/-- The operations of a history, one after the other. -/
def replay (limit : Nat) (state : (κ → Nat) × ν) (history : List (Entry κ ν)) :
    (κ → Nat) × ν :=
  history.foldl (fun state entry => apply limit state entry.operation) state

/-- The counters and the maximum are those of the history; an exchange is tried only if it
raises the maximum it expects; a thread completes its operations in their order. -/
structure Linear (limit : Nat) (start : (κ → Nat) × ν) (shared : Shared κ ν) : Prop where
  replayed : (shared.counts, shared.maximum) = replay limit start shared.history
  expects : ∀ thread ∈ shared.threads, ∀ expected, thread.expected = some expected →
    ∃ value, thread.operations[thread.done]? = some (.raise value) ∧ expected < value
  ordered : ∀ (index : Nat) (thread : Thread κ ν), shared.threads[index]? = some thread →
    completed shared.history index = thread.operations.take thread.done
  known : ∀ entry ∈ shared.history, entry.thread < shared.threads.length

/-! ### What a step can do -/

/-- A step of one thread: it does nothing to the counters, and leaves the thread where it was,
or it completes the next operation of the thread. -/
inductive Stepped (limit : Nat) (shared : Shared κ ν) (index : Nat) (time : Int) :
    Shared κ ν → Prop where
  | idle : Stepped limit shared index time shared
  | waits (thread : Thread κ ν) (value : ν) (found : shared.threads[index]? = some thread)
      (next : thread.operations[thread.done]? = some (.raise value))
      (below : shared.maximum < value) :
      Stepped limit shared index time
        { shared with
          threads := shared.threads.set index { thread with expected := some shared.maximum } }
  | completes (thread : Thread κ ν) (operation : Operation κ ν)
      (found : shared.threads[index]? = some thread)
      (next : thread.operations[thread.done]? = some operation) :
      Stepped limit shared index time
        (complete
          { shared with
            counts := (apply limit (shared.counts, shared.maximum) operation).1
            maximum := (apply limit (shared.counts, shared.maximum) operation).2 }
          index thread operation time)

variable {limit : Nat} {start : (κ → Nat) × ν} {shared : Shared κ ν}

theorem stepped_observe {index : Nat} {thread : Thread κ ν} {value : ν} {time : Int}
    (found : shared.threads[index]? = some thread)
    (next : thread.operations[thread.done]? = some (.raise value)) :
    Stepped limit shared index time (shared.observe index thread value time) := by
  unfold observe
  split
  · rename_i below
    exact .waits thread value found next below
  · rename_i above
    have completes : Stepped limit shared index time _ := .completes thread _ found next
    simpa only [apply, max_eq_left (not_lt.mp above)] using completes

theorem stepped_step (linear : Linear limit start shared) (index : Nat) (fails : Bool)
    (time : Int) : Stepped limit shared index time (shared.step limit index fails time) := by
  unfold step
  split
  · exact .idle
  · rename_i thread found
    split
    · exact .idle
    · rename_i counter amount next
      exact .completes thread _ found next
    · rename_i value next
      split
      · exact stepped_observe found next
      · rename_i expected expects
        split
        · rename_i succeeds
          obtain ⟨value', next', below⟩ :=
            linear.expects thread (List.mem_of_getElem? found) expected expects
          cases next.symm.trans next'
          have completes : Stepped limit shared index time _ := .completes thread _ found next
          rw [← succeeds.1] at below
          simpa only [apply, max_eq_right below.le] using completes
        · exact stepped_observe found next

/-! ### Every run is linear -/

theorem replay_append (history : List (Entry κ ν)) (entry : Entry κ ν) :
    replay limit start (history ++ [entry]) =
      apply limit (replay limit start history) entry.operation := by
  rw [replay, List.foldl_append]
  rfl

theorem linear_start (counts : κ → Nat) (maximum : ν) :
    Linear limit (counts, maximum) { counts := counts, maximum := maximum } where
  replayed := rfl
  expects _ mem := (List.not_mem_nil mem).elim
  ordered _ _ found := by cases found
  known _ mem := (List.not_mem_nil mem).elim

theorem Linear.spawn (linear : Linear limit start shared) (operations : List (Operation κ ν)) :
    Linear limit start (shared.spawn operations) where
  replayed := linear.replayed
  expects := by
    intro thread mem expected expects
    rcases List.mem_append.mp mem with old | new
    · exact linear.expects thread old expected expects
    · cases List.mem_singleton.mp new
      cases expects
  ordered := by
    intro index thread found
    rcases lt_trichotomy index shared.threads.length with old | rfl | beyond
    · exact linear.ordered index thread ((List.getElem?_append_left old).symm.trans found)
    · cases List.getElem?_concat_length.symm.trans found
      -- no operation of the history is one of the new thread
      rw [List.take_zero, completed, List.map_eq_nil_iff, List.filter_eq_nil_iff]
      intro entry mem own
      exact (linear.known entry mem).ne (of_decide_eq_true own)
    · have outside : (shared.spawn operations).threads.length ≤ index := by
        rw [Shared.spawn, List.length_append]
        exact beyond
      cases (List.getElem?_eq_none outside).symm.trans found
  known := by
    intro entry mem
    rw [Shared.spawn, List.length_append]
    exact Nat.lt_add_right _ (linear.known entry mem)

/-- A thread that has completed nothing more keeps its operations in order. -/
theorem Linear.ordered_set (linear : Linear limit start shared) {index : Nat}
    {thread : Thread κ ν} (found : shared.threads[index]? = some thread) (new : Thread κ ν)
    (same : new.operations = thread.operations) {history : List (Entry κ ν)}
    (own : completed history index = thread.operations.take new.done)
    (others : ∀ other, other ≠ index →
      completed history other = completed shared.history other)
    (other : Nat) (thread' : Thread κ ν)
    (found' : (shared.threads.set index new)[other]? = some thread') :
    completed history other = thread'.operations.take thread'.done := by
  rw [List.getElem?_set] at found'
  split at found'
  · rename_i here
    subst here
    rw [if_pos (List.getElem?_eq_some_iff.mp found).1] at found'
    cases found'
    rw [own, same]
  · rename_i apart
    rw [others other (Ne.symm apart)]
    exact linear.ordered other thread' found'

theorem Linear.step (linear : Linear limit start shared) (index : Nat) (fails : Bool)
    (time : Int) : Linear limit start (shared.step limit index fails time) := by
  have stepped := stepped_step linear index fails time
  generalize shared.step limit index fails time = next at stepped
  cases stepped with
  | idle => exact linear
  | waits thread value found raises below =>
      refine ⟨linear.replayed, ?_, ?_, ?_⟩
      · refine forall_mem_set linear.expects index ?_
        rintro expected same
        cases same
        exact ⟨value, raises, below⟩
      · exact linear.ordered_set found { thread with expected := some shared.maximum } rfl
          (linear.ordered index thread found) fun _ _ => rfl
      · simpa only [List.length_set] using linear.known
  | completes thread operation found next =>
      refine ⟨?_, ?_, ?_, ?_⟩
      · change _ = replay limit start (shared.history ++ [⟨time, index, operation⟩])
        rw [replay_append, ← linear.replayed]
        rfl
      · exact forall_mem_set linear.expects index (by simp)
      · refine linear.ordered_set found
          { thread with done := thread.done + 1, expected := none } rfl ?_ ?_
        · rw [history_complete, completed_append, completed_singleton, if_pos rfl,
            linear.ordered index thread found, List.take_add_one, next]
          rfl
        · intro other apart
          rw [history_complete, completed_append, completed_singleton, if_neg (Ne.symm apart),
            List.append_nil]
      · intro entry mem
        change entry.thread < (shared.threads.set _ _).length
        rw [List.length_set]
        rcases List.mem_append.mp mem with old | new
        · exact linear.known entry old
        · cases List.mem_singleton.mp new
          exact (List.getElem?_eq_some_iff.mp found).1

/-- A step completes at most one operation, at its time. -/
theorem history_step (linear : Linear limit start shared) (index : Nat) (fails : Bool)
    (time : Int) : ∃ later,
      (shared.step limit index fails time).history = shared.history ++ later ∧
        ∀ entry ∈ later, entry.time = time := by
  have stepped := stepped_step linear index fails time
  generalize shared.step limit index fails time = next at stepped
  cases stepped with
  | idle => exact ⟨[], (List.append_nil _).symm, by simp⟩
  | waits thread value found raises below => exact ⟨[], (List.append_nil _).symm, by simp⟩
  | completes thread operation found next => exact ⟨[⟨time, index, operation⟩], rfl, by simp⟩

omit [DecidableEq κ] [LinearOrder ν] in
/-- A thread that is replaced by one with its operations. -/
theorem operations_set {threads : List (Thread κ ν)} {index : Nat} {thread new : Thread κ ν}
    (found : threads[index]? = some thread) (kept : new.operations = thread.operations) :
    (threads.set index new).map Thread.operations = threads.map Thread.operations := by
  obtain ⟨inside, rfl⟩ := List.getElem?_eq_some_iff.mp found
  have mapped : index < (threads.map Thread.operations).length := by
    rwa [List.length_map]
  rw [List.map_set, kept, ← List.getElem_map Thread.operations (h := mapped)]
  exact List.set_getElem_self mapped

/-- No step gives a thread other operations. -/
theorem operations_step (limit : Nat) (shared : Shared κ ν) (index : Nat) (fails : Bool)
    (time : Int) : (shared.step limit index fails time).threads.map Thread.operations =
      shared.threads.map Thread.operations := by
  have observes {thread : Thread κ ν} (found : shared.threads[index]? = some thread) (value : ν) :
      (shared.observe index thread value time).threads.map Thread.operations =
        shared.threads.map Thread.operations := by
    unfold observe
    split <;> exact operations_set found rfl
  unfold step
  split
  · rfl
  · rename_i thread found
    split
    · rfl
    · exact operations_set found rfl
    · split
      · exact observes found _
      · split
        · exact operations_set found rfl
        · exact observes found _

/-! ### What the counters say -/

/-- A counter is what was added to it, up to wrapping around. -/
theorem replay_counts (counter : κ) (small : start.1 counter < limit)
    (history : List (Entry κ ν)) :
    (replay limit start history).1 counter =
      (start.1 counter + added counter history) % limit := by
  induction history using List.reverseRecOn with
  | nil => exact (Nat.mod_eq_of_lt small).symm
  | append_singleton history entry ih =>
      obtain ⟨time, thread, operation⟩ := entry
      rw [replay_append, added_append]
      cases operation with
      | add other amount =>
          by_cases same : other = counter
          · subst same
            simp [apply, ih, added, Shared.amount, amountOf, Nat.add_assoc]
          · simp [apply, ih, added, Shared.amount, amountOf, same, Ne.symm same]
      | raise value => simpa [apply, added, Shared.amount, amountOf] using ih

/-- The maximum is the largest of the values raised, and of the one at the start. -/
theorem replay_maximum (limit : Nat) (start : (κ → Nat) × ν) (history : List (Entry κ ν)) :
    IsGreatest (insert start.2 {value | ∃ entry ∈ history, entry.operation = .raise value})
      (replay limit start history).2 := by
  induction history using List.reverseRecOn with
  | nil => simp [replay]
  | append_singleton history entry ih =>
      obtain ⟨time, thread, operation⟩ := entry
      rw [replay_append]
      cases operation with
      | add counter amount => simpa [apply, or_and_right, exists_or] using ih
      | raise value =>
          have raised : insert start.2 {other | ∃ entry ∈ history ++ [⟨time, thread, .raise value⟩],
              entry.operation = .raise other} =
              insert value (insert start.2 {other | ∃ entry ∈ history,
                entry.operation = .raise other}) := by
            ext other
            simp [or_and_right, exists_or, eq_comm, or_comm, or_left_comm]
          rw [raised, apply, max_comm]
          exact ih.insert value

/-! ### Progress -/

/-- What happens to the counters. -/
inductive Move (κ ν : Type) where
  | spawn (operations : List (Operation κ ν))
  | step (index : Nat) (fails : Bool) (time : Int)

def move (limit : Nat) (shared : Shared κ ν) : Move κ ν → Shared κ ν
  | .spawn operations => shared.spawn operations
  | .step index fails time => shared.step limit index fails time

/-- The steps of a thread that do not fail without a reason. -/
def steps (index : Nat) (moves : List (Move κ ν)) : Nat :=
  moves.countP fun
    | .step other fails _ => other = index ∧ fails = false
    | .spawn _ => false

omit [DecidableEq κ] [LinearOrder ν] in
theorem steps_step (index other : Nat) (fails : Bool) (time : Int) (moves : List (Move κ ν)) :
    steps index (.step other fails time :: moves) =
      steps index moves + if other = index ∧ fails = false then 1 else 0 := by
  simp only [steps, List.countP_cons, decide_eq_true_eq]

/-- How often the maximum changes. -/
def raises (limit : Nat) : Shared κ ν → List (Move κ ν) → Nat
  | _, [] => 0
  | shared, made :: moves =>
      (if (move limit shared made).maximum ≠ shared.maximum then 1 else 0) +
        raises limit (move limit shared made) moves

/-- A thread in front of an operation completes it, or has seen the maximum as it is: it did
not expect that before, unless its exchange failed without a reason. -/
theorem own_step (limit : Nat) {index : Nat} {thread : Thread κ ν}
    {operation : Operation κ ν} (found : shared.threads[index]? = some thread)
    (next : thread.operations[thread.done]? = some operation) (fails : Bool) (time : Int) :
    (shared.step limit index fails time).threads[index]? =
        some { thread with done := thread.done + 1, expected := none } ∨
      (fails = false → thread.expected ≠ some shared.maximum) ∧
        shared.step limit index fails time =
          { shared with
            threads := shared.threads.set index
              { thread with expected := some shared.maximum } } := by
  have inside := (List.getElem?_eq_some_iff.mp found).1
  have completes (shared' : Shared κ ν) (same : shared'.threads = shared.threads) :
      (shared'.complete index thread operation time).threads[index]? =
        some { thread with done := thread.done + 1, expected := none } := by
    rw [complete, same]
    exact List.getElem?_set_self inside
  unfold step
  rw [found]
  dsimp only
  rw [next]
  cases operation with
  | add counter amount => exact .inl (completes _ rfl)
  | raise value =>
      have observes (unexpected : fails = false → thread.expected ≠ some shared.maximum) :
          (shared.observe index thread value time).threads[index]? =
              some { thread with done := thread.done + 1, expected := none } ∨
            (fails = false → thread.expected ≠ some shared.maximum) ∧
              shared.observe index thread value time =
                { shared with
                  threads := shared.threads.set index
                    { thread with expected := some shared.maximum } } := by
        unfold observe
        split
        · exact .inr ⟨unexpected, rfl⟩
        · exact .inl (completes _ rfl)
      dsimp only
      split
      · rename_i nothing
        exact observes fun _ => by simp [nothing]
      · rename_i expected expects
        split
        · exact .inl (completes _ rfl)
        · rename_i unequal
          refine observes fun succeeds same => unequal ⟨?_, succeeds⟩
          rw [expects] at same
          exact (Option.some.inj same).symm

/-- A step of one thread leaves the others where they are. -/
theorem other_step (linear : Linear limit start shared) {index other : Nat}
    (apart : index ≠ other) (fails : Bool) (time : Int) :
    (shared.step limit other fails time).threads[index]? = shared.threads[index]? := by
  have stepped := stepped_step linear other fails time
  generalize shared.step limit other fails time = next at stepped
  cases stepped with
  | idle => rfl
  | waits thread value found raises below => exact List.getElem?_set_ne (Ne.symm apart)
  | completes thread operation found next => exact List.getElem?_set_ne (Ne.symm apart)

theorem Linear.move (linear : Linear limit start shared) (made : Move κ ν) :
    Linear limit start (Shared.move limit shared made) := by
  cases made with
  | spawn operations => exact linear.spawn operations
  | step other fails time => exact linear.step other fails time

/-- A thread has gone past an operation. -/
def Past (thread : Thread κ ν) (index : Nat) (shared : Shared κ ν) : Prop :=
  ∃ now, shared.threads[index]? = some now ∧ thread.done < now.done

theorem past_step (linear : Linear limit start shared) {thread : Thread κ ν} {index : Nat}
    (past : Past thread index shared) (other : Nat) (fails : Bool) (time : Int) :
    Past thread index (shared.step limit other fails time) := by
  obtain ⟨now, found, less⟩ := past
  rcases eq_or_ne index other with rfl | apart
  · cases next : now.operations[now.done]? with
    | none =>
        refine ⟨now, ?_, less⟩
        simp only [step, found, next]
    | some operation =>
        rcases own_step limit found next fails time with completed | ⟨-, same⟩
        · exact ⟨_, completed, Nat.lt_succ_of_lt less⟩
        · rw [same]
          exact ⟨_, List.getElem?_set_self (List.getElem?_eq_some_iff.mp found).1, less⟩
  · exact ⟨now, (other_step linear apart fails time).trans found, less⟩

theorem past_moves (linear : Linear limit start shared) {thread : Thread κ ν} {index : Nat}
    (past : Past thread index shared) (moves : List (Move κ ν)) :
    Past thread index (moves.foldl (move limit) shared) := by
  induction moves generalizing shared with
  | nil => exact past
  | cons made moves ih =>
      refine ih (linear.move made) ?_
      cases made with
      | spawn operations =>
          obtain ⟨now, found, less⟩ := past
          exact ⟨now, getElem?_spawn found operations, less⟩
      | step other fails time => exact past_step linear past other fails time

/-- The steps that a thread may take before the maximum changes: none if its exchange expects the
maximum as it is. -/
def allowance (expected : Option ν) (maximum : ν) : Nat :=
  if expected = some maximum then 0 else 1

theorem allowance_le (expected : Option ν) (maximum : ν) : allowance expected maximum ≤ 1 := by
  unfold allowance
  split <;> omega

/-- A thread that has not gone past an operation took at most one step for every time that the
maximum changed, and its allowance. -/
theorem steps_le_raises_add (linear : Linear limit start shared) {index : Nat}
    {thread : Thread κ ν} {operation : Operation κ ν}
    (next : thread.operations[thread.done]? = some operation) {expected : Option ν}
    (found : shared.threads[index]? = some { thread with expected := expected })
    (moves : List (Move κ ν)) :
    Past thread index (moves.foldl (move limit) shared) ∨
      steps index moves ≤ raises limit shared moves + allowance expected shared.maximum := by
  induction moves generalizing shared expected with
  | nil => exact .inr (Nat.zero_le _)
  | cons made moves ih =>
      have linear' := linear.move made
      rw [raises, List.foldl_cons]
      cases made with
      | spawn operations =>
          refine (ih linear' (getElem?_spawn found operations)).imp_right fun bound => ?_
          simpa [move, Shared.spawn, steps] using bound
      | step other fails time =>
          rw [steps_step]
          rcases eq_or_ne index other with rfl | apart
          · rcases own_step limit found next fails time with completed | ⟨unexpected, same⟩
            · exact .inl (past_moves linear' ⟨_, completed, Nat.lt_succ_self _⟩ moves)
            · -- the thread now expects the maximum as it is, which has not changed
              have here : (shared.step limit index fails time).threads[index]? =
                  some { thread with expected := some shared.maximum } := by
                rw [same]
                exact List.getElem?_set_self (List.getElem?_eq_some_iff.mp found).1
              refine (ih linear' here).imp_right fun bound => ?_
              have unchanged : (move limit shared (.step index fails time)).maximum =
                  shared.maximum := by
                rw [move, same]
              rw [unchanged, allowance, if_pos rfl] at bound
              rw [if_neg (not_not.mpr unchanged)]
              cases fails with
              | true => simpa using bound.trans (Nat.le_add_right _ _)
              | false =>
                  rw [allowance, if_neg (unexpected rfl)]
                  simpa using bound
          · refine (ih linear' ((other_step linear apart fails time).trans found)).imp_right
              fun bound => ?_
            rw [if_neg fun own => apart own.1.symm, Nat.add_zero]
            split
            · have small :=
                allowance_le expected (move limit shared (.step other fails time)).maximum
              omega
            · rename_i same
              rw [not_not.mp same] at bound
              rwa [Nat.zero_add]

/-- A thread that completes nothing takes at most one step more than the maximum changes. -/
theorem steps_le_raises (linear : Linear limit start shared) {index : Nat} {thread : Thread κ ν}
    {operation : Operation κ ν} (found : shared.threads[index]? = some thread)
    (next : thread.operations[thread.done]? = some operation) (moves : List (Move κ ν)) :
    Past thread index (moves.foldl (move limit) shared) ∨
      steps index moves ≤ raises limit shared moves + 1 := by
  have same : shared.threads[index]? = some { thread with expected := thread.expected } := found
  exact (steps_le_raises_add linear next same moves).imp_right
    fun bound => bound.trans (Nat.add_le_add_left (allowance_le _ _) _)

end Shared

end LatencyTest.Lib
