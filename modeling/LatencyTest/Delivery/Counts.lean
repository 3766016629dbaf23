import LatencyTest.Delivery.Clients

/-!
What a delivery client measures. Its snapshots are not atomic: each counter is loaded at a time
of its own, while the listeners go on. The histories at these times (`Observation`) say what a
report counts: of every call of a listener a counter has all of what the call adds to it, or
nothing; calls that begin and end while the elapsed time is measured are counted
(`Observed.counted`).
-/

namespace LatencyTest.Delivery

open Lib (Program Shared)
open Lib.Shared (added amount completed)

abbrev Entry := Lib.Entry Counter Int

variable {κ : Type} {listener : κ → Listener}

/-! ### What the environment keeps -/

/-- The counters are those of a linear run, and nothing that has happened is in the future. -/
structure Sound (world : World) : Prop where
  linear : world.state.Linear sizeLimit (fun _ => 0, 0)
  passed : ∀ entry ∈ world.state.history, entry.time ≤ world.steady
  interrupted : ∀ time ∈ world.interrupted, time ≤ world.steady
  terminated : ∀ time ∈ world.terminated, time ≤ world.steady

/-- The history when the clock showed some time. -/
structure Dated (past : List Entry) (time : Int) (world : World) : Prop where
  past_begins : past <+: world.state.history
  before : ∀ entry ∈ past, entry.time ≤ time
  after : ∀ entry ∈ world.state.history.drop past.length, time ≤ entry.time
  passed : time ≤ world.steady

/-- A client was asked to stop by some time. -/
def Stopped (watches : Bool) (time : Int) (world : World) : Prop :=
  (∃ asked ∈ world.interrupted, asked ≤ time) ∨
    watches = true ∧ ∃ asked ∈ world.terminated, asked ≤ time

theorem Stopped.mono {watches : Bool} {time later : Int} {world : World}
    (stopped : Stopped watches time world) (after : time ≤ later) :
    Stopped watches later world :=
  stopped.imp (fun ⟨asked, mem, early⟩ => ⟨asked, mem, early.trans after⟩)
    fun ⟨watched, asked, mem, early⟩ => ⟨watched, asked, mem, early.trans after⟩

/-- By some time a wait has lasted as long as it should, if its deadline is in time for the clock,
unless the client was asked to stop. -/
def Lasted (watches : Bool) (since duration time : Int) (world : World) : Prop :=
  Client.InTime time duration → Stopped watches time world ∨ since + duration * 1000000 ≤ time

/-- A move adds to the history what happens at its time. -/
theorem history_move (listener : κ → Listener) {world : World} (sound : Sound world)
    (made : Move κ) :
    ∃ later, (move listener world made).state.history = world.state.history ++ later ∧
      (∀ entry ∈ later, entry.time = world.steady) ∧
      world.steady ≤ (move listener world made).steady := by
  cases made with
  | elapse duration => exact ⟨[], (List.append_nil _).symm, by simp, by simp [move]⟩
  | advance index fails =>
      obtain ⟨later, grown, times⟩ :=
        Shared.history_step sound.linear index fails world.steady
      exact ⟨later, grown, times, le_rfl⟩
  | _ => exact ⟨[], (List.append_nil _).symm, by simp, le_rfl⟩

theorem steady_move (listener : κ → Listener) (world : World) (made : Move κ) :
    world.steady ≤ (move listener world made).steady := by
  cases made with
  | elapse duration => exact Int.le_add_of_nonneg_right (Int.natCast_nonneg duration)
  | _ => exact le_rfl

/-- A flag that is set stays as it is. -/
theorem getD_of_mem {flag : Option Int} {asked time : Int} (mem : asked ∈ flag) :
    flag.getD time = asked := by
  rw [Option.mem_def.mp mem]
  rfl

theorem Sound.move {world : World} (sound : Sound world) (made : Move κ) :
    Sound (Delivery.move listener world made) := by
  obtain ⟨later, grown, times, advanced⟩ := history_move listener sound made
  have passed : ∀ entry ∈ (Delivery.move listener world made).state.history,
      entry.time ≤ (Delivery.move listener world made).steady := by
    intro entry mem
    rw [grown, List.mem_append] at mem
    exact mem.elim (fun old => (sound.passed entry old).trans advanced)
      fun new => (times entry new).trans_le advanced
  -- a flag is set at the time of the clock, or stays as it is
  have flag {before : Option Int} (old : ∀ time ∈ before, time ≤ world.steady) :
      ∀ time ∈ some (before.getD world.steady), time ≤ world.steady := by
    rintro time mem
    cases Option.mem_some_iff.mp mem
    cases before with
    | none => exact le_rfl
    | some time => exact old time rfl
  have interrupted (time : Int) (mem : time ∈ world.interrupted) :=
    (sound.interrupted time mem).trans advanced
  have terminated (time : Int) (mem : time ∈ world.terminated) :=
    (sound.terminated time mem).trans advanced
  cases made with
  | interrupt => exact ⟨sound.linear, passed, flag sound.interrupted, terminated⟩
  | terminate => exact ⟨sound.linear, passed, interrupted, flag sound.terminated⟩
  | call heard => exact ⟨sound.linear.spawn _, passed, interrupted, terminated⟩
  | advance index fails =>
      exact ⟨sound.linear.step index fails world.steady, passed, interrupted, terminated⟩
  | _ => exact ⟨sound.linear, passed, interrupted, terminated⟩

theorem Dated.move {past : List Entry} {time : Int} {world : World}
    (sound : Sound world) (dated : Dated past time world) (made : Move κ) :
    Dated past time (Delivery.move listener world made) := by
  obtain ⟨later, grown, times, advanced⟩ := history_move listener sound made
  refine ⟨?_, dated.before, ?_, dated.passed.trans advanced⟩
  · rw [grown]
    exact dated.past_begins.trans (List.prefix_append _ _)
  · intro entry mem
    rw [grown, List.drop_append_of_le_length dated.past_begins.length_le,
      List.mem_append] at mem
    exact mem.elim (dated.after entry) fun new =>
      dated.passed.trans (times entry new).ge

theorem Stopped.move {watches : Bool} {time : Int} {world : World}
    (stopped : Stopped watches time world) (made : Move κ) :
    Stopped watches time (Delivery.move listener world made) := by
  cases made with
  | interrupt =>
      exact stopped.imp_left fun ⟨asked, mem, early⟩ =>
        ⟨asked, congrArg some (getD_of_mem mem), early⟩
  | terminate =>
      exact stopped.imp_right fun ⟨watched, asked, mem, early⟩ =>
        ⟨watched, asked, congrArg some (getD_of_mem mem), early⟩
  | _ => exact stopped

theorem Lasted.later {watches : Bool} {since duration time later : Int} {world world' : World}
    (lasted : Lasted watches since duration time world) (after : time ≤ later)
    (stopped : Stopped watches time world → Stopped watches time world') :
    Lasted watches since duration later world' := fun inTime =>
  (lasted (inTime.mono after)).imp (fun asked => (stopped asked).mono after) after.trans'

/-- The history now, at the time of the clock. -/
theorem Sound.dated {world : World} (sound : Sound world) :
    Dated world.state.history world.steady world where
  past_begins := List.prefix_rfl
  before := sound.passed
  after _ mem := by simp at mem
  passed := le_rfl

/-! ### What `main` keeps -/

/-- What `main` leaves to the listeners, while its clock may advance. -/
structure Kept (world world' : World) : Prop where
  steady : world.steady ≤ world'.steady
  interrupted : world'.interrupted = world.interrupted
  terminated : world'.terminated = world.terminated
  state : world'.state = world.state
  written : world'.written = world.written
  errors : world'.errors = world.errors

/-- The connection and its subscriptions are no matter of the listeners. -/
theorem Kept.connection (world : World) (connected subscribed : Bool)
    (market profiles : List Text) :
    Kept world { world with
      connected := connected, subscribed := subscribed, market := market, profiles := profiles } :=
  ⟨le_rfl, rfl, rfl, rfl, rfl, rfl⟩

/-- An assertion that neither the environment nor `main` ends, on its way through its waits. -/
structure Beside (listener : κ → Listener) (assertion : World → Prop) : Prop where
  stable : Program.Stable (move listener) assertion
  kept : ∀ world world', Kept world world' → assertion world → assertion world'

theorem Stopped.kept {watches : Bool} {time : Int} {world world' : World}
    (kept : Kept world world') (stopped : Stopped watches time world) :
    Stopped watches time world' := by
  unfold Stopped
  rw [kept.interrupted, kept.terminated]
  exact stopped

namespace Beside

variable {left right : World → Prop}

theorem and (first : Beside listener left) (second : Beside listener right) :
    Beside listener fun world => left world ∧ right world where
  stable := first.stable.and second.stable
  kept world world' kept holds :=
    ⟨first.kept world world' kept holds.1, second.kept world world' kept holds.2⟩

theorem or (first : Beside listener left) (second : Beside listener right) :
    Beside listener fun world => left world ∨ right world where
  stable world made := Or.imp (first.stable world made) (second.stable world made)
  kept world world' kept := Or.imp (first.kept world world' kept) (second.kept world world' kept)

theorem fact (fact : Prop) : Beside listener fun _ => fact :=
  ⟨.const fact, fun _ _ _ => id⟩

theorem steady (time : Int) : Beside listener fun world => time ≤ world.steady where
  stable world made passed := passed.trans (steady_move listener world made)
  kept _ _ kept passed := passed.trans kept.steady

theorem lasted (listener : κ → Listener) (watches : Bool) (since duration time : Int) :
    Beside listener (Lasted watches since duration time) where
  stable _ made lasted := lasted.later le_rfl fun stopped => stopped.move made
  kept _ _ kept lasted := lasted.later le_rfl (Stopped.kept kept)

/-- A wait that is over by now is so later. -/
theorem lasted_now (listener : κ → Listener) (watches : Bool) (since duration : Int) :
    Beside listener fun world => Lasted watches since duration world.steady world where
  stable world made lasted :=
    lasted.later (steady_move listener world made) fun stopped => stopped.move made
  kept _ _ kept lasted := lasted.later kept.steady (Stopped.kept kept)

theorem sound (listener : κ → Listener) : Beside listener Sound where
  stable _ made sound := sound.move made
  kept _ _ kept sound :=
    { linear := kept.state.symm ▸ sound.linear
      passed := by
        rw [kept.state]
        exact fun entry mem => (sound.passed entry mem).trans kept.steady
      interrupted := by
        rw [kept.interrupted]
        exact fun time mem => (sound.interrupted time mem).trans kept.steady
      terminated := by
        rw [kept.terminated]
        exact fun time mem => (sound.terminated time mem).trans kept.steady }

theorem dated (listener : κ → Listener) (past : List Entry) (time : Int) :
    Beside listener fun world => Sound world ∧ Dated past time world where
  stable _ made holds := ⟨holds.1.move made, holds.2.move holds.1 made⟩
  kept world world' kept holds := by
    refine ⟨(sound listener).kept world world' kept holds.1, ?_⟩
    obtain ⟨past_begins, before, after, passed⟩ := holds.2
    exact ⟨kept.state.symm ▸ past_begins, before, kept.state.symm ▸ after,
      passed.trans kept.steady⟩

theorem errors (listener : κ → Listener) (lines : List Text) :
    Beside listener fun world => world.errors = lines where
  stable _ made holds := by cases made <;> exact holds
  kept _ _ kept holds := kept.errors.trans holds

theorem written (listener : κ → Listener) (report : Option DeliveryReport) :
    Beside listener fun world => world.written = report where
  stable _ made holds := by cases made <;> exact holds
  kept _ _ kept holds := kept.written.trans holds

/-- Nothing is written yet, and no error. -/
theorem silent (listener : κ → Listener) :
    Beside listener fun world => world.written = none ∧ world.errors = [] :=
  (written listener none).and (errors listener [])

end Beside

theorem Beside.exists {ι : Type} {family : ι → World → Prop}
    (each : ∀ x, Beside listener (family x)) :
    Beside listener fun world => ∃ x, family x world where
  stable := .exists fun x => (each x).stable
  kept world world' kept := fun ⟨x, holds⟩ => ⟨x, (each x).kept world world' kept holds⟩

section Actions

variable {assertion : World → Prop} {watches : Bool}

/-! ### Actions that keep assertions -/

theorem modify_keeps {change : World → World} (beside : Beside listener assertion)
    (kept : ∀ world, Kept world (change world)) :
    Program.Ensures assertion (.modify change : Action listener Unit) fun _ => assertion :=
  .modify_keeps beside.stable fun world => beside.kept world _ (kept world)

theorem sleep_keeps (beside : Beside listener assertion) :
    Program.Ensures assertion (sleep : Action listener Unit) fun _ => assertion :=
  modify_keeps beside fun _ =>
    ⟨Int.le_add_of_nonneg_right (by decide), rfl, rfl, rfl, rfl, rfl⟩

theorem sampleEach_keeps (beside : Beside listener assertion)
    (resources : Option ResourceSampler) :
    Program.Ensures assertion
      (sampleEach resources : Action listener (Option ResourceSampler)) fun _ => assertion := by
  cases resources with
  | none => exact .pure fun world => id
  | some sampler => exact .bind (.read_keeps beside.stable) fun _ => .pure fun world => id

/-- Something is known of the value that is read. -/
theorem read_ensures {α : Type} {value : World → α} (beside : Beside listener assertion)
    (fact : α → World → Prop) (known : ∀ world, assertion world → fact (value world) world) :
    Program.Ensures assertion (.read value : Action listener α)
      fun a world => assertion world ∧ fact a world :=
  .read beside.stable fun world holds => ⟨holds, known world holds⟩

/-- The conditions of a loop change nothing. -/
theorem goesOn_keeps (beside : Beside listener assertion) (deadline : Int) :
    Program.Ensures assertion (goesOn watches deadline : Action listener Bool)
      fun _ => assertion := by
  have reads {α : Type} {value : World → α} {result : α → Bool} : Program.Ensures assertion
      (do pure (result (← .read value)) : Action listener Bool) fun _ => assertion :=
    .bind (.read_keeps beside.stable) fun _ => .pure fun _ => id
  refine .both_keeps reads (.both_keeps ?_ reads)
  cases watches with
  | false => exact .pure fun _ => id
  | true => exact reads

/-- A loop ends for a reason. -/
theorem goesOn_ensures (deadline : Int) :
    Program.Ensures Sound (goesOn watches deadline : Action listener Bool)
      fun going world => going = false →
        Stopped watches world.steady world ∨ deadline ≤ world.steady := by
  have clock : Program.Ensures Sound
      (do pure (decide ((← steadyNow) < deadline)) : Action listener Bool)
      fun going world => going = false →
        Stopped watches world.steady world ∨ deadline ≤ world.steady := by
    refine .bind (read_ensures (.sound listener) (fun now world => now ≤ world.steady)
      fun _ _ => le_rfl) fun now => .pure fun world ⟨_, reached⟩ late => .inr ?_
    exact (not_lt.mp (of_decide_eq_false late)).trans reached
  have flag {value : World → Option Int} (stops : ∀ world, Sound world →
      (value world).isSome → Stopped watches world.steady world) :
      Program.Ensures Sound
        (do pure !(← .read fun world => (value world).isSome) : Action listener Bool)
        fun going world => if going then Sound world else
          (false = false → Stopped watches world.steady world ∨ deadline ≤ world.steady) := by
    refine .bind (.read_value (Beside.sound listener).stable) fun stopped =>
      .pure fun world ⟨sound, known⟩ => ?_
    cases stopped with
    | false => exact sound
    | true => exact fun _ => .inl (stops world sound known)
  refine .both Sound (flag fun world sound is => .inl ?_)
    (.both Sound ?_ clock)
  · obtain ⟨time, asked⟩ := Option.isSome_iff_exists.mp is
    exact ⟨time, asked, sound.interrupted time asked⟩
  · cases watches with
    | false => exact .pure fun world => id
    | true =>
        refine flag fun world sound is => .inr ⟨rfl, ?_⟩
        obtain ⟨time, asked⟩ := Option.isSome_iff_exists.mp is
        exact ⟨time, asked, sound.terminated time asked⟩

theorem observe_keeps (beside : Beside listener assertion) (duration : Int)
    (resources : Option ResourceSampler) :
    Program.Ensures assertion
      (observe watches duration resources : Action listener (Option ResourceSampler))
      fun _ => assertion := by
  refine .bind (.read_keeps beside.stable) fun now => .bind (.loop (fun _ => assertion) _
    (fun resources => ?_) resources) fun resources => sampleEach_keeps beside resources
  refine .bind (goesOn_keeps beside _) fun going => ?_
  cases going with
  | false => exact .pure fun world => id
  | true =>
      exact .bind (sampleEach_keeps beside resources) fun _ =>
        .bind (sleep_keeps beside) fun _ => .pure fun world => id

/-- A wait lasts as long as it should, unless the client is asked to stop. -/
theorem observe_lasts (since duration : Int) (resources : Option ResourceSampler) :
    Program.Ensures (fun world => Sound world ∧ since ≤ world.steady)
      (observe watches duration resources : Action listener (Option ResourceSampler))
      fun _ world => Lasted watches since duration world.steady world := by
  have sound : Beside listener Sound := .sound listener
  refine .bind (read_ensures (sound.and (.steady since))
    (fun now world => since ≤ now ∧ now ≤ world.steady) fun _ holds => ⟨holds.2, le_rfl⟩)
    fun now => .of_imp (fun world => since ≤ now ∧ Sound world ∧ now ≤ world.steady)
      (fun world holds => ⟨holds.2.1, holds.1.1, holds.2.2⟩) (.of_fact fun passed => ?_)
  have begun := sound.and (.steady now)
  refine .bind (.loop (fun _ world => Sound world ∧ now ≤ world.steady)
    (fun _ world => Lasted watches since duration world.steady world) (fun resources => ?_)
    resources) fun resources => sampleEach_keeps (.lasted_now listener _ _ _) resources
  refine .bind (.of_imp _ (fun _ holds => ⟨holds, holds.1⟩)
    ((goesOn_keeps begun _).and (goesOn_ensures _))) fun going => ?_
  cases going with
  | false =>
      refine .pure fun world ⟨holds, ends⟩ inTime => (ends rfl).imp_right fun late => ?_
      rw [Client.addDuration_eq (inTime.mono holds.2)] at late
      linarith
  | true =>
      refine .of_imp (fun world => Sound world ∧ now ≤ world.steady) (fun _ => And.left) ?_
      exact .bind (sampleEach_keeps begun resources) fun _ =>
        .bind (sleep_keeps begun) fun _ => .pure fun world => id

/-! ### Readings of the counters -/

/-- Some history has happened. -/
def Reached (past : List Entry) (world : World) : Prop :=
  Sound world ∧ past <+: world.state.history

theorem Beside.reached (past : List Entry) : Beside listener (Reached past) where
  stable world made holds := by
    obtain ⟨later, grown, -, -⟩ := history_move listener holds.1 made
    refine ⟨holds.1.move made, ?_⟩
    rw [grown]
    exact holds.2.trans (List.prefix_append _ _)
  kept world world' kept holds :=
    ⟨(Beside.sound listener).kept world world' kept holds.1, kept.state.symm ▸ holds.2⟩

theorem Sound.counts {world : World} (sound : Sound world) (counter : Counter) :
    world.state.counts counter = added counter world.state.history % sizeLimit := by
  have replayed := congrArg (fun state => state.1 counter) sound.linear.replayed
  rw [Shared.replay_counts counter (by norm_num [sizeLimit]), Nat.zero_add] at replayed
  exact replayed

/-- The values that calls of listeners raise the maximum to, and zero. -/
def raised (history : List Entry) : Set Int :=
  insert 0 {value | ∃ entry ∈ history, entry.operation = .raise value}

theorem Sound.maximum {world : World} (sound : Sound world) :
    IsGreatest (raised world.state.history) world.state.maximum := by
  have replayed := congrArg Prod.snd sound.linear.replayed
  have greatest := Shared.replay_maximum sizeLimit (fun _ : Counter => 0, (0 : Int))
    world.state.history
  rw [← replayed] at greatest
  exact greatest

theorem load_ensures (past : List Entry) (counter : Counter) :
    Program.Ensures (Reached past) (load counter : Action listener Nat)
      fun value world => ∃ now, (past <+: now ∧ value = added counter now % sizeLimit) ∧
        Reached now world :=
  .read (Beside.reached past).stable fun world ⟨sound, reached⟩ =>
    ⟨world.state.history, ⟨reached, sound.counts counter⟩, sound, List.prefix_rfl⟩

theorem loadMaximum_ensures (past : List Entry) :
    Program.Ensures (Reached past) (loadMaximum : Action listener Int)
      fun value world => ∃ now, (past <+: now ∧ IsGreatest (raised now) value) ∧
        Reached now world :=
  .read (Beside.reached past).stable fun world ⟨sound, reached⟩ =>
    ⟨world.state.history, ⟨reached, sound.maximum⟩, sound, List.prefix_rfl⟩

theorem steadyNow_ensures (past : List Entry) :
    Program.Ensures (Reached past) (steadyNow : Action listener Int)
      fun time world => ∃ now, past <+: now ∧ Sound world ∧ Dated now time world :=
  .read (Beside.reached past).stable fun world ⟨sound, reached⟩ =>
    ⟨world.state.history, reached, sound, sound.dated⟩

/-- A snapshot has each counter as it was at some time while the snapshot was taken. -/
structure Snapshotted (past now : List Entry) (at' : Counter → List Entry)
    (snapshot : CallbackSnapshot) (counter : Counter) : Prop where
  past_begins : past <+: at' counter
  now_extends : at' counter <+: now
  value : snapshot counter = added counter (at' counter) % sizeLimit

theorem loadEach_ensures (counters : List Counter) (distinct : counters.Nodup)
    (past : List Entry) (start : CallbackSnapshot) :
    Program.Ensures (Reached past)
      (loadEach counters start : Action listener CallbackSnapshot)
      fun result world => ∃ at' now, Reached now world ∧ past <+: now ∧
        (∀ counter ∈ counters, Snapshotted past now at' result counter) ∧
        ∀ counter, counter ∉ counters → result counter = start counter := by
  induction counters generalizing past start with
  | nil =>
      exact .pure fun world reached =>
        ⟨fun _ => [], past, reached, List.prefix_rfl, by simp, fun _ _ => rfl⟩
  | cons counter counters ih =>
      obtain ⟨new, distinct⟩ := List.nodup_cons.mp distinct
      refine .bind (load_ensures past counter) fun value => .of_exists fun middle =>
        .of_fact fun ⟨reached, loaded⟩ => ?_
      refine (ih distinct middle _).weaken (fun _ => id) ?_
      rintro result world ⟨at', now, here, later, each, others⟩
      refine ⟨Function.update at' counter middle, now, here, reached.trans later, ?_, ?_⟩
      · intro other mem
        rcases List.mem_cons.mp mem with rfl | old
        · refine ⟨?_, ?_, ?_⟩ <;> rw [Function.update_self]
          · exact reached
          · exact later
          · rw [others other new, Function.update_self, loaded]
        · have apart : other ≠ counter := fun same => new (same ▸ old)
          obtain ⟨past_begins, now_extends, value⟩ := each other old
          refine ⟨?_, ?_, ?_⟩ <;> rw [Function.update_of_ne apart]
          · exact reached.trans past_begins
          · exact now_extends
          · exact value
      · intro other outside
        rw [others other fun mem => outside (List.mem_cons_of_mem counter mem),
          Function.update_of_ne fun same => outside (by simp [same])]

theorem snapshot_ensures (past : List Entry) :
    Program.Ensures (Reached past) (snapshot : Action listener CallbackSnapshot)
      fun result world => ∃ taken : (Counter → List Entry) × List Entry, (past <+: taken.2 ∧
        ∀ counter, Snapshotted past taken.2 taken.1 result counter) ∧
          Reached taken.2 world := by
  refine (loadEach_ensures _ (by decide) past _).weaken (fun _ => id) ?_
  rintro result world ⟨at', now, reached, later, each, -⟩
  refine ⟨(at', now), ⟨later, fun counter => each counter ?_⟩, reached⟩
  cases counter <;> decide

theorem loadEach_keeps (beside : Beside listener assertion) (counters : List Counter)
    (start : CallbackSnapshot) :
    Program.Ensures assertion (loadEach counters start : Action listener CallbackSnapshot)
      fun _ => assertion := by
  induction counters generalizing start with
  | nil => exact .pure fun world => id
  | cons counter counters ih => exact .bind (.read_keeps beside.stable) fun _ => ih _

end Actions

/-! ### The measurement -/

/-- What had happened at the readings of a measurement: when the warm-up was over, at some time on
the clock, when the elapsed time begins and ends, when the maximum was loaded, and when each
counter was loaded for the two snapshots. -/
structure Observation where
  warm : List Entry
  warmAt : Int
  started : List Entry
  ended : List Entry
  last : List Entry
  first : Counter → List Entry
  second : Counter → List Entry

/-- A report of a measurement whose wait began at some time, and the readings it is made of. -/
structure Observed (watches : Bool) (settings : Settings) (since : Int)
    (report : DeliveryReport) (o : Observation) (world : World) : Prop where
  sound : Sound world
  warm : Dated o.warm o.warmAt world
  started : Dated o.started report.startedSteady world
  ended : Dated o.ended report.endedSteady world
  last : o.last <+: world.state.history
  first : ∀ counter, o.warm <+: o.first counter ∧ o.first counter <+: o.started
  second : ∀ counter, o.ended <+: o.second counter ∧ o.second counter <+: o.last
  between : o.started <+: o.ended
  ordered : o.warmAt ≤ report.startedSteady ∧ report.startedSteady ≤ report.endedSteady
  measured : ∀ counter, report.measured counter =
    (added counter (o.second counter) - added counter (o.first counter)) % sizeLimit
  maximum : IsGreatest (raised o.last) report.maximumBatch
  warmed : Lasted watches since settings.warmup o.warmAt world
  lasts : Lasted watches report.startedSteady settings.duration report.endedSteady world

theorem Beside.observed (watches : Bool) (settings : Settings) (since : Int)
    (report : DeliveryReport) (o : Observation) :
    Beside listener (Observed watches settings since report o) where
  stable world made holds :=
    { holds with
      sound := holds.sound.move made
      warm := holds.warm.move holds.sound made
      started := holds.started.move holds.sound made
      ended := holds.ended.move holds.sound made
      last := ((Beside.reached o.last).stable world made ⟨holds.sound, holds.last⟩).2
      warmed := (Beside.lasted listener ..).stable world made holds.warmed
      lasts := (Beside.lasted listener ..).stable world made holds.lasts }
  kept world world' kept holds :=
    { holds with
      sound := (Beside.sound listener).kept world world' kept holds.sound
      warm := ((Beside.dated listener _ _).kept world world' kept ⟨holds.sound, holds.warm⟩).2
      started := ((Beside.dated listener _ _).kept world world' kept ⟨holds.sound, holds.started⟩).2
      ended := ((Beside.dated listener _ _).kept world world' kept ⟨holds.sound, holds.ended⟩).2
      last := kept.state.symm ▸ holds.last
      warmed := (Beside.lasted listener ..).kept world world' kept holds.warmed
      lasts := (Beside.lasted listener ..).kept world world' kept holds.lasts }

/-- Neither the report that is written nor an error matters to what was observed. -/
theorem Observed.write {watches : Bool} {settings : Settings} {since : Int}
    {report : DeliveryReport} {o : Observation} {world : World}
    (holds : Observed watches settings since report o world)
    (written : Option DeliveryReport) (errors : List Text) :
    Observed watches settings since report o
      { world with written := written, errors := errors } :=
  have dated {past : List Entry} {time : Int} (old : Dated past time world) :
      Dated past time { world with written := written, errors := errors } :=
    ⟨old.past_begins, old.before, old.after, old.passed⟩
  { holds with
    sound := ⟨holds.sound.linear, holds.sound.passed, holds.sound.interrupted,
      holds.sound.terminated⟩
    warm := dated holds.warm
    started := dated holds.started
    ended := dated holds.ended }

/-- The difference of two loads of a counter that only grows. -/
theorem sub_snapshot {counter : Counter} {first second : List Entry}
    (grown : first <+: second) {before after : CallbackSnapshot}
    (start : before counter = added counter first % sizeLimit)
    (stop : after counter = added counter second % sizeLimit) :
    after.sub before counter = (added counter second - added counter first) % sizeLimit := by
  obtain ⟨later, rfl⟩ := grown
  rw [CallbackSnapshot.sub, start, stop, Lib.Shared.added_append, Nat.add_sub_cancel_left]
  unfold sizeLimit
  omega

/-- An action that keeps an assertion, and whose result tells something of the history. -/
theorem bind_reading {α β σ : Type} {assertion : World → Prop} (past : List Entry)
    {first : Action listener α} {next : α → Action listener β} {fact : α → σ → Prop}
    {known : α → σ → World → Prop} {kept : α → World → Prop} {after : β → World → Prop}
    (reached : ∀ world, assertion world → Reached past world)
    (keeps : Program.Ensures assertion first kept)
    (reading : Program.Ensures (Reached past) first
      fun a world => ∃ x, fact a x ∧ known a x world)
    (rest : ∀ a x, fact a x →
      Program.Ensures (fun world => known a x world ∧ kept a world) (next a) after) :
    Program.Ensures assertion (first >>= next) after := by
  refine .bind (.of_imp _ (fun world holds => ⟨reached world holds, holds⟩) (reading.and keeps))
    fun a => .of_imp (fun world => ∃ x, fact a x ∧ known a x world ∧ kept a world) ?_
      (.of_exists fun x => .of_fact (rest a x))
  rintro world ⟨⟨x, told, here⟩, holds⟩
  exact ⟨x, told, here, holds⟩

section Measure

variable {watches : Bool} {settings : Settings} {eventCount : Nat} {publishPeriod : Int}
  {host : Host}

/-- The report of a measurement is written. -/
def Written (watches : Bool) (settings : Settings) (since : Int)
    (report : DeliveryReport) (world : World) : Prop :=
  world.written = some report ∧ ∃ o, Observed watches settings since report o world

/-- The report is written, or the file cannot be opened. -/
theorem write_ensures {assertion : World → Prop} {since : Int} {report : DeliveryReport}
    {message : Text} (stable : Program.Stable (move listener) assertion)
    (observes : ∀ world, assertion world → (world.written = none ∧ world.errors = []) ∧
      ∃ o, Observed watches settings since report o world) :
    Program.Ensures assertion
      (if host.opensOutput then do
        Program.modify fun world => { world with written := some report }
        pure (.ok report)
      else pure (.error message) : Action listener (Except Text DeliveryReport))
      fun result world => match result with
        | .ok report => Written watches settings since report world ∧ world.errors = []
        | .error _ => world.written = none ∧ world.errors = [] := by
  split
  · refine .bind (.modify (fun world => Written watches settings since report world ∧
      world.errors = []) stable ?_) fun _ => .pure fun world => id
    intro world holds
    obtain ⟨silent, o, observed⟩ := observes world holds
    exact ⟨⟨rfl, o, observed.write _ _⟩, silent.2⟩
  · exact .pure fun world holds => (observes world holds).1

/-- A measurement ends with its report written, or the file cannot be opened. -/
theorem measure_ensures (since : Int) :
    Program.Ensures
      (fun world => (Sound world ∧ world.written = none ∧ world.errors = []) ∧
        since ≤ world.steady)
      (measure watches host settings eventCount publishPeriod :
        Action listener (Except Text DeliveryReport))
      fun result world => match result with
        | .ok report => Written watches settings since report world ∧ world.errors = []
        | .error _ => world.written = none ∧ world.errors = [] := by
  have fresh := (Beside.sound listener).and (.silent listener)
  refine .bind (.of_imp _ (fun world holds => ⟨holds.1, holds.1.1, holds.2⟩)
    ((observe_keeps fresh _ _).and (observe_lasts since settings.warmup none))) fun _ => ?_
  -- the warm-up is over
  refine .of_imp (fun world => ∃ warm : List Entry × Int,
      ((world.written = none ∧ world.errors = []) ∧
        (Sound world ∧ Dated warm.1 warm.2 world)) ∧
      Lasted watches since settings.warmup warm.2 world)
    (fun world ⟨⟨sound, silent⟩, lasted⟩ =>
      ⟨(_, _), ⟨silent, sound, sound.dated⟩, lasted⟩) (.of_exists fun warm => ?_)
  have warmed := ((Beside.silent listener).and (.dated listener warm.1 warm.2)).and
    (.lasted listener watches since settings.warmup warm.2)
  refine bind_reading warm.1 (fun world holds => ⟨holds.1.2.1, holds.1.2.2.past_begins⟩)
    (loadEach_keeps warmed _ _) (snapshot_ensures warm.1) fun before taken first => ?_
  have snapshotted := (Beside.reached taken.2).and warmed
  -- the elapsed time begins
  refine bind_reading taken.2 (fun world holds => holds.1)
    (read_ensures snapshotted (fun startedAt _ => warm.2 ≤ startedAt)
      fun world holds => holds.2.1.2.2.passed)
    (steadyNow_ensures taken.2) fun startedAt started later => ?_
  have begun := (Beside.dated listener started startedAt).and
    (snapshotted.and (.fact (warm.2 ≤ startedAt)))
  refine .bind (.read_keeps begun.stable) fun startedWall =>
    .bind (.read_keeps begun.stable) fun sampler => ?_
  refine .bind (.of_imp _ (fun world holds => ⟨holds, holds.1.1, holds.1.2.passed⟩)
    ((observe_keeps begun _ _).and (observe_lasts startedAt settings.duration _)))
    fun resources => ?_
  have waited := begun.and (.lasted_now listener watches startedAt settings.duration)
  refine .bind (.read_keeps waited.stable) fun endedWall => ?_
  -- the elapsed time ends
  refine bind_reading started (fun world holds => ⟨holds.1.1.1, holds.1.1.2.past_begins⟩)
    (read_ensures waited (fun endedAt world => startedAt ≤ endedAt ∧
      Lasted watches startedAt settings.duration endedAt world)
      fun world holds => ⟨holds.1.1.2.passed, holds.2⟩)
    (steadyNow_ensures started) fun endedAt ended between => ?_
  have finished := (Beside.dated listener ended endedAt).and (waited.and
    ((Beside.fact (startedAt ≤ endedAt)).and
      (.lasted listener watches startedAt settings.duration endedAt)))
  refine bind_reading ended (fun world holds => ⟨holds.1.1, holds.1.2.past_begins⟩)
    (loadEach_keeps finished _ _) (snapshot_ensures ended) fun after taken' second => ?_
  have counted := (Beside.reached taken'.2).and finished
  refine .bind (.read_keeps counted.stable) fun statistics => ?_
  refine bind_reading taken'.2 (fun world holds => holds.1) (.read_keeps counted.stable)
    (loadMaximum_ensures taken'.2) fun maximumBatch last greatest => ?_
  have loaded := (Beside.reached last).and counted
  refine write_ensures loaded.stable ?_
  rintro world ⟨⟨sound, reached⟩, -, ⟨-, datedEnd⟩, ⟨⟨⟨-, datedStart⟩, ⟨-,
    ⟨silent, -, datedWarm⟩, lasted⟩, warmBefore⟩, -⟩, startBefore, lasts⟩
  refine ⟨silent, ⟨warm.1, warm.2, started, ended, last, taken.1, taken'.1⟩, ?_⟩
  exact
    { sound := sound
      warm := datedWarm
      started := datedStart
      ended := datedEnd
      last := reached
      first := fun counter =>
        ⟨(first.2 counter).past_begins, (first.2 counter).now_extends.trans later⟩
      second := fun counter =>
        ⟨(second.2 counter).past_begins, (second.2 counter).now_extends.trans greatest.1⟩
      between := between
      ordered := ⟨warmBefore, startBefore⟩
      measured := fun counter => sub_snapshot
        ((first.2 counter).now_extends.trans (later.trans (between.trans
          (second.2 counter).past_begins)))
        (first.2 counter).value (second.2 counter).value
      maximum := greatest.2
      warmed := lasted
      lasts := lasts }

end Measure

end LatencyTest.Delivery
