import LatencyTest.Server.Cutover

/-!
The deadlines of an active task. They form a lattice, one deadline a period from
the activation on. After every publication the next deadline is on the lattice, as
many periods in as there are publications and skipped deadlines, and within one
period after the clock (`deadline_catch_up`).
-/

namespace LatencyTest

/-! ### The counters during a publication -/

theorem SamePublication.refl (active : ActiveTask) : SamePublication active active :=
  ⟨rfl, rfl, rfl, rfl, rfl, rfl, rfl, rfl⟩

theorem samePublication_selectEvent (context : PublishContext) (reference : Reference)
    (event : Event) (preparation : Preparation) :
    SamePublication preparation.active
      (selectEvent context reference event preparation).active := by
  unfold selectEvent
  split
  · dsimp only
    split <;> exact ⟨rfl, rfl, rfl, rfl, rfl, rfl, rfl, rfl⟩
  · exact ⟨rfl, rfl, rfl, rfl, rfl, rfl, rfl, rfl⟩

theorem samePublication_publishEvent {context : PublishContext} {poolIndex first i : Nat}
    {preparation next : Preparation}
    (done : publishEvent context poolIndex first preparation i = some next) :
    SamePublication preparation.active next.active := by
  simp only [publishEvent, Option.bind_eq_bind, Option.bind_eq_some_iff, Option.pure_def,
    Option.some.injEq] at done
  obtain ⟨pool, -, baseIndex, -, routed, -, event, -, rfl⟩ := done
  refine SamePublication.trans ?_ (samePublication_selectEvent _ _ _ _)
  exact (samePublication_countRoute _ _).trans (samePublication_writeEvent _ _ _ _)

theorem samePublication_publishPool {context : PublishContext} {poolIndex : Nat}
    {preparation next : Preparation}
    (done : publishPool context preparation poolIndex = some next) :
    SamePublication preparation.active next.active := by
  simp only [publishPool, Option.bind_eq_bind, Option.bind_eq_some_iff] at done
  obtain ⟨pool, -, first, -, loop⟩ := done
  exact @Lib.foldlM_related _ _ _ (fun a b => SamePublication a.active b.active)
    (fun _ => .refl _) SamePublication.trans (fun _ _ _ => samePublication_publishEvent) _ _ _ loop

/-- A publication skips no deadline. -/
theorem publish_skippedDeadlines {api : DxApi} {limit : Nat} {subscribed : Finset Text}
    {nowNs : Int} {active : ActiveTask} {result : Published}
    (done : publish api limit subscribed nowNs active = some result) :
    result.active.skippedDeadlines = active.skippedDeadlines := by
  simp only [publish, Option.bind_eq_bind, Option.bind_eq_some_iff, Option.pure_def,
    Option.some.injEq] at done
  obtain ⟨order, -, last, -, pool, -, prepared, loop, events, -, rfl⟩ := done
  have same := @Lib.foldlM_related _ _ _ (fun a b => SamePublication a.active b.active)
    (fun _ => .refl _) SamePublication.trans (fun _ _ _ => samePublication_publishPool) _ _ _ loop
  exact same.skippedDeadlines

namespace Generator

/-! ### The next deadline -/

/-- The next deadline is one period and the skipped ones later, no earlier than the
clock, and at most one period after it. -/
theorem nextDeadline_spec {nextTick periodNs now : Int} (positive : 0 < periodNs)
    (due : nextTick ≤ now) :
    ∃ skipped : Nat, nextDeadline nextTick periodNs now =
        some (nextTick + (1 + skipped) * periodNs, (skipped : Int)) ∧
      now ≤ nextTick + (1 + skipped) * periodNs ∧
      nextTick + (1 + skipped) * periodNs ≤ now + periodNs := by
  unfold nextDeadline
  dsimp only
  split
  · rename_i behind
    -- `count` whole periods fit between the deadline and the clock
    obtain ⟨count, quotient⟩ := Int.eq_ofNat_of_zero_le
      (Int.ediv_nonneg (sub_nonneg.mpr behind.le) positive.le)
    have below := Int.mul_ediv_self_le (x := now - (nextTick + periodNs)) positive.ne'
    have above := Int.lt_mul_ediv_self_add (x := now - (nextTick + periodNs)) positive
    rw [quotient] at below above
    have next : nextTick + (1 + (count + 1 : Nat)) * periodNs =
        nextTick + periodNs + periodNs * (count + 1) := by
      push_cast
      ring
    have spread : periodNs * (count + 1 : Int) = periodNs * count + periodNs := by ring
    refine ⟨count + 1, ?_, ?_, ?_⟩
    · rw [if_neg positive.ne', Int.tdiv_eq_ediv_of_nonneg (sub_nonneg.mpr behind.le), quotient,
        next]
      push_cast
      rfl
    · rw [next, spread]
      omega
    · rw [next, spread]
      omega
  · rename_i inTime
    refine ⟨0, by simp, ?_, ?_⟩ <;> push_cast <;> linarith

/-! ### The deadlines of a task -/

/-- The publishing period of a task in nanoseconds. -/
def periodNs (task : ActiveTask) : Int := task.pattern.publishPeriod * 1000000

/-- The deadlines a task has used up, by publishing or by skipping them. -/
def usedDeadlines (task : ActiveTask) : Nat :=
  task.publications.toNat + task.skippedDeadlines.toNat

/-- The clock values of a round are `int64_t` nanoseconds to which a period can be
added, and a round that publishes reads no earlier value after publishing. -/
def Input.ClockFits (periodNs : Int) : Input → Prop
  | .command _ now => -2 ^ 63 ≤ now ∧ now + periodNs < 2 ^ 63
  | .tick _ now later => now ≤ later ∧ later + periodNs < 2 ^ 63

/-- The generator runs this task on the lattice of deadlines from `activation` on. -/
structure Paced (activation : Int) (g : Generator) (task : ActiveTask) : Prop where
  current : g.active = some task
  onLattice : g.nextTick = activation + usedDeadlines task * periodNs task
  fits : g.nextTick < 2 ^ 63

/-- What a publishing round does to the counters and to the next deadline. -/
theorem tick_deadline {api : DxApi} {g next : Generator} {nowNs now later : Int}
    {outputs : List Output} {task : ActiveTask} (wellFormed : g.WellFormed)
    (current : g.active = some task) (due : ¬ now < g.nextTick)
    (step : (machine api).step g (.tick nowNs now later) = some (next, outputs)) :
    ∃ (task' : ActiveTask) (skipped : Int), next.active = some task' ∧
      task'.pattern = task.pattern ∧ task'.command = task.command ∧
      task'.publications = task.publications + 1 ∧
      task'.skippedDeadlines = task.skippedDeadlines + UInt64.ofInt skipped ∧
      nextDeadline g.nextTick (periodNs task) later = some (next.nextTick, skipped) := by
  have taken : g.tick api nowNs now later = some (next, outputs) := step
  obtain ⟨choices, result, published, publication⟩ :=
    publish_ok api g.timeSeriesHistoryLimit (g.subscribedSymbols .timeAndSale) nowNs
      (wellFormed.active task current)
  simp only [tick, current, if_neg due, published, Option.bind_eq_bind, Option.bind_some,
    Option.bind_eq_some_iff, Option.pure_def, Option.some.injEq, Prod.mk.injEq] at taken
  obtain ⟨⟨nextTick, skipped⟩, deadline, rfl, -⟩ := taken
  refine ⟨_, skipped, rfl, publication.pattern, publication.command, publication.publications, ?_,
    deadline⟩
  rw [← publish_skippedDeadlines published]

/-- A publication that is due keeps the pace, and the next deadline is within one
period after the clock. -/
theorem Paced.published {api : DxApi} {g next : Generator} {nowNs now later activation : Int}
    {outputs : List Output} {task : ActiveTask} (wellFormed : g.WellFormed)
    (paced : Paced activation g task) (low : -2 ^ 63 ≤ activation)
    (clock : Input.ClockFits (periodNs task) (.tick nowNs now later)) (due : ¬ now < g.nextTick)
    (step : (machine api).step g (.tick nowNs now later) = some (next, outputs)) :
    ∃ task', Paced activation next task' ∧ task'.pattern = task.pattern ∧
      task'.command = task.command ∧ later ≤ next.nextTick ∧
      next.nextTick ≤ later + periodNs task := by
  obtain ⟨task', skipped, active, pattern, command, publications, skips, deadline⟩ :=
    tick_deadline wellFormed paced.current due step
  have positive : 0 < periodNs task := Int.mul_pos
    (wellFormed.active task paced.current).admissible.period_pos (by norm_num)
  obtain ⟨count, next', notBefore, within⟩ :=
    nextDeadline_spec positive ((not_lt.mp due).trans clock.1)
  rw [next', Option.some.injEq, Prod.mk.injEq] at deadline
  obtain ⟨nextTick, rfl⟩ := deadline
  rw [nextTick] at notBefore within
  have lattice : next.nextTick =
      activation + (usedDeadlines task + (1 + count) : Int) * periodNs task := by
    rw [← nextTick, paced.onLattice]
    ring
  have top : next.nextTick < 2 ^ 63 := within.trans_lt clock.2
  -- The lattice has fewer than `2 ^ 64` points in the range of the clock.
  have few : usedDeadlines task + (1 + count) < 2 ^ 64 := by
    have spread : (usedDeadlines task + (1 + count) : Int) ≤
        (usedDeadlines task + (1 + count) : Int) * periodNs task :=
      le_mul_of_one_le_right (by positivity) positive
    have : (usedDeadlines task + (1 + count) : Int) < 2 ^ 64 := by omega
    exact_mod_cast this
  have used : usedDeadlines task' = usedDeadlines task + (1 + count) := by
    unfold usedDeadlines at few ⊢
    rw [publications, skips, UInt64.toNat_add, UInt64.toNat_add]
    have small : (UInt64.ofInt count).toNat = count := by
      have reduced : ((count : Int) % 2 ^ 64).toNat = count := by omega
      rw [UInt64.ofInt, reduced]
      exact UInt64.toNat_ofNat_of_lt' (by simp only [UInt64.size]; omega)
    rw [small]
    simp
    omega
  refine ⟨task', ⟨active, ?_, top⟩, pattern, command, notBefore, within⟩
  rw [lattice, used, periodNs, periodNs, pattern]
  push_cast
  rfl

/-- Only an activation sets the deadline. -/
theorem dispatch_nextTick (g : Generator) (command : Command) :
    (g.dispatch command).1.nextTick = g.nextTick := by
  unfold dispatch
  split
  · unfold handleStart
    split
    · rfl
    · split
      · split <;> rfl
      · rfl
  · rfl
  · unfold handleSubscription
    dsimp only
    split
    · rfl
    · split <;> rfl

/-- A command that does not stop the active task leaves it and its deadline alone. -/
theorem handleCommand_stays {g : Generator} {task : ActiveTask} (current : g.active = some task)
    {command : Command} (stays : command.stopsTask task.command = false) (now : Int) :
    (g.handleCommand command now).1.active = some task ∧
      (g.handleCommand command now).1.nextTick = g.nextTick := by
  have active : (g.dispatch command).1.active = some task := by
    rw [(dispatch_cases g command).active, current, Option.filter_some_pos]
    simpa using stays
  have occupied : (g.dispatch command).1.startWhenReady now = ((g.dispatch command).1, []) := by
    unfold startWhenReady
    rw [active]
    split
    · rename_i idle
      cases idle
    · rfl
  rw [handleCommand_eq, occupied]
  exact ⟨active, dispatch_nextTick g command⟩

/-- Every round of a task that is not stopped keeps its pace. -/
theorem Paced.step {api : DxApi} {g next : Generator} {input : Input} {activation : Int}
    {outputs : List Output} {task : ActiveTask} (wellFormed : g.WellFormed)
    (paced : Paced activation g task) (low : -2 ^ 63 ≤ activation)
    (clock : input.ClockFits (periodNs task)) (stays : input.stopsTask task.command = false)
    (step : (machine api).step g input = some (next, outputs)) :
    ∃ task', Paced activation next task' ∧ task'.pattern = task.pattern ∧
      task'.command = task.command := by
  cases input with
  | command command now =>
      have taken : g.handleCommand command now = (next, outputs) := Option.some.inj step
      have kept := handleCommand_stays paced.current stays now
      rw [taken] at kept
      obtain ⟨active, nextTick⟩ := kept
      refine ⟨task, ⟨active, ?_, ?_⟩, rfl, rfl⟩
      · exact nextTick.trans paced.onLattice
      · exact nextTick.trans_lt paced.fits
  | tick nowNs now later =>
      by_cases early : now < g.nextTick
      · have waits : g.tick api nowNs now later = some (g, []) := by
          simp only [tick, paced.current, if_pos early]
        cases waits.symm.trans step
        exact ⟨task, paced, rfl, rfl⟩
      · obtain ⟨task', paced', pattern, command, -⟩ :=
          paced.published wellFormed low clock early step
        exact ⟨task', paced', pattern, command⟩

/-- A task that is not stopped keeps its pace. -/
theorem Paced.run {api : DxApi} {g last : Generator} {inputs : List Input} {activation : Int}
    {outputs : List Output} {task : ActiveTask} (wellFormed : g.WellFormed)
    (paced : Paced activation g task) (low : -2 ^ 63 ≤ activation)
    (clock : ∀ input ∈ inputs, input.ClockFits (periodNs task))
    (stays : ∀ input ∈ inputs, input.stopsTask task.command = false)
    (run : (machine api).run g inputs = some (last, outputs)) :
    ∃ task', Paced activation last task' ∧ task'.pattern = task.pattern ∧
      task'.command = task.command := by
  induction inputs generalizing g task outputs with
  | nil =>
      cases run
      exact ⟨task, paced, rfl, rfl⟩
  | cons input inputs ih =>
      obtain ⟨next, first, rest, step, run, -⟩ := (machine api).run_cons.mp run
      obtain ⟨task', paced', pattern, command⟩ := paced.step wellFormed low
        (clock input List.mem_cons_self) (stays input List.mem_cons_self) step
      obtain ⟨next', first', step', kept⟩ := step_ok api g input wellFormed
      cases step.symm.trans step'
      have period : periodNs task' = periodNs task := by rw [periodNs, periodNs, pattern]
      obtain ⟨task'', paced'', pattern', command'⟩ := ih kept paced'
        (fun other mem => by
          rw [period]
          exact clock other (List.mem_cons_of_mem _ mem))
        (fun other mem => by
          rw [command]
          exact stays other (List.mem_cons_of_mem _ mem)) run
      exact ⟨task'', paced'', pattern'.trans pattern, command'.trans command⟩

/-- The command that activates a task starts its lattice of deadlines. -/
theorem paced_of_activation {api : DxApi} {g next : Generator} {command : Command}
    {activation : Int} {outputs : List Output} {task : ActiveTask} (wellFormed : g.WellFormed)
    (idle : g.active = none)
    (step : (machine api).step g (.command command activation) = some (next, outputs))
    (active : next.active = some task) (small : activation < 2 ^ 63) :
    Paced activation next task := by
  cases round_of_step wellFormed step with
  | handles dispatched =>
      rw [dispatched.active, idle] at active
      cases active
  | activates _ _ _ activated =>
      rw [activated.state] at active ⊢
      cases active
      exact ⟨rfl, by simp [usedDeadlines, startTask, PendingTask.withPools], small⟩

/-- Deadline catch-up. In every run of an active task, from the command that
activates it on and until it is stopped, after each publication: the next deadline
is the activation deadline plus one period for every publication and every skipped
deadline, it is not before the clock value read after publishing, and at most one
period after it. -/
theorem deadline_catch_up (api : DxApi) (limit : Nat) (configured : Option Nat) (start : Int)
    {before during : List Input} {g activated last next : Generator} {command : Command}
    {activation nowNs now later : Int} {task : ActiveTask} {earlier first outputs produced :
      List Output} {retained : List (Text × TimeAndSaleRecord)} {events : List Event}
    (reached : (machine api).run (create limit configured start) before = some (g, earlier))
    (idle : g.active = none)
    (activates : (machine api).step g (.command command activation) = some (activated, first))
    (active : activated.active = some task)
    (stays : ∀ input ∈ during, input.stopsTask task.command = false)
    (clock : ∀ input ∈ .command command activation :: during ++ [.tick nowNs now later],
      input.ClockFits (periodNs task))
    (run : (machine api).run activated during = some (last, outputs))
    (publishes : (machine api).step last (.tick nowNs now later) = some (next, produced))
    (batch : .batch retained events ∈ produced) :
    ∃ task', next.active = some task' ∧ task'.pattern = task.pattern ∧
      next.nextTick = activation +
        (task'.publications.toNat + task'.skippedDeadlines.toNat : Nat) * periodNs task ∧
      later ≤ next.nextTick ∧ next.nextTick ≤ later + periodNs task := by
  have wellFormed := run_wellFormed (wellFormed_create limit configured start) reached
  have wellFormed' : activated.WellFormed := by
    obtain ⟨other, outputs', step, kept⟩ := step_ok api g (.command command activation) wellFormed
    cases activates.symm.trans step
    exact kept
  have fits : Input.ClockFits (periodNs task) (.command command activation) := clock _ (by simp)
  have positive : 0 < periodNs task := Int.mul_pos
    (wellFormed'.active task active).admissible.period_pos (by norm_num)
  have paced : Paced activation activated task :=
    paced_of_activation wellFormed idle activates active (by linarith [fits.2])
  obtain ⟨middle, pacedLast, pattern, -⟩ := paced.run wellFormed' fits.1
    (fun input mem => clock input (by simp [mem])) stays run
  have period : periodNs middle = periodNs task := by rw [periodNs, periodNs, pattern]
  have due : ¬ now < last.nextTick := by
    intro early
    have waits : last.tick api nowNs now later = some (last, []) := by
      simp only [tick, pacedLast.current, if_pos early]
    cases waits.symm.trans publishes
    cases batch
  have tickFits : Input.ClockFits (periodNs middle) (.tick nowNs now later) := by
    rw [period]
    exact clock _ (by simp)
  obtain ⟨task', paced', pattern', -, notBefore, within⟩ :=
    pacedLast.published (run_wellFormed wellFormed' run) fits.1 tickFits due publishes
  have period' : periodNs task' = periodNs task := by rw [periodNs, periodNs, pattern', pattern]
  rw [period] at within
  have onLattice := paced'.onLattice
  rw [period'] at onLattice
  exact ⟨task', paced'.current, pattern'.trans pattern, onLattice, notBefore, within⟩

/-- A first publication that overruns by exactly three periods of a second. -/
theorem deadline_catch_up_overrun :
    ∃ g outputs task, (machine .release).run (create 1000 none 0)
        [.command (enqueueSymbols .symbolsAdded .profile [.string "SYM00".toList]) 0,
          .command (enqueueControl .start "SUB:N1".toList) 7, .tick 1000000 7 3000000007] =
        some (g, outputs) ∧
      g.active = some task ∧
      g.nextTick = 7 + (task.publications.toNat + task.skippedDeadlines.toNat : Nat) * 1000000000 ∧
      3000000007 ≤ g.nextTick ∧ g.nextTick ≤ 4000000007 := by
  let before : List Input :=
    [.command (enqueueSymbols .symbolsAdded .profile [.string "SYM00".toList]) 0]
  obtain ⟨g, earlier, reached, wellFormed⟩ := run_ok .release (wellFormed_create 1000 none 0) before
  obtain ⟨activated, first, step, kept⟩ :=
    step_ok .release g (.command (enqueueControl .start "SUB:N1".toList) 7) wellFormed
  have started := (machine .release).run_append.mpr
    ⟨g, earlier, first, reached, (machine .release).run_singleton.mpr step, rfl⟩
  have idle : ((machine .release).run (create 1000 none 0) before).map
      (fun result => result.1.active.isNone) = some true := by decide +kernel
  have ready : ((machine .release).run (create 1000 none 0)
      (before ++ [.command (enqueueControl .start "SUB:N1".toList) 7])).map
      (fun result => (result.1.active.map fun task => task.pattern.publishPeriod,
        result.1.nextTick)) = some (some 1000, 7) := by decide +kernel
  rw [reached, Option.map_some, Option.some.injEq, Option.isNone_iff_eq_none] at idle
  rw [started, Option.map_some, Option.some.injEq, Prod.mk.injEq, Option.map_eq_some_iff] at ready
  obtain ⟨⟨task, current, seconds⟩, nextTick⟩ := ready
  obtain ⟨choices, result, last, sent, due, ticked⟩ :=
    tick_due .release kept current 1000000 3000000007
  rw [nextTick] at due
  have period : periodNs task = 1000000000 := by
    rw [periodNs, seconds]
    norm_num
  have batch : .batch result.retained result.events ∈ sent := by
    rw [ticked.outputs]
    exact List.mem_singleton_self _
  have stays : ∀ input ∈ ([] : List Input), input.stopsTask task.command = false := by
    intro input mem
    cases mem
  have clock : ∀ input ∈ Input.command (enqueueControl .start "SUB:N1".toList) 7 ::
      ([] : List Input) ++ [.tick 1000000 7 3000000007], input.ClockFits (periodNs task) := by
    intro input mem
    simp only [List.cons_append, List.nil_append, List.mem_cons, List.not_mem_nil,
      or_false] at mem
    rcases mem with rfl | rfl <;> rw [Input.ClockFits, period] <;> norm_num
  obtain ⟨task', active, -, onLattice, notBefore, within⟩ :=
    deadline_catch_up .release 1000 none 0 reached idle step current stays clock rfl due batch
  rw [period] at onLattice within
  refine ⟨last, _, task', (machine .release).run_append.mpr
    ⟨activated, _, sent, started, (machine .release).run_singleton.mpr due, rfl⟩, active, onLattice,
    notBefore, ?_⟩
  linarith

end Generator

end LatencyTest
