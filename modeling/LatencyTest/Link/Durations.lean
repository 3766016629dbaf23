import LatencyTest.Server.Deadlines
import LatencyTest.Client.Collector
import LatencyTest.Lib.Checked

/-!
Accepted durations where they are used. A duration is a number of milliseconds that
`parseDuration` keeps within `int64_t`; the generator and the collector scale it to
nanoseconds once more. Here their arithmetic is that of `int64_t`, so a step that
overflows has no result.
-/

namespace LatencyTest

open Lib (Signed checked checked_of_signed checked_of_not_signed)

/-- The conversion of `std::chrono::milliseconds` to nanoseconds. -/
def toNanoseconds (milliseconds : Int) : Option Int := checked 63 (milliseconds * 1000000)

namespace Generator

/-- The arithmetic of `nextDeadline` as the worker does it, with a publishing period in
milliseconds. -/
def nextDeadline64 (nextTick publishPeriod now : Int) : Option (Int × Int) := do
  let periodNs ← toNanoseconds publishPeriod
  let nextTick ← checked 63 (nextTick + periodNs)
  if nextTick < now then
    let overdue ← checked 63 (now - nextTick)
    if periodNs = 0 then none
    else
      let quotient ← checked 63 (overdue.tdiv periodNs)
      let skipped ← checked 63 (quotient + 1)
      let delay ← checked 63 (publishPeriod * skipped)
      let delayNs ← toNanoseconds delay
      let nextTick ← checked 63 (nextTick + delayNs)
      return (nextTick, skipped)
  else return (nextTick, 0)

/-- A deadline that is not overdue is one period later. -/
theorem nextDeadline64_inTime {nextTick publishPeriod now : Int} (positive : 0 < publishPeriod)
    (nonneg : 0 ≤ nextTick) (inTime : now ≤ nextTick + publishPeriod * 1000000) :
    nextDeadline64 nextTick publishPeriod now =
      (checked 63 (nextTick + publishPeriod * 1000000)).map fun next => (next, 0) := by
  have periodNs : 0 ≤ publishPeriod * 1000000 := by omega
  by_cases fits : nextTick + publishPeriod * 1000000 < 2 ^ 63
  · have period : toNanoseconds publishPeriod = some (publishPeriod * 1000000) :=
      checked_of_signed ((Lib.signed_of_nonneg periodNs).mpr (by omega))
    have next := checked_of_signed ((Lib.signed_of_nonneg (by omega)).mpr fits)
    simp [nextDeadline64, period, next, not_lt.mpr inTime]
  · have overflows : checked 63 (nextTick + publishPeriod * 1000000) = none :=
      checked_of_not_signed fun signed => fits signed.2
    rw [overflows, Option.map_none, nextDeadline64, Option.bind_eq_bind, Option.bind_eq_none_iff]
    intro period scaled
    obtain ⟨-, rfl⟩ := Lib.checked_eq_some.mp scaled
    rw [overflows]
    rfl

/-- The number of whole periods in an overdue time, and how long they are. -/
theorem overdue_periods {overdue period : Int} (nonneg : 0 ≤ overdue) (positive : 0 < period) :
    0 ≤ overdue.tdiv period ∧ overdue.tdiv period ≤ overdue.tdiv period * period ∧
      overdue.tdiv period * period ≤ overdue := by
  rw [Int.tdiv_eq_ediv_of_nonneg nonneg]
  have count := Int.ediv_nonneg nonneg positive.le
  exact ⟨count, le_mul_of_one_le_right count positive, Int.ediv_mul_le _ positive.ne'⟩

/-- An overdue deadline is caught up with steps that stay below the clock. -/
theorem nextDeadline64_overdue {nextTick publishPeriod now : Int} (positive : 0 < publishPeriod)
    (nonneg : 0 ≤ nextTick) (behind : nextTick + publishPeriod * 1000000 < now)
    (clock : now < 2 ^ 63) :
    nextDeadline64 nextTick publishPeriod now =
      (nextDeadline nextTick (publishPeriod * 1000000) now).bind fun next =>
        (checked 63 next.1).map fun nextTick => (nextTick, next.2) := by
  have periodNs : 0 < publishPeriod * 1000000 := by omega
  have within : ∀ value : Int, 0 ≤ value → value ≤ now → checked 63 value = some value :=
    fun value low high => checked_of_signed ((Lib.signed_of_nonneg low).mpr (by omega))
  have overdue : 0 ≤ now - (nextTick + publishPeriod * 1000000) := by omega
  obtain ⟨count, few, below⟩ := overdue_periods overdue periodNs
  set quotient := (now - (nextTick + publishPeriod * 1000000)).tdiv (publishPeriod * 1000000)
    with whole
  have delay : publishPeriod * (quotient + 1) * 1000000 =
      quotient * (publishPeriod * 1000000) + publishPeriod * 1000000 := by ring
  have delay_nonneg : 0 ≤ publishPeriod * (quotient + 1) :=
    mul_nonneg positive.le (by omega)
  have period : toNanoseconds publishPeriod = some (publishPeriod * 1000000) :=
    within _ periodNs.le (by omega)
  have delayNs : toNanoseconds (publishPeriod * (quotient + 1)) =
      some (publishPeriod * 1000000 * (quotient + 1)) := by
    rw [toNanoseconds, within _ (by omega) (by omega)]
    congr 1
    ring
  rw [nextDeadline, if_pos behind, if_neg periodNs.ne', nextDeadline64, period]
  simp only [Option.bind_eq_bind, Option.bind_some, ← whole, delayNs,
    within (nextTick + publishPeriod * 1000000) (by omega) (by omega), if_pos behind,
    within _ overdue (by omega), if_neg periodNs.ne', within quotient count (by omega),
    within (quotient + 1) (by omega) (by omega),
    within (publishPeriod * (quotient + 1)) delay_nonneg (by omega)]
  exact (Option.map_eq_bind).symm

/-- Whatever is computed without overflow is the exact deadline, and nothing but the
deadline itself can overflow. -/
theorem nextDeadline64_eq {nextTick publishPeriod now : Int} (positive : 0 < publishPeriod)
    (nonneg : 0 ≤ nextTick) (clock : now < 2 ^ 63) :
    nextDeadline64 nextTick publishPeriod now =
      (nextDeadline nextTick (publishPeriod * 1000000) now).bind fun next =>
        (checked 63 next.1).map fun nextTick => (nextTick, next.2) := by
  by_cases behind : nextTick + publishPeriod * 1000000 < now
  · exact nextDeadline64_overdue positive nonneg behind clock
  · rw [nextDeadline64_inTime positive nonneg (not_lt.mp behind), nextDeadline, if_neg behind]
    rfl

end Generator

namespace Collector

/-- The time before which a pending batch is too old, with a timeout in milliseconds. -/
def cutoff64 (now batchTimeout : Int) : Option Int := do
  let timeoutNs ← toNanoseconds batchTimeout
  checked 63 (now - timeoutNs)

/-- The batches that expire are those before the cutoff. -/
theorem expires_of_cutoff64 {c : Collector} {now cutoff : Int} (batch : PendingBatch)
    (fits : cutoff64 now c.batchTimeout = some cutoff) :
    c.expires false now batch = decide (batch.timestamp.getD batch.firstObserved < cutoff) := by
  obtain ⟨timeoutNs, scaled, difference⟩ := Option.bind_eq_some_iff.mp fits
  obtain ⟨-, rfl⟩ := Lib.checked_eq_some.mp scaled
  obtain ⟨-, rfl⟩ := Lib.checked_eq_some.mp difference
  exact Bool.false_or _

end Collector

/-! ### The durations that fit -/

/-- The start of the year 2200, in nanoseconds since 1970. -/
def year2200 : Int := 7258118400000000000

/-- The longest publishing period, in milliseconds, that can be added to every clock value
before the year 2200. -/
def longestPeriod : Int := 1965253636854

/-- The longest batch timeout, in milliseconds, that has nanoseconds. -/
def longestTimeout : Int := 9223372036854

/-- No deadline of a publication at a clock value before the year 2200 overflows. -/
def DeadlinesFit (publishPeriod : Int) : Prop :=
  ∀ nextTick now, 0 ≤ nextTick → nextTick ≤ now → now < year2200 →
    (Generator.nextDeadline64 nextTick publishPeriod now).isSome = true

/-- No cutoff of a window at a clock value before the year 2200 overflows. -/
def CutoffsFit (batchTimeout : Int) : Prop :=
  ∀ now, 0 ≤ now → now < year2200 → (Collector.cutoff64 now batchTimeout).isSome = true

/-- A deadline that is due is computed exactly when the period can be added to every clock
value. -/
theorem deadlinesFit_iff {publishPeriod : Int} (positive : 0 < publishPeriod) :
    DeadlinesFit publishPeriod ↔ publishPeriod ≤ longestPeriod := by
  constructor
  · intro fit
    -- the last moment before the year 2200, at which a task has just been activated
    have last := fit (year2200 - 1) (year2200 - 1) (by decide) le_rfl (by decide)
    rw [Generator.nextDeadline64_inTime positive (by decide) (by omega), Option.isSome_map,
      Lib.isSome_checked] at last
    have below := last.2
    unfold year2200 at below
    unfold longestPeriod
    omega
  · intro short nextTick now nonneg due clock
    unfold longestPeriod at short
    unfold year2200 at clock
    obtain ⟨skipped, deadline, -, within⟩ :=
      Generator.nextDeadline_spec (show 0 < publishPeriod * 1000000 by omega) due
    have fits : Signed 63 (nextTick + (1 + skipped) * (publishPeriod * 1000000)) :=
      (Lib.signed_of_nonneg (by positivity)).mpr (by omega)
    rw [Generator.nextDeadline64_eq positive nonneg (by omega), deadline, Option.bind_some,
      checked_of_signed fits]
    rfl

theorem cutoffsFit_iff {batchTimeout : Int} (positive : 0 < batchTimeout) :
    CutoffsFit batchTimeout ↔ batchTimeout ≤ longestTimeout := by
  unfold longestTimeout
  constructor
  · intro fit
    have first := fit 0 le_rfl (by decide)
    by_contra! long
    have overflows : toNanoseconds batchTimeout = none :=
      checked_of_not_signed fun signed => absurd signed.2 (by omega)
    rw [Collector.cutoff64, overflows] at first
    cases first
  · intro short now nonneg clock
    unfold year2200 at clock
    have timeout : toNanoseconds batchTimeout = some (batchTimeout * 1000000) :=
      checked_of_signed ((Lib.signed_of_nonneg (by omega)).mpr (by omega))
    have difference : Signed 63 (now - batchTimeout * 1000000) := ⟨by omega, by omega⟩
    rw [Collector.cutoff64, timeout]
    exact Lib.isSome_checked.mpr difference

/-! ### Deadlines in runs -/

/-- The clock values of a round are before the year 2200, and none is earlier than the one
read before it. -/
def Generator.Input.BeforeYear2200 : Generator.Input → Prop
  | .command _ now => 0 ≤ now ∧ now < year2200
  | .tick _ now later => 0 ≤ now ∧ now ≤ later ∧ later < year2200

namespace Generator

/-- A deadline is never before the epoch of the clock. -/
theorem nextTick_nonneg_of_step {api : DxApi} {g next : Generator} {input : Input}
    {outputs : List Output} (wellFormed : g.WellFormed) (nonneg : 0 ≤ g.nextTick)
    (clock : input.BeforeYear2200)
    (step : (machine api).step g input = some (next, outputs)) : 0 ≤ next.nextTick := by
  cases input with
  | command command now =>
      have kept : 0 ≤ (g.dispatch command).1.nextTick := by rwa [dispatch_nextTick]
      have taken : g.handleCommand command now = (next, outputs) := Option.some.inj step
      rw [handleCommand_eq, Prod.mk.injEq] at taken
      rw [← taken.1]
      rcases startWhenReady_cases ((dispatch_cases g command).consistent wellFormed.toConsistent)
        now with ⟨same, -⟩ | ⟨task, activated⟩
      · rwa [same]
      · rw [activated.state]
        exact clock.1
  | tick nowNs now later =>
      cases round_of_step wellFormed step with
      | waits => exact nonneg
      | publishes ticked =>
          have positive : 0 < periodNs _ := Int.mul_pos
            (wellFormed.active _ ticked.current).admissible.period_pos (by norm_num)
          by_cases early : now < g.nextTick
          · have waits : g.tick api nowNs now later = some (g, []) := by
              simp only [tick, ticked.current, if_pos early]
            cases waits.symm.trans step
            exact nonneg
          · obtain ⟨_, _, -, -, -, -, -, deadline⟩ :=
              tick_deadline wellFormed ticked.current early step
            obtain ⟨skipped, next', notBefore, -⟩ :=
              nextDeadline_spec positive ((not_lt.mp early).trans clock.2.1)
            rw [next', Option.some.injEq, Prod.mk.injEq] at deadline
            rw [← deadline.1]
            exact (clock.1.trans clock.2.1).trans notBefore

theorem nextTick_nonneg {api : DxApi} {limit : Nat} {configured : Option Nat} {start : Int}
    {inputs : List Input} {g : Generator} {outputs : List Output} (begin : 0 ≤ start)
    (clock : ∀ input ∈ inputs, input.BeforeYear2200)
    (reached : (machine api).run (create limit configured start) inputs = some (g, outputs)) :
    0 ≤ g.nextTick := by
  refine (machine api).run_history
    (fun before state _ => (∀ input ∈ before, input.BeforeYear2200) → 0 ≤ state.nextTick)
    (fun _ => begin) ?_ reached clock
  intro before state earlier input next produced run ih step clock
  exact nextTick_nonneg_of_step (run_wellFormed (wellFormed_create limit configured start) run)
    (ih fun other mem => clock other (List.mem_append_left _ mem)) (clock input (by simp)) step

/-- In every run whose clock stays before the year 2200, a publication of a task with an
admitted period computes the next deadline without overflow, and exactly. -/
theorem nextDeadline64_of_run {api : DxApi} {limit : Nat} {configured : Option Nat}
    {start now later : Int} {inputs : List Input} {g : Generator} {outputs : List Output}
    {task : ActiveTask} (begin : 0 ≤ start) (clock : ∀ input ∈ inputs, input.BeforeYear2200)
    (reached : (machine api).run (create limit configured start) inputs = some (g, outputs))
    (current : g.active = some task) (due : g.nextTick ≤ now) (order : now ≤ later)
    (before : later < year2200) (short : task.pattern.publishPeriod ≤ longestPeriod) :
    ∃ next, nextDeadline64 g.nextTick task.pattern.publishPeriod later = some next ∧
      nextDeadline g.nextTick (periodNs task) later = some next := by
  have wellFormed := run_wellFormed (wellFormed_create limit configured start) reached
  have positive := (wellFormed.active task current).admissible.period_pos
  have nonneg := nextTick_nonneg begin clock reached
  obtain ⟨next, computed⟩ := Option.isSome_iff_exists.mp
    ((deadlinesFit_iff positive).mpr short g.nextTick later nonneg (due.trans order) before)
  have clock64 : later < 2 ^ 63 := by
    unfold year2200 at before
    omega
  rw [nextDeadline64_eq positive nonneg clock64] at computed
  obtain ⟨exact, deadline, fits⟩ := Option.bind_eq_some_iff.mp computed
  obtain ⟨nextTick, signed, rfl⟩ := Option.map_eq_some_iff.mp fits
  obtain ⟨-, rfl⟩ := Lib.checked_eq_some.mp signed
  exact ⟨_, by rw [nextDeadline64_eq positive nonneg clock64, computed], deadline⟩

end Generator

/-- Every use of an accepted duration fits `int64_t` exactly when the duration is at most
the longest period: the bound comes from the deadlines, while cutoffs alone allow the
longest timeout. The publishing period of an accepted task has the same bound, and below it
no publication of any run overflows. -/
theorem durations_fit_iff (text : Text) :
    (∀ duration, parseDuration text = .ok duration →
      (DeadlinesFit duration ∧ CutoffsFit duration ↔ duration ≤ longestPeriod) ∧
        (CutoffsFit duration ↔ duration ≤ longestTimeout)) ∧
    (∀ pattern, parseTask text = .ok pattern →
      (DeadlinesFit pattern.publishPeriod ↔ pattern.publishPeriod ≤ longestPeriod)) ∧
    ∀ (api : DxApi) (limit : Nat) (configured : Option Nat) (start now later : Int)
      (inputs : List Generator.Input) (g : Generator) (outputs : List Output) (task : ActiveTask),
      0 ≤ start → (∀ input ∈ inputs, input.BeforeYear2200) →
      (Generator.machine api).run (.create limit configured start) inputs = some (g, outputs) →
      g.active = some task → g.nextTick ≤ now → now ≤ later → later < year2200 →
      task.pattern.publishPeriod ≤ longestPeriod →
      ∃ next, Generator.nextDeadline64 g.nextTick task.pattern.publishPeriod later = some next ∧
        Generator.nextDeadline g.nextTick (Generator.periodNs task) later = some next := by
  refine ⟨fun duration accepted => ?_, fun pattern accepted => ?_, ?_⟩
  · have positive := (parseDuration_ok accepted).1
    rw [deadlinesFit_iff positive, cutoffsFit_iff positive]
    refine ⟨⟨And.left, fun short => ⟨short, short.trans (by decide)⟩⟩, Iff.rfl⟩
  · exact deadlinesFit_iff (parseTask_admissible accepted).period_pos
  · intro api limit configured start now later inputs g outputs task begin clock reached current
      due order before short
    exact Generator.nextDeadline64_of_run begin clock reached current due order before short

/-- A second fits wherever it is used, also in the first publication of a run, three
seconds late. -/
theorem durations_fit_second :
    (parseDuration "1s".toList = .ok 1000 ∧ DeadlinesFit 1000 ∧ CutoffsFit 1000) ∧
    ∃ g outputs task, (Generator.machine .release).run (.create 1000 none 0)
        [.command (enqueueSymbols .symbolsAdded .profile [.string "SYM00".toList]) 0,
          .command (enqueueControl .start "SUB:N1".toList) 7] = some (g, outputs) ∧
      g.active = some task ∧ task.pattern.publishPeriod = 1000 ∧
      ∃ next, Generator.nextDeadline64 g.nextTick task.pattern.publishPeriod 3000000007 =
        some next := by
  have accepted : parseDuration "1s".toList = .ok 1000 := by decide
  obtain ⟨durations, -, runs⟩ := durations_fit_iff "1s".toList
  refine ⟨⟨accepted, (durations _ accepted).1.mpr (by decide)⟩, ?_⟩
  let inputs : List Generator.Input :=
    [.command (enqueueSymbols .symbolsAdded .profile [.string "SYM00".toList]) 0,
      .command (enqueueControl .start "SUB:N1".toList) 7]
  obtain ⟨g, outputs, reached, -⟩ :=
    Generator.run_ok .release (Generator.wellFormed_create 1000 none 0) inputs
  have ready : ((Generator.machine .release).run (.create 1000 none 0) inputs).map
      (fun result => (result.1.active.map fun task => task.pattern.publishPeriod,
        result.1.nextTick)) = some (some 1000, 7) := by decide +kernel
  rw [reached, Option.map_some, Option.some.injEq, Prod.mk.injEq, Option.map_eq_some_iff] at ready
  obtain ⟨⟨task, current, second⟩, nextTick⟩ := ready
  have clock : ∀ input ∈ inputs, input.BeforeYear2200 := by
    intro input mem
    simp only [inputs, List.mem_cons, List.not_mem_nil, or_false] at mem
    rcases mem with rfl | rfl <;> exact ⟨by decide, by decide⟩
  obtain ⟨next, computed, -⟩ := runs .release 1000 none 0 7 3000000007 inputs g outputs task
    le_rfl clock reached current nextTick.le (by decide) (by decide)
    (by rw [second]; decide)
  exact ⟨g, outputs, task, reached, current, second, next, computed⟩

/-- The longest duration of `parseDuration` overflows at once, as a publishing period and
as a batch timeout. -/
theorem longest_duration_overflows :
    parseDuration "9223372036854775807ms".toList = .ok 9223372036854775807 ∧
      (∃ pattern, parseTask "SUB:Q1@9223372036854775807ms".toList = .ok pattern ∧
        Generator.nextDeadline64 0 pattern.publishPeriod 0 = none) ∧
      Collector.cutoff64 0 9223372036854775807 = none := by
  have accepted : parseTask "SUB:Q1@9223372036854775807ms".toList =
      .ok { items := [⟨.quote, 1⟩], publishPeriod := 9223372036854775807 } := by
    decide +kernel
  exact ⟨by decide +kernel, ⟨_, accepted, by decide +kernel⟩, by decide +kernel⟩

end LatencyTest
