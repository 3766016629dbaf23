import LatencyTest.Lib.Spans
import LatencyTest.Client.Heard

/-!
What a run of `main` calls its collector for, and what it reports. Whatever happens between
the actions of `main`, its calls are those of a `ClientRun` that accounts for every callback
(`Accounts`), the windows and totals it reports are those of that run
(`Outcome.refines`), and the reported intervals follow one another from the start of the
measurement (`Tiled`).
-/

namespace LatencyTest

open Lib (Program spans)
open Runner (ClientConfig)

namespace Client

/-! ### What is heard -/

/-- What the listeners were called with until now, and when the measurement began and ended. -/
structure Journal where
  heard : List Heard
  now : Int
  began : Int
  ended : Int

def World.journal (world : World) : Journal :=
  ⟨world.heard, world.steady, world.began, world.ended⟩

def Journal.hear (journal : Journal) (made : Callback) : Journal :=
  { journal with heard := journal.heard ++ [⟨journal.now, made⟩] }

def Journal.elapse (journal : Journal) (duration : Nat) : Journal :=
  { journal with now := journal.now + duration }

/-- What is heard in the stages of a run: before the measurement, until its end is declared,
before the last window, before the totals, and after them. -/
structure Timeline where
  warmUp : List Heard
  measured : List Heard
  tail : List Heard := []
  late : List Heard := []
  after : List Heard := []

def Timeline.ending (t : Timeline) : List Heard := t.tail ++ t.late ++ t.after

def Timeline.heard (t : Timeline) : List Heard := t.warmUp ++ t.measured ++ t.ending

/-- A run of the collector's calls that accounts for everything heard. The warm-up is no later than
the beginning of the measurement; what is no longer measured comes after its end. -/
structure Accounts (run : ClientRun) (t : Timeline) (journal : Journal) : Prop where
  warmUp : run.warmUp = callbacks t.warmUp
  measured : run.measured.filterMap MeasuredCall.heard = callbacks t.measured
  tail : run.tail = callbacks t.tail
  late : run.late = callbacks t.late
  heard : t.heard = journal.heard
  before : ∀ made ∈ t.warmUp, made.time ≤ journal.began
  reached : journal.ended ≤ journal.now
  ending : ∀ made ∈ t.ending, journal.ended ≤ made.time

namespace Accounts

variable {run : ClientRun} {t : Timeline} {journal : Journal} (accounts : Accounts run t journal)

include accounts

theorem elapse (duration : Nat) : Accounts run t (journal.elapse duration) :=
  { accounts with reached := accounts.reached.trans (by simp [Journal.elapse]) }

/-- One more callback, in the last stage. -/
theorem snoc {run' : ClientRun} {t' : Timeline} (made : Callback)
    (warmUp : run'.warmUp = run.warmUp ∧ t'.warmUp = t.warmUp)
    (measured : run'.measured = run.measured ∧ t'.measured = t.measured)
    (tail : run'.tail = callbacks t'.tail) (late : run'.late = callbacks t'.late)
    (ending : t'.ending = t.ending ++ [⟨journal.now, made⟩]) :
    Accounts run' t' (journal.hear made) where
  warmUp := by rw [warmUp.1, warmUp.2, accounts.warmUp]
  measured := by rw [measured.1, measured.2, accounts.measured]
  tail := tail
  late := late
  heard := by
    rw [Journal.hear, ← accounts.heard, Timeline.heard, Timeline.heard, ending, warmUp.2,
      measured.2, List.append_assoc, List.append_assoc, List.append_assoc]
  before := warmUp.2 ▸ accounts.before
  reached := accounts.reached
  ending := by
    rw [ending]
    exact List.forall_mem_append.mpr ⟨accounts.ending,
      List.forall_mem_singleton.mpr accounts.reached⟩

end Accounts

/-! ### The calls of the collector -/

section Calls

variable (api : DxApi) (config : Config) (pattern : TaskPattern)

/-- The collector after callbacks only. -/
def WarmedUp (journal : Journal) (collector : Collector) : Prop :=
  (∀ made ∈ journal.heard, made.time ≤ journal.now) ∧
    collector = (ClientRun.collector config pattern).run api
      ((callbacks journal.heard).map Callback.call)

/-- A Profile of every symbol. -/
def Profiled (collector : Collector) : Prop :=
  pattern.symbolCount ≤ collector.profileSymbolsReceived.card

/-- Callbacks of a warm-up in which a Profile of every symbol arrives. -/
def Complete (warmUp : List Callback) : Prop :=
  Profiled pattern
    ((ClientRun.collector config pattern).run api (warmUp.map Callback.call))

/-- The collector during the measurement, after the given windows were taken. -/
def Measures (journal : Journal) (taken : List Window) (collector : Collector) : Prop :=
  ∃ (warmUp during : List Heard) (measured : List MeasuredCall),
    let calls := (callbacks warmUp).map Callback.call ++
      .beginMeasurement :: measured.map MeasuredCall.call
    (warmUp ++ during = journal.heard ∧
      measured.filterMap MeasuredCall.heard = callbacks during ∧
        ∀ made ∈ warmUp, made.time ≤ journal.began) ∧
      Complete api config pattern (callbacks warmUp) ∧
        collector = (ClientRun.collector config pattern).run api calls ∧
          (ClientRun.collector config pattern).windows api calls = taken

/-- The same for a measurement that began at a time. -/
def MeasuresSince (began : Int) (journal : Journal) (taken : List Window)
    (collector : Collector) : Prop :=
  journal.began = began ∧ Measures api config pattern journal taken collector

/-- The collector after the measurement and before the last window. -/
def Drained (journal : Journal) (taken : List Window) (collector : Collector) : Prop :=
  ∃ (run : ClientRun) (t : Timeline), (Accounts run t journal ∧ t.late = [] ∧ t.after = []) ∧
    Complete api config pattern run.warmUp ∧
      collector = run.atFinal api config pattern ∧
        (ClientRun.collector config pattern).windows api run.calls = taken

/-- The collector after the last window: the windows to report, and the state of the totals. -/
def Finished (journal : Journal) (shown : List Window) (collector : Collector) : Prop :=
  ∃ (run : ClientRun) (t : Timeline), (Accounts run t journal ∧ t.after = []) ∧
    Complete api config pattern run.warmUp ∧
      run.reported api config pattern = shown ∧
        collector = ((run.atFinal api config pattern).takeWindow true run.finalNow).2.run api
          (run.late.map Callback.call)

variable {api config pattern} {journal : Journal} {taken : List Window} {collector : Collector}

theorem run_snoc (start : Collector) (calls : List Collector.Call) (made : Collector.Call) :
    start.run api (calls ++ [made]) = (start.run api calls).call api made :=
  List.foldl_append ..

theorem windows_snoc (start : Collector) (calls : List Collector.Call) (made : Collector.Call) :
    start.windows api (calls ++ [made]) =
      start.windows api calls ++ (start.run api calls).extracted made := by
  rw [Collector.windows_append]
  exact congrArg _ (List.append_nil _)

theorem WarmedUp.callback (warm : WarmedUp api config pattern journal collector)
    (made : Callback) :
    WarmedUp api config pattern (journal.hear made) (collector.call api made.call) := by
  obtain ⟨before, rfl⟩ := warm
  refine ⟨List.forall_mem_append.mpr ⟨before, List.forall_mem_singleton.mpr le_rfl⟩, ?_⟩
  rw [Journal.hear, callbacks_append, List.map_append]
  exact (run_snoc _ _ _).symm

theorem WarmedUp.elapse (warm : WarmedUp api config pattern journal collector)
    (duration : Nat) : WarmedUp api config pattern (journal.elapse duration) collector :=
  ⟨fun made mem => (warm.1 made mem).trans (by simp [Journal.elapse]), warm.2⟩

/-- Before the measurement no window is taken. -/
theorem windows_callbacks (start : Collector) (heard : List Callback) :
    start.windows api (heard.map Callback.call) = [] := by
  induction heard generalizing start with
  | nil => rfl
  | cons first heard ih => exact ih _

theorem receiveProfile_subset (symbols : Finset Text) (events : List Event) :
    symbols ⊆ events.foldl Collector.receiveProfile symbols := by
  induction events generalizing symbols with
  | nil => exact Finset.Subset.refl _
  | cons event events ih =>
      refine Finset.Subset.trans ?_ (ih _)
      cases event with
      | profile eventSymbol => exact Finset.subset_insert _ _
      | _ => exact Finset.Subset.refl _

/-- During the warm-up Profiles are only added. -/
theorem WarmedUp.profiled (warm : WarmedUp api config pattern journal collector)
    (profiled : Profiled pattern collector) (made : Callback) :
    Profiled pattern (collector.call api made.call) := by
  obtain ⟨-, rfl⟩ := warm
  have never : .beginMeasurement ∉ (callbacks journal.heard).map Callback.call := by
    rw [List.mem_map]
    rintro ⟨made, -, same⟩
    cases same
  have idle : ((ClientRun.collector config pattern).run api
      ((callbacks journal.heard).map Callback.call)).measuring = false :=
    (Collector.idle_run api (Collector.idle_create ..) never).1.measuring
  refine le_trans profiled (Finset.card_le_card ?_)
  rw [Callback.call, Collector.call, Collector.handle_idle api idle]
  exact receiveProfile_subset _ _

/-- The measurement begins now. -/
theorem WarmedUp.begin (warm : WarmedUp api config pattern journal collector)
    (profiled : Profiled pattern collector) :
    Measures api config pattern { journal with began := journal.now } []
      collector.beginMeasurement := by
  obtain ⟨before, rfl⟩ := warm
  refine ⟨journal.heard, [], [], ⟨List.append_nil _, rfl, before⟩, profiled,
    (run_snoc _ _ .beginMeasurement).symm, ?_⟩
  rw [List.map_nil, windows_snoc, windows_callbacks]
  rfl

/-- The measurement began no earlier than a later time. -/
theorem Measures.since (measures : Measures api config pattern journal taken collector)
    {time : Int} (later : journal.began ≤ time) :
    Measures api config pattern { journal with began := time } taken collector := by
  obtain ⟨warmUp, during, measured, ⟨heard, calls, before⟩, rest⟩ := measures
  exact ⟨warmUp, during, measured,
    ⟨heard, calls, fun made mem => (before made mem).trans later⟩, rest⟩

theorem Measures.elapse (measures : Measures api config pattern journal taken collector)
    (duration : Nat) : Measures api config pattern (journal.elapse duration) taken collector :=
  measures

theorem Measures.callback (measures : Measures api config pattern journal taken collector)
    (made : Callback) :
    Measures api config pattern (journal.hear made) taken (collector.call api made.call) := by
  obtain ⟨warmUp, during, measured, ⟨heard, calls, before⟩, complete, rfl, rfl⟩ := measures
  refine ⟨warmUp, during ++ [⟨journal.now, made⟩], measured ++ [.callback made],
    ⟨?_, ?_, before⟩, complete, ?_, ?_⟩
  · rw [← List.append_assoc, heard]
    rfl
  · rw [List.filterMap_append, calls, callbacks_append]
    rfl
  · rw [List.map_append, List.map_singleton, ← List.cons_append, ← List.append_assoc]
    exact (run_snoc _ _ _).symm
  · rw [List.map_append, List.map_singleton, ← List.cons_append, ← List.append_assoc,
      windows_snoc]
    exact List.append_nil _

theorem Measures.takeWindow (measures : Measures api config pattern journal taken collector)
    (now : Int) :
    Measures api config pattern journal (taken ++ [(collector.takeWindow false now).1])
      (collector.takeWindow false now).2 := by
  obtain ⟨warmUp, during, measured, ⟨heard, calls, before⟩, complete, rfl, rfl⟩ := measures
  refine ⟨warmUp, during, measured ++ [.window now], ⟨heard, ?_, before⟩, complete, ?_⟩
  · rw [List.filterMap_append, calls]
    exact List.append_nil _
  · rw [List.map_append, List.map_singleton, ← List.cons_append, ← List.append_assoc]
    exact ⟨(run_snoc _ _ (MeasuredCall.window now).call).symm, windows_snoc _ _ _⟩

/-- The measurement ended at a time that is past. -/
theorem Measures.end (measures : Measures api config pattern journal taken collector)
    {time : Int} (past : time ≤ journal.now) :
    Drained api config pattern { journal with ended := time } taken
      collector.endMeasurement := by
  obtain ⟨warmUp, during, measured, ⟨heard, calls, before⟩, complete, rfl, rfl⟩ := measures
  refine ⟨⟨callbacks warmUp, measured, [], 0, []⟩, ⟨warmUp, during, [], [], []⟩,
    ⟨⟨rfl, calls, rfl, rfl, ?_, before, past, nofun⟩, rfl, rfl⟩, complete, ?_⟩
  · exact (List.append_nil _).trans heard
  · rw [ClientRun.atFinal, ClientRun.calls, ClientRun.measuredCalls, List.map_nil,
      ← List.cons_append, ← List.append_assoc, run_snoc, windows_snoc]
    exact ⟨rfl, List.append_nil _⟩

theorem Drained.elapse (drained : Drained api config pattern journal taken collector)
    (duration : Nat) : Drained api config pattern (journal.elapse duration) taken collector := by
  obtain ⟨run, t, ⟨accounts, stage⟩, rest⟩ := drained
  exact ⟨run, t, ⟨accounts.elapse duration, stage⟩, rest⟩

theorem Drained.callback (drained : Drained api config pattern journal taken collector)
    (made : Callback) :
    Drained api config pattern (journal.hear made) taken (collector.call api made.call) := by
  obtain ⟨run, t, ⟨accounts, late, after⟩, complete, rfl, rfl⟩ := drained
  have longer : ({ run with tail := run.tail ++ [made] } : ClientRun).calls =
      run.calls ++ [made.call] := by
    simp [ClientRun.calls, ClientRun.measuredCalls]
  refine ⟨{ run with tail := run.tail ++ [made] },
    { t with tail := t.tail ++ [⟨journal.now, made⟩] },
    ⟨accounts.snoc made ⟨rfl, rfl⟩ ⟨rfl, rfl⟩ ?_ accounts.late ?_, late, after⟩, complete, ?_, ?_⟩
  · rw [callbacks_append, accounts.tail]
    rfl
  · simp [Timeline.ending, late, after]
  · rw [ClientRun.atFinal, ClientRun.atFinal, longer, run_snoc]
  · rw [longer, windows_snoc]
    exact List.append_nil _

/-- The last window is taken: what is reported is what was taken and, if there is something in
it, the last one. -/
theorem Drained.takeLast (drained : Drained api config pattern journal taken collector)
    (now : Int) :
    Finished api config pattern journal
      (taken ++ if (collector.takeWindow true now).1.shown then [(collector.takeWindow true now).1]
        else [])
      (collector.takeWindow true now).2 := by
  obtain ⟨run, t, ⟨accounts, late, after⟩, complete, rfl, rfl⟩ := drained
  refine ⟨{ run with finalNow := now, late := [] }, t,
    ⟨{ accounts with late := ?_ }, after⟩, complete, rfl, rfl⟩
  rw [late]
  rfl

theorem Finished.elapse {shown : List Window}
    (finished : Finished api config pattern journal shown collector) (duration : Nat) :
    Finished api config pattern (journal.elapse duration) shown collector := by
  obtain ⟨run, t, ⟨accounts, stage⟩, rest⟩ := finished
  exact ⟨run, t, ⟨accounts.elapse duration, stage⟩, rest⟩

theorem Finished.callback {shown : List Window}
    (finished : Finished api config pattern journal shown collector) (made : Callback) :
    Finished api config pattern (journal.hear made) shown (collector.call api made.call) := by
  obtain ⟨run, t, ⟨accounts, after⟩, complete, rfl, rfl⟩ := finished
  refine ⟨{ run with late := run.late ++ [made] },
    { t with late := t.late ++ [⟨journal.now, made⟩] },
    ⟨accounts.snoc made ⟨rfl, rfl⟩ ⟨rfl, rfl⟩ accounts.tail ?_ ?_, after⟩, complete, rfl, ?_⟩
  · rw [callbacks_append, accounts.late]
    rfl
  · simp [Timeline.ending, after]
  · rw [List.map_append]
    exact (run_snoc _ _ _).symm

/-- A relation that is kept by whatever the environment does. -/
structure Lasting (api : DxApi) (relates : Journal → List Window → Collector → Prop) : Prop where
  callback : ∀ {journal taken collector} (made : Callback), relates journal taken collector →
    relates (journal.hear made) taken (collector.call api made.call)
  elapse : ∀ {journal taken collector} (duration : Nat), relates journal taken collector →
    relates (journal.elapse duration) taken collector

theorem lasting_measures (began : Int) : Lasting api (MeasuresSince api config pattern began) :=
  ⟨fun made measures => ⟨measures.1, measures.2.callback made⟩,
    fun duration measures => ⟨measures.1, measures.2.elapse duration⟩⟩

theorem lasting_drained : Lasting api (Drained api config pattern) :=
  ⟨fun made drained => drained.callback made, fun duration drained => drained.elapse duration⟩

theorem lasting_finished : Lasting api (Finished api config pattern) :=
  ⟨fun made finished => finished.callback made, fun duration finished => finished.elapse duration⟩

end Calls

/-! ### Intervals -/

/-- The interval of a report. -/
def Report.interval (made : Report) : Int × Int := (made.start, made.stop)

/-- Reports whose intervals follow one another from a start to a stop. -/
def Tiled (start : Int) (reports : List Report) (stop : Int) : Prop :=
  ∃ times : List Int, reports.map Report.interval = spans start times ∧
    times.getLastD start = stop

theorem spans_snoc (start : Int) (times : List Int) (time : Int) :
    spans start (times ++ [time]) = spans start times ++ [(times.getLastD start, time)] := by
  induction times generalizing start with
  | nil => rfl
  | cons first times ih =>
      rw [List.cons_append, spans, spans, ih, List.getLastD_cons, List.cons_append]

theorem Tiled.snoc {start stop : Int} {reports : List Report} (tiled : Tiled start reports stop)
    {made : Report} (continues : made.start = stop) :
    Tiled start (reports ++ [made]) made.stop := by
  obtain ⟨times, intervals, rfl⟩ := tiled
  refine ⟨times ++ [made.stop], ?_, by simp⟩
  rw [List.map_append, intervals, spans_snoc, ← continues]
  rfl

/-- The last report ends at the stop. -/
theorem Tiled.getLast {start stop : Int} {reports : List Report} (tiled : Tiled start reports stop)
    (some : reports ≠ []) : ∃ made ∈ reports.getLast?, made.stop = stop := by
  obtain ⟨times, intervals, rfl⟩ := tiled
  induction reports using List.reverseRecOn with
  | nil => exact absurd rfl some
  | append_singleton before made _ =>
      refine ⟨made, by simp, ?_⟩
      induction times using List.reverseRecOn with
      | nil => simp [spans] at intervals
      | append_singleton earlier time _ =>
          rw [List.map_append, spans_snoc] at intervals
          have same := (List.append_inj' intervals rfl).2
          rw [List.map_singleton, List.singleton_inj] at same
          rw [List.getLastD_concat]
          exact congrArg Prod.snd same

/-! ### Samples of resources -/

/-- A sampler after its first sample: the mean cannot exceed the maximum. -/
structure Sampled (sampler : ResourceSampler) : Prop where
  samples : 1 ≤ sampler.samples
  total : sampler.rssTotal ≤ sampler.samples * sampler.rssMaximum

theorem sampled_sample {sampler : ResourceSampler} (total : sampler.rssTotal ≤
    sampler.samples * sampler.rssMaximum) (rss : Nat) : Sampled (sampler.sample rss) where
  samples := Nat.le_add_left ..
  total := by
    calc (sampler.rssTotal + rss) % sizeLimit
        ≤ sampler.rssTotal + rss := Nat.mod_le ..
      _ ≤ sampler.samples * max sampler.rssMaximum rss + max sampler.rssMaximum rss :=
          Nat.add_le_add (total.trans (Nat.mul_le_mul_left _ (le_max_left ..))) (le_max_right ..)
      _ = (sampler.samples + 1) * max sampler.rssMaximum rss := (Nat.succ_mul ..).symm

theorem Sampled.sample {sampler : ResourceSampler} (sampled : Sampled sampler) (rss : Nat) :
    Sampled (sampler.sample rss) ∧ 2 ≤ (sampler.sample rss).samples :=
  ⟨sampled_sample sampled.total rss, Nat.succ_le_succ sampled.samples⟩

theorem sampled_create (cpu : Int) (rss : Nat) : Sampled (.create cpu rss) :=
  sampled_sample (Nat.zero_le _) rss

theorem Sampled.mean_le_maximum {sampler : ResourceSampler} (sampled : Sampled sampler)
    (cpu : Int) (processors : Nat) (elapsed : ℚ) :
    (sampler.finish cpu processors elapsed).rssMeanBytes ≤
      (sampler.finish cpu processors elapsed).rssMaximumBytes := by
  have positive := sampled.samples
  change (if sampler.samples ≠ 0 then sampler.rssTotal / sampler.samples else 0) ≤ _
  rw [if_pos (by omega)]
  exact Nat.div_le_of_le_mul sampled.total

/-- The statistics of a phase are those of two samples or more, and the phase after the snapshot is
reported when the tracker has counted a snapshot for every symbol. -/
structure Report.Measured (pattern : TaskPattern) (made : Report) : Prop where
  statistics : made.snapshotPhase.isSome → 2 ≤ made.resources.samples ∧
    made.resources.rssMeanBytes ≤ made.resources.rssMaximumBytes
  completed : made.snapshotPhase = some .after → pattern.symbolCount ≤ made.completed

/-! ### During the measurement -/

section Measurement

variable (host : Host) (config : ClientConfig) (pattern : TaskPattern)

/-- Before the measurement nothing is reported. -/
structure Setup (world : World) : Prop where
  warm : WarmedUp host.api config.toConfig pattern world.journal world.collector
  reported : world.reported = []
  final : world.final = none
  control : world.control ⊆ [config.task, markerSymbol config.task]

/-- What is reported so far: windows in a relation with the collector, the control symbols that
may be left, the phases of the reports, the end of the last one, and the windows that are taken
and not yet reported. -/
structure Reporting (pattern : TaskPattern)
    (relates : Journal → List Window → Collector → Prop) (control : List Text)
    (phases : List (Option SnapshotPhase)) (stop : Int) (taken : List Window) (world : World) :
    Prop where
  relates : relates world.journal (world.reported.map Report.data ++ taken) world.collector
  tiled : Tiled world.runStart world.reported stop
  phases : world.reported.map Report.snapshotPhase = phases
  sampled : ∀ made ∈ world.reported, made.Measured pattern
  final : world.final = none
  control : world.control ⊆ control

/-- The reports of a measurement that began at a time. -/
abbrev Measuring (began : Int) (control : List Text) (phases : List (Option SnapshotPhase))
    (stop : Int) (taken : List Window) (world : World) : Prop :=
  Reporting pattern (MeasuresSince host.api config.toConfig pattern began) control phases stop
    taken world

variable {host config pattern} {relates : Journal → List Window → Collector → Prop}
  {began : Int} {control : List Text} {phases : List (Option SnapshotPhase)} {stop : Int}
  {taken : List Window}

theorem stable_setup : Program.Stable host.move (Setup host config pattern) := by
  intro world made setup
  cases made with
  | callback heard => exact ⟨setup.warm.callback heard, setup.reported, setup.final, setup.control⟩
  | elapse duration =>
      exact ⟨setup.warm.elapse duration, setup.reported, setup.final, setup.control⟩
  | _ => exact ⟨setup.warm, setup.reported, setup.final, setup.control⟩

theorem stable_reporting (lasting : Lasting host.api relates) :
    Program.Stable host.move (Reporting pattern relates control phases stop taken) := by
  intro world made r
  cases made with
  | callback heard =>
      exact ⟨lasting.callback heard r.relates, r.tiled, r.phases, r.sampled, r.final, r.control⟩
  | elapse duration =>
      exact ⟨lasting.elapse duration r.relates, r.tiled, r.phases, r.sampled, r.final, r.control⟩
  | _ => exact ⟨r.relates, r.tiled, r.phases, r.sampled, r.final, r.control⟩

theorem stable_measuring :
    Program.Stable host.move (Measuring host config pattern began control phases stop taken) :=
  stable_reporting (lasting_measures began)

theorem stable_steady (time : Int) : Program.Stable host.move fun world => time ≤ world.steady := by
  intro world made reached
  cases made with
  | elapse duration => exact reached.trans (by simp [Host.move])
  | _ => exact reached

theorem stable_interrupted :
    Program.Stable host.move fun world => world.interrupted = true := by
  intro world made stopped
  cases made with
  | interrupt => rfl
  | _ => exact stopped

/-! ### Actions that leave an assertion alone -/

section Actions

variable {assertion : World → Prop} (stable : Program.Stable host.move assertion)
include stable

/-- A value that is read has what every world with the assertion gives it. -/
theorem read_ensures {α : Type} {value : World → α} (fact : α → World → Prop)
    (holds : ∀ world, assertion world → fact (value world) world) :
    Program.Ensures assertion (.read value : Action host α)
      fun a world => assertion world ∧ fact a world :=
  .read stable fun world start => ⟨start, holds world start⟩

theorem steadyNow_ensures : Program.Ensures assertion (steadyNow : Action host Int)
    fun now world => assertion world ∧ now ≤ world.steady :=
  read_ensures stable (fun now world => now ≤ world.steady) fun _ _ => le_rfl

theorem isInterrupted_ensures : Program.Ensures assertion (isInterrupted : Action host Bool)
    fun stopped world => assertion world ∧ (stopped = true → world.interrupted = true) :=
  read_ensures stable (fun stopped world => stopped = true → world.interrupted = true) fun _ _ => id

/-- Sleeping is time that passes. -/
theorem sleepFor_ensures (duration : Int) :
    Program.Ensures assertion (sleepFor duration : Action host Unit) fun _ => assertion := by
  refine .modify _ stable fun world start => ?_
  have passed := stable world (.elapse (max 0 (nanoseconds duration)).toNat) start
  rw [Host.move, Int.toNat_of_nonneg (le_max_left ..)] at passed
  exact passed

/-- A loop goes on before its deadline only, and stops at it or for an interrupt. -/
theorem goesOn_ensures {deadline : Int} (fact : World → Prop)
    (holds : ∀ world, assertion world → world.steady < deadline → fact world) :
    Program.Ensures assertion (goesOn deadline : Action host Bool) fun going world =>
      assertion world ∧ (going = true → fact world) ∧
        (going = false → world.interrupted = true ∨ deadline ≤ world.steady) := by
  refine .both assertion ?_ ?_
  · refine .bind (isInterrupted_ensures stable) fun stopped => .pure fun world ⟨start, read⟩ => ?_
    cases stopped with
    | true => exact ⟨start, nofun, fun _ => .inl (read rfl)⟩
    | false => exact start
  · refine .bind (read_ensures stable
      (fun now world => now ≤ world.steady ∧ (now < deadline → fact world))
      fun world start => ⟨le_rfl, holds world start⟩) fun now => .pure ?_
    rintro world ⟨start, reached, early⟩
    refine ⟨start, fun going => early (of_decide_eq_true going), fun stopped => .inr ?_⟩
    exact (not_lt.mp (of_decide_eq_false stopped)).trans reached

theorem waitFor_ensures (duration : Int) :
    Program.Ensures assertion (waitFor duration : Action host Bool) fun went world =>
      assertion world ∧ (went = false → world.interrupted = true) := by
  refine .bind (steadyNow_ensures stable) fun now => .of_imp _ (fun world => And.left) ?_
  refine .bind (.loop (fun _ => assertion) (fun _ => assertion) (fun _ => ?_) ())
    fun _ => ?_
  · refine .bind (goesOn_ensures stable (fun _ => True) fun _ _ _ => trivial) fun going => ?_
    refine .of_imp _ (fun world => And.left) ?_
    cases going with
    | true => exact .bind (sleepFor_ensures stable 100) fun _ => .pure fun world => id
    | false => exact .pure fun world => id
  · refine .bind (isInterrupted_ensures stable) fun stopped => .pure fun world ⟨start, read⟩ => ?_
    refine ⟨start, fun went => read ?_⟩
    simpa using went

theorem waitUntil_ensures (ready : World → Bool) (timeout : Int) :
    Program.Ensures assertion (waitUntil ready timeout : Action host Bool)
      fun result world => assertion world ∧ (result = true → ready world = true) := by
  refine .bind (steadyNow_ensures stable) fun now => .of_imp _ (fun world => And.left) ?_
  refine .bind (.loop (fun _ => assertion) (fun _ => assertion) (fun _ => ?_) ()) fun _ =>
    read_ensures stable (fun result world => result = true → ready world = true) fun _ _ => id
  have condition : Program.Ensures assertion (Program.both (do pure !(← isInterrupted))
      (do pure !(← .read ready)) : Action host Bool) fun _ => assertion :=
    .both_keeps (.bind (.read_keeps stable) fun _ => .pure fun world => id)
      (.bind (.read_keeps stable) fun _ => .pure fun world => id)
  refine .bind condition fun going => ?_
  cases going with
  | false => exact .pure fun world => id
  | true =>
      refine .bind (steadyNow_ensures stable) fun now => ?_
      split
      · exact .pure fun world start => start.1
      · exact .pure fun world start => start.1

end Actions

/-! ### Taking and reporting windows -/

/-- What `main` reports, and what it does with its collector, changes none of this. -/
structure Kept (world world' : World) : Prop where
  steady : world'.steady = world.steady
  interrupted : world'.interrupted = world.interrupted
  began : world'.began = world.began
  ended : world'.ended = world.ended
  expectedSymbols : world'.tracker.expectedSymbols = world.tracker.expectedSymbols
  completedSymbols : world'.tracker.completedSymbols = world.tracker.completedSymbols
  series : world'.series = world.series

/-- An assertion about neither the collector nor the reports. -/
structure Beside (host : Host) (assertion : World → Prop) : Prop where
  stable : Program.Stable host.move assertion
  kept : ∀ world world', Kept world world' → assertion world → assertion world'

theorem Beside.steady (time : Int) : Beside host fun world => time ≤ world.steady :=
  ⟨stable_steady time, fun _ _ kept reached => kept.steady ▸ reached⟩

theorem Beside.interrupted : Beside host fun world => world.interrupted = true :=
  ⟨stable_interrupted, fun _ _ kept stopped => kept.interrupted.trans stopped⟩

theorem Beside.fact (fact : Prop) : Beside host fun _ => fact :=
  ⟨.const fact, fun _ _ _ => id⟩

theorem Beside.and {left right : World → Prop} (first : Beside host left)
    (second : Beside host right) : Beside host fun world => left world ∧ right world where
  stable := first.stable.and second.stable
  kept world world' kept holds :=
    ⟨first.kept world world' kept holds.1, second.kept world world' kept holds.2⟩

theorem Beside.imp {fact : Prop} {right : World → Prop} (beside : Beside host right) :
    Beside host fun world => fact → right world where
  stable world made holds assumed := beside.stable world made (holds assumed)
  kept world world' kept holds assumed := beside.kept world world' kept (holds assumed)

theorem Beside.or {fact : Prop} {right : World → Prop} (beside : Beside host right) :
    Beside host fun world => fact ∨ right world where
  stable world made := Or.imp_right (beside.stable world made)
  kept world world' kept := Or.imp_right (beside.kept world world' kept)

theorem Beside.either {left right : World → Prop} (first : Beside host left)
    (second : Beside host right) : Beside host fun world => left world ∨ right world where
  stable world made := Or.imp (first.stable world made) (second.stable world made)
  kept world world' kept := Or.imp (first.kept world world' kept) (second.kept world world' kept)

theorem Beside.exists {ι : Type} {family : ι → World → Prop}
    (each : ∀ x, Beside host (family x)) : Beside host fun world => ∃ x, family x world where
  stable := .exists fun x => (each x).stable
  kept world world' kept := fun ⟨x, holds⟩ => ⟨x, (each x).kept world world' kept holds⟩

section Windows

variable {assertion : World → Prop} (beside : Beside host assertion)
include beside

theorem takeWindow_ensures :
    Program.Ensures
      (fun world =>
        Measuring host config pattern began control phases stop [] world ∧ assertion world)
      (takeWindow false : Action host Window) fun data world =>
        Measuring host config pattern began control phases stop [data] world ∧ assertion world := by
  refine .act (stable_measuring.and beside.stable) fun world ⟨m, holds⟩ => ?_
  have taken := m.relates
  rw [List.append_nil] at taken
  exact ⟨⟨⟨taken.1, taken.2.takeWindow world.wall⟩, m.tiled, m.phases, m.sampled, m.final,
      m.control⟩,
    beside.kept world _ ⟨rfl, rfl, rfl, rfl, rfl, rfl, rfl⟩ holds⟩

theorem report_ensures
    (stable : Program.Stable host.move (Reporting pattern relates control phases stop taken))
    {made : Report} (same : taken = [made.data]) (continues : made.start = stop)
    (statistics : made.snapshotPhase.isSome → 2 ≤ made.resources.samples ∧
      made.resources.rssMeanBytes ≤ made.resources.rssMaximumBytes)
    (completed : ∀ world, assertion world → made.snapshotPhase = some .after →
      pattern.symbolCount ≤ world.tracker.completedSymbols) :
    Program.Ensures
      (fun world => Reporting pattern relates control phases stop taken world ∧ assertion world)
      (report made : Action host Unit) fun _ world =>
        Reporting pattern relates control (phases ++ [made.snapshotPhase]) made.stop [] world ∧
          assertion world := by
  refine .modify _ (stable.and beside.stable) fun world ⟨r, holds⟩ => ?_
  refine ⟨⟨?_, r.tiled.snoc continues, ?_, ?_, r.final, r.control⟩,
    beside.kept world _ ⟨rfl, rfl, rfl, rfl, rfl, rfl, rfl⟩ holds⟩
  · rw [List.map_append, List.map_singleton, List.append_nil, ← same]
    exact r.relates
  · rw [List.map_append, r.phases]
    rfl
  · exact List.forall_mem_append.mpr ⟨r.sampled, List.forall_mem_singleton.mpr
      ⟨statistics, completed world holds⟩⟩

end Windows

/-! ### The loop over the windows -/

section WindowLoop

variable (config) (measurementStart measurementEnd : Int)

/-- After `n` windows: when the next one ends, unless it is too late for it; all but the last one
ended before the measurement did, and the end of the last one has passed. -/
structure Due (n : Nat) (nextWindow : Int) (world : World) : Prop where
  next : nextWindow = measurementStart + (n + 1) * (config.window * 1000000) ∨
    measurementEnd ≤ world.steady
  earlier : ∀ k < n, measurementStart + k * (config.window * 1000000) < measurementEnd
  reached : min (measurementStart + n * (config.window * 1000000)) measurementEnd ≤ world.steady

/-- The loop goes on after `n` windows, all of which ended before the measurement does. -/
structure Another (n : Nat) (nextWindow : Int) : Prop where
  next : nextWindow = measurementStart + (n + 1) * (config.window * 1000000)
  earlier : ∀ k < n + 1, measurementStart + k * (config.window * 1000000) < measurementEnd

variable (host pattern control)

/-- The windows are due as long as another one would end in time. -/
def WindowInvariant (s : WindowState) (world : World) : Prop :=
  ∃ n : Nat,
    Measuring host config pattern measurementStart control (List.replicate n none)
        s.windowStartWall [] world ∧
      (InTime world.steady config.window →
        Due config measurementStart measurementEnd n s.nextWindow world)

variable {host config pattern control measurementStart measurementEnd}

theorem Due.mono {n : Nat} {nextWindow : Int} {world world' : World}
    (due : Due config measurementStart measurementEnd n nextWindow world)
    (later : world.steady ≤ world'.steady) :
    Due config measurementStart measurementEnd n nextWindow world' where
  next := due.next.imp_right fun late => late.trans later
  earlier := due.earlier
  reached := due.reached.trans later

/-- What holds of a world in time, and still does later, is an assertion. -/
theorem Beside.inTime {duration : Int} {assertion : World → Prop}
    (mono : ∀ world world', world.steady ≤ world'.steady → assertion world → assertion world') :
    Beside host fun world => InTime world.steady duration → assertion world where
  stable world made holds inTime := by
    have later : world.steady ≤ (host.move world made).steady :=
      stable_steady world.steady world made le_rfl
    exact mono _ _ later (holds (inTime.mono later))
  kept world world' kept holds inTime :=
    mono _ _ kept.steady.ge (holds (inTime.mono kept.steady.ge))

theorem Due.another {n : Nat} {nextWindow : Int} {world : World}
    (due : Due config measurementStart measurementEnd n nextWindow world)
    (before : world.steady < measurementEnd) :
    Another config measurementStart measurementEnd n nextWindow where
  next := due.next.resolve_right (not_le.mpr before)
  earlier k less := by
    rcases Nat.lt_succ_iff_lt_or_eq.mp less with earlier | rfl
    · exact due.earlier k earlier
    · exact (min_lt_iff.mp (due.reached.trans_lt before)).resolve_right (lt_irrefl _)

/-- The end of a window has passed: the next one is due a window later. -/
theorem Another.due {n : Nat} {nextWindow : Int} {world : World}
    (another : Another config measurementStart measurementEnd n nextWindow)
    (inTime : InTime world.steady config.window)
    (reached : min nextWindow measurementEnd ≤ world.steady) :
    Due config measurementStart measurementEnd (n + 1)
      (addDuration nextWindow config.window) world where
  next := by
    rcases min_le_iff.mp reached with passed | late
    · left
      rw [addDuration_eq (inTime.mono passed), another.next]
      push_cast
      ring
    · exact .inr late
  earlier := another.earlier
  reached := by
    rw [another.next] at reached
    push_cast
    exact reached

theorem windowRound_ensures (s : WindowState) :
    Program.Ensures (WindowInvariant host config pattern control measurementStart measurementEnd s)
      (windowRound config measurementEnd s : Action host (WindowState ⊕ WindowState))
      fun result world => result.elim
        (WindowInvariant host config pattern control measurementStart measurementEnd · world)
        fun s => WindowInvariant host config pattern control measurementStart measurementEnd s
          world ∧ (world.interrupted = true ∨ measurementEnd ≤ world.steady) := by
  refine .of_exists fun n => ?_
  have measuring : Program.Stable host.move
      (Measuring host config pattern measurementStart control (List.replicate n none)
        s.windowStartWall []) :=
    stable_measuring
  have due : Beside host fun world => InTime world.steady config.window →
      Due config measurementStart measurementEnd n s.nextWindow world :=
    .inTime fun _ _ later due => due.mono later
  have another : Beside host fun world => InTime world.steady config.window →
      Another config measurementStart measurementEnd n s.nextWindow :=
    .inTime fun _ _ _ => id
  -- The loop goes on only if the last window ended before the measurement does.
  refine .bind (goesOn_ensures (measuring.and due.stable) (fun world =>
    InTime world.steady config.window → Another config measurementStart measurementEnd n
      s.nextWindow) fun world holds before inTime => (holds.2 inTime).another before)
    fun going => ?_
  cases going with
  | false => exact .pure fun world ⟨holds, _, stopped⟩ => ⟨⟨n, holds⟩, stopped rfl⟩
  | true =>
      have going := due.and another
      have stable := measuring.and going.stable
      refine .of_imp (fun world =>
          Measuring host config pattern measurementStart control (List.replicate n none)
            s.windowStartWall [] world ∧ (InTime world.steady config.window →
            Due config measurementStart measurementEnd n s.nextWindow world) ∧
          (InTime world.steady config.window →
            Another config measurementStart measurementEnd n s.nextWindow))
        (fun world holds => ⟨holds.1.1, holds.1.2, holds.2.1 rfl⟩) ?_
      refine .bind (steadyNow_ensures stable) fun now => .of_imp _ (fun world => And.left) ?_
      refine .bind (.whenever_keeps (.bind (waitFor_ensures stable _)
        fun _ => .pure fun world => And.left)) fun _ => ?_
      refine .bind (.read_keeps stable) fun sampler => ?_
      refine .bind (steadyNow_ensures stable) fun now => ?_
      split
      · rename_i reached
        have later : Beside host fun world => (InTime world.steady config.window →
            Another config measurementStart measurementEnd n s.nextWindow) ∧
              min s.nextWindow measurementEnd ≤ world.steady :=
          another.and (.steady _)
        refine .of_imp (fun world => Measuring host config pattern measurementStart control
            (List.replicate n none) s.windowStartWall [] world ∧
              (InTime world.steady config.window →
                Another config measurementStart measurementEnd n s.nextWindow) ∧
              min s.nextWindow measurementEnd ≤ world.steady)
          (fun world holds => ⟨holds.1.1, holds.1.2.2, reached.trans holds.2⟩) ?_
        refine .bind (.read_keeps (measuring.and later.stable)) fun endWall => ?_
        refine .bind (takeWindow_ensures later) fun data => ?_
        refine .bind (report_ensures later stable_measuring rfl rfl nofun fun _ _ => nofun) fun _ =>
          .pure fun world ⟨m, another, passed⟩ => ?_
        refine ⟨n + 1, ?_, fun inTime => (another inTime).due inTime passed⟩
        rw [List.replicate_succ']
        exact m
      · exact .pure fun world holds => ⟨n, holds.1.1, holds.1.2.1⟩

theorem windowLoop_ensures (start : WindowState) :
    Program.Ensures
      (WindowInvariant host config pattern control measurementStart measurementEnd start)
      (windowLoop config measurementEnd start : Action host WindowState)
      fun s world =>
        WindowInvariant host config pattern control measurementStart measurementEnd s world ∧
          (world.interrupted = true ∨ measurementEnd ≤ world.steady) :=
  .loop _ _ windowRound_ensures start

end WindowLoop

end Measurement

end Client

end LatencyTest
