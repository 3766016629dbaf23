import LatencyTest.Client.Progress
import LatencyTest.Client.Reports

/-!
The measurement of `main` with a delayed subscription: the phases around the snapshot are
reported in their order, each at most once (`PhaseInvariant`), and the last one only after every
requested symbol has its snapshot (`Subscribed`). `Ending` is what either kind of measurement
reports.
-/

namespace LatencyTest

open Lib (Program)
open Runner (ClientConfig)

namespace Client

section Phases

variable {host : Host} (config : ClientConfig) (pattern : TaskPattern)

/-! ### The phases around a snapshot -/

/-- The phases that were reported when one begins. -/
def SnapshotPhase.earlier : SnapshotPhase → List (Option SnapshotPhase)
  | .before => []
  | .during => [some .before]
  | .after => [some .before, some .during]

/-- The time-series subscription and the tracker in each phase. -/
def Subscribed (phase : SnapshotPhase) (world : World) : Prop :=
  match phase with
  | .before => world.series = []
  | .during => world.tracker.expectedSymbols = pattern.symbolCount ∧
      world.series = pattern.symbolNames
  | .after => world.tracker.expectedSymbols = pattern.symbolCount ∧
      pattern.symbolCount ≤ world.tracker.completedSymbols ∧
      world.series = if config.timeSeriesUnsubscribeAfterSnapshot then [] else pattern.symbolNames

variable {config pattern} {began : Int} {control : List Text}
  {phases : List (Option SnapshotPhase)} {stop : Int}

/-- The requested symbols are known to the tracker. -/
theorem beside_expected (count : Nat) :
    Beside host fun world => world.tracker.expectedSymbols = count := by
  refine ⟨fun world made holds => ?_, fun _ _ kept => kept.expectedSymbols.trans⟩
  cases made with
  | seriesCallback events observed =>
      exact (TimeSeriesTracker.handle_progresses host.api world.tracker events
        observed).expectedSymbols.trans holds
  | _ => exact holds

theorem beside_complete (count : Nat) :
    Beside host fun world => count ≤ world.tracker.completedSymbols := by
  refine ⟨fun world made holds => ?_, fun _ _ kept holds => holds.trans_eq
    kept.completedSymbols.symm⟩
  cases made with
  | seriesCallback events observed =>
      exact holds.trans (TimeSeriesTracker.handle_progresses host.api world.tracker events
        observed).completedSymbols
  | _ => exact holds

theorem beside_series (symbols : List Text) :
    Beside host fun world => world.series = symbols := by
  refine ⟨fun world made holds => ?_, fun _ _ kept => kept.series.trans⟩
  cases made <;> exact holds

theorem beside_subscribed (phase : SnapshotPhase) :
    Beside host (Subscribed config pattern phase) := by
  cases phase with
  | before => exact beside_series _
  | during => exact (beside_expected _).and (beside_series _)
  | after => exact (beside_expected _).and ((beside_complete _).and (beside_series _))

theorem sample_ensures {assertion : World → Prop} (stable : Program.Stable host.move assertion)
    {sampler : ResourceSampler} (sampled : Sampled sampler) :
    Program.Ensures assertion (sample sampler : Action host ResourceSampler) fun next world =>
      assertion world ∧ Sampled next ∧ 2 ≤ next.samples :=
  read_ensures stable (fun next _ => Sampled next ∧ 2 ≤ next.samples)
    fun world _ => sampled.sample world.rss

theorem finishSampler_ensures {assertion : World → Prop}
    (stable : Program.Stable host.move assertion) {sampler : ResourceSampler}
    (sampled : Sampled sampler) (several : 2 ≤ sampler.samples) (elapsed : Int) :
    Program.Ensures assertion (finishSampler sampler elapsed : Action host ResourceStatistics)
      fun statistics world => assertion world ∧
        2 ≤ statistics.samples ∧ statistics.rssMeanBytes ≤ statistics.rssMaximumBytes :=
  read_ensures stable (fun (statistics : ResourceStatistics) _ => 2 ≤ statistics.samples ∧
    statistics.rssMeanBytes ≤ statistics.rssMaximumBytes)
    fun _ _ => ⟨several, sampled.mean_le_maximum ..⟩

/-- The end of a phase: its window is reported from the end of the one before. -/
theorem flushPhase_ensures {assertion : World → Prop} (beside : Beside host assertion)
    {s : PhaseState} (sampled : Sampled s.phaseResources) (name : SnapshotPhase)
    (completed : ∀ world, assertion world → name = .after →
      pattern.symbolCount ≤ world.tracker.completedSymbols) (stop stopWall : Int) :
    Program.Ensures
      (fun world => Measuring host config pattern began control phases s.phaseStartWall [] world ∧
        assertion world)
      (flushPhase s name stop stopWall : Action host PhaseState) fun next world =>
        (next.phase = s.phase ∧ next.unsubscribed = s.unsubscribed ∧
          next.phaseStartWall = stopWall ∧ Sampled next.phaseResources) ∧
          Measuring host config pattern began control (phases ++ [some name]) stopWall [] world ∧
            assertion world := by
  have stable : Program.Stable host.move
      (Measuring host config pattern began control phases s.phaseStartWall []) := stable_measuring
  refine .bind (.read_keeps (stable.and beside.stable)) fun resources => ?_
  refine .bind_fact (sample_ensures (stable.and beside.stable) sampled)
    fun phaseResources ⟨sampled, several⟩ => ?_
  refine .bind_fact (finishSampler_ensures (stable.and beside.stable) sampled several _)
    fun statistics measured => ?_
  refine .bind (takeWindow_ensures beside) fun data => ?_
  refine .bind (report_ensures beside stable_measuring rfl rfl (fun _ => measured)
    fun world holds after => completed world holds (Option.some.inj after)) fun _ => ?_
  refine .bind (read_ensures (stable_measuring.and beside.stable)
    (fun sampler _ => Sampled sampler) fun world _ => sampled_create world.cpu world.rss)
    fun fresh => .pure fun world ⟨holds, sampled⟩ => ?_
  exact ⟨⟨rfl, rfl, rfl, sampled⟩, holds⟩

/-- The state of the loop: its phase has begun, those before are reported. -/
def PhaseInvariant (host : Host) (config : ClientConfig) (pattern : TaskPattern)
    (began : Int) (control : List Text) (s : PhaseState) (world : World) : Prop :=
  Sampled s.phaseResources ∧
    Measuring host config pattern began control s.phase.earlier s.phaseStartWall [] world ∧
      Subscribed config pattern s.phase world

theorem subscribeSeries_ensures {s : PhaseState} (before : s.phase = .before) (now : Int) :
    Program.Ensures (PhaseInvariant host config pattern began control s)
      (subscribeSeries config pattern s now : Action host PhaseState)
      (PhaseInvariant host config pattern began control) := by
  refine .of_fact fun sampled => ?_
  rw [before]
  have beside : Beside host (Subscribed config pattern .before) := beside_subscribed _
  refine .bind (.read_keeps (stable_measuring.and beside.stable)) fun subscribedAtWall => ?_
  refine .bind (flushPhase_ensures beside sampled .before (fun _ _ => nofun) now
    subscribedAtWall) fun next => ?_
  refine .of_fact fun ⟨_, _, start, sampled⟩ => ?_
  refine .bind (.modify (fun world => Measuring host config pattern began control [some .before]
      subscribedAtWall [] world ∧ world.tracker.expectedSymbols = pattern.symbolCount)
    (stable_measuring.and beside.stable) fun world ⟨m, _⟩ => ⟨⟨m.1, m.2, m.3, m.4, m.5, m.6⟩, rfl⟩)
    fun _ => ?_
  refine .bind (.modify (fun world => Measuring host config pattern began control [some .before]
      subscribedAtWall [] world ∧ Subscribed config pattern .during world)
    (stable_measuring.and (beside_expected _).stable) fun world ⟨m, expected⟩ =>
      ⟨⟨m.1, m.2, m.3, m.4, m.5, m.6⟩, expected, rfl⟩) fun _ => ?_
  refine .pure fun world ⟨m, subscribed⟩ => ⟨sampled, ?_, subscribed⟩
  rw [← start] at m
  exact m

theorem completeSeries_ensures {s : PhaseState} (during : s.phase = .during) (now : Int) :
    Program.Ensures
      (fun world => PhaseInvariant host config pattern began control s world ∧
        pattern.symbolCount ≤ world.tracker.completedSymbols)
      (completeSeries config s now : Action host PhaseState)
      (PhaseInvariant host config pattern began control) := by
  refine .of_imp (fun world => Sampled s.phaseResources ∧
      Measuring host config pattern began control s.phase.earlier s.phaseStartWall [] world ∧
        Subscribed config pattern s.phase world ∧
          pattern.symbolCount ≤ world.tracker.completedSymbols)
    (fun world ⟨⟨sampled, m, subscribed⟩, complete⟩ => ⟨sampled, m, subscribed, complete⟩)
    (.of_fact fun sampled => ?_)
  rw [during]
  have beside : Beside host fun world => Subscribed config pattern .during world ∧
      pattern.symbolCount ≤ world.tracker.completedSymbols :=
    (beside_subscribed _).and (beside_complete _)
  refine .bind (.read_keeps (stable_measuring.and beside.stable)) fun completedAtWall => ?_
  refine .bind (flushPhase_ensures beside sampled .during (fun _ _ => nofun) now
    completedAtWall) fun next => ?_
  refine .of_fact fun ⟨_, _, start, sampled⟩ => ?_
  refine .bind (.whenever (fun world => Measuring host config pattern began control
      [some .before, some .during] completedAtWall [] world ∧
        Subscribed config pattern .after world)
    (fun removed => .modify _ (stable_measuring.and beside.stable) ?_) ?_) fun _ => ?_
  · rintro world ⟨m, ⟨expected, _⟩, complete⟩
    refine ⟨⟨m.1, m.2, m.3, m.4, m.5, m.6⟩, expected, complete, ?_⟩
    rw [if_pos removed]
  · rintro retained world ⟨m, ⟨expected, series⟩, complete⟩
    refine ⟨m, expected, complete, ?_⟩
    rw [if_neg retained, series]
  · refine .pure fun world ⟨m, subscribed⟩ => ⟨sampled, ?_, subscribed⟩
    rw [← start] at m
    exact m

theorem stable_phaseInvariant (s : PhaseState) :
    Program.Stable host.move (PhaseInvariant host config pattern began control s) :=
  (Program.Stable.const _).and (stable_measuring.and (beside_subscribed s.phase).stable)

theorem samplePhase_ensures (s : PhaseState) (now : Int) :
    Program.Ensures (PhaseInvariant host config pattern began control s)
      (samplePhase s now : Action host PhaseState)
      (PhaseInvariant host config pattern began control) := by
  unfold samplePhase
  split
  · refine .of_fact fun sampled => ?_
    have stable : Program.Stable host.move fun world =>
        Measuring host config pattern began control s.phase.earlier s.phaseStartWall [] world ∧
          Subscribed config pattern s.phase world :=
      stable_measuring.and (beside_subscribed _).stable
    refine .bind (.read_keeps stable) fun resources => ?_
    refine .bind_fact (sample_ensures stable sampled) fun phaseResources ⟨sampled, _⟩ => ?_
    exact .pure fun world holds => ⟨sampled, holds⟩
  · exact .pure fun world => id

/-- What is known of the variables of the loop when it ends. -/
def PhaseEnd (host : Host) (config : ClientConfig) (pattern : TaskPattern)
    (began : Int) (control : List Text) (measurementEnd : Int) (result : PhaseState × Bool)
    (world : World) : Prop :=
  (result.2 = true → result.1.phase = .during) ∧
    PhaseInvariant host config pattern began control result.1 world ∧
      (result.2 = true ∨ world.interrupted = true ∨ measurementEnd ≤ world.steady)

theorem phaseRound_ensures {measurementEnd subscribeAt : Int} (s : PhaseState) :
    Program.Ensures (PhaseInvariant host config pattern began control s)
      (phaseRound config pattern measurementEnd subscribeAt s :
        Action host (PhaseState ⊕ PhaseState × Bool))
      fun result world => result.elim (PhaseInvariant host config pattern began control · world)
        (PhaseEnd host config pattern began control measurementEnd · world) := by
  have stable : Program.Stable host.move (PhaseInvariant host config pattern began control s) :=
    stable_phaseInvariant s
  refine .bind (goesOn_ensures stable (fun _ => True) fun _ _ _ => trivial) fun going => ?_
  cases going with
  | false => exact .pure fun world ⟨holds, _, stopped⟩ => ⟨nofun, holds, .inr (stopped rfl)⟩
  | true =>
      refine .of_imp _ (fun world => And.left) (.bind (.read_keeps stable) fun now => ?_)
      split
      · rename_i due
        exact .bind (subscribeSeries_ensures due.1 now) fun next => .pure fun world => id
      · have ready : Program.Ensures (PhaseInvariant host config pattern began control s)
            (Program.both (pure (s.phase = .during))
              (.read fun world => world.tracker.snapshotComplete) : Action host Bool)
            fun complete world => (PhaseInvariant host config pattern began control s world ∧
              (complete = true → pattern.symbolCount ≤ world.tracker.completedSymbols)) ∧
                (complete = true → s.phase = .during) := by
          refine .both (fun world => s.phase = .during ∧
            PhaseInvariant host config pattern began control s world)
            (.pure fun world holds => ?_) ?_
          · split
            · exact ⟨of_decide_eq_true ‹_›, holds⟩
            · exact ⟨⟨holds, nofun⟩, nofun⟩
          · refine .of_fact fun during => .read stable fun world holds => ?_
            refine ⟨⟨holds, fun complete => ?_⟩, fun _ => during⟩
            have subscribed := holds.2.2
            rw [during] at subscribed
            rw [← subscribed.1]
            simp only [TimeSeriesTracker.snapshotComplete, Bool.and_eq_true,
              decide_eq_true_eq] at complete
            exact complete.2
        refine .bind_fact ready fun complete during => ?_
        cases complete with
        | true =>
            refine .of_imp _ (fun world holds => ⟨holds.1, holds.2 rfl⟩) (.bind
              (completeSeries_ensures (during rfl) now) fun next => .pure fun world => id)
        | false =>
            refine .of_imp _ (fun world => And.left) ?_
            rw [if_neg Bool.false_ne_true]
            split
            · rename_i late
              exact .pure fun world holds => ⟨fun _ => late.1, holds, .inl rfl⟩
            · refine .bind (samplePhase_ensures s now) fun next => ?_
              refine .bind (waitFor_ensures (stable_phaseInvariant next) _) fun _ => ?_
              exact .pure fun world => And.left

theorem phaseLoop_ensures {measurementEnd subscribeAt : Int} (start : PhaseState) :
    Program.Ensures (PhaseInvariant host config pattern began control start)
      (phaseLoop config pattern measurementEnd subscribeAt start :
        Action host (PhaseState × Bool))
      (PhaseEnd host config pattern began control measurementEnd) :=
  .loop _ _ phaseRound_ensures start

/-! ### The measurement -/

variable (config pattern) in
/-- What the measurement reports: without a delayed subscription windows of which all but the last
one end before the measurement does, unless their ends overflow; with one the phases up to the
last one, which is the snapshot's own only if it timed out or `main` was interrupted. -/
def Ending (phases : List (Option SnapshotPhase)) (timedOut : Bool) (world : World) : Prop :=
  match config.timeSeriesSubscribeAfter with
  | none => timedOut = false ∧ ∃ n : Nat, phases = List.replicate n none ∧
      (InTime world.steady config.window →
        ∀ k < n, k * (config.window * 1000000) < config.duration * 1000000)
  | some _ => ∃ phase : SnapshotPhase, phases = phase.earlier ++ [some phase] ∧
      (timedOut = true → phase = .during) ∧
      (phase = .during → timedOut = true ∨ world.interrupted = true) ∧
      Subscribed config pattern phase world

theorem beside_ending (timedOut : Bool) :
    Beside host (Ending config pattern phases timedOut) := by
  unfold Ending
  cases config.timeSeriesSubscribeAfter with
  | none =>
      exact (Beside.fact _).and
        (.exists fun n => (Beside.fact _).and (.inTime fun _ _ _ => id))
  | some after =>
      have each : ∀ phase, Beside host fun world => phases = phase.earlier ++ [some phase] ∧
          (timedOut = true → phase = .during) ∧
          (phase = .during → timedOut = true ∨ world.interrupted = true) ∧
          Subscribed config pattern phase world := by
        intro phase
        exact (Beside.fact _).and ((Beside.fact _).and
          (Beside.interrupted.or.imp.and (beside_subscribed phase)))
      exact .exists each

/-- Unless the snapshot timed out or `main` was interrupted, the measurement has lasted until its
end. -/
def Lasted (measurementEnd : Int) (timedOut : Bool) (world : World) : Prop :=
  timedOut = true ∨ world.interrupted = true ∨ measurementEnd ≤ world.steady

theorem beside_lasted (measurementEnd : Int) (timedOut : Bool) :
    Beside host (Lasted measurementEnd timedOut) :=
  .or (.either .interrupted (.steady measurementEnd))

/-- What the measurement leaves. -/
def MeasurementEnd (host : Host) (config : ClientConfig) (pattern : TaskPattern)
    (control : List Text) (measurementStart : Int) (measured : Measured) (world : World) : Prop :=
  ∃ phases, Measuring host config pattern measurementStart control phases
      measured.windowStartWall [] world ∧
    Ending config pattern phases measured.snapshotTimedOut world ∧
      Lasted (addDuration measurementStart config.duration) measured.snapshotTimedOut world

theorem measureWindows_ensures (undelayed : config.timeSeriesSubscribeAfter = none)
    {measurementStart windowStartWall fromTimeMs : Int} {resources : ResourceSampler} :
    Program.Ensures
      (fun world =>
        Measuring host config pattern measurementStart control [] windowStartWall [] world ∧
          measurementStart ≤ world.steady)
      (measureWindows config measurementStart windowStartWall fromTimeMs resources :
        Action host Measured)
      (MeasurementEnd host config pattern control measurementStart) := by
  have start : ∀ world,
      (Measuring host config pattern measurementStart control [] windowStartWall [] world ∧
        measurementStart ≤ world.steady) →
      WindowInvariant host config pattern control measurementStart
        (addDuration measurementStart config.duration)
        ⟨addDuration measurementStart config.window, windowStartWall, resources⟩ world := by
    rintro world ⟨m, begun⟩
    refine ⟨0, m, fun inTime => ⟨.inl ?_, nofun, ?_⟩⟩
    · rw [addDuration_eq (inTime.mono begun)]
      simp
    · rw [Nat.cast_zero, zero_mul, add_zero]
      exact (min_le_left ..).trans begun
  refine .bind (.of_imp _ start (windowLoop_ensures _)) fun s => .pure ?_
  rintro world ⟨⟨n, m, due⟩, lasted⟩
  refine ⟨_, m, ?_, .inr lasted⟩
  rw [Ending, undelayed]
  refine ⟨rfl, n, rfl, fun inTime k less => ?_⟩
  have early := ((due inTime).earlier k less).trans_le (addDuration_le _ _)
  exact lt_of_add_lt_add_left early

theorem measurePhases_ensures {after : Int} (delayed : config.timeSeriesSubscribeAfter = some after)
    {measurementStart windowStartWall fromTimeMs : Int} {resources : ResourceSampler} :
    Program.Ensures
      (fun world =>
        Measuring host config pattern measurementStart control [] windowStartWall [] world ∧
          world.series = [])
      (measurePhases config pattern after measurementStart windowStartWall fromTimeMs resources :
        Action host Measured)
      (MeasurementEnd host config pattern control measurementStart) := by
  have start : Program.Stable host.move fun world =>
      Measuring host config pattern measurementStart control [] windowStartWall [] world ∧
        Subscribed config pattern .before world :=
    stable_measuring.and (beside_subscribed .before).stable
  refine .bind_fact (read_ensures start (fun sampler _ => Sampled sampler)
    fun world _ => sampled_create world.cpu world.rss) fun phaseResources sampled => ?_
  have begun : ∀ world,
      (Measuring host config pattern measurementStart control [] windowStartWall [] world ∧
        Subscribed config pattern .before world) →
      PhaseInvariant host config pattern measurementStart control
        { phaseStart := measurementStart
          phaseStartWall := windowStartWall
          phaseResources := phaseResources
          resources := resources
          nextResourceSample := addDuration measurementStart 100
          fromTimeMs := fromTimeMs } world :=
    fun world holds => ⟨sampled, holds⟩
  refine .bind (.of_imp _ begun (phaseLoop_ensures _)) fun (s, timedOut) => ?_
  refine .of_fact fun timely => .of_imp (fun world => Sampled s.phaseResources ∧
      Measuring host config pattern measurementStart control s.phase.earlier s.phaseStartWall []
          world ∧
        Subscribed config pattern s.phase world ∧
          Lasted (addDuration measurementStart config.duration) timedOut world)
    (fun world holds => ⟨holds.1.1, holds.1.2.1, holds.1.2.2, holds.2⟩) (.of_fact fun sampled => ?_)
  have beside : Beside host fun world => Subscribed config pattern s.phase world ∧
      Lasted (addDuration measurementStart config.duration) timedOut world :=
    (beside_subscribed _).and (beside_lasted _ _)
  refine .bind (.read_keeps (stable_measuring.and beside.stable)) fun phaseEnd => ?_
  refine .bind (.read_keeps (stable_measuring.and beside.stable)) fun phaseEndWall => ?_
  refine .bind (flushPhase_ensures beside sampled s.phase ?_ phaseEnd phaseEndWall) fun next => ?_
  · rintro world ⟨subscribed, _⟩ last
    rw [last] at subscribed
    exact subscribed.2.1
  refine .of_fact fun ⟨phase, _, stop, _⟩ => ?_
  refine .bind (isInterrupted_ensures (stable_measuring.and beside.stable)) fun stopped => .pure ?_
  rintro world ⟨⟨m, subscribed, lasted⟩, read⟩
  refine ⟨_, stop ▸ m, ?_, lasted.imp_left fun late => Bool.or_eq_true_iff.mpr (.inl late)⟩
  rw [Ending, delayed]
  refine ⟨s.phase, rfl, ?_, ?_, subscribed⟩
  · intro late
    rcases Bool.or_eq_true_iff.mp late with before | open_
    · exact timely before
    · rw [phase] at open_
      simpa using (Bool.and_eq_true_iff.mp open_).2
  · intro during
    cases stopped with
    | true => exact .inr (read rfl)
    | false => exact .inl (by simp [phase, during])

theorem measurement_ensures {measurementStart windowStartWall fromTimeMs : Int}
    {resources : ResourceSampler} :
    Program.Ensures
      (fun world =>
        Measuring host config pattern measurementStart control [] windowStartWall [] world ∧
          measurementStart ≤ world.steady ∧
          (config.timeSeriesSubscribeAfter.isSome → world.series = []))
      (measurement config pattern measurementStart windowStartWall fromTimeMs resources :
        Action host Measured)
      (MeasurementEnd host config pattern control measurementStart) := by
  unfold measurement
  cases chosen : config.timeSeriesSubscribeAfter with
  | none =>
      exact .of_imp _ (fun world ⟨m, begun, _⟩ => ⟨m, begun⟩) (measureWindows_ensures chosen)
  | some after =>
      exact .of_imp _ (fun world ⟨m, _, series⟩ => ⟨m, series rfl⟩) (measurePhases_ensures chosen)

end Phases

end Client

end LatencyTest
