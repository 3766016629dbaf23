import LatencyTest.Client.Phases

/-!
How a run of `main` ends. Every run that measures has received every Profile, reports its
totals, removes its symbols and closes the endpoint, unless a file cannot be opened; its exit
code tells whether it was interrupted or the snapshot timed out (`Outcome`). The drain always
ends (`drain_completes`).
-/

namespace LatencyTest

open Lib (Program)
open Runner (ClientConfig)

namespace Client

section Outcome

variable {host : Host} {config : ClientConfig} {pattern : TaskPattern} {control : List Text}
  {phases : List (Option SnapshotPhase)} {stop : Int}

/-! ### The end of a run -/

theorem drainCheck_ensures {assertion : World → Prop}
    (stable : Program.Stable host.move assertion) (s : Nat × Int) :
    Program.Ensures assertion (drainCheck config s : Action host (Nat × Int ⊕ Unit))
      fun _ => assertion := by
  have reads {α : Type} (value : World → α) : Program.Ensures assertion
      (.read value : Action host α) fun _ => assertion := .read_keeps stable
  refine .bind (reads _) fun activity => ?_
  split
  · exact .bind (reads _) fun _ => .pure fun world => id
  · refine .bind (.both_keeps ?_ (.bind (reads _) fun _ => .pure fun world => id)) fun quiet => ?_
    · split
      · exact .pure fun world => id
      · exact reads _
    · cases quiet <;> exact .pure fun world => id

/-- A round of the drain sleeps before its deadline only. -/
theorem drainRound_ensures {drainDeadline : Int} {s : Nat × Int} {before after : World → Prop}
    (stable : Program.Stable host.move before) (slept : Program.Stable host.move after)
    {fact : Prop} (early : ∀ world, before world → world.steady < drainDeadline → fact)
    (sleeps : fact → Program.Ensures before (sleepFor 100 : Action host Unit) fun _ => after) :
    Program.Ensures before (drainRound config drainDeadline s : Action host (Nat × Int ⊕ Unit))
      fun result world => result.elim (fun _ => fact ∧ after world)
        (fun _ => before world ∨ after world) := by
  have going : Program.Ensures before
      (Program.both (do pure ((← steadyNow) < drainDeadline)) (do pure !(← isInterrupted)) :
        Action host Bool) fun going world => before world ∧ (going = true → fact) := by
    refine .both (fun world => before world ∧ fact) ?_ ?_
    · refine .bind (read_ensures stable (fun now world => now < drainDeadline → fact) early)
        fun now => .pure fun world ⟨holds, early⟩ => ?_
      split
      · exact ⟨holds, early (of_decide_eq_true ‹_›)⟩
      · exact ⟨holds, nofun⟩
    · refine .bind (.read_keeps (stable.and (.const _))) fun _ => .pure fun world holds => ?_
      exact ⟨holds.1, fun _ => holds.2⟩
  refine .bind_fact going fun going known => ?_
  cases going with
  | false => exact .pure fun world => .inl
  | true =>
      refine .bind (sleeps (known rfl)) fun _ => (drainCheck_ensures slept s).weaken
        (fun _ => id) fun result world holds => ?_
      cases result with
      | inl next => exact ⟨known rfl, holds⟩
      | inr done => exact .inr holds

theorem drain_ensures {assertion : World → Prop} (stable : Program.Stable host.move assertion) :
    Program.Ensures assertion (drain config : Action host Unit) fun _ => assertion := by
  refine .bind (.read_keeps stable) fun now => .bind (.read_keeps stable) fun lastActivity =>
    .bind (.read_keeps stable) fun quietSince => .loop (fun _ => assertion) _ (fun s => ?_) _
  refine (drainRound_ensures stable stable (fun _ _ _ => trivial)
    fun _ => sleepFor_ensures stable 100).weaken (fun _ => id) fun result world holds => ?_
  cases result with
  | inl next => exact holds.2
  | inr done => exact holds.elim id id

/-- A round that is followed by another one has begun before the deadline, and has slept. -/
theorem drainRound_later {drainDeadline : Int} (time : Int) (s : Nat × Int) :
    Program.Ensures (fun world => time ≤ world.steady)
      (drainRound config drainDeadline s : Action host (Nat × Int ⊕ Unit)) fun result world =>
        ∀ next, result = .inl next →
          time < drainDeadline ∧ time + nanoseconds 100 ≤ world.steady := by
  have sleeps : Program.Ensures (fun world => time ≤ world.steady)
      (sleepFor 100 : Action host Unit) fun _ world => time + nanoseconds 100 ≤ world.steady :=
    .modify _ (stable_steady _) fun world passed => add_le_add passed (le_max_right _ _)
  refine (drainRound_ensures (stable_steady _) (stable_steady _)
    (fun world passed early => lt_of_le_of_lt passed early) fun _ => sleeps).weaken (fun _ => id) ?_
  rintro result world holds next rfl
  exact holds

theorem drainRound_completes {drainDeadline : Int} {need : Nat} (s : Nat × Int) :
    Program.Completes (fun _ => True)
      (drainRound config drainDeadline s : Action host (Nat × Int ⊕ Unit)) need := by
  have condition : Program.Completes (fun _ => True)
      (Program.both (do pure ((← steadyNow) < drainDeadline)) (do pure !(← isInterrupted)) :
        Action host Bool) need :=
    .both (.seq .read fun _ => .pure) (.seq .read fun _ => .pure)
  refine .seq condition fun going => ?_
  cases going with
  | false => exact .pure
  | true =>
      refine .seq .modify fun _ => .seq .read fun activity => ?_
      split
      · exact .seq .read fun _ => .pure
      · refine .seq (.both ?_ (.seq .read fun _ => .pure)) fun quiet => ?_
        · split
          · exact .pure
          · exact .read
        · cases quiet <;> exact .pure

/-- Whatever callbacks arrive, the drain ends after so many rounds of 100 ms. -/
theorem drain_completes :
    Program.Completes (fun _ => True) (drain config : Action host Unit)
      (config.batchTimeout.toNat / 100 + 2) := by
  refine .bind .read (read_ensures (.const True) (fun now world => now ≤ world.steady)
    fun _ _ => le_rfl) fun now => ?_
  have stable : Program.Stable host.move fun world => now ≤ world.steady := stable_steady _
  refine .of_imp (.bind .read (.read_keeps stable) fun lastActivity =>
    .bind .read (.read_keeps stable) fun quietSince => ?_) fun world passed => passed.2
  refine .timed World.steady drainRound_completes drainRound_later (Nat.lt_succ_self _) ?_ _
  have due := addDuration_le now config.batchTimeout
  rw [show nanoseconds 100 = 100000000 from rfl]
  omega

/-- A measurement that neither timed out nor was interrupted has lasted for its duration. -/
def Full (config : ClientConfig) (timedOut : Bool) (world : World) : Prop :=
  timedOut = true ∨ world.interrupted = true ∨ addDuration world.began config.duration ≤ world.ended

theorem beside_full (host : Host) (config : ClientConfig) (timedOut : Bool) :
    Beside host (Full config timedOut) := by
  refine .or (.either .interrupted ⟨fun world made holds => ?_, fun world world' kept holds => ?_⟩)
  · cases made <;> exact holds
  · rw [kept.began, kept.ended]
    exact holds

/-- The phases of the reports: those of the measurement, and none for a window of the drain, which
ends at `stop`. -/
def Phased (config : ClientConfig) (pattern : TaskPattern) (timedOut : Bool) (stop : Int)
    (reports : List Report) (world : World) : Prop :=
  ∃ (measured last : List (Option SnapshotPhase)),
    reports.map Report.snapshotPhase = measured ++ last ∧
      (last = [] ∨ last = [none] ∧ ∃ made ∈ reports.getLast?, made.stop = stop) ∧
      Ending config pattern measured timedOut world

theorem beside_phased (host : Host) {timedOut : Bool} (reports : List Report) :
    Beside host (Phased config pattern timedOut stop reports) :=
  .exists fun _ => .exists fun _ => (Beside.fact _).and ((Beside.fact _).and (beside_ending _))

/-- Windows and totals of a run of the collector's calls that accounts for everything heard. -/
def Refines (host : Host) (config : ClientConfig) (pattern : TaskPattern) (shown : List Window)
    (totals : Totals) (journal : Journal) : Prop :=
  ∃ (run : ClientRun) (t : Timeline), Accounts run t journal ∧
    Complete host.api config.toConfig pattern run.warmUp ∧
      shown = run.reported host.api config.toConfig pattern ∧
        totals = run.totals host.api config.toConfig pattern

theorem Refines.elapse {shown : List Window} {totals : Totals} {journal : Journal}
    (refines : Refines host config pattern shown totals journal) (duration : Nat) :
    Refines host config pattern shown totals (journal.elapse duration) := by
  obtain ⟨run, t, accounts, rest⟩ := refines
  exact ⟨run, t, accounts.elapse duration, rest⟩

/-- What is heard after the totals is in neither. -/
theorem Refines.hear {shown : List Window} {totals : Totals} {journal : Journal}
    (refines : Refines host config pattern shown totals journal) (made : Callback) :
    Refines host config pattern shown totals (journal.hear made) := by
  obtain ⟨run, t, accounts, rest⟩ := refines
  refine ⟨run, { t with after := t.after ++ [⟨journal.now, made⟩] },
    accounts.snoc made ⟨rfl, rfl⟩ ⟨rfl, rfl⟩ accounts.tail accounts.late ?_, rest⟩
  simp [Timeline.ending]

/-- A run that has reported its totals: they are those of a run of the collector's calls, which
took the reported windows; the intervals of the windows follow one another; the last one may be
the window of the drain. -/
structure Reported (host : Host) (config : ClientConfig) (pattern : TaskPattern)
    (timedOut : Bool) (totals : Totals) (stop : Int) (world : World) : Prop where
  refines : Refines host config pattern (world.reported.map Report.data) totals world.journal
  tiled : ∃ last, Tiled world.runStart world.reported last
  phases : Phased config pattern timedOut stop world.reported world
  sampled : ∀ made ∈ world.reported, made.Measured pattern
  full : Full config timedOut world

/-- An exception ended the run. -/
def Failed (world : World) : Prop :=
  ∃ message, world.errors.getLast? = some ("Client error: ".toList ++ message)

/-- How a run ends. -/
structure Outcome (host : Host) (config : ClientConfig) (pattern : TaskPattern) (code : Int)
    (world : World) : Prop where
  codes : code = 0 ∨ code = 1 ∨ code = 130
  interrupted : code = 130 → world.interrupted = true
  uninterrupted : code = 0 → world.interrupted = false
  unreported : world.final = none → world.reported = [] ∧ code ≠ 0
  reported : ∀ totals stop, world.final = some (totals, stop) → ∃ timedOut,
    Reported host config pattern timedOut totals stop world ∧
      (code = 0 → timedOut = false) ∧ (code = 1 → timedOut = true ∨ Failed world)
  left : Failed world ∨ world.control = [] ∧ world.connected = false

/-- The totals are reported, and no control symbol is left. -/
structure Totalled (host : Host) (config : ClientConfig) (pattern : TaskPattern) (timedOut : Bool)
    (totals : Totals) (stop : Int) (world : World) : Prop where
  reported : Reported host config pattern timedOut totals stop world
  final : world.final = some (totals, stop)
  control : world.control = []

variable {timedOut : Bool} {totals : Totals}

theorem stable_reported :
    Program.Stable host.move (Reported host config pattern timedOut totals stop) := by
  intro world made r
  have phases := (beside_phased host world.reported).stable world made r.phases
  have full := (beside_full host config timedOut).stable world made r.full
  cases made with
  | callback heard => exact ⟨r.refines.hear heard, r.tiled, phases, r.sampled, full⟩
  | elapse duration => exact ⟨r.refines.elapse duration, r.tiled, phases, r.sampled, full⟩
  | _ => exact ⟨r.refines, r.tiled, phases, r.sampled, full⟩

theorem stable_totalled :
    Program.Stable host.move (Totalled host config pattern timedOut totals stop) := by
  intro world made t
  refine ⟨stable_reported world made t.reported, ?_, ?_⟩
  · cases made <;> exact t.final
  · cases made <;> exact t.control

theorem reportFinal_ensures {windowStartWall : Int} :
    Program.Ensures
      (fun world => Reporting pattern (Drained host.api config.toConfig pattern) [] phases
        windowStartWall [] world ∧ Ending config pattern phases timedOut world ∧
          Full config timedOut world)
      (reportFinal windowStartWall : Action host Unit) fun _ world =>
        ∃ totals stop, Totalled host config pattern timedOut totals stop world := by
  have beside : Beside host fun world => Ending config pattern phases timedOut world ∧
      Full config timedOut world :=
    (beside_ending _).and (beside_full _ _ _)
  have drained {stop : Int} {taken : List Window} : Program.Stable host.move
      (Reporting pattern (Drained host.api config.toConfig pattern) [] phases stop taken) :=
    stable_reporting lasting_drained
  have finished {phases : List (Option SnapshotPhase)} {stop : Int} {taken : List Window} :
      Program.Stable host.move
        (Reporting pattern (Finished host.api config.toConfig pattern) [] phases stop taken) :=
    stable_reporting lasting_finished
  refine .bind (.read_keeps (drained.and beside.stable)) fun finalWall => ?_
  -- The last window is taken; it is reported if there is something in it.
  have takeLast : Program.Ensures
      (fun world => Reporting pattern (Drained host.api config.toConfig pattern) [] phases
        windowStartWall [] world ∧ Ending config pattern phases timedOut world ∧
          Full config timedOut world)
      (takeWindow true : Action host Window) fun data world =>
        Reporting pattern (Finished host.api config.toConfig pattern) [] phases windowStartWall
          (if data.shown then [data] else []) world ∧
            Ending config pattern phases timedOut world ∧ Full config timedOut world := by
    refine .act (drained.and beside.stable) fun world ⟨r, ending⟩ => ?_
    have taken := r.relates
    rw [List.append_nil] at taken
    exact ⟨⟨taken.takeLast world.wall, r.tiled, r.phases, r.sampled, r.final, r.control⟩,
      beside.kept world _ ⟨rfl, rfl, rfl, rfl, rfl, rfl, rfl⟩ ending⟩
  refine .bind takeLast fun data => ?_
  -- Both cases leave reports that end with the last window, or with the measurement.
  have closed : Program.Ensures
      (fun world => Reporting pattern (Finished host.api config.toConfig pattern) [] phases
        windowStartWall (if data.shown then [data] else []) world ∧
          Ending config pattern phases timedOut world ∧ Full config timedOut world)
      (Program.whenever data.shown
        (report { data := data, start := windowStartWall, stop := finalWall }) : Action host Unit)
      fun _ world => ∃ last, ∃ stop,
        (last = [] ∨ last = [none] ∧ stop = finalWall) ∧
          Reporting pattern (Finished host.api config.toConfig pattern) [] (phases ++ last) stop []
            world ∧ Ending config pattern phases timedOut world ∧ Full config timedOut world := by
    refine .whenever _ (fun shown => ?_) ?_
    · rw [if_pos shown]
      exact .weaken (report_ensures beside finished rfl rfl nofun fun _ _ => nofun) (fun _ => id)
        fun _ world holds => ⟨[none], finalWall, .inr ⟨rfl, rfl⟩, holds⟩
    · rintro hidden world ⟨r, ending⟩
      rw [if_neg hidden, ← List.append_nil phases] at r
      exact ⟨[], windowStartWall, .inl rfl, r, ending⟩
  refine .bind closed fun _ => .of_exists fun last => .of_exists fun stop => ?_
  refine .of_fact fun ends => ?_
  have totalled : Program.Ensures
      (fun world => Reporting pattern (Finished host.api config.toConfig pattern) []
        (phases ++ last) stop [] world ∧ Ending config pattern phases timedOut world ∧
          Full config timedOut world)
      (.read fun world => world.collector.totals : Action host Totals) fun totals world =>
        Reported host config pattern timedOut totals finalWall world ∧ world.control = [] := by
    refine .read (finished.and beside.stable) fun world ⟨r, ending, full⟩ => ?_
    refine ⟨⟨?_, ⟨stop, r.tiled⟩, ⟨phases, last, r.phases, ?_, ending⟩, r.sampled, full⟩,
      List.subset_nil.mp r.control⟩
    · obtain ⟨run, t, ⟨accounts, _⟩, complete, same, collector⟩ := r.relates
      rw [List.append_nil] at same
      exact ⟨run, t, accounts, complete, same.symm, by rw [collector]; rfl⟩
    · refine ends.imp_right fun ⟨one, stops⟩ => ⟨one, stops ▸ r.tiled.getLast ?_⟩
      intro nothing
      have none_ := r.phases
      rw [nothing, one] at none_
      exact List.append_ne_nil_of_right_ne_nil _ (List.cons_ne_nil _ _) none_.symm
  refine .bind totalled fun totals => ?_
  have stable : Program.Stable host.move fun world =>
      Reported host config pattern timedOut totals finalWall world ∧ world.control = [] :=
    stable_reported.and fun world made control => by cases made <;> exact control
  refine .modify _ stable fun world ⟨r, control⟩ => ⟨totals, finalWall, ⟨?_, rfl, control⟩⟩
  have kept : Kept world { world with final := some (totals, finalWall) } :=
    ⟨rfl, rfl, rfl, rfl, rfl, rfl, rfl⟩
  have phases : Phased config pattern timedOut finalWall world.reported _ :=
    (beside_phased host world.reported).kept world _ kept r.phases
  exact ⟨r.refines, r.tiled, phases, r.sampled,
    (beside_full host config timedOut).kept world _ kept r.full⟩

/-- A run that ends after its totals. -/
theorem Totalled.outcome {world : World} {code : Int}
    (t : Totalled host config pattern timedOut totals stop world)
    (codes : code = 0 ∨ code = 1 ∨ code = 130)
    (interrupted : code = 130 → world.interrupted = true)
    (passed : code = 0 → world.interrupted = false ∧ timedOut = false)
    (late : code = 1 → timedOut = true ∨ Failed world)
    (left : Failed world ∨ world.control = [] ∧ world.connected = false) :
    Outcome host config pattern code world where
  codes := codes
  interrupted := interrupted
  uninterrupted zero := (passed zero).1
  unreported nothing := by
    rw [t.final] at nothing
    cases nothing
  reported _ _ final := by
    rw [t.final] at final
    cases final
    exact ⟨timedOut, t.reported, fun zero => (passed zero).2, late⟩
  left := left

/-- The endpoint, the messages and the series report are no part of the reports. -/
theorem Totalled.kept {world world' : World}
    (t : Totalled host config pattern timedOut totals stop world) (kept : Kept world world')
    (journal : world'.journal = world.journal)
    (reported : world'.reported = world.reported) (runStart : world'.runStart = world.runStart)
    (final : world'.final = world.final) (control : world'.control = world.control) :
    Totalled host config pattern timedOut totals stop world' := by
  have phases := (beside_phased host world.reported).kept world world' kept
    t.reported.phases
  have full := (beside_full host config timedOut).kept world world' kept t.reported.full
  refine ⟨⟨?_, ?_, ?_, ?_, full⟩, final.trans t.final, control.trans t.control⟩
  · rw [reported, journal]
    exact t.reported.refines
  · rw [reported, runStart]
    exact t.reported.tiled
  · exact reported ▸ phases
  · exact reported ▸ t.reported.sampled

theorem exitCode_ensures :
    Program.Ensures (Totalled host config pattern timedOut totals stop)
      (exitCode timedOut : Action host Int) (Outcome host config pattern) := by
  have stable : Program.Stable host.move fun world =>
      Totalled host config pattern timedOut totals stop world ∧ world.connected = false :=
    stable_totalled.and fun world made holds => by cases made <;> exact holds
  refine .bind (.modify (fun world => Totalled host config pattern timedOut totals stop world ∧
    world.connected = false) stable_totalled fun world t =>
      ⟨t.kept ⟨rfl, rfl, rfl, rfl, rfl, rfl, rfl⟩ rfl rfl rfl rfl rfl, rfl⟩) fun _ => ?_
  refine .bind (.read_value stable) fun stopped => ?_
  cases stopped with
  | true =>
      refine .pure fun world ⟨⟨t, connected⟩, read⟩ => ?_
      exact t.outcome (.inr (.inr rfl)) (fun _ => read) nofun nofun (.inr ⟨t.control, connected⟩)
  | false =>
      refine .pure fun world ⟨⟨t, connected⟩, read⟩ => ?_
      cases timedOut with
      | true =>
          exact t.outcome (.inr (.inl rfl)) nofun nofun (fun _ => .inl rfl)
            (.inr ⟨t.control, connected⟩)
      | false =>
          exact t.outcome (.inl rfl) nofun (fun _ => ⟨read, rfl⟩) nofun
            (.inr ⟨t.control, connected⟩)

/-- An exception is the last message. -/
theorem fail_ensures {before : World → Prop} {after : Int → World → Prop} {message : Text}
    (stable : Program.Stable host.move before)
    (holds : ∀ world, before world → ∀ world', Failed world' →
      world' = { world with errors := world'.errors } → after 1 world') :
    Program.Ensures before (fail message : Action host Int) after := by
  refine .bind (.modify (after 1) stable fun world start => ?_) fun _ => .pure fun world => id
  exact holds world start _ ⟨message, by simp⟩ rfl

theorem removeControl_ensures {relates : Journal → List Window → Collector → Prop}
    {taken : List Window} {assertion : World → Prop} (beside : Beside host assertion)
    (stable : Program.Stable host.move (Reporting pattern relates control phases stop taken))
    (symbol : Text) :
    Program.Ensures
      (fun world => Reporting pattern relates control phases stop taken world ∧ assertion world)
      (removeControl symbol : Action host Unit) fun _ world =>
        Reporting pattern relates (control.filter (· ≠ symbol)) phases stop taken world ∧
          assertion world := by
  refine .modify _ (stable.and beside.stable) fun world ⟨r, holds⟩ => ?_
  exact ⟨⟨r.relates, r.tiled, r.phases, r.sampled, r.final, List.filter_subset _ r.control⟩,
    beside.kept world _ ⟨rfl, rfl, rfl, rfl, rfl, rfl, rfl⟩ holds⟩

/-- The reading of the clock at the end of a measurement that has lasted until then. -/
theorem finish_ensures {assertion : World → Prop} (stable : Program.Stable host.move assertion)
    {measurementEnd : Int} :
    Program.Ensures (fun world => assertion world ∧ Lasted measurementEnd timedOut world)
      (steadyNow : Action host Int) fun finish world =>
        assertion world ∧ (timedOut = true ∨ world.interrupted = true ∨ measurementEnd ≤ finish) ∧
          finish ≤ world.steady :=
  .read (stable.and (beside_lasted _ _).stable) fun _ holds => ⟨holds.1, holds.2, le_rfl⟩

/-- Without its report file the time-series report is an exception. -/
theorem conclude_ensures {measurementStart : Int} {measured : Measured} :
    Program.Ensures
      (MeasurementEnd host config pattern [config.task, markerSymbol config.task]
        measurementStart measured)
      (conclude config pattern measurementStart measured : Action host Int)
      (Outcome host config pattern) := by
  let timedOut := measured.snapshotTimedOut
  refine .of_exists fun phases => .of_imp (fun world => (Measuring host config pattern
      measurementStart [config.task, markerSymbol config.task] phases measured.windowStartWall []
        world ∧ Ending config pattern phases timedOut world) ∧
          Lasted (addDuration measurementStart config.duration) timedOut world)
    (fun world holds => ⟨⟨holds.1, holds.2.1⟩, holds.2.2⟩) ?_
  have ending : Beside host (Ending config pattern phases timedOut) := beside_ending _
  refine .bind (finish_ensures (stable_measuring.and ending.stable)) fun measurementFinish => ?_
  have beside : Beside host fun world => Ending config pattern phases timedOut world ∧
        (timedOut = true ∨ world.interrupted = true ∨
          addDuration measurementStart config.duration ≤ measurementFinish) ∧
            measurementFinish ≤ world.steady :=
    ending.and ((Beside.or (.either .interrupted (.fact _))).and (.steady _))
  have measuring {control : List Text} : Program.Stable host.move fun world =>
      Measuring host config pattern measurementStart control phases measured.windowStartWall []
          world ∧
        Ending config pattern phases timedOut world ∧
          (timedOut = true ∨ world.interrupted = true ∨
            addDuration measurementStart config.duration ≤ measurementFinish) ∧
              measurementFinish ≤ world.steady :=
    stable_measuring.and beside.stable
  refine .of_imp (fun world => Measuring host config pattern measurementStart
      [config.task, markerSymbol config.task] phases measured.windowStartWall [] world ∧
        Ending config pattern phases timedOut world ∧
          (timedOut = true ∨ world.interrupted = true ∨
            addDuration measurementStart config.duration ≤ measurementFinish) ∧
              measurementFinish ≤ world.steady)
    (fun world holds => ⟨holds.1.1, holds.1.2, holds.2⟩) ?_
  refine .bind (.read_keeps measuring) fun resources => ?_
  refine .bind (.read_keeps measuring) fun resourceStatistics => ?_
  refine .bind (.whenever_keeps (.modify_keeps measuring fun world ⟨m, holds⟩ =>
    ⟨⟨m.1, m.2, m.3, m.4, m.5, m.6⟩,
      beside.kept world _ ⟨rfl, rfl, rfl, rfl, rfl, rfl, rfl⟩ holds⟩)) fun _ => ?_
  refine .bind (removeControl_ensures beside stable_measuring _) fun _ => ?_
  refine .bind (drain_ensures measuring) fun _ => ?_
  have ended : Beside host fun world => Ending config pattern phases timedOut world ∧
      Full config timedOut world :=
    (beside_ending _).and (beside_full _ _ _)
  have drained {control : List Text} : Program.Stable host.move
      (Reporting pattern (Drained host.api config.toConfig pattern) control phases
        measured.windowStartWall []) :=
    stable_reporting lasting_drained
  refine .bind (.modify (fun world => Reporting pattern
      (Drained host.api config.toConfig pattern)
      ([config.task, markerSymbol config.task].filter (· ≠ config.task)) phases
        measured.windowStartWall [] world ∧ Ending config pattern phases timedOut world ∧
          Full config timedOut world) measuring ?_) fun _ => ?_
  · rintro world ⟨m, ending, full, passed⟩
    refine ⟨⟨m.relates.2.end passed, m.2, m.3, m.4, m.5, m.6⟩, ending, ?_⟩
    rw [Full, show world.began = measurementStart from m.relates.1]
    exact full
  refine .bind (.modify_keeps (drained.and ended.stable) fun world ⟨r, holds⟩ =>
    ⟨⟨r.1, r.2, r.3, r.4, r.5, r.6⟩,
      ended.kept world _ ⟨rfl, rfl, rfl, rfl, rfl, rfl, rfl⟩ holds⟩) fun _ => ?_
  refine .bind (removeControl_ensures ended drained _) fun _ => ?_
  -- Both symbols are removed.
  have nothing : ([config.task, markerSymbol config.task].filter (· ≠ config.task)).filter
      (· ≠ markerSymbol config.task) = [] := by
    simp [List.filter_cons]
  rw [nothing]
  refine .bind reportFinal_ensures fun _ => .of_exists fun totals => .of_exists fun stop => ?_
  split
  · split
    · exact .bind (.modify_keeps stable_totalled fun world t =>
        t.kept ⟨rfl, rfl, rfl, rfl, rfl, rfl, rfl⟩ rfl rfl rfl rfl rfl) fun _ => exitCode_ensures
    · refine fail_ensures stable_totalled fun world t world' failed same => ?_
      have still : Totalled host config pattern timedOut totals stop world' := by
        rw [same]
        exact t.kept ⟨rfl, rfl, rfl, rfl, rfl, rfl, rfl⟩ rfl rfl rfl rfl rfl
      exact still.outcome (.inr (.inl rfl)) nofun nofun (fun _ => .inr failed) (.inl failed)
  · exact exitCode_ensures

/-! ### The start of a run -/

variable (host config pattern) in
/-- Before the measurement; with a delayed subscription nothing of it is subscribed. -/
def Ready (world : World) : Prop :=
  Setup host config pattern world ∧
    (config.timeSeriesSubscribeAfter.isSome → world.series = [])

theorem stable_ready : Program.Stable host.move (Ready host config pattern) :=
  stable_setup.and (beside_series []).imp.stable

/-- Ready, and every Profile has arrived. -/
theorem stable_profiled : Program.Stable host.move fun world =>
    Ready host config pattern world ∧ Profiled pattern world.collector := by
  rintro world made ⟨ready, profiled⟩
  refine ⟨stable_ready world made ready, ?_⟩
  cases made with
  | callback heard => exact ready.1.warm.profiled profiled heard
  | _ => exact profiled

/-- What `main` does to the tracker, the endpoint and the messages leaves it ready. -/
theorem Ready.kept {world world' : World} (ready : Ready host config pattern world)
    (journal : world'.journal = world.journal)
    (collector : world'.collector = world.collector) (reported : world'.reported = world.reported)
    (final : world'.final = world.final) (control : world'.control ⊆ world.control)
    (series : config.timeSeriesSubscribeAfter.isSome → world'.series = world.series) :
    Ready host config pattern world' := by
  obtain ⟨⟨warm, none_, open_, symbols⟩, unsubscribed⟩ := ready
  rw [← journal, ← collector] at warm
  exact ⟨⟨warm, reported.trans none_, final.trans open_,
    List.Subset.trans control symbols⟩, fun delayed =>
      (series delayed).trans (unsubscribed delayed)⟩

/-- The collector has begun to measure, now or earlier, and nothing is reported. -/
structure Begun (host : Host) (config : ClientConfig) (pattern : TaskPattern) (world : World) :
    Prop where
  measures : Measures host.api config.toConfig pattern
    { world.journal with began := world.steady } [] world.collector
  reported : world.reported = []
  final : world.final = none
  control : world.control ⊆ [config.task, markerSymbol config.task]
  series : config.timeSeriesSubscribeAfter.isSome → world.series = []

theorem stable_begun : Program.Stable host.move (Begun host config pattern) := by
  intro world made b
  cases made with
  | callback heard =>
      exact ⟨b.measures.callback heard, b.reported, b.final, b.control, b.series⟩
  | elapse duration =>
      have later : world.steady ≤ world.steady + duration := by omega
      exact ⟨b.measures.since later, b.reported, b.final, b.control, b.series⟩
  | _ => exact ⟨b.measures, b.reported, b.final, b.control, b.series⟩

/-- The start of the measurement is read: it is no earlier than the warm-up. -/
theorem measurementStart_ensures :
    Program.Ensures (Begun host config pattern) (steadyNow : Action host Int)
      fun measurementStart world => (Begun host config pattern world ∧
        Measures host.api config.toConfig pattern
          { world.journal with began := measurementStart } [] world.collector) ∧
            measurementStart ≤ world.steady :=
  .read stable_begun fun _ b => ⟨⟨b, b.measures⟩, le_rfl⟩

theorem measure_ensures {fromTimeMs : Int} :
    Program.Ensures
      (fun world => Ready host config pattern world ∧ Profiled pattern world.collector)
      (measure config pattern fromTimeMs : Action host Int) (Outcome host config pattern) := by
  refine .bind (.modify (Begun host config pattern) stable_profiled ?_) fun _ => ?_
  · rintro world ⟨⟨setup, series⟩, profiled⟩
    exact ⟨setup.warm.begin profiled, setup.reported, setup.final, setup.control, series⟩
  refine .bind (.modify_keeps stable_begun fun world b => ⟨b.1, b.2, b.3, b.4, b.5⟩) fun _ => ?_
  refine .bind measurementStart_ensures fun measurementStart => ?_
  have stable : Program.Stable host.move fun world => (Begun host config pattern world ∧
      Measures host.api config.toConfig pattern
        { world.journal with began := measurementStart } [] world.collector) ∧
          measurementStart ≤ world.steady := by
    refine (stable_begun.and fun world made measures => ?_).and (stable_steady _)
    cases made with
    | callback heard => exact measures.callback heard
    | _ => exact measures
  refine .bind (.read_keeps stable) fun resources => .bind (.read_keeps stable)
    fun windowStartWall => ?_
  refine .bind (.modify _ stable ?_) fun _ => .bind measurement_ensures
    fun measured => conclude_ensures
  rintro world ⟨⟨b, measures⟩, passed⟩
  refine ⟨⟨?_, ⟨[], ?_, rfl⟩, ?_, ?_, b.final, b.control⟩, passed, b.series⟩
  · rw [b.reported]
    exact ⟨rfl, measures⟩
  · rw [b.reported]
    rfl
  · rw [b.reported]
    rfl
  · rw [b.reported]
    exact nofun

/-- `main` has given up before the measurement. -/
structure Left (world : World) : Prop where
  reported : world.reported = []
  final : world.final = none
  control : world.control = []
  connected : world.connected = false

theorem stable_left : Program.Stable host.move Left := by
  intro world made left
  cases made <;> exact ⟨left.1, left.2, left.3, left.4⟩

theorem Left.outcome {world : World} {code : Int} (left : Left world)
    (codes : code = 1 ∨ code = 130) (interrupted : code = 130 → world.interrupted = true) :
    Outcome host config pattern code world where
  codes := .inr codes
  interrupted := interrupted
  uninterrupted zero := by
    rcases codes with one | stopped
    · exact absurd (one.symm.trans zero) (by decide)
    · exact absurd (stopped.symm.trans zero) (by decide)
  unreported _ := ⟨left.reported, by rcases codes with rfl | rfl <;> decide⟩
  reported _ _ final := by
    rw [left.final] at final
    cases final
  left := .inr ⟨left.control, left.connected⟩

/-- An exception before the measurement. -/
theorem failed_outcome {world : World} (reported : world.reported = [])
    (final : world.final = none) (failed : Failed world) :
    Outcome host config pattern 1 world where
  codes := .inr (.inl rfl)
  interrupted := nofun
  uninterrupted := nofun
  unreported _ := ⟨reported, by decide⟩
  reported _ _ shown := by
    rw [final] at shown
    cases shown
  left := .inl failed

theorem leave_ensures {assertion : World → Prop} (beside : Beside host assertion) :
    Program.Ensures (fun world => Ready host config pattern world ∧ assertion world)
      (leave config : Action host Unit) fun _ world => Left world ∧ assertion world := by
  have removed (control : List Text) : Program.Stable host.move fun world : World =>
      (world.reported = [] ∧ world.final = none ∧ world.control ⊆ control) ∧ assertion world := by
    refine Program.Stable.and (fun world made holds => ?_) beside.stable
    cases made <;> exact holds
  let tasks := [config.task, markerSymbol config.task]
  refine .bind (.modify (fun world => (world.reported = [] ∧ world.final = none ∧
    world.control ⊆ tasks.filter (· ≠ config.task)) ∧ assertion world)
    (stable_ready.and beside.stable) fun world ⟨ready, holds⟩ => ?_) fun _ => ?_
  · exact ⟨⟨ready.1.reported, ready.1.final, List.filter_subset _ ready.1.control⟩,
      beside.kept world _ ⟨rfl, rfl, rfl, rfl, rfl, rfl, rfl⟩ holds⟩
  refine .bind (.modify (fun world => (world.reported = [] ∧ world.final = none ∧
    world.control ⊆ []) ∧ assertion world) (removed _) ?_) fun _ => ?_
  · rintro world ⟨⟨none_, open_, symbols⟩, holds⟩
    refine ⟨⟨none_, open_, List.Subset.trans (List.filter_subset _ symbols) ?_⟩,
      beside.kept world _ ⟨rfl, rfl, rfl, rfl, rfl, rfl, rfl⟩ holds⟩
    simp [tasks, List.filter_cons]
  refine .modify _ (removed _) fun world ⟨⟨none_, open_, symbols⟩, holds⟩ => ?_
  exact ⟨⟨none_, open_, List.subset_nil.mp symbols, rfl⟩,
    beside.kept world _ ⟨rfl, rfl, rfl, rfl, rfl, rfl, rfl⟩ holds⟩

/-- An interrupted wait ends the run. -/
theorem interrupted_ensures :
    Program.Ensures
      (fun world => Ready host config pattern world ∧ world.interrupted = true)
      (do leave config; pure 130 : Action host Int) (Outcome host config pattern) :=
  .bind (leave_ensures .interrupted) fun _ => .pure fun _ ⟨left, stopped⟩ =>
    left.outcome (.inr rfl) fun _ => stopped

theorem warmUp_ensures {fromTimeMs : Int} :
    Program.Ensures
      (fun world => Ready host config pattern world ∧ Profiled pattern world.collector)
      (warmUp config pattern fromTimeMs : Action host Int) (Outcome host config pattern) := by
  refine .bind (waitFor_ensures stable_profiled _) fun went => ?_
  cases went with
  | true => exact .of_imp _ (fun world => And.left) measure_ensures
  | false => exact .of_imp _ (fun world holds => ⟨holds.1.1, holds.2 rfl⟩) interrupted_ensures

/-- The snapshot before the measurement; no other one is delayed then. -/
theorem prefill_ensures (undelayed : config.timeSeriesSubscribeAfter = none) :
    Program.Ensures
      (fun world => Ready host config pattern world ∧ Profiled pattern world.collector)
      (prefill config pattern : Action host Int) (Outcome host config pattern) := by
  have stable : Program.Stable host.move fun world =>
      Ready host config pattern world ∧ Profiled pattern world.collector := stable_profiled
  refine .bind (.read_keeps stable) fun now => .bind (waitFor_ensures stable _) fun went => ?_
  cases went with
  | false => exact .of_imp _ (fun world holds => ⟨holds.1.1, holds.2 rfl⟩) interrupted_ensures
  | true =>
      refine .of_imp _ (fun world => And.left) (.bind (.read_keeps stable) fun subscribedAt => ?_)
      refine .bind (.modify_keeps stable fun world r => ⟨r.1.kept rfl rfl rfl rfl
        (List.Subset.refl _) fun _ => rfl, r.2⟩) fun _ => ?_
      refine .bind (.modify_keeps stable fun world r => ⟨r.1.kept rfl rfl rfl rfl
        (List.Subset.refl _) fun delayed => ?_, r.2⟩) fun _ => ?_
      · rw [undelayed] at delayed
        cases delayed
      refine .bind (waitUntil_ensures stable _ _) fun complete =>
        .of_imp _ (fun world => And.left) ?_
      cases complete with
      | true => exact warmUp_ensures
      | false =>
          rw [if_neg Bool.false_ne_true]
          refine .of_imp (Ready host config pattern) (fun world => And.left) ?_
          split
          · refine .bind (.modify_keeps stable_ready fun world r => r.kept rfl rfl rfl rfl
              (List.Subset.refl _) fun _ => rfl) fun _ => ?_
            refine .bind (.of_imp _ (fun world r => ⟨r, trivial⟩) (leave_ensures (.fact True)))
              fun _ => .of_imp _ (fun world => And.left) ?_
            refine .bind (.modify_keeps stable_left fun world left =>
              ⟨left.1, left.2, left.3, left.4⟩) fun _ => .pure fun world left => ?_
            exact left.outcome (.inl rfl) nofun
          · refine fail_ensures stable_ready fun world r world' failed same => ?_
            rw [same] at failed ⊢
            exact failed_outcome r.1.reported r.1.final failed

theorem connected_ensures :
    Program.Ensures (Ready host config pattern) (connected config pattern : Action host Int)
      (Outcome host config pattern) := by
  have ready : Program.Stable host.move (Ready host config pattern) := stable_ready
  refine .bind (waitUntil_ensures ready _ _) fun received => ?_
  cases received with
  | true =>
      refine .of_imp (fun world => Ready host config pattern world ∧
        Profiled pattern world.collector)
        (fun world holds => ⟨holds.1, of_decide_eq_true (p := _ ≤ _) (holds.2 rfl)⟩) ?_
      rw [if_pos rfl]
      split
      · rename_i prefills
        exact prefill_ensures prefills.2
      · exact warmUp_ensures
  | false =>
      rw [if_neg Bool.false_ne_true]
      refine .of_imp _ (fun world => And.left) (.bind (.read_keeps ready) fun received => ?_)
      refine .bind (.of_imp _ (fun world r => ⟨r, trivial⟩) (leave_ensures (.fact True))) fun _ =>
        .of_imp _ (fun world => And.left)
          (.bind (isInterrupted_ensures stable_left) fun stopped => ?_)
      cases stopped with
      | true => exact .pure fun world ⟨left, read⟩ => left.outcome (.inr rfl) fun _ => read rfl
      | false =>
          refine .of_imp _ (fun world => And.left) ?_
          refine .bind (.modify_keeps stable_left fun world left =>
            ⟨left.1, left.2, left.3, left.4⟩) fun _ => .pure fun world left => ?_
          exact left.outcome (.inl rfl) nofun

/-- Before the control subscription. -/
structure Created (host : Host) (config : ClientConfig) (pattern : TaskPattern) (world : World) :
    Prop where
  warm : WarmedUp host.api config.toConfig pattern world.journal world.collector
  reported : world.reported = []
  final : world.final = none
  series : world.series = []

theorem stable_created : Program.Stable host.move (Created host config pattern) := by
  intro world made created
  cases made with
  | callback heard =>
      exact ⟨created.warm.callback heard, created.reported, created.final, created.series⟩
  | elapse duration =>
      exact ⟨created.warm.elapse duration, created.reported, created.final, created.series⟩
  | _ => exact ⟨created.warm, created.reported, created.final, created.series⟩

theorem subscribed_ensures :
    Program.Ensures (Created host config pattern) (subscribed config pattern : Action host Int)
      (Outcome host config pattern) := by
  refine .bind (.modify (Ready host config pattern) stable_created fun world c =>
    ⟨⟨c.warm, c.reported, c.final, List.Subset.refl _⟩, fun _ => c.series⟩) fun _ => ?_
  split
  · refine .bind (.modify_keeps stable_ready fun world r => r.kept rfl rfl rfl rfl
      (List.Subset.refl _) fun _ => rfl) fun _ => ?_
    exact .bind (.modify_keeps stable_ready fun world r => r.kept rfl rfl rfl rfl
      (List.Subset.refl _) fun _ => rfl) fun _ => connected_ensures
  · refine fail_ensures stable_ready fun world r world' failed same => ?_
    rw [same] at failed ⊢
    exact failed_outcome r.1.reported r.1.final failed

/-- A client that has done nothing yet. -/
structure Fresh (world : World) : Prop where
  reported : world.reported = []
  final : world.final = none
  series : world.series = []

theorem stable_fresh : Program.Stable host.move Fresh := by
  intro world made fresh
  cases made <;> exact ⟨fresh.1, fresh.2, fresh.3⟩

theorem run_ensures :
    Program.Ensures Fresh (run config pattern : Action host Int) (Outcome host config pattern) := by
  refine .bind (.modify (Created host config pattern) stable_fresh fun world fresh =>
    ⟨⟨nofun, rfl⟩, fresh.reported, fresh.final, fresh.series⟩) fun _ => ?_
  split
  · refine fail_ensures stable_created fun world created world' failed same => ?_
    rw [same] at failed ⊢
    exact failed_outcome created.reported created.final failed
  · exact .bind (.modify_keeps stable_created fun world c => ⟨c.1, c.2, c.3, c.4⟩) fun _ =>
      subscribed_ensures

/-- The arguments name an admitted task. -/
def Admitted (arguments : List Text) (config : ClientConfig) (pattern : TaskPattern) : Prop :=
  Runner.clientParseArgs arguments = .ok config ∧ config.admission = .ok pattern

theorem main_ensures {arguments : List Text} (admitted : Admitted arguments config pattern) :
    Program.Ensures Fresh (main arguments : Action host Int) (Outcome host config pattern) := by
  rw [main, admitted.1]
  dsimp only
  rw [admitted.2]
  exact run_ensures

end Outcome

/-! ### Three runs -/

private def client : Host := { api := .release }

private def idle : World := { collector := .create {} 0 false }

private def windowsArguments : List Text :=
  ["--task".toList, "SUB:T1".toList, "--warmup".toList, "1ms".toList, "--window".toList,
    "100ms".toList, "--duration".toList, "200ms".toList, "--batch-timeout".toList, "1ms".toList]

private def seriesArguments : List Text :=
  ["--task".toList, "SUB:N1".toList, "--role".toList, "feed".toList, "--warmup".toList,
    "1ms".toList, "--time-series-subscribe-after".toList, "100ms".toList, "--duration".toList,
    "300ms".toList]

/-- A Trade and the marker of its publication. -/
private def publication (sequence : Int) : List Callback :=
  [⟨[.trade { eventSymbol := "SYM00".toList, sequence := sequence, timeNanos := 100 }], true,
      150, 1⟩,
    ⟨[.textMessage
      { eventSymbol := "LATENCY_MARKER:SUB:T1".toList
        text := "LATENCY_BATCH:100".toList
        sequence := sequence }], false, 160, 1⟩]

/-- A Profile arrives, the warm-up passes, and the measurement begins. -/
private def opening : List (List Move) :=
  List.replicate 5 [] ++ [.callback ⟨[.profile "SYM00".toList], false, 1, 0⟩] ::
    List.replicate 9 [] ++ [[.setWall 1000]]

/-- One publication in the first of two windows, and one after the measurement has ended. -/
private def windowsMoves : List (List Move) :=
  opening ++ List.replicate 14 [] ++
    (.setWall 2000 :: (publication 5).map .callback) :: List.replicate 9 [] ++
      [.setWall 3000] :: List.replicate 14 [] ++
        [.setWall 4000 :: (publication 6).map .callback]

/-- An interrupt in the first window, after a publication. -/
private def interruptedMoves : List (List Move) :=
  opening ++ List.replicate 14 [] ++ [(publication 5).map .callback ++ [.interrupt]]

/-- The snapshot arrives after the subscription. -/
private def seriesMoves : List (List Move) :=
  opening ++ List.replicate 33 [] ++ [[.setWall 2000, .seriesCallback [.timeAndSale
    { eventSymbol := "SYM00".toList
      eventFlags := { snapshotBegin := true, snapshotEnd := true } }] 5]]

/-- The exit code of a run, the batches of its totals and the intervals of its reports. -/
private def outcomeOf (result : Int × List (List Move) × World) :
    Int × Option (List Int) × List (Int × Int) :=
  (result.1, result.2.2.final.map fun final => final.1.batches,
    result.2.2.reported.map Report.interval)

/-- A run that was evaluated, and reports its totals. -/
private theorem ran_of_outcome {run : Option (Int × List (List Move) × World)} {code : Int}
    {batches : List Int} {intervals : List (Int × Int)}
    (evaluated : run.map outcomeOf = some (code, some batches, intervals)) :
    ∃ moves' world totals stop, run = some (code, moves', world) ∧
      world.final = some (totals, stop) ∧ totals.batches = batches ∧
        world.reported.map Report.interval = intervals := by
  obtain ⟨⟨code, moves', world⟩, ran, same⟩ := Option.map_eq_some_iff.mp evaluated
  rw [outcomeOf, Prod.mk.injEq, Prod.mk.injEq] at same
  obtain ⟨rfl, read, rfl⟩ := same
  obtain ⟨⟨totals, stop⟩, final, rfl⟩ := Option.map_eq_some_iff.mp read
  exact ⟨moves', world, totals, stop, ran, final, rfl, rfl⟩

private theorem windows_admitted : Admitted windowsArguments
    { task := "SUB:T1".toList, warmup := 1, window := 100, duration := 200, batchTimeout := 1 }
    ⟨[⟨.trade, 1⟩], 1000, none, 0, none⟩ :=
  ⟨rfl, by decide +kernel⟩

private theorem series_admitted : Admitted seriesArguments
    { task := "SUB:N1".toList, role := .feed, warmup := 1, duration := 300,
      timeSeriesSubscribeAfter := some 100 }
    ⟨[⟨.timeAndSale, 1⟩], 1000, none, 0, none⟩ :=
  ⟨rfl, by decide +kernel⟩

private theorem windows_ran : ∃ moves' world totals stop,
    (main windowsArguments : Action client Int) 10 windowsMoves idle =
        some (0, moves', world) ∧
      world.final = some (totals, stop) ∧ totals.batches = [60, 60] ∧
        world.reported.map Report.interval = [(1000, 2000), (2000, 3000), (3000, 4000)] :=
  ran_of_outcome (by decide +kernel)

/-! ### Runs of `main` -/

section Main

variable {host : Host} {arguments : List Text} {config : ClientConfig} {pattern : TaskPattern}
  {bound : Nat} {moves moves' : List (List Move)} {start world : World} {code : Int}
  {totals : Totals} {stop : Int}

/-- What `main` reports is what a `ClientRun` reports that accounts for every callback from the
creation of the collector on, whatever happens between the actions of `main`: the warm-up has
received every Profile and is over when the measurement begins, whatever comes until its end is
measured, and a run that succeeds measures for the whole duration. -/
theorem main_refines (admitted : Admitted arguments config pattern) (fresh : Fresh start)
    (ran : (main arguments : Action host Int) bound moves start = some (code, moves', world))
    (final : world.final = some (totals, stop)) :
    ∃ (run : ClientRun) (t : Timeline), Accounts run t world.journal ∧
      callbacks t.heard ++ heardIn moves' = heardIn moves.tail ∧
      (code = 0 → InTime world.began config.duration →
        world.began + config.duration * 1000000 ≤ world.ended) ∧
      Complete host.api config.toConfig pattern run.warmUp ∧
        world.reported.map Report.data = run.reported host.api config.toConfig pattern ∧
          totals = run.totals host.api config.toConfig pattern := by
  have outcome := main_ensures admitted bound moves start fresh code moves' world ran
  obtain ⟨timedOut, reported, passed, _⟩ := outcome.reported totals stop final
  obtain ⟨run, t, accounts, same⟩ := reported.refines
  refine ⟨run, t, accounts, ?_, fun zero inTime => ?_, same⟩
  · rw [main, admitted.1] at ran
    dsimp only at ran
    rw [admitted.2] at ran
    rw [accounts.heard]
    exact run_hears ran
  · rw [← addDuration_eq inTime]
    rcases reported.full with late | stopped | full
    · rw [passed zero] at late
      cases late
    · rw [outcome.uninterrupted zero] at stopped
      cases stopped
    · exact full

/-- One publication is complete in the first window and one after the end of the measurement. -/
theorem main_refines_windows : ∃ (moves' : List (List Move)) (world : World) (totals : Totals)
    (stop : Int) (run : ClientRun) (t : Timeline),
    (main windowsArguments : Action client Int) 10 windowsMoves idle = some (0, moves', world) ∧
      world.final = some (totals, stop) ∧ totals.batches = [60, 60] ∧
      Accounts run t world.journal ∧
      callbacks t.heard ++ heardIn moves' = heardIn windowsMoves.tail ∧
      totals = run.totals .release { task := "SUB:T1".toList, duration := 200, batchTimeout := 1 }
        ⟨[⟨.trade, 1⟩], 1000, none, 0, none⟩ := by
  obtain ⟨moves', world, totals, stop, ran, final, batches, -⟩ := windows_ran
  obtain ⟨run, t, accounts, heard, -, -, -, same⟩ :=
    main_refines windows_admitted ⟨rfl, rfl, rfl⟩ ran final
  exact ⟨moves', world, totals, stop, run, t, ran, final, batches, accounts, heard, same⟩

/-- Without a delayed subscription the intervals of the windows follow one another from the start
of the measurement, and each but the last two is due before the measurement ends, as long as a
window is in time for the clock. -/
theorem main_windows (admitted : Admitted arguments config pattern) (fresh : Fresh start)
    (ran : (main arguments : Action host Int) bound moves start = some (code, moves', world))
    (final : world.final = some (totals, stop))
    (undelayed : config.timeSeriesSubscribeAfter = none) :
    (∃ last, Tiled world.runStart world.reported last) ∧
      (∀ made ∈ world.reported, made.snapshotPhase = none) ∧
        (InTime world.steady config.window →
          ∀ k : Nat, k + 1 < world.reported.length → k * config.window < config.duration) := by
  have outcome := main_ensures admitted bound moves start fresh code moves' world ran
  obtain ⟨timedOut, reported, _⟩ := outcome.reported totals stop final
  obtain ⟨measured, last, phases, ends, ending⟩ := reported.phases
  rw [Ending, undelayed] at ending
  obtain ⟨-, n, rfl, early⟩ := ending
  have least : last = [] ∨ last = [none] := ends.imp_right And.left
  refine ⟨reported.tiled, fun made mem => ?_, fun inTime k less => ?_⟩
  · have listed := List.mem_map_of_mem (f := Report.snapshotPhase) mem
    rw [phases, List.mem_append, List.mem_replicate] at listed
    rcases listed with ⟨-, listed⟩ | listed
    · exact listed
    · rcases least with rfl | rfl
      · cases listed
      · exact List.mem_singleton.mp listed
  · have size := congrArg List.length phases
    rw [List.length_map, List.length_append, List.length_replicate] at size
    have due := early inTime k (by rcases least with rfl | rfl <;> simp at size <;> omega)
    rw [← mul_assoc] at due
    exact lt_of_mul_lt_mul_right due (by decide)

/-- Two windows of 100 ms and that of the drain. -/
theorem main_windows_three : ∃ (moves' : List (List Move)) (world : World),
    (main windowsArguments : Action client Int) 10 windowsMoves idle = some (0, moves', world) ∧
      world.reported.map Report.interval = [(1000, 2000), (2000, 3000), (3000, 4000)] ∧
      (∃ last, Tiled world.runStart world.reported last) ∧
      (∀ made ∈ world.reported, made.snapshotPhase = none) ∧
        (InTime world.steady 100 →
          ∀ k : Nat, k + 1 < world.reported.length → (k * 100 : Int) < 200) := by
  obtain ⟨moves', world, totals, stop, ran, final, -, intervals⟩ := windows_ran
  exact ⟨moves', world, ran, intervals,
    main_windows windows_admitted ⟨rfl, rfl, rfl⟩ ran final rfl⟩

/-- With a delayed subscription the phases before, during and after the snapshot are reported in
this order, without a gap, up to one of them; the last one is reported when the tracker has
counted a snapshot for every requested symbol, and a run that ends with the second one does not
succeed. -/
theorem main_phases (admitted : Admitted arguments config pattern) (fresh : Fresh start)
    (ran : (main arguments : Action host Int) bound moves start = some (code, moves', world))
    (final : world.final = some (totals, stop))
    (delayed : config.timeSeriesSubscribeAfter.isSome) :
    (∃ last, Tiled world.runStart world.reported last) ∧
      (∀ made ∈ world.reported, made.Measured pattern) ∧
        ∃ phase : SnapshotPhase, ∃ last, (last = [] ∨ last = [none]) ∧
          world.reported.map Report.snapshotPhase = phase.earlier ++ [some phase] ++ last ∧
            Subscribed config pattern phase world ∧ (phase = .during → code ≠ 0) := by
  have outcome := main_ensures admitted bound moves start fresh code moves' world ran
  obtain ⟨timedOut, reported, passed, _⟩ := outcome.reported totals stop final
  obtain ⟨measured, last, phases, ends, ending⟩ := reported.phases
  obtain ⟨after, chosen⟩ := Option.isSome_iff_exists.mp delayed
  rw [Ending, chosen] at ending
  obtain ⟨phase, rfl, _, unfinished, subscribed⟩ := ending
  refine ⟨reported.tiled, reported.sampled, phase, last, ends.imp_right And.left, phases,
    subscribed, fun during zero => ?_⟩
  rcases unfinished during with late | stopped
  · rw [passed zero] at late
    cases late
  · rw [outcome.uninterrupted zero] at stopped
    cases stopped

/-- The snapshot is complete, and the three phases are reported. -/
theorem main_phases_series : ∃ (moves' : List (List Move)) (world : World) (config : ClientConfig)
    (pattern : TaskPattern),
    (main seriesArguments : Action client Int) 10 seriesMoves idle = some (0, moves', world) ∧
      world.reported.map Report.interval = [(1000, 1000), (1000, 5), (5, 2000)] ∧
      (∃ last, Tiled world.runStart world.reported last) ∧
      (∀ made ∈ world.reported, made.Measured pattern) ∧
        ∃ phase : SnapshotPhase, ∃ last, (last = [] ∨ last = [none]) ∧
          world.reported.map Report.snapshotPhase = phase.earlier ++ [some phase] ++ last ∧
            Subscribed config pattern phase world ∧ (phase = .during → (0 : Int) ≠ 0) := by
  obtain ⟨moves', world, totals, stop, ran, final, -, intervals⟩ : ∃ moves' world totals stop,
      (main seriesArguments : Action client Int) 10 seriesMoves idle = some (0, moves', world) ∧
        world.final = some (totals, stop) ∧ totals.batches = [] ∧
          world.reported.map Report.interval = [(1000, 1000), (1000, 5), (5, 2000)] :=
    ran_of_outcome (by decide +kernel)
  exact ⟨moves', world, _, _, ran, intervals,
    main_phases series_admitted ⟨rfl, rfl, rfl⟩ ran final rfl⟩

/-- What is left of a run of `main`. -/
structure Exit (arguments : List Text) (start : World) (code : Int) (world : World) : Prop where
  codes : code = 0 ∨ code = 1 ∨ code = 130
  helped : Runner.clientParseArgs arguments = .error .help → code = 0 ∧ world = start
  refused : ∀ message, Runner.clientParseArgs arguments = .error (.invalid message) →
    code = 1 ∧ Failed world
  interrupted : code = 130 → world.interrupted = true
  succeeded : code = 0 → Runner.clientParseArgs arguments = .error .help ∨
    world.interrupted = false ∧ world.final.isSome
  unreported : world.final = none → world.reported = []
  left : Runner.clientParseArgs arguments = .error .help ∨ Failed world ∨
    world.control = [] ∧ world.connected = false

/-- Arguments that are refused, or a task, are an exception before anything is reported. -/
theorem refused_exit {message : Text} (fresh : Fresh start)
    (other : Runner.clientParseArgs arguments ≠ .error .help)
    (ran : (fail message : Action host Int) bound moves start = some (code, moves', world)) :
    Exit arguments start code world := by
  have fails : Program.Ensures Fresh (fail message : Action host Int)
      fun code world => (code = 1 ∧ Failed world) ∧ Fresh world := by
    refine fail_ensures stable_fresh fun world fresh world' failed same => ⟨⟨rfl, failed⟩, ?_⟩
    rw [same]
    exact ⟨fresh.1, fresh.2, fresh.3⟩
  obtain ⟨⟨rfl, failed⟩, fresh⟩ := fails bound moves start fresh code moves' world ran
  exact ⟨.inr (.inl rfl), fun help => absurd help other, fun _ _ => ⟨rfl, failed⟩, nofun, nofun,
    fun _ => fresh.reported, .inr (.inl failed)⟩

/-- The exit code and what is left of a run, for all arguments: it is 130 only for an interrupt, and
0 only for `--help`, which does nothing, or for an uninterrupted run that has reported its totals;
no window is reported without them. Unless an exception ended it, a run leaves no control symbol
subscribed and the endpoint closed. -/
theorem main_exit (fresh : Fresh start)
    (ran : (main arguments : Action host Int) bound moves start = some (code, moves', world)) :
    Exit arguments start code world := by
  cases parsed : Runner.clientParseArgs arguments with
  | error stopped =>
      rw [main, parsed] at ran
      cases stopped with
      | help =>
          cases ran
          exact ⟨.inl rfl, fun _ => ⟨rfl, rfl⟩, fun _ other => (nomatch parsed.symm.trans other),
            nofun, fun _ => .inl parsed, fun _ => fresh.reported, .inl parsed⟩
      | invalid message =>
          exact refused_exit fresh (fun help => nomatch parsed.symm.trans help) ran
  | ok config =>
      have other : Runner.clientParseArgs arguments ≠ .error .help := fun help =>
        nomatch parsed.symm.trans help
      cases admission : config.admission with
      | error message =>
          rw [main, parsed] at ran
          dsimp only at ran
          rw [admission] at ran
          exact refused_exit fresh other ran
      | ok pattern =>
          have outcome := main_ensures ⟨parsed, admission⟩ bound moves start fresh code moves'
            world ran
          refine ⟨outcome.codes, fun help => absurd help other,
            fun _ refused => (nomatch parsed.symm.trans refused), outcome.interrupted,
            fun zero => .inr ⟨outcome.uninterrupted zero, ?_⟩,
            fun nothing => (outcome.unreported nothing).1, .inr outcome.left⟩
          by_contra unreported
          exact (outcome.unreported (Option.not_isSome_iff_eq_none.mp unreported)).2 zero

/-- An interrupt in the first window. -/
theorem main_exit_interrupted : ∃ (moves' : List (List Move)) (world : World),
    (main windowsArguments : Action client Int) 10 interruptedMoves idle =
        some (130, moves', world) ∧
      world.reported.length = 1 ∧ Exit windowsArguments idle 130 world := by
  obtain ⟨moves', world, totals, stop, ran, -, -, intervals⟩ : ∃ moves' world totals stop,
      (main windowsArguments : Action client Int) 10 interruptedMoves idle =
          some (130, moves', world) ∧
        world.final = some (totals, stop) ∧ totals.batches = [60] ∧
          world.reported.map Report.interval = [(1000, 1000)] :=
    ran_of_outcome (by decide +kernel)
  refine ⟨moves', world, ran, ?_, main_exit ⟨rfl, rfl, rfl⟩ ran⟩
  simpa using congrArg List.length intervals

end Main

end Client

end LatencyTest
