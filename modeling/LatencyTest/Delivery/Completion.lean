import LatencyTest.Delivery.Outcome

/-!
The delivery clients end within a number of rounds of 50 ms that their settings give, whatever
their listeners do (`main_completes`). A listener that raises the maximum is held up only by the
others (`updateMaximum_progress`).
-/

namespace LatencyTest.Delivery

open Lib (Program Shared)
open Runner (DeliveryConfig LegacyConfig deliveryParseArgs legacyParseArgs)

variable {κ : Type} {listener : κ → Listener}

/-! ### Raising the maximum -/

/-- The steps of a listener that do not fail without a reason. -/
def advances (index : Nat) (moves : List (Move κ)) : Nat :=
  moves.countP fun
    | .advance other fails => other = index ∧ fails = false
    | _ => false

/-- How often the moves change the maximum. -/
def raises (listener : κ → Listener) : World → List (Move κ) → Nat
  | _, [] => 0
  | world, made :: moves =>
      (if (move listener world made).state.maximum ≠ world.state.maximum then 1 else 0) +
        raises listener (move listener world made) moves

/-- The moves of the environment as moves of the counters. -/
theorem exists_sharedMoves (listener : κ → Listener) (index : Nat) (moves : List (Move κ))
    (world : World) :
    ∃ shared : List (Lib.Shared.Move Counter Int),
      (moves.foldl (move listener) world).state =
        shared.foldl (Lib.Shared.move sizeLimit) world.state ∧
      Lib.Shared.steps index shared = advances index moves ∧
      Lib.Shared.raises sizeLimit world.state shared = raises listener world moves := by
  induction moves generalizing world with
  | nil => exact ⟨[], rfl, rfl, rfl⟩
  | cons made moves ih =>
      obtain ⟨shared, same, counted, raised⟩ := ih (move listener world made)
      unfold advances at counted ⊢
      rw [List.foldl_cons, same, List.countP_cons, ← counted, raises, ← raised]
      cases made with
      | call heard =>
          exact ⟨.spawn (listener heard) :: shared, rfl, by simp [Lib.Shared.steps], rfl⟩
      | advance other fails =>
          refine ⟨.step other fails world.steady :: shared, rfl, ?_, rfl⟩
          rw [Lib.Shared.steps, List.countP_cons]
          rfl
      | _ => exact ⟨shared, rfl, by simp, by simp [move]⟩

/-- `updateMaximum` is lock-free: until a listener is through with it, it takes at most one step
more than the maximum is raised in the meantime; exchanges that fail without a reason are not
counted. -/
theorem updateMaximum_progress {world : World} (sound : Sound world) {index : Nat}
    {thread : Lib.Thread Counter Int} {value : Int}
    (found : world.state.threads[index]? = some thread)
    (next : thread.operations[thread.done]? = some (.raise value)) (listener : κ → Listener)
    (moves : List (Move κ)) :
    Shared.Past thread index (moves.foldl (move listener) world).state ∨
      advances index moves ≤ raises listener world moves + 1 := by
  obtain ⟨shared, same, counted, raised⟩ := exists_sharedMoves listener index moves world
  rw [same, ← counted, ← raised]
  exact Shared.steps_le_raises sound.linear found next shared

/-- Two listeners are about to raise the maximum. -/
private def twoListeners : World :=
  [.call ⟨.other, 5⟩, .call ⟨.other, 3⟩, .advance 0 false, .advance 1 false].foldl
    (move LegacyCall.listener) {}

/-- The second listener raises it between the two steps of the first, which has to try again. -/
private def contended : List (Move LegacyCall) :=
  [.advance 0 false, .advance 1 false, .advance 1 false, .advance 0 false]

theorem updateMaximum_progress_contended :
    raises LegacyCall.listener twoListeners contended = 1 ∧
      advances 0 contended ≤ raises LegacyCall.listener twoListeners contended + 1 := by
  have start : Sound {} := (Fresh.unmeasured ⟨rfl, rfl, rfl, rfl, rfl, rfl, rfl⟩).1.1
  have sound : Sound twoListeners := (Beside.sound LegacyCall.listener).stable.foldl start _
  refine ⟨by decide, (updateMaximum_progress sound rfl rfl LegacyCall.listener
    contended).resolve_left ?_⟩
  -- The first listener is still in front of the operation.
  rintro ⟨now, found, less⟩
  cases found
  exact absurd less (by decide)

/-! ### Termination -/

section Termination

variable {need : Nat} {watches : Bool} {host : Host} {settings : Settings} {eventCount : Nat}
  {publishPeriod deadline : Int}

theorem goesOn_completes : Program.Completes (fun _ => True)
    (goesOn watches deadline : Action listener Bool) need := by
  refine .both (.seq .read fun _ => .pure) (.both ?_ (.seq .read fun _ => .pure))
  split
  · exact .seq .read fun _ => .pure
  · exact .pure

/-- A loop goes on before its deadline only. -/
theorem goesOn_early (time : Int) : Program.Ensures (fun world => time ≤ world.steady)
    (goesOn watches deadline : Action listener Bool)
    fun going world => time ≤ world.steady ∧ (going = true → time < deadline) := by
  have passed : Beside listener fun world => time ≤ world.steady := .steady time
  have flag {value : World → Bool} : Program.Ensures (fun world => time ≤ world.steady)
      (do pure !(← .read value) : Action listener Bool)
      fun going world => if going then time ≤ world.steady else
        time ≤ world.steady ∧ (false = true → time < deadline) := by
    refine .bind (.read_keeps passed.stable) fun stopped => .pure fun world holds => ?_
    cases stopped with
    | false => exact holds
    | true => exact ⟨holds, nofun⟩
  refine .both (fun world : World => time ≤ world.steady) flag
    (.both (fun world : World => time ≤ world.steady) ?_ ?_)
  · cases watches with
    | false => exact .pure fun _ => id
    | true => exact flag
  · refine .bind (read_ensures passed (fun now _ => time ≤ now) fun _ => id)
      fun now => .pure fun world ⟨holds, reached⟩ => ⟨holds, fun early => ?_⟩
    exact reached.trans_lt (of_decide_eq_true early)

theorem sleep_later (time : Int) : Program.Ensures (fun world => time ≤ world.steady)
    (sleep : Action listener Unit)
    fun _ world => time + 50000000 ≤ world.steady := by
  have beside : Beside listener fun world => time ≤ world.steady := .steady time
  exact .modify _ beside.stable fun _ passed => Int.add_le_add_right passed _

theorem sampleEach_completes (resources : Option ResourceSampler) :
    Program.Completes (fun _ => True)
      (sampleEach resources : Action listener (Option ResourceSampler)) need := by
  cases resources with
  | none => exact .pure
  | some sampler => exact .seq .read fun _ => .pure

/-- A wait of some milliseconds has at most so many rounds of 50 ms. -/
theorem deadline_due (now duration : Int) : Client.addDuration now duration ≤
    now + ((duration.toNat / 50 + 1 : Nat) : Int) * 50000000 := by
  have due := Client.addDuration_le now duration
  omega

/-- A loop whose rounds end in a sleep ends, as it goes on before its deadline only. -/
theorem loop_completes {α σ : Type} {duration : Int} (enough : duration.toNat / 50 + 1 < need)
    (now : Int) {body : σ → Action listener (σ ⊕ α)}
    (ends : ∀ state, Program.Completes (fun _ => True) (body state) need)
    (round : ∀ time state, Program.Ensures (fun world => time ≤ world.steady) (body state)
      fun result world => ∀ next, result = .inl next →
        time < Client.addDuration now duration ∧ time + 50000000 ≤ world.steady)
    (state : σ) :
    Program.Completes (fun world : World => True ∧ now ≤ world.steady)
      (Program.loop body state) need :=
  (Program.Completes.timed World.steady ends round enough (deadline_due now duration) state).of_imp
    fun _ => And.right

theorem observe_completes {duration : Int} (enough : duration.toNat / 50 + 1 < need)
    (resources : Option ResourceSampler) :
    Program.Completes (fun _ => True)
      (observe watches duration resources : Action listener (Option ResourceSampler)) need := by
  refine .bind .read (read_ensures (.fact True) (fun now world => now ≤ world.steady)
    fun _ _ => le_rfl) fun now => .bind (loop_completes enough now ?_ ?_ resources)
      (fun _ _ _ _ _ _ _ _ => trivial) sampleEach_completes
  · intro resources
    refine .seq goesOn_completes fun going => ?_
    cases going with
    | false => exact .pure
    | true => exact .seq (sampleEach_completes _) fun _ => .seq .modify fun _ => .pure
  · intro time resources
    refine .bind_fact (goesOn_early time) fun going early => ?_
    cases going with
    | false =>
        refine .pure fun world holds next impossible => ?_
        cases impossible
    | true =>
        refine .bind (sampleEach_keeps (.steady time) resources) fun _ =>
          .bind (sleep_later time) fun _ => .pure fun world slept next _ => ?_
        exact ⟨early rfl, slept⟩

theorem waitForStartup_completes {timeout : Int} (enough : timeout.toNat / 50 + 1 < need)
    (symbolCount : Nat) :
    Program.Completes (fun _ => True)
      (waitForStartup watches timeout symbolCount : Action listener Bool) need := by
  refine .bind .read (read_ensures (.fact True) (fun now world => now ≤ world.steady)
    fun _ _ => le_rfl) fun now => loop_completes enough now ?_ ?_ ()
  · intro _
    refine .seq goesOn_completes fun going => ?_
    cases going with
    | false => exact .pure
    | true =>
        refine .seq (.both (.seq .read fun _ => .pure) (.seq .read fun _ => .pure)) fun ready => ?_
        cases ready with
        | true => exact .pure
        | false => exact .seq .modify fun _ => .pure
  · intro time _
    refine .bind_fact (goesOn_early time) fun going early => ?_
    cases going with
    | false =>
        refine .pure fun world holds next impossible => ?_
        cases impossible
    | true =>
        have passed : Beside listener fun world => time ≤ world.steady := .steady time
        have loads (counter : Counter) (holds : Nat → Bool) :
            Program.Ensures (fun world => time ≤ world.steady)
              (do pure (holds (← load counter)) : Action listener Bool)
              fun _ world => time ≤ world.steady :=
          .bind (.read_keeps passed.stable) fun _ => .pure fun _ => id
        refine .bind (.both_keeps (loads _ _) (loads _ _)) fun ready => ?_
        cases ready with
        | true =>
            refine .pure fun world holds next impossible => ?_
            cases impossible
        | false =>
            exact .bind (sleep_later time) fun _ => .pure fun world slept next _ =>
              ⟨early rfl, slept⟩

theorem loadEach_completes (counters : List Counter) (start : CallbackSnapshot) :
    Program.Completes (fun _ => True)
      (loadEach counters start : Action listener CallbackSnapshot) need := by
  induction counters generalizing start with
  | nil => exact .pure
  | cons counter counters ih => exact .seq .read fun _ => ih _

/-- The rounds that the loops of a client can take. -/
def Settings.rounds (settings : Settings) : Nat :=
  (max settings.startupTimeout (max settings.warmup settings.duration)).toNat / 50 + 2

theorem rounds_startup (settings : Settings) :
    settings.startupTimeout.toNat / 50 + 1 < settings.rounds := by
  unfold Settings.rounds
  omega

theorem measure_completes (enough : settings.rounds ≤ need) :
    Program.Completes (fun _ => True)
      (measure watches host settings eventCount publishPeriod :
        Action listener (Except Text DeliveryReport)) need := by
  unfold Settings.rounds at enough
  refine .seq (observe_completes (by omega) _) fun _ => .seq (loadEach_completes _ _) fun _ =>
    .seq .read fun _ => .seq .read fun _ => .seq .read fun _ =>
    .seq (observe_completes (by omega) _) fun _ => .seq .read fun _ => .seq .read fun _ =>
    .seq (loadEach_completes _ _) fun _ => .seq .read fun _ => .seq .read fun _ => ?_
  split
  · exact .seq .modify fun _ => .pure
  · exact .pure

theorem fail_completes (message : Text) : Program.Completes (fun _ => True)
    (do
      complain message
      pure 1 : Action listener Int) need :=
  .seq .modify fun _ => .pure

theorem requireEvents_completes {condition : Prop} [Decidable condition] (message : Text) :
    Program.Completes (fun _ => True)
      (if condition then do
        complain message
        pure 1
      else pure 0 : Action listener Int) need := by
  split
  · exact fail_completes message
  · exact .pure

theorem startupError_completes (symbolCount : Nat) : Program.Completes (fun _ => True)
    (startupError symbolCount : Action listener Text) need :=
  .seq .read fun _ => .seq .read fun _ => .pure

end Termination

/-! ### The Graal client -/

namespace Graal

variable {host : Host} {supportsMonitoring : Bool} {config : DeliveryConfig}
  {pattern : TaskPattern} {eventCount need : Nat}

theorem conclude_completes (report : DeliveryReport) :
    Program.Completes (fun _ => True) (conclude config report) need := by
  refine .seq .modify fun _ => .seq .read fun stopped => ?_
  cases stopped with
  | true => exact .pure
  | false => exact requireEvents_completes _

theorem connected_completes : Program.Completes (fun _ => True)
    (connected host config pattern eventCount) (settings config).rounds := by
  refine .seq (waitForStartup_completes (rounds_startup (settings config)) _) fun ready => ?_
  cases ready with
  | true =>
      refine .seq (measure_completes le_rfl) fun result => ?_
      cases result with
      | error message => exact fail_completes _
      | ok report => exact conclude_completes report
  | false => exact .seq .modify fun _ => .seq (startupError_completes _) fun _ => fail_completes _

theorem run_completes : Program.Completes (fun _ => True)
    (run host supportsMonitoring config pattern) (settings config).rounds := by
  unfold run
  split
  · split
    · exact fail_completes _
    · split
      · exact fail_completes _
      · exact fail_completes _
      · refine .seq .modify fun _ => ?_
        split
        · exact fail_completes _
        · exact connected_completes
  · exact fail_completes _

theorem main_completes_of {arguments : List Text}
    (parsed : deliveryParseArgs arguments = .ok config) :
    Program.Completes (fun _ => True) (main host supportsMonitoring arguments)
      (settings config).rounds := by
  simp only [main, parsed]
  split
  · exact fail_completes _
  · exact run_completes

end Graal

/-! ### The legacy client -/

namespace Legacy

variable {host : Host} {api : Api} {config : LegacyConfig} {pattern : TaskPattern}
  {eventCount need : Nat}

theorem orThrow_completes {α : Type} {first : Run (Except Text Unit)}
    {next : Run (Except Text α)} (start : Program.Completes (fun _ => True) first need)
    (rest : Program.Completes (fun _ => True) next need) :
    Program.Completes (fun _ => True) (orThrow first next) need := by
  refine .seq start fun result => ?_
  cases result with
  | error message => exact .pure
  | ok done => exact rest

theorem checkApi_completes (operation : Operation) (change : World → World) :
    Program.Completes (fun _ => True) (checkApi api operation change) need := by
  unfold checkApi
  split
  · exact .pure
  · exact .seq .modify fun _ => .pure

theorem start_completes : Program.Completes (fun _ => True) (start api config pattern) need := by
  refine orThrow_completes (checkApi_completes _ _) ?_
  refine orThrow_completes (checkApi_completes _ _) ?_
  refine orThrow_completes (checkApi_completes _ _) ?_
  split
  · exact .pure
  · split
    · exact .pure
    · exact checkApi_completes _ _

theorem close_completes : Program.Completes (fun _ => True) close need :=
  .seq (.seq .read fun _ => .whenever .modify) fun _ => .seq .read fun _ => .whenever .modify

theorem conclude_completes (report : DeliveryReport) :
    Program.Completes (fun _ => True) (conclude config report) need := by
  refine .seq .read fun stopped => ?_
  cases stopped with
  | true => exact .pure
  | false =>
      refine .seq .read fun gone => ?_
      cases gone with
      | true => exact .pure
      | false => exact requireEvents_completes _

theorem started_completes : Program.Completes (fun _ => True)
    (started host config pattern eventCount) (settings config).rounds := by
  refine .seq (waitForStartup_completes (rounds_startup (settings config)) _) fun ready => ?_
  cases ready with
  | true =>
      refine .seq (measure_completes le_rfl) fun result => ?_
      cases result with
      | error message => exact .pure
      | ok report => exact .seq (conclude_completes report) fun _ => .pure
  | false => exact .seq (startupError_completes _) fun _ => .pure

theorem session_completes : Program.Completes (fun _ => True)
    (session host api config pattern) (settings config).rounds := by
  unfold session
  split
  · exact .pure
  · exact orThrow_completes start_completes started_completes

theorem main_completes_of {arguments : List Text}
    (parsed : legacyParseArgs arguments = .ok config) :
    Program.Completes (fun _ => True) (main host api arguments) (settings config).rounds := by
  simp only [main, parsed]
  split
  · exact fail_completes _
  · refine .seq session_completes fun result => .seq close_completes fun _ => ?_
    cases result with
    | error message => exact fail_completes _
    | ok code => exact .pure

end Legacy

/-! ### Runs of `main` -/

section Main

variable (host : Host) (supportsMonitoring : Bool) (api : Legacy.Api)
  {graalArguments legacyArguments : List Text} {graalConfig : DeliveryConfig}
  {legacyConfig : LegacyConfig}

/-- The two clients end, whatever their listeners and their connections do. -/
theorem main_completes (graal : deliveryParseArgs graalArguments = .ok graalConfig)
    (legacy : legacyParseArgs legacyArguments = .ok legacyConfig) :
    (∀ bound moves start, (Graal.settings graalConfig).rounds ≤ bound →
      (Graal.main host supportsMonitoring graalArguments bound moves start).isSome) ∧
    ∀ bound moves start, (Legacy.settings legacyConfig).rounds ≤ bound →
      (Legacy.main host api legacyArguments bound moves start).isSome :=
  ⟨fun bound moves start enough =>
    Graal.main_completes_of graal bound moves start enough trivial,
  fun bound moves start enough =>
    Legacy.main_completes_of legacy bound moves start enough trivial⟩

/-- A listener is called, and the client is interrupted while it waits. -/
private def interruptedMoves : List (List (Move GraalCall)) :=
  [[.call (.market [some .quote]), .advance 0 false], [.elapse 70000000], [.advance 0 true],
    [.interrupt, .advance 0 false]]

/-- A listener is called, and the connection is lost. -/
private def lostMoves : List (List (Move LegacyCall)) :=
  [[], [.call ⟨.regular .trade, 3⟩, .advance 0 false], [.terminate, .advance 0 false]]

theorem main_completes_both :
    (Graal.main {} true [] 700 interruptedMoves {}).isSome ∧
      (Legacy.main {} (fun _ => none) [] 700 lostMoves {}).isSome := by
  have parsed := main_completes {} true (fun _ => none) (rfl : deliveryParseArgs [] = .ok {})
    (rfl : legacyParseArgs [] = .ok {})
  exact ⟨parsed.1 700 interruptedMoves {} (by decide), parsed.2 700 lostMoves {} (by decide)⟩

end Main

end LatencyTest.Delivery
