import LatencyTest.Delivery.Clients

/-!
The calls of the listeners in a run of a delivery client. No action of `main` touches the
counters, so the threads of a run are the calls among the moves that it has used up
(`Graal.main_calls`, `Legacy.main_calls`).
-/

namespace LatencyTest.Delivery

open Lib (Program)
open Runner (DeliveryConfig LegacyConfig)

variable {κ : Type} {listener : κ → Listener}

def Move.heard : Move κ → List κ
  | .call heard => [heard]
  | _ => []

/-- The calls of the listeners among the moves. -/
def callsIn (moves : List (List (Move κ))) : List κ := moves.flatten.flatMap Move.heard

def calling (listener : κ → Listener) : Program.Log (move listener) Listener where
  read world := world.state.threads.map Lib.Thread.operations
  entries made := made.heard.map listener
  read_move world made := by
    cases made with
    | call heard => exact List.map_append
    | advance index fails =>
        exact (Lib.Shared.operations_step ..).trans (List.append_nil _).symm
    | _ => exact (List.append_nil _).symm

/-- A program that leaves the counters alone. -/
abbrev Calls {α : Type} (program : Action listener α) : Prop :=
  Program.Logs (calling listener) program

/-- The threads of a run are its calls. -/
theorem Calls.operations {α : Type} {program : Action listener α} (calls : Calls program)
    {bound : Nat} {moves moves' : List (List (Move κ))} {start world : World} {a : α}
    (ran : program bound moves start = some (a, moves', world))
    (none : start.state.threads = []) :
    ∃ used, moves = used ++ moves' ∧
      world.state.threads.map Lib.Thread.operations = (callsIn used).map listener := by
  obtain ⟨used, split, read⟩ := calls bound moves start a moves' world ran
  refine ⟨used, split, ?_⟩
  change world.state.threads.map Lib.Thread.operations =
    start.state.threads.map Lib.Thread.operations ++ _ at read
  rw [read, none, callsIn, List.map_flatMap]
  rfl

/-! ### What the clients share -/

section Shared

variable {watches : Bool} {host : Host} {settings : Settings} {eventCount : Nat}
  {publishPeriod : Int}

theorem goesOn_calls (deadline : Int) :
    Calls (goesOn watches deadline : Action listener Bool) := by
  refine .both (.bind .read fun _ => .pure) (.both ?_ (.bind .read fun _ => .pure))
  cases watches with
  | false => exact .pure
  | true => exact .bind .read fun _ => .pure

theorem sampleEach_calls (resources : Option ResourceSampler) :
    Calls (sampleEach resources : Action listener (Option ResourceSampler)) := by
  cases resources with
  | none => exact .pure
  | some sampler => exact .bind .read fun _ => .pure

theorem observe_calls (duration : Int) (resources : Option ResourceSampler) :
    Calls (observe watches duration resources : Action listener (Option ResourceSampler)) := by
  refine .bind .read fun now => .bind (.loop (fun resources => ?_) _) sampleEach_calls
  refine .bind (goesOn_calls _) fun going => ?_
  cases going with
  | false => exact .pure
  | true => exact .bind (sampleEach_calls _) fun _ => .bind (.modify fun _ => rfl) fun _ => .pure

theorem waitForStartup_calls (timeout : Int) (symbolCount : Nat) :
    Calls (waitForStartup watches timeout symbolCount : Action listener Bool) := by
  refine .bind .read fun now => .loop (fun _ => .bind (goesOn_calls _) fun going => ?_) _
  cases going with
  | false => exact .pure
  | true =>
      refine .bind (.both (.bind .read fun _ => .pure) (.bind .read fun _ => .pure)) fun ready => ?_
      cases ready with
      | true => exact .pure
      | false => exact .bind (.modify fun _ => rfl) fun _ => .pure

theorem loadEach_calls (counters : List Counter) (start : CallbackSnapshot) :
    Calls (loadEach counters start : Action listener CallbackSnapshot) := by
  induction counters generalizing start with
  | nil => exact .pure
  | cons counter counters ih => exact .bind .read fun _ => ih _

theorem measure_calls :
    Calls (measure watches host settings eventCount publishPeriod :
      Action listener (Except Text DeliveryReport)) := by
  refine .bind (observe_calls _ _) fun _ => .bind (loadEach_calls _ _) fun _ => .bind .read fun _ =>
    .bind .read fun _ => .bind .read fun _ => .bind (observe_calls _ _) fun _ =>
      .bind .read fun _ => .bind .read fun _ => .bind (loadEach_calls _ _) fun _ =>
        .bind .read fun _ => .bind .read fun _ => ?_
  split
  · exact .bind (.modify fun _ => rfl) fun _ => .pure
  · exact .pure

/-- The end of a run that says why. -/
theorem complain_calls (message : Text) (code : Int) :
    Calls (do
      complain message
      pure code : Action listener Int) :=
  .bind (.modify fun _ => rfl) fun _ => .pure

theorem requireEvents_calls {condition : Prop} [Decidable condition] (message : Text) :
    Calls (if condition then do
        complain message
        pure 1
      else pure 0 : Action listener Int) := by
  split
  · exact complain_calls message 1
  · exact .pure

theorem startupError_calls (symbolCount : Nat) :
    Calls (startupError symbolCount : Action listener Text) :=
  .bind .read fun _ => .bind .read fun _ => .pure

end Shared

/-! ### The Graal client -/

namespace Graal

variable {host : Host} {supportsMonitoring : Bool} {config : DeliveryConfig}
  {pattern : TaskPattern}

theorem conclude_calls (report : DeliveryReport) : Calls (conclude config report) := by
  refine .bind (.modify fun _ => rfl) fun _ => .bind .read fun stopped => ?_
  cases stopped with
  | true => exact .pure
  | false => exact requireEvents_calls _

theorem connected_calls {eventCount : Nat} :
    Calls (connected host config pattern eventCount) := by
  refine .bind (waitForStartup_calls _ _) fun ready => ?_
  cases ready with
  | true =>
      refine .bind measure_calls fun result => ?_
      cases result with
      | error message => exact complain_calls _ _
      | ok report => exact conclude_calls report
  | false =>
      exact .bind (.modify fun _ => rfl) fun _ => .bind (startupError_calls _) fun _ =>
        complain_calls _ _

theorem run_calls : Calls (run host supportsMonitoring config pattern) := by
  unfold run
  split
  · split
    · exact complain_calls _ _
    · split
      · exact complain_calls _ _
      · exact complain_calls _ _
      · refine .bind (.modify fun _ => rfl) fun _ => ?_
        split
        · exact complain_calls _ _
        · exact connected_calls
  · exact complain_calls _ _

theorem main_calls (arguments : List Text) : Calls (main host supportsMonitoring arguments) := by
  unfold main
  split
  · exact .pure
  · exact complain_calls _ _
  · split
    · exact complain_calls _ _
    · exact run_calls

end Graal

/-! ### The legacy client -/

namespace Legacy

variable {host : Host} {api : Api} {config : LegacyConfig} {pattern : TaskPattern}

theorem orThrow_calls {α : Type} {first : Run (Except Text Unit)} {next : Run (Except Text α)}
    (start : Calls first) (rest : Calls next) : Calls (orThrow first next) := by
  refine .bind start fun result => ?_
  cases result with
  | error message => exact .pure
  | ok done => exact rest

theorem checkApi_calls (operation : Operation) {change : World → World}
    (kept : ∀ world, (change world).state = world.state) :
    Calls (checkApi api operation change) := by
  unfold checkApi
  split
  · exact .pure
  · refine .bind (.modify fun world => ?_) fun _ => .pure
    exact congrArg (fun state => state.threads.map Lib.Thread.operations) (kept world)

theorem start_calls : Calls (start api config pattern) := by
  refine orThrow_calls (checkApi_calls _ fun _ => rfl) ?_
  refine orThrow_calls (checkApi_calls _ fun _ => rfl) ?_
  refine orThrow_calls (checkApi_calls _ fun _ => rfl) ?_
  split
  · exact .pure
  · split
    · exact .pure
    · exact checkApi_calls _ fun _ => rfl

theorem close_calls : Calls close :=
  .bind (.bind .read fun _ => .whenever (.modify fun _ => rfl)) fun _ =>
    .bind .read fun _ => .whenever (.modify fun _ => rfl)

theorem conclude_calls (report : DeliveryReport) : Calls (conclude config report) := by
  refine .bind .read fun stopped => ?_
  cases stopped with
  | true => exact .pure
  | false =>
      refine .bind .read fun gone => ?_
      cases gone with
      | true => exact .pure
      | false => exact requireEvents_calls _

theorem session_calls : Calls (session host api config pattern) := by
  unfold session
  split
  · exact .pure
  · refine orThrow_calls start_calls (.bind (waitForStartup_calls _ _) fun ready => ?_)
    cases ready with
    | true =>
        refine .bind measure_calls fun result => ?_
        cases result with
        | error message => exact .pure
        | ok report => exact .bind (conclude_calls report) fun _ => .pure
    | false => exact .bind (startupError_calls _) fun _ => .pure

theorem main_calls (arguments : List Text) : Calls (main host api arguments) := by
  unfold main
  split
  · exact .pure
  · exact complain_calls _ _
  · split
    · exact complain_calls _ _
    · refine .bind session_calls fun result => .bind close_calls fun _ => ?_
      cases result with
      | error message => exact complain_calls _ _
      | ok code => exact .pure

end Legacy

end LatencyTest.Delivery
