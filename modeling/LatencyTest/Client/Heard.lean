import LatencyTest.Client.Main

/-!
What the collector of a run hears. No action of `main` touches the record of the callbacks, so
it holds exactly the callbacks among the moves that a run has used up (`run_hears`).
-/

namespace LatencyTest

open Lib (Program)
open Runner (ClientConfig)

namespace Client

/-- The callbacks of some heard ones. -/
def callbacks (heard : List Heard) : List Callback := heard.map Heard.callback

theorem callbacks_append (heard more : List Heard) :
    callbacks (heard ++ more) = callbacks heard ++ callbacks more :=
  List.map_append

def Move.heard : Move → List Callback
  | .callback heard => [heard]
  | _ => []

/-- The callbacks of the collector's listeners among the moves. -/
def heardIn (moves : List (List Move)) : List Callback := moves.flatten.flatMap Move.heard

section

variable {host : Host} (config : ClientConfig) (pattern : TaskPattern)

def hearing (host : Host) : Program.Log host.move Callback where
  read world := callbacks world.heard
  entries := Move.heard
  read_move world made := by
    cases made <;> simp [Host.move, Move.heard, callbacks]

/-- A program that leaves the record of the callbacks alone. -/
abbrev Hears {α : Type} (program : Action host α) : Prop := Program.Logs (hearing host) program

/-! ### Waiting -/

theorem fail_hears (message : Text) : Hears (fail message : Action host Int) :=
  .bind (.modify fun _ => rfl) fun _ => .pure

theorem goesOn_hears (deadline : Int) : Hears (goesOn deadline : Action host Bool) :=
  .both (.bind .read fun _ => .pure) (.bind .read fun _ => .pure)

theorem waitFor_hears (duration : Int) : Hears (waitFor duration : Action host Bool) := by
  refine .bind .read fun now => .bind (.loop (fun _ => ?_) _) fun _ =>
    .bind .read fun _ => .pure
  refine .bind (goesOn_hears _) fun going => ?_
  cases going with
  | true => exact .bind (.modify fun _ => rfl) fun _ => .pure
  | false => exact .pure

theorem waitUntil_hears (ready : World → Bool) (timeout : Int) :
    Hears (waitUntil ready timeout : Action host Bool) := by
  refine .bind .read fun now => .bind (.loop (fun _ => ?_) _) fun _ => .read
  refine .bind (.both (.bind .read fun _ => .pure) (.bind .read fun _ => .pure)) fun going => ?_
  cases going with
  | false => exact .pure
  | true =>
      refine .bind .read fun now => ?_
      split <;> exact .pure

/-! ### The measurement -/

theorem takeWindow_hears (expireAll : Bool) : Hears (takeWindow expireAll : Action host Window) :=
  .act fun _ => rfl

theorem windowRound_hears (measurementEnd : Int) (s : WindowState) :
    Hears (windowRound config measurementEnd s : Action host (WindowState ⊕ WindowState)) := by
  refine .bind (goesOn_hears _) fun going => ?_
  cases going with
  | false => exact .pure
  | true =>
      refine .bind .read fun now => .bind (.whenever (.bind (waitFor_hears _) fun _ => .pure))
        fun _ => .bind .read fun resources => .bind .read fun now => ?_
      split
      · exact .bind .read fun endWall => .bind (takeWindow_hears _) fun data =>
          .bind (.modify fun _ => rfl) fun _ => .pure
      · exact .pure

theorem flushPhase_hears (s : PhaseState) (name : SnapshotPhase) (stop stopWall : Int) :
    Hears (flushPhase s name stop stopWall : Action host PhaseState) :=
  .bind .read fun _ => .bind .read fun _ => .bind .read fun _ =>
    .bind (takeWindow_hears _) fun _ => .bind (.modify fun _ => rfl) fun _ =>
      .bind .read fun _ => .pure

theorem phaseRound_hears (measurementEnd subscribeAt : Int) (s : PhaseState) :
    Hears (phaseRound config pattern measurementEnd subscribeAt s :
      Action host (PhaseState ⊕ PhaseState × Bool)) := by
  have subscribe (now : Int) : Hears (subscribeSeries config pattern s now : Action host _) :=
    .bind .read fun _ => .bind (flushPhase_hears _ _ _ _) fun _ => .bind (.modify fun _ => rfl)
      fun _ => .bind (.modify fun _ => rfl) fun _ => .pure
  have complete (now : Int) : Hears (completeSeries config s now : Action host _) :=
    .bind .read fun _ => .bind (flushPhase_hears _ _ _ _) fun _ =>
      .bind (.whenever (.modify fun _ => rfl)) fun _ => .pure
  have sample (now : Int) : Hears (samplePhase s now : Action host _) := by
    unfold samplePhase
    split
    · exact .bind .read fun _ => .bind .read fun _ => .pure
    · exact .pure
  refine .bind (goesOn_hears _) fun going => ?_
  cases going with
  | false => exact .pure
  | true =>
      refine .bind .read fun now => ?_
      split
      · exact .bind (subscribe now) fun _ => .pure
      · refine .bind (.both .pure .read) fun ready => ?_
        cases ready with
        | true => exact .bind (complete now) fun _ => .pure
        | false =>
            rw [if_neg Bool.false_ne_true]
            split
            · exact .pure
            · exact .bind (sample now) fun _ => .bind (waitFor_hears _) fun _ => .pure

theorem measurement_hears (measurementStart windowStartWall fromTimeMs : Int)
    (resources : ResourceSampler) :
    Hears (measurement config pattern measurementStart windowStartWall fromTimeMs resources :
      Action host Measured) := by
  unfold measurement
  split
  · exact .bind .read fun _ => .bind (.loop (phaseRound_hears config pattern _ _) _) fun _ =>
      .bind .read fun _ => .bind .read fun _ => .bind (flushPhase_hears _ _ _ _) fun _ =>
        .bind .read fun _ => .pure
  · exact .bind (.loop (windowRound_hears config _) _) fun _ => .pure

/-! ### The end of a run -/

theorem drain_hears : Hears (drain config : Action host Unit) := by
  refine .bind .read fun now => .bind .read fun _ => .bind .read fun _ => .loop (fun s => ?_) _
  refine .bind (.both (.bind .read fun _ => .pure) (.bind .read fun _ => .pure)) fun going => ?_
  cases going with
  | false => exact .pure
  | true =>
      refine .bind (.modify fun _ => rfl) fun _ => .bind .read fun activity => ?_
      split
      · exact .bind .read fun _ => .pure
      · refine .bind (.both ?_ (.bind .read fun _ => .pure)) fun quiet => ?_
        · split
          · exact .pure
          · exact .read
        · cases quiet <;> exact .pure

theorem exitCode_hears (snapshotTimedOut : Bool) :
    Hears (exitCode snapshotTimedOut : Action host Int) := by
  refine .bind (.modify fun _ => rfl) fun _ => .bind .read fun stopped => ?_
  cases stopped <;> exact .pure

theorem reportFinal_hears (windowStartWall : Int) :
    Hears (reportFinal windowStartWall : Action host Unit) :=
  .bind .read fun _ => .bind (takeWindow_hears _) fun _ =>
    .bind (.whenever (.modify fun _ => rfl)) fun _ => .bind .read fun _ => .modify fun _ => rfl

theorem conclude_hears (measurementStart : Int) (measured : Measured) :
    Hears (conclude config pattern measurementStart measured : Action host Int) := by
  refine .bind .read fun _ => .bind .read fun _ => .bind .read fun _ =>
    .bind (.whenever (.modify fun _ => rfl)) fun _ => .bind (.modify fun _ => rfl) fun _ =>
      .bind (drain_hears config) fun _ => .bind (.modify fun _ => rfl) fun _ =>
        .bind (.modify fun _ => rfl) fun _ => .bind (.modify fun _ => rfl) fun _ =>
          .bind (reportFinal_hears _) fun _ => ?_
  split
  · split
    · exact .bind (.modify fun _ => rfl) fun _ => exitCode_hears _
    · exact fail_hears _
  · exact exitCode_hears _

/-! ### The start of a run -/

theorem measure_hears (fromTimeMs : Int) :
    Hears (measure config pattern fromTimeMs : Action host Int) :=
  .bind (.modify fun _ => rfl) fun _ => .bind (.modify fun _ => rfl) fun _ =>
    .bind .read fun _ => .bind .read fun _ => .bind .read fun _ => .bind (.modify fun _ => rfl)
      fun _ => .bind (measurement_hears config pattern _ _ _ _) fun _ =>
        conclude_hears config pattern _ _

theorem leave_hears : Hears (leave config : Action host Unit) :=
  .bind (.modify fun _ => rfl) fun _ => .bind (.modify fun _ => rfl) fun _ => .modify fun _ => rfl

theorem warmUp_hears (fromTimeMs : Int) :
    Hears (warmUp config pattern fromTimeMs : Action host Int) := by
  refine .bind (waitFor_hears _) fun went => ?_
  cases went with
  | true => exact measure_hears config pattern _
  | false => exact .bind (leave_hears config) fun _ => .pure

theorem prefill_hears : Hears (prefill config pattern : Action host Int) := by
  refine .bind .read fun now => .bind (waitFor_hears _) fun went => ?_
  cases went with
  | false => exact .bind (leave_hears config) fun _ => .pure
  | true =>
      refine .bind .read fun _ => .bind (.modify fun _ => rfl) fun _ =>
        .bind (.modify fun _ => rfl) fun _ => .bind (waitUntil_hears _ _) fun complete => ?_
      cases complete with
      | true => exact warmUp_hears config pattern _
      | false =>
          rw [if_neg Bool.false_ne_true]
          split
          · exact .bind (.modify fun _ => rfl) fun _ => .bind (leave_hears config) fun _ =>
              .bind (.modify fun _ => rfl) fun _ => .pure
          · exact fail_hears _

theorem connected_hears : Hears (connected config pattern : Action host Int) := by
  refine .bind (waitUntil_hears _ _) fun received => ?_
  cases received with
  | true =>
      rw [if_pos rfl]
      split
      · exact prefill_hears config pattern
      · exact warmUp_hears config pattern _
  | false =>
      rw [if_neg Bool.false_ne_true]
      refine .bind .read fun _ => .bind (leave_hears config) fun _ => .bind .read fun stopped => ?_
      cases stopped with
      | true => exact .pure
      | false => exact .bind (.modify fun _ => rfl) fun _ => .pure

theorem subscribed_hears : Hears (subscribed config pattern : Action host Int) := by
  refine .bind (.modify fun _ => rfl) fun _ => ?_
  split
  · exact .bind (.modify fun _ => rfl) fun _ => .bind (.modify fun _ => rfl) fun _ =>
      connected_hears config pattern
  · exact fail_hears _

variable {config pattern}

/-- From the creation of the collector on, a run hears the callbacks of the moves it uses up. -/
theorem run_hears {bound : Nat} {moves moves' : List (List Move)} {start world : World} {code : Int}
    (ran : (run config pattern : Action host Int) bound moves start = some (code, moves', world)) :
    callbacks world.heard ++ heardIn moves' = heardIn moves.tail := by
  obtain ⟨_, middle, between, created, continued⟩ := Program.ran_bind ran
  cases created
  have hears {program : Action host Int} {created : World} (rest : Hears program)
      (fresh : created.heard = [])
      (ran : program bound moves.tail created = some (code, moves', world)) :
      callbacks world.heard ++ heardIn moves' = heardIn moves.tail := by
    obtain ⟨used, tail, read⟩ := rest bound _ _ code moves' world ran
    change callbacks world.heard = callbacks created.heard ++ used.flatten.flatMap Move.heard
      at read
    rw [read, fresh, tail, heardIn, heardIn, List.flatten_append, List.flatMap_append]
    rfl
  cases subscribing : subscriptions pattern with
  | error message =>
      rw [subscribing] at continued
      exact hears (fail_hears message) rfl continued
  | ok symbols =>
      rw [subscribing] at continued
      refine hears ?_ ?_ continued
      · exact .bind (.modify fun _ => rfl) fun _ => subscribed_hears config pattern
      · rfl

end

end Client

end LatencyTest
