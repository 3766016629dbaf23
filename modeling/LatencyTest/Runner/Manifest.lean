import LatencyTest.Runner.Execution

/-!
What a run of the suite accounts for. The world has a ledger that no move of the environment
changes: the unreaped children, the starts and ends of children in order, their commands, and
the lines of the manifest. Every part of `runBenchmarkSuite` adds to it in a known way, whatever
the children and the environment do.
-/

namespace LatencyTest.Runner

/-! ### Starts and ends -/

/-- The events that are no signals. -/
def ProcessEvent.lasting : ProcessEvent → Bool
  | signaled .. => false
  | _ => true

/-- The starts and ends of the children, the oldest first. -/
def Os.lifecycle (os : Os) : List ProcessEvent := (os.log.filter ProcessEvent.lasting).reverse

theorem Os.lifecycle_fork (os : Os) (process : Int) :
    (os.fork process).lifecycle = os.lifecycle ++ [.started os.started] := by
  rw [Os.lifecycle, Os.fork, List.filter_cons_of_pos rfl, List.reverse_cons]
  rfl

theorem Os.lifecycle_reap (os : Os) (process : Int) (child : Nat) (status : WaitStatus) :
    (os.reap process child status).lifecycle = os.lifecycle ++ [.reaped child status] := by
  rw [Os.lifecycle, Os.reap, List.filter_cons_of_pos rfl, List.reverse_cons]
  rfl

theorem Invocation.Prodded.lasting {c d : Invocation} (prodded : Prodded c d) :
    d.os.lifecycle = c.os.lifecycle ∧ d.os.started = c.os.started := by
  induction prodded with
  | refl => exact ⟨rfl, rfl⟩
  | polled _ ih => exact ih
  | signaled _ _ ih => exact ih

namespace Execution

open Lib (Program)

/-- What no move of the environment changes. -/
structure Ledger where
  children : Int → Option Nat := fun _ => none
  started : Nat := 0
  events : List ProcessEvent := []
  commands : List Command := []
  manifest : List Text := []

def World.ledger (world : World) : Ledger where
  children := world.os.children
  started := world.os.started
  events := world.os.lifecycle
  commands := world.commands
  manifest := world.manifest

namespace Ledger

/-- A child is started. -/
def launch (l : Ledger) (process : Int) (command : Command) : Ledger :=
  { l with
    children := Function.update l.children process (some l.started)
    started := l.started + 1
    events := l.events ++ [.started l.started]
    commands := l.commands ++ [command] }

/-- A child is reaped. -/
def reap (l : Ledger) (process : Int) (child : Nat) (status : WaitStatus) : Ledger :=
  { l with
    children := Function.update l.children process none
    events := l.events ++ [.reaped child status] }

/-- Children were started and reaped, and lines were added to the manifest. -/
def extend (l : Ledger) (events : List ProcessEvent) (commands : List Command)
    (lines : List Text := []) : Ledger :=
  { l with
    started := l.started + commands.length
    events := l.events ++ events
    commands := l.commands ++ commands
    manifest := l.manifest ++ lines }

theorem extend_nil (l : Ledger) : l.extend [] [] = l := by
  simp [extend]

theorem extend_extend (l : Ledger) (events events' : List ProcessEvent)
    (commands commands' : List Command) (lines lines' : List Text) :
    (l.extend events commands lines).extend events' commands' lines' =
      l.extend (events ++ events') (commands ++ commands') (lines ++ lines') := by
  simp only [extend, List.length_append, List.append_assoc, Nat.add_assoc]

/-- A child that is reaped in the end, with what was done meanwhile. -/
theorem launch_extend_reap {l : Ledger} {process : Int} (unused : l.children process = none)
    (command : Command) (events : List ProcessEvent) (commands : List Command)
    (status : WaitStatus) :
    ((l.launch process command).extend events commands).reap process l.started status =
      l.extend (.started l.started :: events ++ [.reaped l.started status])
        (command :: commands) := by
  have children : Function.update (Function.update l.children process (some l.started)) process
      none = l.children := by
    rw [Function.update_idem, ← unused, Function.update_eq_self]
  simp only [launch, extend, reap, children, List.append_assoc, List.length_cons, List.cons_append,
    List.nil_append, List.append_nil, Nat.add_assoc, Nat.add_comm 1]

/-- The object owns an unreaped child. -/
structure Alive (l : Ledger) (object : ChildProcess) (child : Nat) : Prop where
  positive : 0 < object.process
  live : l.children object.process = some child
  noCode : object.exitCode = none

end Ledger

/-- The object of a child that was reaped. -/
def ended (status : WaitStatus) : ChildProcess where
  process := -1
  exitCode := some status.exitCode

theorem ended_idle (status : WaitStatus) : (ended status).process < 0 := by
  change (-1 : Int) < 0
  decide

/-- What is known of `interrupted`, and is still true after an interrupt. -/
structure Frame where
  holds : Bool → Prop
  mono : holds false → holds true

/-- The ledger, what its log says of the children, and what is known of `interrupted`. -/
structure At (f : Frame) (l : Ledger) (world : World) : Prop where
  ledger : world.ledger = l
  sound : world.os.Sound
  known : f.holds world.interrupted

/-- The child is alive, or it was reaped. -/
def Attended (f : Frame) (l : Ledger) (self : ChildProcess) (child : Nat) (next : ChildProcess)
    (world : World) : Prop :=
  next = self ∧ At f l world ∨
    ∃ status, next = ended status ∧ At f (l.reap self.process child status) world

/-- A poll has found the child alive, or reaped it. -/
def Polled (f : Frame) (l : Ledger) (self : ChildProcess) (child : Nat) (alive : Bool)
    (next : ChildProcess) (world : World) : Prop :=
  match alive with
  | true => next = self ∧ At f l world
  | false => ∃ status, next = ended status ∧ At f (l.reap self.process child status) world

theorem stable_at (f : Frame) (l : Ledger) : Program.Stable move (At f l) := by
  intro world made here
  have known := here.known
  cases made with
  | interrupt =>
      refine ⟨here.ledger, here.sound, ?_⟩
      change f.holds true
      cases stopped : world.interrupted with
      | true => rwa [stopped] at known
      | false =>
          rw [stopped] at known
          exact f.mono known
  | _ => exact ⟨here.ledger, here.sound, known⟩

/-- An assertion about the operating system, the commands, the manifest and `interrupted` only. -/
structure Beside (assertion : World → Prop) : Prop where
  stable : Program.Stable move assertion
  kept : ∀ world world' : World, world'.os = world.os → world'.commands = world.commands →
    world'.manifest = world.manifest → world'.interrupted = world.interrupted →
      assertion world → assertion world'

theorem beside_at (f : Frame) (l : Ledger) : Beside (At f l) where
  stable := stable_at f l
  kept world world' os commands manifest same here := by
    refine ⟨?_, os ▸ here.sound, same ▸ here.known⟩
    rw [← here.ledger, World.ledger, World.ledger, os, commands, manifest]

theorem beside_interrupted : Beside fun world => world.interrupted = true where
  stable world made stopped := by
    cases made with
    | interrupt => rfl
    | _ => exact stopped
  kept _ _ _ _ _ same stopped := same.trans stopped

theorem Beside.and {left right : World → Prop} (first : Beside left) (second : Beside right) :
    Beside fun world => left world ∧ right world where
  stable := first.stable.and second.stable
  kept world world' os commands manifest same holds :=
    ⟨first.kept world world' os commands manifest same holds.1,
      second.kept world world' os commands manifest same holds.2⟩

theorem Beside.or {left right : World → Prop} (first : Beside left) (second : Beside right) :
    Beside fun world => left world ∨ right world where
  stable world made := Or.imp (first.stable world made) (second.stable world made)
  kept world world' os commands manifest same :=
    Or.imp (first.kept world world' os commands manifest same)
      (second.kept world world' os commands manifest same)

theorem Beside.exists {α : Type} {family : α → World → Prop} (each : ∀ a, Beside (family a)) :
    Beside fun world => ∃ a, family a world where
  stable := .exists fun a => (each a).stable
  kept world world' os commands manifest same := fun ⟨a, holds⟩ =>
    ⟨a, (each a).kept world world' os commands manifest same holds⟩

theorem Beside.fact (fact : Prop) : Beside fun _ => fact where
  stable := .const fact
  kept _ _ _ _ _ _ := id

theorem beside_attended (f : Frame) (l : Ledger) {self next : ChildProcess} {child : Nat} :
    Beside (Attended f l self child next) :=
  .or (.and (.fact _) (beside_at f l)) (.exists fun _ => .and (.fact _) (beside_at f _))

theorem isInterrupted_ensures {before : World → Prop} (stable : Program.Stable move before) :
    Program.Ensures before isInterrupted fun stopped world =>
      before world ∧ (stopped = true → world.interrupted = true) :=
  .read stable fun _ holds => ⟨holds, id⟩

section Actions

variable {before : World → Prop} (beside : Beside before)
include beside

theorem sleepFor_ensures (milliseconds : Nat) :
    Program.Ensures before (sleepFor milliseconds) fun _ => before :=
  .modify_keeps beside.stable fun world => beside.kept world _ rfl rfl rfl rfl

theorem print_ensures (line : Text) : Program.Ensures before (print line) fun _ => before :=
  .modify_keeps beside.stable fun world => beside.kept world _ rfl rfl rfl rfl

theorem write_ensures (name contents : Text) :
    Program.Ensures before (write name contents) fun _ => before :=
  .modify_keeps beside.stable fun world => beside.kept world _ rfl rfl rfl rfl

theorem append_ensures (name contents : Text) :
    Program.Ensures before (append name contents) fun _ => before :=
  .modify_keeps beside.stable fun world => beside.kept world _ rfl rfl rfl rfl

theorem awaitSummary_ensures (log : Text) :
    Program.Ensures before (awaitSummary log) fun _ => before := by
  refine .bind (.read_keeps beside.stable) fun now => .loop (fun _ => before) _ (fun _ => ?_) ()
  refine .bind (.both_keeps ?_ ?_) fun waits => ?_
  · exact .bind (.read_keeps beside.stable) fun _ => .pure fun _ => id
  · exact .bind (.read_keeps beside.stable) fun _ => .pure fun _ => id
  · cases waits with
    | true => exact .bind (sleepFor_ensures beside 100) fun _ => .pure fun _ => id
    | false => exact .pure fun _ => id

theorem cooldown_ensures (seconds : Nat) :
    Program.Ensures before (cooldown seconds) fun _ => before := by
  refine .loop (fun _ => before) _ (fun second => ?_) 0
  unfold cooldownRound
  split
  · refine .bind (.read_keeps beside.stable) fun stopped => ?_
    cases stopped with
    | true => exact .pure fun _ => id
    | false => exact .bind (sleepFor_ensures beside 1000) fun _ => .pure fun _ => id
  · exact .pure fun _ => id

end Actions

/-! ### Member functions -/

section Children

variable {host : Host} {f : Frame} {l : Ledger} {self next : ChildProcess} {child : Nat}

theorem Ledger.Alive.holds {world : World} (alive : l.Alive self child) (same : world.ledger = l) :
    Invocation.Holds ⟨world.os, self⟩ child := by
  subst same
  exact ⟨alive.positive, alive.live, alive.noCode⟩

theorem At.prodded {world : World} {d : Invocation} (here : At f l world)
    (alive : l.Alive self child) (prodded : Invocation.Prodded ⟨world.os, self⟩ d) :
    At f l { world with os := d.os } := by
  obtain ⟨same, sound, known⟩ := here
  obtain ⟨events, started⟩ := prodded.lasting
  refine ⟨?_, prodded.sound (alive.holds same) sound, known⟩
  rw [← same, World.ledger, World.ledger, prodded.same.2, events, started]

theorem At.reaped {world : World} {d : Invocation} (here : At f l world)
    (alive : l.Alive self child) (prodded : Invocation.Prodded ⟨world.os, self⟩ d)
    (status : WaitStatus) :
    At f (l.reap self.process child status) { world with os := (d.reaped child status).os } := by
  have holds := prodded.holds (alive.holds here.ledger)
  obtain ⟨same, sound, known⟩ := here.prodded alive prodded
  refine ⟨?_, sound.reap holds.live status, known⟩
  have object : d.self = self := prodded.same.1
  rw [← same, ← object, World.ledger, Invocation.reaped, Os.lifecycle_reap]
  rfl

theorem member_ensures {α : Type} {function : Invocation → α × Invocation}
    {before : World → Prop} {after : α × ChildProcess → World → Prop}
    (stable : Program.Stable move before)
    (holds : ∀ world, before world → ∀ a c, function ⟨world.os, self⟩ = (a, c) →
      after (a, c.self) { world with os := c.os }) :
    Program.Ensures before (member function self) after :=
  .act stable fun world start => holds world start _ _ rfl

theorem running_ensures (alive : l.Alive self child) :
    Program.Ensures (At f l) (running host self) fun result =>
      Polled f l self child result.1 result.2 := by
  refine member_ensures (stable_at f l) fun world here a c called => ?_
  obtain ⟨running, prodded⟩ | ⟨status, reaped⟩ :=
    @Invocation.running_holds host.behavior _ _ (alive.holds here.ledger)
  · rw [called] at running prodded
    dsimp only at running
    rw [running]
    exact ⟨prodded.same.1, here.prodded alive prodded⟩
  · rw [called] at reaped
    cases reaped
    exact ⟨status, rfl, here.reaped alive .refl status⟩

/-- A child that is waited for in the end, whether it was alive or not. -/
theorem wait_ensures (alive : l.Alive self child) (next : ChildProcess) :
    Program.Ensures (Attended f l self child next) (wait host next) fun result world =>
      ∃ status, result = (status.exitCode, ended status) ∧
        At f (l.reap self.process child status) world := by
  refine member_ensures (beside_attended f l).stable fun world attended a c called => ?_
  obtain ⟨rfl, here⟩ | ⟨status, rfl, here⟩ := attended
  · obtain ⟨status, waited⟩ := @Invocation.wait_holds host.behavior _ _ (alive.holds here.ledger)
    rw [called] at waited
    cases waited
    exact ⟨status, rfl, here.reaped alive .refl status⟩
  · rw [Invocation.wait_idle (ended_idle status)] at called
    cases called
    exact ⟨status, rfl, here⟩

theorem terminate_ensures (alive : l.Alive self child) (next : ChildProcess) :
    Program.Ensures (Attended f l self child next) (terminate host next) fun result world =>
      ∃ status, result.2 = ended status ∧ At f (l.reap self.process child status) world := by
  refine member_ensures (beside_attended f l).stable fun world attended a c called => ?_
  obtain ⟨-, rfl⟩ := Prod.mk.inj called
  obtain ⟨rfl, here⟩ | ⟨status, rfl, here⟩ := attended
  · obtain ⟨d, status, prodded, terminated⟩ :=
      @Invocation.terminate_holds host.behavior _ _ (alive.holds here.ledger)
    rw [terminated]
    exact ⟨status, rfl, here.reaped alive prodded status⟩
  · rw [Invocation.terminate_idle (ended_idle status)]
    exact ⟨status, rfl, here⟩

/-- An object without a child is destroyed. -/
theorem destroy_ensures {before : World → Prop} (stable : Program.Stable move before)
    (idle : self.process < 0) :
    Program.Ensures before (destroy host self) fun _ => before := by
  have terminated : Program.Ensures before (terminate host self) fun _ => before := by
    refine member_ensures stable fun world start a c called => ?_
    rw [Invocation.terminate_idle idle] at called
    cases called
    exact start
  exact .bind terminated fun _ => .pure fun world => id

/-! ### Waiting for a child -/

theorem awaitRound_ensures (alive : l.Alive self child) (next : ChildProcess) :
    Program.Ensures (fun world => next = self ∧ At f l world) (awaitRound host next)
      fun result world => result.elim (fun next => next = self ∧ At f l world)
        (Attended f l self child · world) := by
  refine .of_fact fun same => ?_
  subst same
  refine .bind (.read_keeps (stable_at f l)) fun stopped => ?_
  cases stopped with
  | true => exact .pure fun world here => .inl ⟨rfl, here⟩
  | false =>
      refine .bind (running_ensures alive) fun (polled, after) => ?_
      cases polled with
      | true =>
          refine .of_fact fun same => ?_
          exact .bind (sleepFor_ensures (beside_at f l) 100) fun _ =>
            .pure fun world here => ⟨same, here⟩
      | false => exact .pure fun world reaped => .inr reaped

/-- A child that is run to its end: the exit code is that of the child, or that of an interrupt. -/
def Exited (status : WaitStatus) (code : Int) (interrupted : Bool) : Prop :=
  code = status.exitCode ∨ code = 130 ∧ interrupted = true

theorem beside_exited (status : WaitStatus) (code : Int) :
    Beside fun world => Exited status code world.interrupted :=
  .or (.fact _) (.and (.fact _) beside_interrupted)

theorem attend_ensures (alive : l.Alive self child) :
    Program.Ensures (At f l) (attend host self) fun code world =>
      ∃ status, At f (l.reap self.process child status) world ∧
        Exited status code world.interrupted := by
  refine .bind (.of_imp (fun world => self = self ∧ At f l world) (fun world here => ⟨rfl, here⟩)
    (.loop _ _ (awaitRound_ensures alive) self)) fun next => ?_
  refine .bind (isInterrupted_ensures (beside_attended f l).stable) fun stopped => ?_
  cases stopped with
  | true =>
      have kept : Program.Ensures (fun world => world.interrupted = true) (terminate host next)
          fun _ world => world.interrupted = true :=
        member_ensures beside_interrupted.stable fun world stopped _ _ _ => stopped
      refine .of_imp _ (fun world holds => ⟨holds.1, holds.2 rfl⟩)
        (.bind ((terminate_ensures alive next).and kept) ?_)
      rintro ⟨⟨⟩, after⟩
      refine .of_imp (fun world => ∃ status, after = ended status ∧
        At f (l.reap self.process child status) world ∧ world.interrupted = true)
        (fun world ⟨⟨status, same, here⟩, stopped⟩ => ⟨status, same, here, stopped⟩) ?_
      refine .of_exists fun status => .of_fact fun same => ?_
      subst same
      refine .bind (destroy_ensures ((beside_at f _).and beside_interrupted).stable
        (ended_idle status)) fun _ => .pure fun world ⟨here, stopped⟩ => ?_
      exact ⟨status, here, .inr ⟨rfl, stopped⟩⟩
  | false =>
      refine .of_imp _ (fun world holds => holds.1) (.bind (wait_ensures alive next) ?_)
      rintro ⟨code, after⟩
      refine .of_exists fun status => .of_fact fun same => ?_
      cases same
      exact .bind (destroy_ensures (stable_at f _) (ended_idle status)) fun _ =>
        .pure fun world here => ⟨status, here, .inl rfl⟩

/-- A child is started, or it could not be. -/
def Begun (f : Frame) (l : Ledger) (command : Command) : Except Text ChildProcess → World → Prop
  | .error _, world => At f l world
  | .ok self, world => ∃ process, 0 < process ∧ l.children process = none ∧
      self = { process := process } ∧ At f (l.launch process command) world

theorem launch_ensures (command : Command) :
    Program.Ensures (At f l) (launch host command) (Begun f l command) := by
  refine .act (stable_at f l) fun world here => ?_
  split
  · dsimp only
    split
    · exact (beside_at f l).kept world _ rfl rfl rfl rfl here
    · rename_i process forked
      obtain ⟨positive, unused⟩ := host.fresh _ _ forked
      obtain ⟨rfl, sound, known⟩ := here
      refine ⟨process, positive, unused, by rw [start_eq], ?_, ?_, known⟩
      · rw [World.ledger, start_eq, Os.lifecycle_fork]
        rfl
      · rw [start_eq]
        exact sound.fork positive unused
  · exact here

theorem Ledger.launch_alive {process : Int} (positive : 0 < process) (command : Command) :
    (l.launch process command).Alive { process := process } l.started :=
  ⟨positive, Function.update_self .., rfl⟩

/-- What a client, or the analyzer, adds to the events. -/
def childEvents (child : Nat) : Option WaitStatus → List ProcessEvent
  | none => []
  | some status => [.started child, .reaped child status]

def childCommands (command : Command) : Option WaitStatus → List Command
  | none => []
  | some _ => [command]

/-- What `runAndWait` returns of the end of a child, if there was one. -/
def Returned (child : Option WaitStatus) (result : Except Text Int) (interrupted : Bool) : Prop :=
  match result with
  | .error _ => child = none
  | .ok code => ∃ status, child = some status ∧ Exited status code interrupted

theorem runAndWait_ensures (command : Command) :
    Program.Ensures (At f l) (runAndWait host command) fun result world =>
      ∃ status : Option WaitStatus,
        At f (l.extend (childEvents l.started status) (childCommands command status)) world ∧
          Returned status result world.interrupted := by
  refine .bind (launch_ensures command) fun result => ?_
  cases result with
  | error message =>
      refine .pure fun world here => ⟨none, ?_, rfl⟩
      rw [childEvents, childCommands, Ledger.extend_nil]
      exact here
  | ok self =>
      refine .of_exists fun process => .of_fact fun positive => .of_fact fun unused =>
        .of_fact fun same => ?_
      subst same
      refine .bind (attend_ensures (Ledger.launch_alive positive command)) fun code =>
        .pure fun world ⟨status, here, exited⟩ => ⟨some status, ?_, status, rfl, exited⟩
      have whole := Ledger.launch_extend_reap unused command [] [] status
      rw [Ledger.extend_nil] at whole
      exact (congrArg (At f · world) whole).mp here

/-- The text was found while the child was alive; otherwise it may have been reaped. -/
def Awaited (f : Frame) (l : Ledger) (self : ChildProcess) (child : Nat) (found : Bool)
    (next : ChildProcess) (world : World) : Prop :=
  match found with
  | true => next = self ∧ At f l world
  | false => Attended f l self child next world

theorem waitForText_ensures (alive : l.Alive self child) (name text : Text) (timeout : Int) :
    Program.Ensures (At f l) (waitForText host self name text timeout) fun result =>
      Awaited f l self child result.1 result.2 := by
  refine .bind (.read_keeps (stable_at f l)) fun now =>
    .of_imp (fun world => self = self ∧ At f l world) (fun world here => ⟨rfl, here⟩)
      (.loop (fun next world => next = self ∧ At f l world) _ ?_ self)
  intro next
  refine .of_fact fun same => ?_
  subst same
  refine .bind (.both_keeps ?_ ?_) fun waits => ?_
  · exact .bind (.read_keeps (stable_at f l)) fun _ => .pure fun _ => id
  · exact .bind (.read_keeps (stable_at f l)) fun _ => .pure fun _ => id
  cases waits with
  | false => exact .pure fun world here => .inl ⟨rfl, here⟩
  | true =>
      refine .bind (running_ensures alive) fun (polled, after) => ?_
      cases polled with
      | false => exact .pure fun world reaped => .inr reaped
      | true =>
          refine .of_fact fun same => .bind (.read_keeps (stable_at f l)) fun found => ?_
          cases found with
          | true => exact .pure fun world here => ⟨same, here⟩
          | false =>
              exact .bind (sleepFor_ensures (beside_at f l) 100) fun _ =>
                .pure fun world here => ⟨same, here⟩

/-! ### One run -/

variable {suite : BenchmarkSuite} {binaryDirectory : Text} {run : BenchmarkRun}

/-- What a run makes of the end of its client, if there was one. -/
def Judged (client : Option WaitStatus) (passed : Bool) (clientExit : Int) (interrupted : Bool) :
    Prop :=
  match client with
  | none => passed = false ∧ clientExit = -1
  | some status => Exited status clientExit interrupted ∧ (passed = true → clientExit = 0)

theorem beside_judged (client : Option WaitStatus) (passed : Bool) (clientExit : Int) :
    Beside fun world => Judged client passed clientExit world.interrupted := by
  cases client with
  | none => exact .fact _
  | some status => exact .and (beside_exited _ _) (.fact _)

theorem judge_ensures {before : World → Prop} (beside : Beside before) {client : Option WaitStatus}
    (result : Except Text Int) :
    Program.Ensures
      (fun world => before world ∧ Returned client result world.interrupted)
      (judge run result) fun judged world =>
        before world ∧ Judged client judged.1 judged.2 world.interrupted := by
  cases result with
  | error message =>
      refine .bind (append_ensures (beside.and (.fact _)) _ _) fun _ =>
        .pure fun world ⟨holds, none_⟩ => ⟨holds, ?_⟩
      cases none_
      exact ⟨rfl, rfl⟩
  | ok code =>
      have exited : Beside fun world => before world ∧
          Returned client (.ok code) world.interrupted :=
        beside.and (.exists fun _ => .and (.fact _) (beside_exited _ _))
      have judged {passed : Bool} (zero : passed = true → code = 0) (world : World)
          (returned : Returned client (.ok code) world.interrupted) :
          Judged client passed code world.interrupted := by
        obtain ⟨status, rfl, exits⟩ := returned
        exact ⟨exits, zero⟩
      have condition : Program.Ensures
          (fun world => before world ∧ Returned client (.ok code) world.interrupted)
          (Program.both (pure (code = 0)) (fileExists (BenchmarkRun.resultFile run)))
          fun passed world => (before world ∧ Returned client (.ok code) world.interrupted) ∧
            (passed = true → code = 0) := by
        refine .both (fun world => (before world ∧ Returned client (.ok code) world.interrupted) ∧
          code = 0) (.pure fun world holds => ?_) ?_
        · split
          · exact ⟨holds, of_decide_eq_true ‹_›⟩
          · exact ⟨holds, nofun⟩
        · exact .read (exited.and (.fact _)).stable fun world ⟨holds, zero⟩ =>
            ⟨holds, fun _ => zero⟩
      refine .bind_fact condition fun passed zero => ?_
      cases passed with
      | true =>
          exact .bind (.whenever_keeps (awaitSummary_ensures exited _)) fun _ =>
            .pure fun world ⟨holds, returned⟩ => ⟨holds, judged zero world returned⟩
      | false => exact .pure fun world ⟨holds, returned⟩ => ⟨holds, judged zero world returned⟩

theorem Ledger.Alive.extend (alive : l.Alive self child) (events : List ProcessEvent)
    (commands : List Command) : (l.extend events commands).Alive self child :=
  ⟨alive.positive, alive.live, alive.noCode⟩

theorem runClient_ensures (ready : Bool) :
    Program.Ensures (Awaited f l self child ready next)
      (runClient host suite binaryDirectory run ready) fun judged world => ∃ client,
        Attended f (l.extend (childEvents l.started client)
          (childCommands (clientCommand host suite binaryDirectory run) client)) self child next
            world ∧ Judged client judged.1 judged.2 world.interrupted := by
  cases ready with
  | false =>
      refine .bind (write_ensures (beside_attended f l) _ _) fun _ =>
        .pure fun world attended => ⟨none, ?_, rfl, rfl⟩
      rw [childEvents, childCommands, Ledger.extend_nil]
      exact attended
  | true =>
      refine .of_fact fun same => .bind (runAndWait_ensures _) fun result =>
        .of_exists fun client => .weaken (judge_ensures (beside_at f _) result) (fun _ => id) ?_
      exact fun judged world ⟨here, judges⟩ => ⟨client, .inl ⟨same, here⟩, judges⟩

/-- How the children of a run ended: that of its server, if it was started, and that of its
client. -/
inductive Launched where
  | nothing
  | server (server : WaitStatus) (client : Option WaitStatus)

namespace Launched

variable (host suite binaryDirectory run) in
def commands : Launched → List Command
  | nothing => []
  | server _ client =>
      serverCommand suite binaryDirectory run ::
        childCommands (clientCommand host suite binaryDirectory run) client

/-- Starts and ends, with the number of the first child. -/
def events (first : Nat) : Launched → List ProcessEvent
  | nothing => []
  | server status client =>
      .started first :: childEvents (first + 1) client ++ [.reaped first status]

/-- The end of the client. -/
def client : Launched → Option WaitStatus
  | nothing => none
  | server _ client => client

end Launched

theorem serve_ensures :
    Program.Ensures (At f l) (serve host suite binaryDirectory run) fun served world =>
      (served.1.run = run ∧ ∀ object ∈ served.2, object.process < 0) ∧ ∃ launched : Launched,
        At f (l.extend (launched.events l.started)
          (launched.commands host suite binaryDirectory run)) world ∧
            Judged launched.client served.1.passed served.1.clientExit world.interrupted := by
  refine .bind (launch_ensures _) fun result => ?_
  cases result with
  | error message =>
      refine .bind (write_ensures (beside_at f l) _ _) fun _ =>
        .pure fun world here => ⟨⟨rfl, nofun⟩, .nothing, ?_, rfl, rfl⟩
      rw [Launched.events, Launched.commands, Ledger.extend_nil]
      exact here
  | ok server =>
      refine .of_exists fun process => .of_fact fun positive => .of_fact fun unused =>
        .of_fact fun same => ?_
      subst same
      have alive := @Ledger.launch_alive l process positive
        (serverCommand suite binaryDirectory run)
      refine .bind (waitForText_ensures alive _ _ _) fun (ready, next) =>
        .bind (runClient_ensures ready) fun (passed, clientExit) => .of_exists fun client => ?_
      have kept : Program.Ensures
          (fun world => Judged client passed clientExit world.interrupted) (terminate host next)
          fun _ world => Judged client passed clientExit world.interrupted :=
        member_ensures (beside_judged _ _ _).stable fun world judged _ _ _ => judged
      refine .bind ((terminate_ensures (alive.extend _ _) next).and kept) fun (_, object) =>
        .pure fun world ⟨⟨status, same, here⟩, judged⟩ => ?_
      refine ⟨⟨rfl, ?_⟩, .server status client, ?_, judged⟩
      · rintro object ⟨⟩
        obtain rfl : object = ended status := same
        exact ended_idle status
      · exact (congrArg (At f · world) (Ledger.launch_extend_reap unused _ _ _ _)).mp here

/-! ### The loop over the plan -/

/-- A row of the manifest with the children of its run. -/
structure Account where
  row : Row
  launched : Launched

namespace Account

variable (host suite binaryDirectory) in
def commands (a : Account) : List Command :=
  a.launched.commands host suite binaryDirectory a.row.run

/-- The row follows from the end of the client. -/
def Judged (a : Account) (interrupted : Bool) : Prop :=
  Execution.Judged a.launched.client a.row.passed a.row.clientExit interrupted

end Account

variable (host suite binaryDirectory) in
/-- The starts and ends of several runs, with the number of the first child. -/
def accountEvents (first : Nat) : List Account → List ProcessEvent
  | [] => []
  | a :: accounts =>
      a.launched.events first ++
        accountEvents (first + (a.commands host suite binaryDirectory).length) accounts

/-- A run is always judged the same way after an interrupt. -/
theorem Judged.mono {client : Option WaitStatus} {passed : Bool} {clientExit : Int}
    (judged : Judged client passed clientExit false) : Judged client passed clientExit true := by
  cases client with
  | none => exact judged
  | some status =>
      obtain ⟨exited | ⟨-, stopped⟩, zero⟩ := judged
      · exact ⟨.inl exited, zero⟩
      · cases stopped

/-- One more run is judged. -/
def Frame.judging (f : Frame) (a : Account) : Frame where
  holds interrupted := f.holds interrupted ∧ a.Judged interrupted
  mono holds := ⟨f.mono holds.1, Judged.mono holds.2⟩

theorem runOne_ensures (others : List BenchmarkRun) :
    Program.Ensures (At f l) (runOne host suite binaryDirectory run others) fun failed world =>
      ∃ a : Account, a.row.run = run ∧ failed = !a.row.passed ∧
        At (f.judging a) (l.extend (a.launched.events l.started)
          (a.commands host suite binaryDirectory) [a.row.line]) world := by
  refine .bind (print_ensures (beside_at f l) _) fun _ =>
    .bind serve_ensures fun (row, server) => ?_
  refine .of_fact fun ⟨same, idle⟩ => .of_exists fun launched => ?_
  subst same
  let a : Account := ⟨row, launched⟩
  let events := launched.events l.started
  let commands := a.commands host suite binaryDirectory
  refine .of_imp (At (f.judging a) (l.extend events commands))
    (fun world ⟨here, judged⟩ => ⟨here.ledger, here.sound, here.known, judged⟩) ?_
  have renamed := @Program.Ensures.modify_keeps _ _ _ _
    (fun world : World =>
      { world with directory := makePartial row.run.filePrefix world.directory })
    (stable_at (f.judging a) (l.extend events commands))
    fun world => (beside_at _ _).kept world _ rfl rfl rfl rfl
  refine .bind (.whenever_keeps renamed) fun _ => ?_
  refine .bind (.modify (At (f.judging a) (l.extend events commands [row.line])) (stable_at _ _)
    fun world here => ⟨?_, here.sound, here.known⟩) fun _ => ?_
  · have extended := l.extend_extend events [] commands [] [] [row.line]
    rw [List.append_nil, List.append_nil, List.nil_append] at extended
    rw [← extended, ← here.ledger]
    simp [World.ledger, Ledger.extend]
  refine .bind (.whenever_keeps (cooldown_ensures (beside_at _ _) _)) fun _ => ?_
  cases server with
  | none => exact .pure fun world here => ⟨a, rfl, rfl, here⟩
  | some server =>
      exact .bind (destroy_ensures (stable_at _ _) (idle server rfl)) fun _ =>
        .pure fun world here => ⟨a, rfl, rfl, here⟩

/-- The rows of the runs that were made of a plan. -/
structure Executed (plan : List BenchmarkRun) (accounts : List Account) (interrupted : Bool) :
    Prop where
  order : accounts.map (·.row.run) <+: plan
  complete : interrupted = false → accounts.map (·.row.run) = plan
  judged : ∀ a ∈ accounts, a.Judged interrupted

/-- More runs are executed. -/
def Frame.executing (f : Frame) (plan : List BenchmarkRun) (accounts : List Account) : Frame where
  holds interrupted := f.holds interrupted ∧ Executed plan accounts interrupted
  mono holds :=
    ⟨f.mono holds.1, holds.2.order, Bool.noConfusion, fun a mem => (holds.2.judged a mem).mono⟩

theorem accountEvents_concat (first : Nat) (accounts : List Account) (a : Account) :
    accountEvents host suite binaryDirectory first (accounts ++ [a]) =
      accountEvents host suite binaryDirectory first accounts ++ a.launched.events
        (first + (accounts.flatMap (·.commands host suite binaryDirectory)).length) := by
  induction accounts generalizing first with
  | nil => simp [accountEvents]
  | cons head accounts ih =>
      rw [List.cons_append, accountEvents, ih, accountEvents, List.append_assoc,
        List.flatMap_cons, List.length_append, Nat.add_assoc]

/-- The runs of some accounts are judged. -/
def Frame.judgingAll (f : Frame) (accounts : List Account) : Frame where
  holds interrupted := f.holds interrupted ∧ ∀ a ∈ accounts, a.Judged interrupted
  mono holds := ⟨f.mono holds.1, fun a mem => (holds.2 a mem).mono⟩

variable (host suite binaryDirectory) in
/-- The runs before the rest of the plan are accounted for. -/
def Advanced (f : Frame) (l : Ledger) (plan : List BenchmarkRun) (s : Bool × List BenchmarkRun)
    (world : World) : Prop :=
  ∃ accounts : List Account, (s.1 = accounts.any (!·.row.passed) ∧
    accounts.map (·.row.run) ++ s.2 = plan) ∧
      At (f.judgingAll accounts)
        (l.extend (accountEvents host suite binaryDirectory l.started accounts)
          (accounts.flatMap (·.commands host suite binaryDirectory))
          (accounts.map (·.row.line))) world

variable (host suite binaryDirectory) in
/-- The runs of the plan up to an interrupt are accounted for. -/
def Finished (f : Frame) (l : Ledger) (plan : List BenchmarkRun) (failed : Bool)
    (world : World) : Prop :=
  ∃ accounts : List Account, failed = accounts.any (!·.row.passed) ∧
    At (f.executing plan accounts)
      (l.extend (accountEvents host suite binaryDirectory l.started accounts)
        (accounts.flatMap (·.commands host suite binaryDirectory))
        (accounts.map (·.row.line))) world

theorem planRound_ensures {plan : List BenchmarkRun} (s : Bool × List BenchmarkRun) :
    Program.Ensures (Advanced host suite binaryDirectory f l plan s)
      (planRound host suite binaryDirectory s) fun result world =>
        result.elim (Advanced host suite binaryDirectory f l plan · world)
          (Finished host suite binaryDirectory f l plan · world) := by
  obtain ⟨failed, rest⟩ := s
  refine .of_exists fun accounts => .of_fact fun ⟨failing, split⟩ => ?_
  subst failing
  cases rest with
  | nil =>
      rw [List.append_nil] at split
      refine .pure fun world here => ⟨accounts, rfl, here.ledger, here.sound, here.known.1, ?_⟩
      exact ⟨split ▸ List.prefix_rfl, fun _ => split, here.known.2⟩
  | cons run others =>
      refine .bind (isInterrupted_ensures (stable_at _ _)) fun stopped => ?_
      cases stopped with
      | true =>
          refine .pure fun world ⟨here, stopped⟩ =>
            ⟨accounts, rfl, here.ledger, here.sound, here.known.1, ?_⟩
          refine ⟨split ▸ List.prefix_append _ _, fun uninterrupted => ?_, here.known.2⟩
          cases (stopped rfl).symm.trans uninterrupted
      | false =>
          refine .of_imp _ (fun world => And.left)
            (.bind (runOne_ensures others) fun runFailed => ?_)
          refine .of_exists fun a => .of_fact fun same => .of_fact fun failing => .pure ?_
          subst same failing
          intro world here
          refine ⟨accounts ++ [a], ⟨by simp, by simpa using split⟩, ?_, here.sound,
            here.known.1.1, ?_⟩
          · rw [here.ledger, Ledger.extend_extend, accountEvents_concat, List.flatMap_append,
              List.map_append, List.flatMap_singleton]
            rfl
          · exact List.forall_mem_append.mpr
              ⟨here.known.1.2, List.forall_mem_singleton.mpr here.known.2⟩

theorem runAll_ensures (plan : List BenchmarkRun) :
    Program.Ensures (At f l) (runAll host suite binaryDirectory plan)
      (Finished host suite binaryDirectory f l plan) := by
  refine .of_imp _ ?_ (.loop (Advanced host suite binaryDirectory f l plan) _
    planRound_ensures (false, plan))
  intro world here
  refine ⟨[], ⟨rfl, rfl⟩, ?_, here.sound, here.known, nofun⟩
  exact here.ledger.trans l.extend_nil.symm

end Children

end Execution

end LatencyTest.Runner
