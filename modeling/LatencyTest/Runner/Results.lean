import LatencyTest.Runner.Manifest

/-!
What holds of every run of the suite. The manifest, the commands and the starts and ends of the
children follow from one list of accounts, in the order of the plan
(`runBenchmarkSuite_accounts`); every child is reaped, and at most two are alive at any time
(`runBenchmarkSuite_reaps`); the exit code tells whether every run has passed and the analyzer
has succeeded (`runBenchmarkSuite_exit`).
-/

namespace LatencyTest.Runner

open Lib (Program)

/-! ### Starts and ends -/

/-- As many children are reaped as started, and at most two are alive at any time. -/
structure Paired (events : List ProcessEvent) : Prop where
  even : (startedChildren events).length = (reapedChildren events).length
  bounded : ∀ earlier, earlier <+: events →
    (startedChildren earlier).length ≤ (reapedChildren earlier).length + 2

theorem startedChildren_append (xs ys : List ProcessEvent) :
    startedChildren (xs ++ ys) = startedChildren xs ++ startedChildren ys :=
  List.filterMap_append

theorem reapedChildren_append (xs ys : List ProcessEvent) :
    reapedChildren (xs ++ ys) = reapedChildren xs ++ reapedChildren ys :=
  List.filterMap_append

namespace Paired

theorem nil : Paired [] where
  even := rfl
  bounded earlier initial := by
    rw [List.prefix_nil.mp initial]
    exact Nat.zero_le _

theorem append {xs ys : List ProcessEvent} (first : Paired xs) (second : Paired ys) :
    Paired (xs ++ ys) where
  even := by
    simp only [startedChildren_append, reapedChildren_append, List.length_append, first.even,
      second.even]
  bounded earlier initial := by
    obtain ⟨rest, split⟩ := initial
    rcases List.append_eq_append_iff.mp split with ⟨more, rfl, -⟩ | ⟨more, rfl, rfl⟩
    · exact first.bounded earlier (List.prefix_append _ _)
    · have later := second.bounded more (List.prefix_append _ _)
      simp only [startedChildren_append, reapedChildren_append, List.length_append, first.even]
      omega

/-- Two children, whose events surround each other, or fewer. -/
theorem of_few {events : List ProcessEvent}
    (even : (startedChildren events).length = (reapedChildren events).length)
    (few : (startedChildren events).length ≤ 2) : Paired events where
  even := even
  bounded earlier initial := by
    have fewer : (startedChildren earlier).length ≤ (startedChildren events).length :=
      (initial.sublist.filterMap _).length_le
    omega

end Paired

/-- Signals are neither starts nor ends. -/
theorem startedChildren_lasting (log : List ProcessEvent) :
    startedChildren (log.filter ProcessEvent.lasting) = startedChildren log := by
  rw [startedChildren, List.filterMap_filter, startedChildren]
  refine List.filterMap_congr fun event _ => ?_
  cases event <;> rfl

theorem reapedChildren_lasting (log : List ProcessEvent) :
    reapedChildren (log.filter ProcessEvent.lasting) = reapedChildren log := by
  rw [reapedChildren, List.filterMap_filter, reapedChildren]
  refine List.filterMap_congr fun event _ => ?_
  cases event <;> rfl

/-- At no time more than two children are alive. -/
theorem Paired.at_most_two {os : Os} (paired : Paired os.lifecycle)
    {later earlier : List ProcessEvent} (split : os.log = later ++ earlier) :
    (startedChildren earlier).length ≤ (reapedChildren earlier).length + 2 := by
  have initial : (earlier.filter ProcessEvent.lasting).reverse <+: os.lifecycle := by
    rw [Os.lifecycle, split, List.filter_append, List.reverse_append]
    exact List.prefix_append _ _
  have few := paired.bounded _ initial
  rw [startedChildren, reapedChildren, List.filterMap_reverse, List.filterMap_reverse,
    List.length_reverse, List.length_reverse] at few
  rwa [← startedChildren_lasting, ← reapedChildren_lasting]

namespace Execution

section Suite

variable {host : Host} {suite : BenchmarkSuite} {binaryDirectory : Text}

theorem paired_childEvents (child : Nat) (status : Option WaitStatus) :
    Paired (childEvents child status) := by
  cases status with
  | none => exact .nil
  | some status => exact .of_few rfl (Nat.le_succ 1)

theorem paired_accountEvents (first : Nat) (accounts : List Account) :
    Paired (accountEvents host suite binaryDirectory first accounts) := by
  induction accounts generalizing first with
  | nil => exact .nil
  | cons a accounts ih =>
      refine .append ?_ (ih _)
      cases a.launched with
      | nothing => exact .nil
      | server status client =>
          cases client with
          | none => exact .of_few rfl (Nat.le_succ 1)
          | some client => exact .of_few rfl le_rfl

/-! ### The analysis -/

/-- What the analysis makes of the end of the analyzer, if there was one. -/
def Analyzed (analyzer : Option WaitStatus) (failed interrupted : Bool) : Prop :=
  match failed with
  | false => (∃ status ∈ analyzer, status.exitCode = 0) ∨ analyzer = none ∧ interrupted = true
  | true => analyzer = none ∨ (∃ status ∈ analyzer, status.exitCode ≠ 0) ∨ interrupted = true

theorem beside_analyzed (analyzer : Option WaitStatus) (failed : Bool) :
    Beside fun world => Analyzed analyzer failed world.interrupted := by
  cases failed with
  | false => exact .or (.fact _) (.and (.fact _) beside_interrupted)
  | true => exact .or (.fact _) (.or (.fact _) beside_interrupted)

theorem Exited.analyzed {status : WaitStatus} {code : Int} {interrupted : Bool}
    (exited : Exited status code interrupted) :
    Analyzed (some status) (code ≠ 0) interrupted := by
  by_cases zero : code = 0
  · subst zero
    obtain exits | ⟨stopped, -⟩ := exited
    · exact .inl ⟨status, rfl, exits.symm⟩
    · cases stopped
  · have failed : decide (code ≠ 0) = true := decide_eq_true zero
    rw [failed]
    obtain rfl | ⟨-, stopped⟩ := exited
    · exact .inr (.inl ⟨status, rfl, zero⟩)
    · exact .inr (.inr stopped)

theorem analyze_ensures {f : Frame} {l : Ledger} (results : Bool) :
    Program.Ensures (At f l) (analyze host suite binaryDirectory results) fun failed world =>
      ∃ analyzer, At f (l.extend (childEvents l.started analyzer)
        (childCommands (analyzerCommand host suite binaryDirectory) analyzer)) world ∧
          Analyzed analyzer failed world.interrupted := by
  have unstarted (world : World) (here : At f l world) :
      At f (l.extend (childEvents l.started none)
        (childCommands (analyzerCommand host suite binaryDirectory) none)) world := by
    rw [childEvents, childCommands, Ledger.extend_nil]
    exact here
  refine .bind (isInterrupted_ensures (stable_at f l)) fun stopped => ?_
  cases stopped with
  | true =>
      refine .of_imp (fun world => At f l world ∧ world.interrupted = true)
        (fun world holds => ⟨holds.1, holds.2 rfl⟩) ?_
      refine .bind (write_ensures ((beside_at f l).and beside_interrupted) _ _) fun _ => .pure ?_
      rintro world ⟨here, stopped⟩
      exact ⟨none, unstarted world here, .inr ⟨rfl, stopped⟩⟩
  | false =>
      refine .of_imp _ (fun world => And.left) ?_
      cases results with
      | false =>
          exact .bind (write_ensures (beside_at f l) _ _) fun _ =>
            .pure fun world here => ⟨none, unstarted world here, .inl rfl⟩
      | true =>
          refine .bind (runAndWait_ensures _) fun result => .of_exists fun analyzer => ?_
          cases result with
          | error message =>
              refine .pure ?_
              rintro world ⟨here, rfl⟩
              exact ⟨none, here, .inl rfl⟩
          | ok code =>
              refine .pure ?_
              rintro world ⟨here, status, rfl, exited⟩
              exact ⟨some status, here, exited.analyzed⟩

/-! ### The suite -/

/-- What the manifest, the commands and the children say of a run of the suite. -/
structure Accounted (host : Host) (suite : BenchmarkSuite) (binaryDirectory : Text)
    (plan : List BenchmarkRun) (accounts : List Account) (analyzer : Option WaitStatus)
    (world : World) : Prop where
  executed : Executed plan accounts world.interrupted
  manifest : world.manifest = manifestHeader :: accounts.map (·.row.line)
  commands : world.commands = accounts.flatMap (·.commands host suite binaryDirectory) ++
    childCommands (analyzerCommand host suite binaryDirectory) analyzer
  lifecycle : ∃ last, world.os.lifecycle =
    accountEvents host suite binaryDirectory 0 accounts ++ childEvents last analyzer
  children : ∀ process, world.os.children process = none
  sound : world.os.Sound

/-- What the exit code says: a run that an interrupt reaches between its last run and the
analysis ends with 0 as well. -/
def Verdict (plan : List BenchmarkRun) (accounts : List Account) (analyzer : Option WaitStatus)
    (code : Int) (interrupted : Bool) : Prop :=
  code = 0 ∧ accounts.map (·.row.run) = plan ∧ (∀ a ∈ accounts, a.row.passed = true) ∧
      ((∃ status ∈ analyzer, status.exitCode = 0) ∨ analyzer = none ∧ interrupted = true) ∨
    code = 1 ∧ ((∃ a ∈ accounts, a.row.passed = false) ∨ analyzer = none ∨
      (∃ status ∈ analyzer, status.exitCode ≠ 0) ∨ interrupted = true)

theorem verdict {plan : List BenchmarkRun} {accounts : List Account}
    {analyzer : Option WaitStatus} {failed stopped unanalyzed interrupted : Bool}
    (failing : failed = accounts.any (!·.row.passed))
    (complete : stopped = false → accounts.map (·.row.run) = plan)
    (stops : stopped = true → interrupted = true)
    (analyzed : Analyzed analyzer unanalyzed interrupted) :
    Verdict plan accounts analyzer (if failed || stopped || unanalyzed then 1 else 0)
      interrupted := by
  cases failed with
  | true =>
      obtain ⟨a, mem, failed⟩ := List.any_eq_true.mp (failing.symm.trans rfl)
      exact .inr ⟨rfl, .inl ⟨a, mem, by simpa using failed⟩⟩
  | false =>
      cases stopped with
      | true => exact .inr ⟨rfl, .inr (.inr (.inr (stops rfl)))⟩
      | false =>
          cases unanalyzed with
          | true => exact .inr ⟨rfl, .inr analyzed⟩
          | false =>
              refine .inl ⟨rfl, complete rfl, fun a mem => ?_, analyzed⟩
              have none_ := List.any_eq_false.mp failing.symm a mem
              simpa using none_

/-- An interrupt was seen, or not. -/
def Frame.stopping (f : Frame) (stopped : Bool) : Frame where
  holds interrupted := f.holds interrupted ∧ (stopped = true → interrupted = true)
  mono holds := ⟨f.mono holds.1, fun _ => rfl⟩

/-- Nothing is known. -/
def Frame.nothing : Frame where
  holds _ := True
  mono _ := trivial

theorem execute_ensures (plan : List BenchmarkRun) :
    Program.Ensures (At .nothing {}) (execute host suite binaryDirectory plan) fun code world =>
      ∃ accounts analyzer, Accounted host suite binaryDirectory plan accounts analyzer world ∧
        Verdict plan accounts analyzer code world.interrupted := by
  have header : Program.Ensures (At .nothing {}) (record manifestHeader)
      fun _ => At .nothing { manifest := [manifestHeader] } := by
    refine .modify _ (stable_at _ _) fun world here => ⟨?_, here.sound, trivial⟩
    have same := here.ledger
    simp only [World.ledger, Ledger.mk.injEq] at same ⊢
    simp [same]
  refine .bind header fun _ => .bind (runAll_ensures plan) fun failed =>
    .of_exists fun accounts => .of_fact fun failing => ?_
  -- Without an interrupt the plan is complete.
  let f := (Frame.nothing.executing plan accounts)
  have asked (l : Ledger) : Program.Ensures (At f l) isInterrupted fun stopped world =>
      At (f.stopping stopped) l world ∧
        (stopped = false → accounts.map (·.row.run) = plan) :=
    .read (stable_at f l) fun world here =>
      ⟨⟨here.ledger, here.sound, here.known, id⟩, here.known.2.complete⟩
  refine .bind_fact (asked _) fun stopped complete => ?_
  refine .bind (.read_keeps (stable_at _ _)) fun results => .bind (analyze_ensures results)
    fun unanalyzed => .of_exists fun analyzer => ?_
  refine .bind (print_ensures ((beside_at _ _).and (beside_analyzed _ _)) _) fun _ => .pure ?_
  rintro world ⟨here, analyzed⟩
  refine ⟨accounts, analyzer, ⟨here.known.1.2, ?_, ?_, ?_, ?_, here.sound⟩, ?_⟩
  · exact (congrArg Ledger.manifest here.ledger).trans (List.append_nil _)
  · exact congrArg Ledger.commands here.ledger
  · exact ⟨_, congrArg Ledger.events here.ledger⟩
  · exact congrFun (congrArg Ledger.children here.ledger)
  · exact verdict failing complete here.known.2 analyzed

/-- A runner that has not started anything. -/
structure Fresh (world : World) : Prop where
  os : world.os = {}
  commands : world.commands = []
  manifest : world.manifest = []

theorem stable_fresh : Program.Stable move Fresh := by
  intro world made fresh
  cases made <;> exact ⟨fresh.os, fresh.commands, fresh.manifest⟩

theorem Fresh.here {world : World} (fresh : Fresh world) : At .nothing {} world where
  ledger := by
    rw [World.ledger, fresh.os, fresh.commands, fresh.manifest]
    rfl
  sound := fresh.os ▸ .initial
  known := trivial

/-- How a plan ends: nothing was started, or every run is accounted for. -/
def Outcome (host : Host) (suite : BenchmarkSuite) (binaryDirectory : Text)
    (plan : List BenchmarkRun) (dryRun : Bool) (code : Int) (world : World) : Prop :=
  Fresh world ∧ (code = 0 ∧ dryRun = true ∨ (code = 1 ∨ code = 2) ∧ world.errors ≠ []) ∨
    ∃ accounts analyzer, Accounted host suite binaryDirectory plan accounts analyzer world ∧
      Verdict plan accounts analyzer code world.interrupted

/-- An exception is thrown before anything is started. -/
def Ended (host : Host) (suite : BenchmarkSuite) (binaryDirectory : Text)
    (plan : List BenchmarkRun) (dryRun : Bool) : Except Text Int → World → Prop
  | .error _, world => Fresh world
  | .ok code, world => Outcome host suite binaryDirectory plan dryRun code world

theorem complain_ensures {after : Int → World → Prop} {code : Int} {message : Text}
    (holds : ∀ world, Fresh world → world.errors ≠ [] → after code world) :
    Program.Ensures Fresh (do complain message; pure code) after := by
  refine .bind (.modify (fun world => Fresh world ∧ world.errors ≠ []) stable_fresh ?_) fun _ =>
    .pure fun world told => holds world told.1 told.2
  exact fun world fresh => ⟨⟨fresh.os, fresh.commands, fresh.manifest⟩, List.concat_ne_nil _ _⟩

theorem refused_ensures (message : Text) (plan : List BenchmarkRun) (dryRun : Bool) :
    Program.Ensures Fresh (refused message) (Outcome host suite binaryDirectory plan dryRun) :=
  complain_ensures fun _ fresh told => .inl ⟨fresh, .inr ⟨.inr rfl, told⟩⟩

theorem runPlan_ensures (plan : List BenchmarkRun) (dryRun : Bool) :
    Program.Ensures Fresh (runPlan host suite binaryDirectory plan dryRun)
      (Outcome host suite binaryDirectory plan dryRun) := by
  unfold runPlan
  split
  · exact refused_ensures _ plan dryRun
  split
  · rename_i dry
    refine .bind (.modify_keeps stable_fresh fun world fresh =>
      ⟨fresh.os, fresh.commands, fresh.manifest⟩) fun _ => .pure fun world fresh => ?_
    exact .inl ⟨fresh, .inl ⟨rfl, dry⟩⟩
  refine .bind (.modify_keeps stable_fresh fun world fresh =>
    ⟨fresh.os, fresh.commands, fresh.manifest⟩) fun _ => ?_
  split
  · exact complain_ensures fun world fresh told => .inl ⟨fresh, .inr ⟨.inl rfl, told⟩⟩
  split
  · exact complain_ensures fun world fresh told => .inl ⟨fresh, .inr ⟨.inl rfl, told⟩⟩
  exact .weaken (execute_ensures _) (fun _ => Fresh.here) fun _ _ => .inr

theorem returned_ensures {before : World → Prop} {after : Except Text Int → World → Prop}
    {program : Action Int} (ensures : Program.Ensures before program fun code => after (.ok code)) :
    Program.Ensures before (returned program) after :=
  .bind ensures fun _ => .pure fun _ => id

theorem runBenchmarkSuite_ensures {configPath : Text} {overrides : BenchmarkOverrides}
    {dryRun : Bool} (accepted : readBenchmarkSuite host configPath = .ok suite) :
    Program.Ensures Fresh (runBenchmarkSuite host binaryDirectory configPath overrides dryRun)
      (Ended host suite binaryDirectory (buildBenchmarkPlan suite overrides) dryRun) := by
  rw [runBenchmarkSuite, accepted]
  dsimp only
  split
  · exact returned_ensures (refused_ensures _ _ dryRun)
  split
  · exact .pure fun world => id
  · rename_i plan reserved
    rw [reservedBenchmarkPlan_eq_ok reserved]
    exact returned_ensures (runPlan_ensures _ dryRun)

/-- Whether the suite is accepted or not, nothing was started, or every run is accounted for. -/
theorem runBenchmarkSuite_leaves {configPath : Text} {overrides : BenchmarkOverrides}
    {dryRun : Bool} :
    Program.Ensures Fresh (runBenchmarkSuite host binaryDirectory configPath overrides dryRun)
      fun _ world => Fresh world ∨ ∃ suite accounts analyzer, Accounted host suite binaryDirectory
        (buildBenchmarkPlan suite overrides) accounts analyzer world := by
  cases read : readBenchmarkSuite host configPath with
  | error message =>
      rw [runBenchmarkSuite, read]
      exact returned_ensures (complain_ensures fun _ fresh _ => .inl fresh)
  | ok suite =>
      refine (runBenchmarkSuite_ensures read).weaken (fun _ => id) fun result world ended => ?_
      cases result with
      | error message => exact .inl ended
      | ok code =>
          obtain ⟨unchanged, -⟩ | ⟨accounts, analyzer, accounted, -⟩ := ended
          · exact .inl unchanged
          · exact .inr ⟨suite, accounts, analyzer, accounted⟩

theorem Accounted.paired {plan : List BenchmarkRun} {accounts : List Account}
    {analyzer : Option WaitStatus} {world : World}
    (accounted : Accounted host suite binaryDirectory plan accounts analyzer world) :
    Paired world.os.lifecycle := by
  obtain ⟨last, lifecycle⟩ := accounted.lifecycle
  rw [lifecycle]
  exact (paired_accountEvents 0 accounts).append (paired_childEvents last analyzer)

end Suite

/-! ### Two runs -/

/-- The children end when they are polled a second time. -/
def machine : Host where
  behavior := ⟨fun call => if call = 0 then none else some (.exited 0), fun _ => .exited 0⟩
  opens _ _ := true
  forks world :=
    if world.os.children 100 = none then some 100
    else if world.os.children 101 = none then some 101 else none
  fresh world process forked := by
    split at forked
    · cases forked
      exact ⟨by decide, ‹_›⟩
    · split at forked
      · cases forked
        exact ⟨by decide, ‹_›⟩
      · cases forked
  binaries := ["latency_server".toList, "latency_analyzer".toList, "latency_client".toList]
  configuration := some (suiteText ["PROFILE=q|SUB:Q1".toList])
  runDirectory := "/results".toList
  createsDirectory := .ok ()
  copiesConfiguration := .ok ()

/-- The server is ready, and the client writes its result. -/
def served : List (List Move) :=
  List.replicate 6 [] ++
    [[.write "q-r01-server.log".toList
        (.regular "Latency server listening on :1\nGenerator summary".toList),
      .write "q-r01-summary.csv".toList (.regular [])]]

/-- One run, with so many further moves. -/
def oneRun (moves : List (List Move)) :
    Option (Except Text Int × List (List Move) × World) :=
  runBenchmarkSuite machine "bin".toList "suite.conf".toList {} false 10 (served ++ moves) {}

def twoProfiles : Host :=
  { machine with
    configuration := some (suiteText ["PROFILE=q|SUB:Q1".toList, "PROFILE=t|SUB:T1".toList]) }

/-- Two runs; the server of the second one has ended when it is polled. -/
def twoRuns : Option (Except Text Int × List (List Move) × World) :=
  runBenchmarkSuite twoProfiles "bin".toList "suite.conf".toList {} false 10 served {}

def oneRow : Text := "\"q\",1,\"SUB:Q1\",graal,feed,optimal,0,2s,1000,\"\",0,passed,0".toList

def twoRows : List Text :=
  [oneRow, "\"t\",1,\"SUB:T1\",graal,feed,optimal,0,2s,1000,\"\",0,failed,-1".toList]

private theorem accepted_of_repetitions {host : Host} {configPath : Text} {count : Nat}
    (parsed : (readBenchmarkSuite host configPath).map (·.repetitions) = .ok count) :
    ∃ suite, readBenchmarkSuite host configPath = .ok suite := by
  obtain ⟨suite, accepted, -⟩ := ok_of_map parsed
  exact ⟨suite, accepted⟩

private theorem ran_of_rows {ran : Option (Except Text Int × List (List Move) × World)}
    {code : Int} {row : Text} {rows : List Text}
    (evaluated : ran.map (fun result => (result.1.toOption, result.2.2.manifest.tail)) =
      some (some code, row :: rows)) :
    ∃ moves' world, ran = some (.ok code, moves', world) ∧ world.manifest.tail = row :: rows ∧
      world.manifest ≠ [] := by
  obtain ⟨⟨result, moves', world⟩, rfl, read⟩ := Option.map_eq_some_iff.mp evaluated
  obtain ⟨returned, lines⟩ := Prod.mk.inj read
  cases result with
  | error message => cases returned
  | ok code' =>
      cases returned
      refine ⟨moves', world, rfl, lines, fun nothing => ?_⟩
      rw [nothing] at lines
      cases lines

private theorem machine_accepted : ∃ suite,
    readBenchmarkSuite machine "suite.conf".toList = .ok suite := by
  have parsed : (readBenchmarkSuite machine "suite.conf".toList).map (·.repetitions) = .ok 1 := by
    decide +kernel
  exact accepted_of_repetitions parsed

private theorem twoProfiles_accepted : ∃ suite,
    readBenchmarkSuite twoProfiles "suite.conf".toList = .ok suite := by
  have parsed : (readBenchmarkSuite twoProfiles "suite.conf".toList).map (·.repetitions) =
      .ok 1 := by
    decide +kernel
  exact accepted_of_repetitions parsed

private theorem oneRun_ran : ∃ moves' world, oneRun [] = some (.ok 0, moves', world) ∧
    world.manifest.tail = [oneRow] ∧ world.manifest ≠ [] :=
  ran_of_rows (by decide +kernel)

private theorem twoRuns_ran : ∃ moves' world, twoRuns = some (.ok 1, moves', world) ∧
    world.manifest.tail = twoRows ∧ world.manifest ≠ [] :=
  ran_of_rows (by decide +kernel)

/-! ### Every run -/

section Runs

variable {host : Host} {suite : BenchmarkSuite} {binaryDirectory configPath : Text}
  {overrides : BenchmarkOverrides} {dryRun : Bool} {bound : Nat} {moves moves' : List (List Move)}
  {start world : World} {result : Except Text Int} {code : Int}

/-- A run of the suite that has begun its manifest accounts for every run it has made, in the
order of the plan: the lines of the manifest, the commands of the children, and their starts and
ends. A row has passed only if the client has exited with 0; its exit code is that of the client,
or that of an interrupt, and -1 if there was no client. Only an interrupt leaves out a part of the
plan. -/
theorem runBenchmarkSuite_accounts (accepted : readBenchmarkSuite host configPath = .ok suite)
    (fresh : Fresh start)
    (ran : runBenchmarkSuite host binaryDirectory configPath overrides dryRun bound moves start =
      some (result, moves', world)) (written : world.manifest ≠ []) :
    ∃ accounts analyzer, Executed (buildBenchmarkPlan suite overrides) accounts world.interrupted ∧
      world.manifest = manifestHeader :: accounts.map (·.row.line) ∧
        world.commands = accounts.flatMap (·.commands host suite binaryDirectory) ++
          childCommands (analyzerCommand host suite binaryDirectory) analyzer ∧
        ∃ last, world.os.lifecycle =
          accountEvents host suite binaryDirectory 0 accounts ++ childEvents last analyzer := by
  have ended := runBenchmarkSuite_ensures accepted bound moves start fresh result moves' world ran
  cases result with
  | error message => exact absurd ended.manifest written
  | ok code =>
      obtain ⟨unchanged, -⟩ | ⟨accounts, analyzer, accounted, -⟩ := ended
      · exact absurd unchanged.manifest written
      · exact ⟨accounts, analyzer, accounted.executed, accounted.manifest, accounted.commands,
          accounted.lifecycle⟩

/-- Of two runs the second one fails. -/
theorem runBenchmarkSuite_accounts_twoProfiles : ∃ (suite : BenchmarkSuite)
    (moves' : List (List Move)) (world : World) (accounts : List Account)
    (analyzer : Option WaitStatus),
    twoRuns = some (.ok 1, moves', world) ∧ world.manifest.tail = twoRows ∧
      Executed (buildBenchmarkPlan suite {}) accounts world.interrupted ∧
        world.manifest = manifestHeader :: accounts.map (·.row.line) ∧
          world.commands = accounts.flatMap (·.commands twoProfiles suite "bin".toList) ++
            childCommands (analyzerCommand twoProfiles suite "bin".toList) analyzer ∧
          ∃ last, world.os.lifecycle =
            accountEvents twoProfiles suite "bin".toList 0 accounts ++
              childEvents last analyzer := by
  obtain ⟨suite, accepted⟩ := twoProfiles_accepted
  obtain ⟨moves', world, ran, rows, written⟩ := twoRuns_ran
  obtain ⟨accounts, analyzer, accounted⟩ :=
    runBenchmarkSuite_accounts accepted ⟨rfl, rfl, rfl⟩ ran written
  exact ⟨suite, moves', world, accounts, analyzer, ran, rows, accounted⟩

/-- When the suite returns or throws, every child it has started was reaped, once. A signal was
sent only to a child that was started and not reaped, and at most two children were alive at any
time. -/
theorem runBenchmarkSuite_reaps (fresh : Fresh start)
    (ran : runBenchmarkSuite host binaryDirectory configPath overrides dryRun bound moves start =
      some (result, moves', world)) :
    (∀ process, world.os.children process = none) ∧
      (∀ child ∈ startedChildren world.os.log, (reapedChildren world.os.log).count child = 1) ∧
        ∀ later earlier, world.os.log = later ++ earlier →
          (∀ target signal, earlier.head? = some (.signaled target signal) →
            ∃ child, target = some child ∧ child ∈ startedChildren earlier ∧
              child ∉ reapedChildren earlier) ∧
            (startedChildren earlier).length ≤ (reapedChildren earlier).length + 2 := by
  obtain ⟨children, sound, paired⟩ : (∀ process, world.os.children process = none) ∧
      world.os.Sound ∧ Paired world.os.lifecycle := by
    rcases runBenchmarkSuite_leaves bound moves start fresh result moves' world ran with
      unchanged | ⟨suite, accounts, analyzer, accounted⟩
    · rw [unchanged.os]
      exact ⟨fun _ => rfl, .initial, .nil⟩
    · exact ⟨accounted.children, accounted.sound, accounted.paired⟩
  refine ⟨children, fun child started => sound.ended child started fun process found => ?_, ?_⟩
  · rw [children] at found
    cases found
  · intro later earlier split
    refine ⟨fun target signal first => ?_, paired.at_most_two split⟩
    obtain ⟨rest, rfl⟩ := List.head?_eq_some_iff.mp first
    exact sound.signals later target signal rest split

theorem runBenchmarkSuite_reaps_twoProfiles : ∃ (moves' : List (List Move)) (world : World),
    twoRuns = some (.ok 1, moves', world) ∧ world.manifest.tail = twoRows ∧
      (∀ process, world.os.children process = none) ∧
      (∀ child ∈ startedChildren world.os.log, (reapedChildren world.os.log).count child = 1) ∧
        ∀ later earlier, world.os.log = later ++ earlier →
          (∀ target signal, earlier.head? = some (.signaled target signal) →
            ∃ child, target = some child ∧ child ∈ startedChildren earlier ∧
              child ∉ reapedChildren earlier) ∧
            (startedChildren earlier).length ≤ (reapedChildren earlier).length + 2 := by
  obtain ⟨moves', world, ran, rows, -⟩ := twoRuns_ran
  exact ⟨moves', world, ran, rows, runBenchmarkSuite_reaps ⟨rfl, rfl, rfl⟩ ran⟩

/-- The exit code of an accepted suite. Without a manifest nothing was started; the code is 0 for
a dry run only. With one, 0 says that the whole plan has passed and the analyzer has exited with
0, or an interrupt came after the last run and before the analysis; 1 says that a run has failed,
the analyzer was not started or has failed, or there was an interrupt. -/
theorem runBenchmarkSuite_exit (accepted : readBenchmarkSuite host configPath = .ok suite)
    (fresh : Fresh start)
    (ran : runBenchmarkSuite host binaryDirectory configPath overrides dryRun bound moves start =
      some (.ok code, moves', world)) :
    (world.manifest = [] → world.commands = [] ∧
      (code = 0 ∧ dryRun = true ∨ (code = 1 ∨ code = 2) ∧ world.errors ≠ [])) ∧
    (world.manifest ≠ [] → ∃ accounts analyzer,
      world.manifest = manifestHeader :: accounts.map (·.row.line) ∧
        world.commands = accounts.flatMap (·.commands host suite binaryDirectory) ++
          childCommands (analyzerCommand host suite binaryDirectory) analyzer ∧
        Verdict (buildBenchmarkPlan suite overrides) accounts analyzer code
          world.interrupted) := by
  rcases runBenchmarkSuite_ensures accepted bound moves start fresh _ moves' world ran with
    ⟨unchanged, ended⟩ | ⟨accounts, analyzer, accounted, verdict⟩
  · exact ⟨fun _ => ⟨unchanged.commands, ended⟩, fun written => absurd unchanged.manifest written⟩
  · refine ⟨fun nothing => ?_, fun _ => ⟨accounts, analyzer, accounted.manifest,
      accounted.commands, verdict⟩⟩
    rw [accounted.manifest] at nothing
    cases nothing

theorem runBenchmarkSuite_exit_oneRun : ∃ (suite : BenchmarkSuite) (moves' : List (List Move))
    (world : World) (accounts : List Account) (analyzer : Option WaitStatus),
    oneRun [] = some (.ok 0, moves', world) ∧ world.manifest.tail = [oneRow] ∧
      world.manifest = manifestHeader :: accounts.map (·.row.line) ∧
        world.commands = accounts.flatMap (·.commands machine suite "bin".toList) ++
          childCommands (analyzerCommand machine suite "bin".toList) analyzer ∧
        Verdict (buildBenchmarkPlan suite {}) accounts analyzer 0 world.interrupted := by
  obtain ⟨suite, accepted⟩ := machine_accepted
  obtain ⟨moves', world, ran, rows, written⟩ := oneRun_ran
  obtain ⟨accounts, analyzer, ended⟩ :=
    (runBenchmarkSuite_exit accepted ⟨rfl, rfl, rfl⟩ ran).2 written
  exact ⟨suite, moves', world, accounts, analyzer, ran, rows, ended⟩

/-- The interrupt between the last run and the analysis is not reported. -/
theorem late_interrupt_exits_zero :
    (oneRun (List.replicate 17 [] ++ [[.interrupt]])).map (fun result =>
      (result.1.toOption, result.2.2.interrupted, result.2.2.commands.length)) =
        some (some 0, true, 2) := by
  decide +kernel

end Runs

end Execution

end LatencyTest.Runner
