import LatencyTest.Server.Generator

/-!
The lifecycle of the publisher's task: what a round of the worker loop can do to
the two optional tasks and the subscribed symbols, and what follows for every
run. `Consistent` is what commands preserve; `WellFormed` adds that no pending
task is ready, which `startWhenReady` restores at the end of every command.
-/

namespace LatencyTest

/-! ### Accepted start requests -/

/-- A pending task passed every check of its start request. -/
structure PendingTask.Accepted (configured : Option Nat) (task : PendingTask) : Prop where
  parsed : parseTask task.command = .ok task.pattern
  resolved : resolveActiveSymbolCount configured task.pattern = .ok task.activeSymbolCount
  profileSymbols : task.pattern.symbols = .ok task.profileSymbols
  marketSymbols : task.pattern.marketSymbols = .ok task.marketSymbols

namespace PendingTask.Accepted

variable {configured : Option Nat} {task : PendingTask} (h : task.Accepted configured)

include h

theorem fits : task.pattern.symbolCount * (task.pattern.regionalSourceCount + 1) ≤
    vectorLimit stringSize :=
  (marketSymbols_eq_ok.mp h.marketSymbols).1

theorem wellFormed : task.WellFormed :=
  pendingTask_wellFormed h.parsed h.resolved (h.fits.trans_lt (by decide))

/-- The event count of an accepted task is representable, so readiness never
drops the task. -/
theorem eventCount : ∃ total, task.pattern.eventCount = .ok total := by
  have admissible := parseTask_admissible h.parsed
  exact ⟨_, eventCountFrom_total (by simpa using admissible.items.total_fits)⟩

/-- What readiness allocates for an accepted task. -/
theorem activate : activate task = .ok (startTask task) := by
  obtain ⟨total, counted⟩ := h.eventCount
  exact activate_eq_ok h.fits (resolveActiveSymbolCount_ok h.resolved).2.1 counted

theorem initialEvents :
    makeInitialEvents task.pattern = .ok (task.pattern.symbolNames.map .profile) := by
  obtain ⟨-, named⟩ := symbols_eq_ok.mp h.profileSymbols
  exact bind_eq_ok h.profileSymbols (by rw [named]; rfl)

theorem symbolNames_ne_nil : task.pattern.symbolNames ≠ [] := by
  have admissible := parseTask_admissible h.parsed
  obtain ⟨item, mem⟩ := List.exists_mem_of_ne_nil _ admissible.items_ne_nil
  have positive := (admissible.items.quantity_pos item mem).trans_le
    (admissible.quantity_le item mem)
  rw [← List.length_pos_iff, symbolNames_length]
  exact positive

end PendingTask.Accepted

namespace Generator

theorem makePending_ok {configured : Option Nat} {text : Text} {pattern : TaskPattern}
    {task : PendingTask} (parsed : parseTask text = .ok pattern)
    (made : makePending configured text pattern = .ok task) :
    task.command = text ∧ task.Accepted configured := by
  unfold makePending at made
  obtain ⟨count, resolved, afterCount⟩ := ok_of_bind made
  obtain ⟨profiles, named, afterNames⟩ := ok_of_bind afterCount
  obtain ⟨market, expanded, returned⟩ := ok_of_bind afterNames
  cases returned
  exact ⟨rfl, parsed, resolved, named, expanded⟩

end Generator

/-! ### What a command does -/

/-- Whether a command stops a task with this name. -/
def Command.stopsTask (command : Command) (name : Text) : Bool :=
  command.type = .stop && Generator.stops command.text name

namespace Generator

theorem filter_true {α : Type} (value : Option α) : (value.filter fun _ => true) = value := by
  cases value <;> rfl

/-- A start request is rejected or makes its task pending. -/
theorem handleStart_cases (g : Generator) (text : Text) :
    g.handleStart text = g ∨ ∃ task : PendingTask, g.active = none ∧ g.pending = none ∧
      task.command = text ∧ task.Accepted g.activeSymbolCount ∧
      g.handleStart text = { g with pending := some task } := by
  unfold handleStart
  cases parsed : parseTask text with
  | error failure => exact .inl rfl
  | ok pattern =>
      dsimp only
      by_cases idle : (g.active.isNone && g.pending.isNone) = true
      · rw [if_pos idle]
        simp only [Bool.and_eq_true, Option.isNone_iff_eq_none] at idle
        cases made : makePending g.activeSymbolCount text pattern with
        | error message => exact .inl rfl
        | ok task =>
            obtain ⟨named, accepted⟩ := makePending_ok parsed made
            exact .inr ⟨task, idle.1, idle.2, named, accepted, rfl⟩
      · rw [if_neg idle]
        exact .inl rfl

/-- The snapshot publications of a command. -/
def snapshots (active : Option ActiveTask) (command : Command) : List Output :=
  match active with
  | none => []
  | some active =>
      if command.type = .symbolsAdded ∧ command.subscription = .timeAndSale ∧
          command.timeSeriesRequests ≠ [] then
        [.snapshot (publishTimeSeriesSnapshots active command.timeSeriesRequests).events]
      else []

/-- What a command does before `startWhenReady`. -/
structure Dispatched (g : Generator) (command : Command) (next : Generator)
    (outputs : List Output) : Prop where
  limit : next.timeSeriesHistoryLimit = g.timeSeriesHistoryLimit
  configured : next.activeSymbolCount = g.activeSymbolCount
  subscribed : next.subscribedSymbols = Function.update g.subscribedSymbols command.subscription
    (updateSymbols (g.subscribedSymbols command.subscription) command)
  active : next.active = g.active.filter fun task => !command.stopsTask task.command
  pending : next.pending = (g.pending.filter fun task => !command.stopsTask task.command) ∨
    ∃ task : PendingTask, command.type = .start ∧ g.active = none ∧ g.pending = none ∧
      task.command = command.text ∧ task.Accepted g.activeSymbolCount ∧ next.pending = some task
  outputs : outputs = snapshots g.active command

/-- A snapshot publication is never empty. -/
theorem snapshot_events_ne_nil (active : ActiveTask) {requests : List (Text × Int)}
    (some : requests ≠ []) : (publishTimeSeriesSnapshots active requests).events ≠ [] := by
  obtain ⟨request, requests, rfl⟩ := List.exists_cons_of_ne_nil some
  rw [publishTimeSeriesSnapshots_events, List.flatMap_cons]
  exact List.append_ne_nil_of_left_ne_nil (snapshotEvents_ne_nil _ _ _) _

theorem dispatch_cases (g : Generator) (command : Command) :
    Dispatched g command (g.dispatch command).1 (g.dispatch command).2 := by
  have quiet : command.type ≠ .stop → ∀ name, command.stopsTask name = false := by
    intro other name
    simp [Command.stopsTask, other]
  unfold dispatch
  cases type : command.type with
  | start =>
      have active : g.active = g.active.filter fun task => !command.stopsTask task.command := by
        simp [quiet (by simp [type]), filter_true]
      have pending : g.pending = g.pending.filter fun task => !command.stopsTask task.command := by
        simp [quiet (by simp [type]), filter_true]
      have subscribed : g.subscribedSymbols =
          Function.update g.subscribedSymbols command.subscription
            (updateSymbols (g.subscribedSymbols command.subscription) command) := by
        simp [updateSymbols, type]
      have outputs : [] = snapshots g.active command := by
        cases here : g.active <;> simp [snapshots, type]
      dsimp only
      rcases handleStart_cases g command.text with
        rejected | ⟨task, idle, free, named, accepted, taken⟩
      · rw [rejected]
        exact ⟨rfl, rfl, subscribed, active, .inl pending, outputs⟩
      · rw [taken]
        exact ⟨rfl, rfl, subscribed, active,
          .inr ⟨task, type, idle, free, named, accepted, rfl⟩, outputs⟩
  | stop =>
      have stopped : ∀ name, command.stopsTask name = stops command.text name := by
        intro name
        simp [Command.stopsTask, type]
      refine ⟨rfl, rfl, ?_, ?_, .inl ?_, ?_⟩
      · simp [updateSymbols, type, handleStop]
      · simp [handleStop, stopped]
      · simp [handleStop, stopped]
      · cases here : g.active <;> simp [snapshots, type]
  | symbolsAdded | symbolsRemoved | subscriptionClosed =>
      have never := quiet (by simp [type])
      dsimp only
      unfold handleSubscription
      cases here : g.active with
      | none =>
          refine ⟨rfl, rfl, rfl, ?_, .inl ?_, ?_⟩
          · simp [here]
          · simp [never, filter_true]
          · simp [snapshots, here]
      | some task =>
          dsimp only
          split
          · rename_i requested
            refine ⟨rfl, rfl, rfl, ?_, .inl ?_, ?_⟩
            · simp [here, never, filter_true]
            · simp [never, filter_true]
            · rw [if_neg (snapshot_events_ne_nil task requested.2.2)]
              simp only [snapshots, here]
              rw [if_pos requested]
          · rename_i other
            refine ⟨rfl, rfl, rfl, ?_, .inl ?_, ?_⟩
            · simp [here, never, filter_true]
            · simp [never, filter_true]
            · simp only [snapshots, here]
              rw [if_neg other]

/-! ### Invariants -/

/-- What holds of the two tasks at any time. -/
structure Consistent (g : Generator) : Prop where
  active : ∀ task, g.active = some task → task.WellFormed
  pending : ∀ task, g.pending = some task → task.Accepted g.activeSymbolCount
  exclusive : g.active = none ∨ g.pending = none

/-- What holds between rounds: in addition, a pending task is still waiting. -/
structure WellFormed (g : Generator) : Prop extends Consistent g where
  waiting : ∀ task, g.pending = some task → g.subscriptionsReady task = false

theorem wellFormed_create (limit : Nat) (configured : Option Nat) (now : Int) :
    (create limit configured now).WellFormed :=
  ⟨⟨by simp [create], by simp [create], .inl rfl⟩, by simp [create]⟩

/-- Commands keep the tasks consistent. -/
theorem Dispatched.consistent {g next : Generator} {command : Command} {outputs : List Output}
    (h : Dispatched g command next outputs) (start : g.Consistent) : next.Consistent := by
  refine ⟨?_, ?_, ?_⟩
  · intro task found
    rw [h.active] at found
    exact start.active task (Option.filter_eq_some_iff.mp found).1
  · intro task found
    rw [h.configured]
    rcases h.pending with kept | ⟨fresh, -, -, -, -, accepted, taken⟩
    · rw [kept] at found
      exact start.pending task (Option.filter_eq_some_iff.mp found).1
    · rw [taken] at found
      cases found
      exact accepted
  · rcases h.pending with kept | ⟨fresh, -, idle, -⟩
    · rw [h.active, kept]
      rcases start.exclusive with idle | free
      · exact .inl (by rw [idle]; rfl)
      · exact .inr (by rw [free]; rfl)
    · exact .inl (by rw [h.active, idle]; rfl)

/-- What the activation of a pending task does. -/
structure Activated (g : Generator) (now : Int) (task : PendingTask) (next : Generator)
    (outputs : List Output) : Prop where
  pending : g.pending = some task
  idle : g.active = none
  ready : g.subscriptionsReady task = true
  state : next = { g with active := some (startTask task), pending := none, nextTick := now }
  outputs : outputs = [.profiles (task.pattern.symbolNames.map .profile)]

/-- `startWhenReady` activates a ready task and does nothing otherwise. -/
theorem startWhenReady_cases {g : Generator} (h : g.Consistent) (now : Int) :
    (g.startWhenReady now = (g, []) ∧
      ∀ task, g.pending = some task → g.subscriptionsReady task = false) ∨
    ∃ task, Activated g now task (g.startWhenReady now).1 (g.startWhenReady now).2 := by
  unfold startWhenReady
  cases pending : g.pending with
  | none => exact .inl ⟨rfl, fun _ other => nomatch other⟩
  | some task =>
      have idle : g.active = none := h.exclusive.resolve_right (by simp [pending])
      have accepted := h.pending task pending
      rw [idle]
      dsimp only
      cases ready : g.subscriptionsReady task with
      | false =>
          refine .inl ⟨if_pos (by simp), ?_⟩
          rintro _ ⟨⟩
          exact ready
      | true =>
          have some : task.pattern.symbolNames.map Event.profile ≠ [] := fun empty =>
            accepted.symbolNames_ne_nil (List.map_eq_nil_iff.mp empty)
          refine .inr ⟨task, pending, idle, ready, ?_, ?_⟩
          · rw [if_neg (by simp), accepted.initialEvents, accepted.activate]
          · rw [if_neg (by simp), accepted.initialEvents, accepted.activate]
            exact if_neg some

/-- After `startWhenReady` no pending task is ready. -/
theorem startWhenReady_wellFormed {g : Generator} (h : g.Consistent) (now : Int) :
    (g.startWhenReady now).1.WellFormed := by
  rcases startWhenReady_cases h now with ⟨same, waiting⟩ | ⟨task, activated⟩
  · rw [same]
    exact ⟨h, waiting⟩
  · rw [activated.state]
    refine ⟨⟨?_, by simp, .inr rfl⟩, by simp⟩
    rintro _ ⟨⟩
    exact startTask_wellFormed (h.pending task activated.pending).wellFormed

/-- Every positive period gives a next deadline. -/
theorem nextDeadline_ok (nextTick now : Int) {periodNs : Int} (positive : 0 < periodNs) :
    ∃ deadline, nextDeadline nextTick periodNs now = some deadline := by
  unfold nextDeadline
  dsimp only
  split
  · rw [if_neg positive.ne']
    exact ⟨_, rfl⟩
  · exact ⟨_, rfl⟩

/-- What a publishing round does. -/
structure Ticked (api : DxApi) (g : Generator) (nowNs : Int) (active : ActiveTask)
    (choices : Nat → List Choice) (result : Published) (next : Generator)
    (outputs : List Output) : Prop where
  current : g.active = some active
  publication : IsPublication api g.timeSeriesHistoryLimit (g.subscribedSymbols .timeAndSale) nowNs
    active choices result
  state : ∃ nextTick skipped, next = { g with
    active := some { result.active with skippedDeadlines := skipped }
    nextTick := nextTick }
  outputs : outputs = [.batch result.retained result.events]

/-- A round without a command publishes the active task when its deadline has
passed, and never fails. -/
theorem tick_cases (api : DxApi) {g : Generator} (h : g.Consistent) (nowNs now later : Int) :
    (g.tick api nowNs now later = some (g, []) ∧ ∀ active, g.active = some active →
      now < g.nextTick) ∨
    ∃ active choices result next outputs, g.tick api nowNs now later = some (next, outputs) ∧
      Ticked api g nowNs active choices result next outputs := by
  unfold tick
  cases here : g.active with
  | none => exact .inl ⟨rfl, fun _ other => nomatch other⟩
  | some active =>
      dsimp only
      split
      · rename_i early
        exact .inl ⟨rfl, fun _ _ => early⟩
      · have wellFormed := h.active active here
        obtain ⟨choices, result, published, publication⟩ :=
          publish_ok api g.timeSeriesHistoryLimit (g.subscribedSymbols .timeAndSale) nowNs
            wellFormed
        obtain ⟨deadline, next⟩ := nextDeadline_ok g.nextTick later
          (Int.mul_pos wellFormed.admissible.period_pos (by decide : (0 : Int) < 1000000))
        let counted : ActiveTask := { result.active with
          skippedDeadlines := result.active.skippedDeadlines + UInt64.ofInt deadline.2 }
        refine .inr ⟨active, choices, result,
          { g with active := some counted, nextTick := deadline.1 },
          [.batch result.retained result.events], ?_, here, publication, ⟨_, _, rfl⟩, rfl⟩
        rw [published, Option.bind_eq_bind, Option.bind_some, next]
        rfl

theorem Ticked.wellFormed {api : DxApi} {g next : Generator} {nowNs : Int} {active : ActiveTask}
    {choices : Nat → List Choice} {result : Published} {outputs : List Output}
    (h : Ticked api g nowNs active choices result next outputs) (start : g.WellFormed) :
    next.WellFormed := by
  obtain ⟨nextTick, skipped, rfl⟩ := h.state
  have free : g.pending = none := start.exclusive.resolve_left (by simp [h.current])
  refine ⟨⟨?_, start.pending, .inr free⟩, start.waiting⟩
  rintro _ ⟨⟩
  have kept := h.publication.wellFormed
  exact ⟨kept.admissible, kept.count_pos, kept.count_le, kept.quantity_le, kept.market_lt,
    kept.shape, kept.order⟩

/-- No round fails, and every round keeps the invariant. -/
theorem step_ok (api : DxApi) (g : Generator) (input : Input) (h : g.WellFormed) :
    ∃ next outputs, (machine api).step g input = some (next, outputs) ∧ next.WellFormed := by
  cases input with
  | command command now =>
      exact ⟨_, _, rfl, startWhenReady_wellFormed
        ((dispatch_cases g command).consistent h.toConsistent) now⟩
  | tick nowNs now later =>
      rcases tick_cases api h.toConsistent nowNs now later with
        ⟨same, -⟩ | ⟨active, choices, result, next, outputs, taken, ticked⟩
      · exact ⟨g, [], same, h⟩
      · exact ⟨next, outputs, taken, ticked.wellFormed h⟩

/-- No run fails, and every reachable state satisfies the invariant. -/
theorem run_ok (api : DxApi) {g : Generator} (h : g.WellFormed) (inputs : List Input) :
    ∃ last outputs, (machine api).run g inputs = some (last, outputs) ∧ last.WellFormed :=
  (machine api).run_total (step_ok api) inputs h

theorem run_wellFormed {api : DxApi} {g last : Generator} {inputs : List Input}
    {outputs : List Output} (h : g.WellFormed)
    (run : (machine api).run g inputs = some (last, outputs)) : last.WellFormed := by
  obtain ⟨last', outputs', run', kept⟩ := run_ok api h inputs
  rw [run] at run'
  cases run'
  exact kept

/-! ### Rounds -/

/-- Everything a round of a well-formed generator can do. -/
inductive Round (api : DxApi) (g : Generator) : Input → Generator → List Output → Prop where
  /-- No task, or its deadline has not passed. -/
  | waits {nowNs now later : Int} (early : ∀ active, g.active = some active → now < g.nextTick) :
      Round api g (.tick nowNs now later) g []
  | publishes {nowNs now later : Int} {active : ActiveTask} {choices : Nat → List Choice}
      {result : Published} {next : Generator} {outputs : List Output}
      (ticked : Ticked api g nowNs active choices result next outputs) :
      Round api g (.tick nowNs now later) next outputs
  | handles {command : Command} {now : Int} {next : Generator} {outputs : List Output}
      (dispatched : Dispatched g command next outputs) :
      Round api g (.command command now) next outputs
  | activates {command : Command} {now : Int} {middle next : Generator} {task : PendingTask}
      {outputs started : List Output} (dispatched : Dispatched g command middle outputs)
      (idle : g.active = none) (accepted : task.Accepted g.activeSymbolCount)
      (activated : Activated middle now task next started) :
      Round api g (.command command now) next (outputs ++ started)

theorem handleCommand_eq (g : Generator) (command : Command) (now : Int) :
    g.handleCommand command now = (((g.dispatch command).1.startWhenReady now).1,
      (g.dispatch command).2 ++ ((g.dispatch command).1.startWhenReady now).2) := rfl

/-- A task is pending after a command only if none was active before. -/
theorem Dispatched.idle {g next : Generator} {command : Command} {outputs : List Output}
    (h : Dispatched g command next outputs) (start : g.Consistent) {task : PendingTask}
    (pending : next.pending = some task) : g.active = none := by
  rcases h.pending with kept | ⟨fresh, -, idle, -⟩
  · rw [kept] at pending
    apply start.exclusive.resolve_right
    rw [(Option.filter_eq_some_iff.mp pending).1]
    simp
  · exact idle

theorem round_of_step {api : DxApi} {g next : Generator} {input : Input} {outputs : List Output}
    (h : g.WellFormed) (step : (machine api).step g input = some (next, outputs)) :
    Round api g input next outputs := by
  cases input with
  | tick nowNs now later =>
      rcases tick_cases api h.toConsistent nowNs now later with
        ⟨same, early⟩ | ⟨active, choices, result, next', outputs', taken, ticked⟩
      · cases same.symm.trans step
        exact .waits early
      · cases taken.symm.trans step
        exact .publishes ticked
  | command command now =>
      have dispatched := dispatch_cases g command
      have consistent := dispatched.consistent h.toConsistent
      cases (congrArg some (handleCommand_eq g command now)).symm.trans step
      rcases startWhenReady_cases consistent now with ⟨same, -⟩ | ⟨task, activated⟩
      · rw [same, List.append_nil]
        exact .handles dispatched
      · have accepted := consistent.pending task activated.pending
        rw [dispatched.configured] at accepted
        exact .activates dispatched (dispatched.idle h.toConsistent activated.pending) accepted
          activated

/-- The only output of a command before `startWhenReady` is a snapshot. -/
theorem Dispatched.output {g next : Generator} {command : Command} {outputs : List Output}
    (h : Dispatched g command next outputs) {output : Output} (mem : output ∈ outputs) :
    ∃ events, output = .snapshot events := by
  rw [h.outputs] at mem
  cases here : g.active with
  | none => simp [snapshots, here] at mem
  | some active =>
      simp only [snapshots, here] at mem
      split at mem
      · exact ⟨_, List.mem_singleton.mp mem⟩
      · cases mem

/-- A task that survives a round is the same task. -/
theorem Round.same_task {api : DxApi} {g next : Generator} {input : Input}
    {outputs : List Output} (round : Round api g input next outputs) {task : ActiveTask}
    (current : g.active = some task) {task' : ActiveTask} (kept : next.active = some task') :
    task'.command = task.command ∧ task'.pattern = task.pattern ∧
      task'.activeSymbolCount = task.activeSymbolCount := by
  cases round with
  | waits =>
      cases current.symm.trans kept
      exact ⟨rfl, rfl, rfl⟩
  | publishes ticked =>
      obtain ⟨nextTick, skipped, rfl⟩ := ticked.state
      cases current.symm.trans ticked.current
      cases kept
      exact ⟨ticked.publication.command, ticked.publication.pattern,
        ticked.publication.activeSymbolCount⟩
  | handles dispatched =>
      rw [dispatched.active, current] at kept
      cases (Option.filter_eq_some_iff.mp kept).1
      exact ⟨rfl, rfl, rfl⟩
  | activates dispatched idle => exact nomatch current.symm.trans idle

/-! ### Activation -/

/-- Every base symbol is in the Profile set, and every market symbol is in the set
of each configured kind other than TimeAndSale. -/
def RequiredSubscribed (g : Generator) (pattern : TaskPattern) : Prop :=
  (∀ symbol ∈ pattern.symbolNames, symbol ∈ g.subscribedSymbols .profile) ∧
    ∀ item ∈ pattern.items, item.kind ≠ .timeAndSale →
      ∀ symbol ∈ withRegionalSources pattern.regionalSourceCount pattern.symbolNames,
        symbol ∈ g.subscribedSymbols (subscriptionKind item.kind)

/-- The check of the worker asks for exactly the required subscriptions. -/
theorem subscriptionsReady_iff {configured : Option Nat} {task : PendingTask}
    (accepted : task.Accepted configured) (g : Generator) :
    g.subscriptionsReady task = true ↔ g.RequiredSubscribed task.pattern := by
  have market := (marketSymbols_eq_ok.mp accepted.marketSymbols).2
  have profiles := (symbols_eq_ok.mp accepted.profileSymbols).2
  simp only [subscriptionsReady, containsAll, RequiredSubscribed, profiles, market,
    Bool.and_eq_true, List.all_eq_true, Bool.or_eq_true, decide_eq_true_eq, ne_eq]
  constructor
  · rintro ⟨profiles, kinds⟩
    exact ⟨profiles, fun item mem other => (kinds item mem).resolve_left other⟩
  · rintro ⟨profiles, kinds⟩
    refine ⟨profiles, ?_⟩
    intro item mem
    by_cases same : item.kind = .timeAndSale
    · exact .inl same
    · exact .inr (kinds item mem same)

/-- The inputs contain the start request of a task, which parsed and resolved when
no task was current. -/
def StartedBy (api : DxApi) (limit : Nat) (configured : Option Nat) (start : Int)
    (inputs : List Input) (name : Text) (pattern : TaskPattern) (count : Nat) : Prop :=
  ∃ before request now after idle outputs,
    inputs = before ++ .command request now :: after ∧ request.type = .start ∧
      request.text = name ∧ parseTask name = .ok pattern ∧
      resolveActiveSymbolCount configured pattern = .ok count ∧
      (machine api).run (create limit configured start) before = some (idle, outputs) ∧
      idle.active = none ∧ idle.pending = none

section Started

variable {api : DxApi} {limit : Nat} {configured : Option Nat} {start : Int}

theorem StartedBy.snoc {inputs : List Input} {name : Text} {pattern : TaskPattern} {count : Nat}
    (h : StartedBy api limit configured start inputs name pattern count) (input : Input) :
    StartedBy api limit configured start (inputs ++ [input]) name pattern count := by
  obtain ⟨before, request, now, after, idle, outputs, rfl, rest⟩ := h
  exact ⟨before, request, now, after ++ [input], idle, outputs, by simp, rest⟩

/-- Where the current tasks of a state reached over some inputs come from. -/
structure Origins (api : DxApi) (limit : Nat) (configured : Option Nat) (start : Int)
    (inputs : List Input) (g : Generator) : Prop where
  setting : g.activeSymbolCount = configured
  pending : ∀ task, g.pending = some task → StartedBy api limit configured start inputs
    task.command task.pattern task.activeSymbolCount
  active : ∀ task, g.active = some task → StartedBy api limit configured start inputs
    task.command task.pattern task.activeSymbolCount

/-- A command leaves the tasks where they come from, or starts one. -/
theorem Dispatched.origins {g next : Generator} {command : Command} {outputs earlier : List Output}
    {inputs : List Input} (h : Dispatched g command next outputs)
    (run : (machine api).run (create limit configured start) inputs = some (g, earlier))
    (before : Origins api limit configured start inputs g) (now : Int) :
    Origins api limit configured start (inputs ++ [.command command now]) next := by
  refine ⟨h.configured.trans before.setting, ?_, ?_⟩
  · intro task found
    rcases h.pending with kept | ⟨fresh, type, idle, free, named, accepted, taken⟩
    · rw [kept] at found
      exact (before.pending task (Option.filter_eq_some_iff.mp found).1).snoc _
    · rw [taken] at found
      cases found
      rw [before.setting] at accepted
      exact ⟨inputs, command, now, [], g, earlier, rfl, type, named.symm, accepted.parsed,
        accepted.resolved, run, idle, free⟩
  · intro task found
    rw [h.active] at found
    exact (before.active task (Option.filter_eq_some_iff.mp found).1).snoc _

/-- Every current task of a reachable state comes from its start request. -/
theorem origins {inputs : List Input} {g : Generator} {outputs : List Output}
    (run : (machine api).run (create limit configured start) inputs = some (g, outputs)) :
    Origins api limit configured start inputs g := by
  refine (machine api).run_history
    (fun inputs g _ => Origins api limit configured start inputs g)
    ⟨rfl, by simp [create], by simp [create]⟩ ?_ run
  intro inputs g earlier input next outputs run before step
  have wellFormed := run_wellFormed (wellFormed_create limit configured start) run
  cases round_of_step wellFormed step with
  | waits =>
      exact ⟨before.setting, fun task found => (before.pending task found).snoc _,
        fun task found => (before.active task found).snoc _⟩
  | publishes ticked =>
      obtain ⟨nextTick, skipped, rfl⟩ := ticked.state
      refine ⟨before.setting, fun task found => (before.pending task found).snoc _, ?_⟩
      rintro _ ⟨⟩
      dsimp only
      rw [ticked.publication.command, ticked.publication.pattern,
        ticked.publication.activeSymbolCount]
      exact (before.active _ ticked.current).snoc _
  | handles dispatched => exact dispatched.origins run before _
  | @activates command now _ _ task _ _ dispatched idle accepted activated =>
      have middle := dispatched.origins run before now
      rw [activated.state]
      refine ⟨middle.setting, by simp, ?_⟩
      rintro _ ⟨⟩
      exact middle.pending task activated.pending

end Started

/-! ### Outputs -/

/-- Profiles are published by activations only. -/
theorem Round.profiles {api : DxApi} {g next : Generator} {input : Input} {outputs : List Output}
    (round : Round api g input next outputs) {events : List Event}
    (mem : .profiles events ∈ outputs) : g.active = none ∧ next.active.isSome = true := by
  cases round with
  | waits => cases mem
  | publishes ticked =>
      rw [ticked.outputs] at mem
      simp at mem
  | handles dispatched =>
      obtain ⟨events, other⟩ := dispatched.output mem
      cases other
  | activates dispatched idle accepted activated =>
      refine ⟨idle, ?_⟩
      rw [activated.state]
      rfl

/-- Batches are published by an active task only. -/
theorem Round.batch {api : DxApi} {g next : Generator} {input : Input} {outputs : List Output}
    (round : Round api g input next outputs) {retained : List (Text × TimeAndSaleRecord)}
    {events : List Event} (mem : .batch retained events ∈ outputs) :
    g.active.isSome = true ∧ ∃ nowNs now later, input = .tick nowNs now later := by
  cases round with
  | waits => cases mem
  | publishes ticked =>
      rw [ticked.current]
      exact ⟨rfl, _, _, _, rfl⟩
  | handles dispatched =>
      obtain ⟨events, other⟩ := dispatched.output mem
      cases other
  | activates dispatched idle accepted activated =>
      rcases List.mem_append.mp mem with before | started
      · obtain ⟨events, other⟩ := dispatched.output before
        cases other
      · rw [activated.outputs] at started
        simp at started

/-! ### Stopping -/

/-- Whether an input is a start request. -/
def Input.isStart : Input → Bool
  | .command request _ => request.type = .start
  | .tick .. => false

/-- Whether an input stops a task with this name. -/
def Input.stopsTask (name : Text) : Input → Bool
  | .command request _ => request.stopsTask name
  | .tick .. => false

/-- A task that is not stopped stays current. -/
theorem Round.stays {api : DxApi} {g next : Generator} {input : Input} {outputs : List Output}
    (round : Round api g input next outputs) {task : ActiveTask} (current : g.active = some task)
    (kept : input.stopsTask task.command = false) :
    ∃ task', next.active = some task' ∧ task'.command = task.command := by
  cases round with
  | waits => exact ⟨task, current, rfl⟩
  | publishes ticked =>
      obtain ⟨nextTick, skipped, rfl⟩ := ticked.state
      cases current.symm.trans ticked.current
      exact ⟨_, rfl, ticked.publication.command⟩
  | handles dispatched =>
      refine ⟨task, ?_, rfl⟩
      rw [dispatched.active, current, Option.filter_some_pos]
      simpa [Input.stopsTask] using kept
  | activates dispatched idle => exact nomatch current.symm.trans idle

/-- Without a start request an idle generator stays idle. -/
theorem Round.stays_idle {api : DxApi} {g next : Generator} {input : Input}
    {outputs : List Output} (round : Round api g input next outputs) (idle : g.active = none)
    (free : g.pending = none) (quiet : input.isStart = false) :
    next.active = none ∧ next.pending = none := by
  have middle : ∀ {command : Command} {now : Int} {middle : Generator} {outputs : List Output},
      Input.isStart (.command command now) = false → Dispatched g command middle outputs →
      middle.active = none ∧ middle.pending = none := by
    intro command now middle outputs quiet dispatched
    refine ⟨by rw [dispatched.active, idle]; rfl, ?_⟩
    rcases dispatched.pending with kept | ⟨fresh, type, -⟩
    · rw [kept, free]
      rfl
    · simp [Input.isStart, type] at quiet
  cases round with
  | waits => exact ⟨idle, free⟩
  | publishes ticked => exact nomatch idle.symm.trans ticked.current
  | handles dispatched => exact middle quiet dispatched
  | activates dispatched _ _ activated =>
      exact nomatch (middle quiet dispatched).2.symm.trans activated.pending

/-- A STOP of whatever is current leaves no task. -/
theorem Round.stopped {api : DxApi} {g next : Generator} {request : Command} {now : Int}
    {outputs : List Output} (round : Round api g (.command request now) next outputs)
    (type : request.type = .stop)
    (current : ∀ task, g.active = some task → stops request.text task.command = true)
    (pending : ∀ task, g.pending = some task → stops request.text task.command = true) :
    next.active = none ∧ next.pending = none := by
  have gone : ∀ {middle : Generator} {outputs : List Output},
      Dispatched g request middle outputs → middle.active = none ∧ middle.pending = none := by
    intro middle outputs dispatched
    constructor
    · rw [dispatched.active, Option.filter_eq_none_iff]
      intro task found
      simp [Command.stopsTask, type, current task found]
    · rcases dispatched.pending with kept | ⟨fresh, other, -⟩
      · rw [kept, Option.filter_eq_none_iff]
        intro task found
        simp [Command.stopsTask, type, pending task found]
      · exact nomatch type.symm.trans other
  cases round with
  | handles dispatched => exact gone dispatched
  | activates dispatched _ _ activated =>
      exact nomatch (gone dispatched).2.symm.trans activated.pending

/-- Until it is stopped, a task stays current and no Profiles are published. -/
theorem run_stays {api : DxApi} {g last : Generator} {inputs : List Input} {outputs : List Output}
    (wellFormed : g.WellFormed) {task : ActiveTask} (current : g.active = some task)
    (kept : ∀ input ∈ inputs, input.stopsTask task.command = false)
    (run : (machine api).run g inputs = some (last, outputs)) :
    (∃ task', last.active = some task' ∧ task'.command = task.command) ∧
      ∀ events, .profiles events ∉ outputs := by
  refine (machine api).run_history (fun inputs last outputs =>
    (∀ input ∈ inputs, input.stopsTask task.command = false) →
      (∃ task', last.active = some task' ∧ task'.command = task.command) ∧
        ∀ events, .profiles events ∉ outputs) ?_ ?_ run kept
  · intro _
    exact ⟨⟨task, current, rfl⟩, fun events => List.not_mem_nil⟩
  · intro before state earlier input next outputs run ih step kept
    obtain ⟨⟨task', current', named⟩, none⟩ :=
      ih fun other mem => kept other (List.mem_append_left _ mem)
    have round := round_of_step (run_wellFormed wellFormed run) step
    have stays := kept input (by simp)
    rw [← named] at stays
    obtain ⟨task'', current'', named'⟩ := round.stays current' stays
    refine ⟨⟨task'', current'', named'.trans named⟩, ?_⟩
    intro events mem
    rcases List.mem_append.mp mem with old | new
    · exact none events old
    · exact nomatch current'.symm.trans (round.profiles new).1

/-- An idle generator publishes no batch before the next start request. -/
theorem run_idle {api : DxApi} {g last : Generator} {inputs : List Input} {outputs : List Output}
    (wellFormed : g.WellFormed) (idle : g.active = none) (free : g.pending = none)
    (quiet : ∀ input ∈ inputs, input.isStart = false)
    (run : (machine api).run g inputs = some (last, outputs)) :
    (last.active = none ∧ last.pending = none) ∧
      ∀ retained events, .batch retained events ∉ outputs := by
  refine (machine api).run_history (fun inputs last outputs =>
    (∀ input ∈ inputs, input.isStart = false) → (last.active = none ∧ last.pending = none) ∧
      ∀ retained events, .batch retained events ∉ outputs) ?_ ?_ run quiet
  · intro _
    exact ⟨⟨idle, free⟩, fun retained events => List.not_mem_nil⟩
  · intro before state earlier input next outputs run ih step quiet
    obtain ⟨⟨idle', free'⟩, none⟩ := ih fun other mem => quiet other (List.mem_append_left _ mem)
    have round := round_of_step (run_wellFormed wellFormed run) step
    refine ⟨round.stays_idle idle' free' (quiet input (by simp)), ?_⟩
    intro retained events mem
    rcases List.mem_append.mp mem with old | new
    · exact none retained events old
    · have active := (round.batch new).1
      rw [idle'] at active
      cases active

/-! ### The lifecycle -/

/-- What is known when a task becomes active: its accepted start request, its
subscriptions, and that its Profiles are published now and not again. -/
structure Activation (api : DxApi) (limit : Nat) (configured : Option Nat) (start : Int)
    (inputs : List Input) (task : ActiveTask) (next : Generator) (produced : List Output) :
    Prop where
  started : StartedBy api limit configured start inputs task.command task.pattern
    task.activeSymbolCount
  required : next.RequiredSubscribed task.pattern
  profiles : produced = [.profiles (task.pattern.symbolNames.map .profile)]
  once : ∀ rest last later, (machine api).run next rest = some (last, later) →
    (∀ input ∈ rest, input.stopsTask task.command = false) →
    ∀ events, .profiles events ∉ later

theorem activation {api : DxApi} {limit : Nat} {configured : Option Nat} {start : Int}
    {inputs : List Input} {g next : Generator} {input : Input} {outputs produced : List Output}
    (run : (machine api).run (create limit configured start) inputs = some (g, outputs))
    (step : (machine api).step g input = some (next, produced)) (idle : g.active = none)
    {task : ActiveTask} (active : next.active = some task) :
    Activation api limit configured start (inputs ++ [input]) task next produced := by
  have wellFormed := run_wellFormed (wellFormed_create limit configured start) run
  have run' := (machine api).run_append.mpr
    ⟨g, outputs, produced, run, (machine api).run_singleton.mpr step, rfl⟩
  have known : next.RequiredSubscribed task.pattern ∧
      produced = [.profiles (task.pattern.symbolNames.map .profile)] := by
    cases round_of_step wellFormed step with
    | waits => exact nomatch idle.symm.trans active
    | publishes ticked => exact nomatch idle.symm.trans ticked.current
    | handles dispatched =>
        rw [dispatched.active, idle] at active
        cases active
    | activates dispatched _ accepted activated =>
        have silent := dispatched.outputs
        rw [idle] at silent
        rw [activated.state] at active ⊢
        cases active
        exact ⟨(subscriptionsReady_iff accepted _).mp activated.ready,
          by rw [silent, activated.outputs]; rfl⟩
  have kept := run_wellFormed (wellFormed_create limit configured start) run'
  exact ⟨(origins run').active task active, known.1, known.2,
    fun rest last later run continues => (run_stays kept active continues run).2⟩

/-- The lifecycle of tasks, at every point of every run. A pending and an active
task never coexist and no pending task is ready. The next round never fails; it
activates a task only as `Activation` says, otherwise continues the same task,
publishes Profiles only with an activation and batches only for an active task;
and after a STOP of whatever is current there is no batch before the next START. -/
theorem lifecycle (api : DxApi) (limit : Nat) (configured : Option Nat) (start : Int)
    (inputs : List Input) :
    ∃ g outputs, (machine api).run (create limit configured start) inputs = some (g, outputs) ∧
      (g.active = none ∨ g.pending = none) ∧
      (∀ task, g.pending = some task → ¬ g.RequiredSubscribed task.pattern) ∧
      ∀ input, ∃ next produced, (machine api).step g input = some (next, produced) ∧
        (∀ task, g.active = none → next.active = some task →
          Activation api limit configured start (inputs ++ [input]) task next produced) ∧
        (∀ task task', g.active = some task → next.active = some task' →
          task'.command = task.command ∧ task'.pattern = task.pattern ∧
            task'.activeSymbolCount = task.activeSymbolCount) ∧
        (∀ events, .profiles events ∈ produced → g.active = none ∧ next.active.isSome = true) ∧
        (∀ retained events, .batch retained events ∈ produced →
          g.active.isSome = true ∧ ∃ nowNs now later, input = .tick nowNs now later) ∧
        ∀ request now, input = .command request now → request.type = .stop →
          (∀ task, g.active = some task → stops request.text task.command = true) →
          (∀ task, g.pending = some task → stops request.text task.command = true) →
          ∀ rest last later, (machine api).run next rest = some (last, later) →
            (∀ input ∈ rest, input.isStart = false) →
            ∀ retained events, .batch retained events ∉ produced ++ later := by
  obtain ⟨g, outputs, run, wellFormed⟩ :=
    run_ok api (wellFormed_create limit configured start) inputs
  refine ⟨g, outputs, run, wellFormed.exclusive, ?_, ?_⟩
  · intro task pending required
    have ready := (subscriptionsReady_iff (wellFormed.pending task pending) g).mpr required
    rw [wellFormed.waiting task pending] at ready
    cases ready
  · intro input
    obtain ⟨next, produced, step, kept⟩ := step_ok api g input wellFormed
    have round := round_of_step wellFormed step
    refine ⟨next, produced, step, ?_, ?_, ?_, ?_, ?_⟩
    · intro task idle active
      exact activation run step idle active
    · intro task task' current active
      exact round.same_task current active
    · intro events mem
      exact round.profiles mem
    · intro retained events mem
      exact round.batch mem
    · rintro request now rfl type current pending rest last later run quiet retained events mem
      obtain ⟨idle, free⟩ := round.stopped type current pending
      rcases List.mem_append.mp mem with now | after
      · obtain ⟨-, nowNs, now, later, other⟩ := round.batch now
        cases other
      · exact (run_idle kept idle free quiet run).2 retained events after

/-- A task is activated, publishes a batch, and is stopped. -/
theorem lifecycle_stopped :
    let subscribe : Input :=
      .command (enqueueSymbols .symbolsAdded .profile [.string "SYM00".toList]) 0
    let request : Input := .command (enqueueControl .start "SUB:N1".toList) 0
    let first : Input := .tick 1000000 0 0
    let stop : Input := .command (enqueueControl .stop "SUB:N1".toList) 0
    ∃ waiting earlier active produced busy retained events idle stopped task,
      (machine .release).run (create 1000 none 0) [subscribe] = some (waiting, earlier) ∧
        waiting.active = none ∧
        (machine .release).step waiting request = some (active, produced) ∧
        active.active = some task ∧
        Activation .release 1000 none 0 [subscribe, request] task active produced ∧
        (machine .release).step active first = some (busy, [.batch retained events]) ∧
        (machine .release).step busy stop = some (idle, stopped) ∧
        ∀ rest last later, (machine .release).run idle rest = some (last, later) →
          (∀ input ∈ rest, input.isStart = false) →
          ∀ retained events, .batch retained events ∉ stopped ++ later := by
  intro subscribe request first stop
  obtain ⟨waiting, earlier, reached, -, -, rounds⟩ := lifecycle .release 1000 none 0 [subscribe]
  obtain ⟨active, produced, activating, activates, -⟩ := rounds request
  obtain ⟨active', before, run, -, -, rounds⟩ := lifecycle .release 1000 none 0 [subscribe, request]
  obtain ⟨busy, batch, publishing, -⟩ := rounds first
  obtain ⟨busy', published, toBusy, -, -, rounds⟩ :=
    lifecycle .release 1000 none 0 [subscribe, request, first]
  obtain ⟨idle, stopped, stopping, -, -, -, -, stays⟩ := rounds stop
  have initial := wellFormed_create 1000 none 0
  -- The three runs are one.
  have joined := (machine .release).run_append.mpr
    ⟨waiting, earlier, produced, reached, (machine .release).run_singleton.mpr activating, rfl⟩
  cases joined.symm.trans run
  have joined := (machine .release).run_append.mpr
    ⟨active, _, batch, run, (machine .release).run_singleton.mpr publishing, rfl⟩
  cases joined.symm.trans toBusy
  have idles : ((machine .release).run (create 1000 none 0) [subscribe]).map (fun result =>
      result.1.active.isNone) = some true := by
    decide +kernel
  have starts : ((machine .release).run (create 1000 none 0) [subscribe, request]).map
      (fun result => (result.1.active.isSome, result.1.nextTick)) = some (true, 0) := by
    decide +kernel
  have remains : ((machine .release).run (create 1000 none 0) [subscribe, request, first]).map
      (fun result => (result.1.active.map fun task => task.command, result.1.pending.isNone)) =
        some (some "SUB:N1".toList, true) := by
    decide +kernel
  rw [reached, Option.map_some, Option.some_inj, Option.isNone_iff_eq_none] at idles
  rw [run, Option.map_some, Option.some_inj, Prod.mk.injEq, Option.isSome_iff_exists] at starts
  rw [toBusy, Option.map_some, Option.some_inj, Prod.mk.injEq, Option.map_eq_some_iff,
    Option.isNone_iff_eq_none] at remains
  obtain ⟨⟨task, current⟩, due⟩ := starts
  obtain ⟨⟨task', current', named⟩, free⟩ := remains
  have round : Round .release active (.tick 1000000 0 0) busy batch :=
    round_of_step (run_wellFormed initial run) publishing
  cases round with
  | waits early =>
      have late := early task current
      rw [due] at late
      cases late
  | @publishes _ _ _ _ _ result _ _ ticked =>
      rw [ticked.outputs] at publishing
      refine ⟨waiting, earlier, active, produced, busy, result.retained, result.events, idle,
        stopped, task, reached, idles, activating, current, activates task idles current,
        publishing, stopping, ?_⟩
      refine stays _ 0 rfl rfl (fun task found => ?_) (fun task found => ?_)
      · cases current'.symm.trans found
        rw [stops, named]
        rfl
      · cases free.symm.trans found

end Generator

end LatencyTest
