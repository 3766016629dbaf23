import LatencyTest.Server.Lifecycle

/-!
The command queue between the subscription callbacks and the worker, and who can
stop whose task. A `Notification` is what happens outside the worker; the worker
takes one command a round. A callback over several symbols locks the queue once
for each of them: callbacks that interleave are notifications of one symbol each.
The main result is `control_isolation`.
-/

namespace LatencyTest

/-! ### Notifications -/

/-- A callback of an observed subscription or of the control subscription, or the
automatic task of the configuration. -/
inductive Notification where
  | observedAdded (kind : SubscriptionKind) (symbols : List SymbolWrapper)
  | observedRemoved (kind : SubscriptionKind) (symbols : List SymbolWrapper)
  | observedClosed (kind : SubscriptionKind)
  | controlAdded (symbols : List SymbolWrapper)
  | controlRemoved (symbols : List SymbolWrapper)
  | controlClosed
  | configuredTask (text : Text)
deriving DecidableEq

/-- The task text of a control symbol. Marker symbols are no task texts. -/
def SymbolWrapper.controlText : SymbolWrapper → Option Text
  | .string text => if isMarkerSymbol text then none else some text
  | _ => none

/-- The commands a notification enqueues. -/
def Notification.commands : Notification → List Command
  | .observedAdded kind symbols => [enqueueSymbols .symbolsAdded kind symbols]
  | .observedRemoved kind symbols => [enqueueSymbols .symbolsRemoved kind symbols]
  | .observedClosed kind => [enqueueSubscriptionClosed kind]
  | .controlAdded symbols =>
      (symbols.filterMap SymbolWrapper.controlText).map (enqueueControl .start)
  | .controlRemoved symbols =>
      (symbols.filterMap SymbolWrapper.controlText).map (enqueueControl .stop)
  | .controlClosed => [enqueueControl .stop []]
  | .configuredTask text => [enqueueControl .start text]

theorem SymbolWrapper.controlText_eq_some {symbol : SymbolWrapper} {text : Text} :
    symbol.controlText = some text ↔ symbol = .string text ∧ isMarkerSymbol text = false := by
  cases symbol with
  | string name =>
      simp only [controlText, SymbolWrapper.string.injEq]
      split
      · rename_i marker
        constructor
        · rintro ⟨⟩
        · rintro ⟨rfl, task⟩
          exact nomatch marker.symm.trans task
      · rename_i task
        constructor
        · rintro ⟨⟩
          exact ⟨rfl, Bool.eq_false_iff.mpr task⟩
        · rintro ⟨rfl, -⟩
          rfl
  | timeSeries | other => simp [controlText]

/-- Where a STOP in the queue comes from: a removed control symbol with its text,
or the closure of the control subscription, whose STOP has no text. -/
theorem Notification.stop_mem {notification : Notification} {command : Command}
    (mem : command ∈ notification.commands) (type : command.type = .stop) :
    (∃ symbols, notification = .controlRemoved symbols ∧ .string command.text ∈ symbols) ∨
      notification = .controlClosed ∧ command.text = [] := by
  cases notification with
  | observedAdded | observedRemoved | observedClosed | configuredTask =>
      rw [List.mem_singleton.mp mem] at type
      cases type
  | controlAdded symbols =>
      obtain ⟨text, -, rfl⟩ := List.mem_map.mp mem
      cases type
  | controlRemoved symbols =>
      obtain ⟨text, named, rfl⟩ := List.mem_map.mp mem
      obtain ⟨symbol, present, read⟩ := List.mem_filterMap.mp named
      obtain ⟨rfl, -⟩ := SymbolWrapper.controlText_eq_some.mp read
      exact .inl ⟨symbols, rfl, present⟩
  | controlClosed =>
      rw [List.mem_singleton.mp mem]
      exact .inr ⟨rfl, rfl⟩

/-! ### The queue -/

/-- The command queue and the worker. -/
structure Server where
  commands : List Command := []
  generator : Generator

namespace Server

/-- A notification, or a round of the worker loop with the clock values it reads. -/
inductive Input where
  | notify (notification : Notification)
  | round (nowNs now later : Int)
deriving DecidableEq

/-- What a round of the worker does: the front command, or a publication. -/
def Input.taken (s : Server) (nowNs now later : Int) : Generator.Input :=
  match s.commands with
  | [] => .tick nowNs now later
  | command :: _ => .command command now

/-- The queue and the worker loop. -/
def machine (api : DxApi) : Lib.Machine Server Input Output where
  step s
    | .notify notification => some ({ s with commands := s.commands ++ notification.commands }, [])
    | .round nowNs now later =>
        ((Generator.machine api).step s.generator (Input.taken s nowNs now later)).map
          fun (generator, outputs) => ({ commands := s.commands.tail, generator }, outputs)

/-- The server when its worker starts. -/
def create (timeSeriesHistoryLimit : Nat) (activeSymbolCount : Option Nat) (now : Int) :
    Server where
  generator := Generator.create timeSeriesHistoryLimit activeSymbolCount now

section Runs

variable {api : DxApi} {limit : Nat} {configured : Option Nat} {start : Int}

/-- The worker of a server run is a run of the generator. -/
theorem run_generator {inputs : List Input} {s : Server} {outputs : List Output}
    (run : (machine api).run (create limit configured start) inputs = some (s, outputs)) :
    ∃ rounds, (Generator.machine api).run (.create limit configured start) rounds =
      some (s.generator, outputs) := by
  refine (machine api).run_history (fun _ s outputs => ∃ rounds,
    (Generator.machine api).run (.create limit configured start) rounds =
      some (s.generator, outputs)) ⟨[], rfl⟩ ?_ run
  rintro before s earlier input next outputs - ⟨rounds, sofar⟩ step
  cases input with
  | notify notification =>
      cases step
      exact ⟨rounds, by rw [List.append_nil]; exact sofar⟩
  | round nowNs now later =>
      obtain ⟨⟨generator, produced⟩, taken, same⟩ := Option.map_eq_some_iff.mp step
      cases same
      exact ⟨rounds ++ [Input.taken s nowNs now later], (Generator.machine api).run_append.mpr
        ⟨_, _, _, sofar, (Generator.machine api).run_singleton.mpr taken, rfl⟩⟩

/-- Every command in the queue was enqueued by a notification of the run. -/
theorem run_enqueued {inputs : List Input} {s : Server} {outputs : List Output}
    (run : (machine api).run (create limit configured start) inputs = some (s, outputs)) :
    ∀ command ∈ s.commands, ∃ notification, .notify notification ∈ inputs ∧
      command ∈ notification.commands := by
  refine (machine api).run_history (fun inputs s _ => ∀ command ∈ s.commands,
    ∃ notification, .notify notification ∈ inputs ∧ command ∈ notification.commands) ?_ ?_ run
  · intro command mem
    cases mem
  · intro before s earlier input next outputs _ known step command mem
    have old : command ∈ s.commands → ∃ notification, .notify notification ∈ before ++ [input] ∧
        command ∈ notification.commands := by
      intro mem
      obtain ⟨notification, told, enqueued⟩ := known command mem
      exact ⟨notification, List.mem_append_left _ told, enqueued⟩
    cases input with
    | notify notification =>
        cases step
        rcases List.mem_append.mp mem with before | enqueued
        · exact old before
        · exact ⟨notification, by simp, enqueued⟩
    | round nowNs now later =>
        obtain ⟨⟨generator, produced⟩, taken, same⟩ := Option.map_eq_some_iff.mp step
        cases same
        exact old (List.mem_of_mem_tail mem)

end Runs

end Server

/-! ### The current task -/

namespace Generator

/-- Whether a STOP with this text stops a task with this name. -/
theorem stopsTask_enqueueControl (text name : Text) :
    (enqueueControl .stop text).stopsTask name = true ↔ text = [] ∨ name = text := by
  change (true && stops text name) = true ↔ _
  simp only [stops, Bool.true_and, Bool.or_eq_true, decide_eq_true_eq]

/-- The name of the task that is active or pending. -/
def current (g : Generator) : Option Text :=
  (g.active.map fun task => task.command).or (g.pending.map fun task => task.command)

theorem current_of_active {g : Generator} {task : ActiveTask} (active : g.active = some task) :
    g.current = some task.command := by
  rw [current, active]
  rfl

theorem current_of_pending {g : Generator} (idle : g.active = none) :
    g.current = g.pending.map fun task => task.command := by
  rw [current, idle]
  rfl

/-- A task is not current any more after the commands that stop it, and only after
these. -/
theorem Dispatched.current {g next : Generator} {command : Command} {outputs : List Output}
    (h : Dispatched g command next outputs) (consistent : g.Consistent) {name : Text}
    (named : g.current = some name) :
    next.current = if command.stopsTask name then none else some name := by
  cases active : g.active with
  | some task =>
      rw [current_of_active active] at named
      cases named
      have free := consistent.exclusive.resolve_left (by simp [active])
      have none : next.pending = none := by
        rcases h.pending with kept | ⟨_, _, idle, _⟩
        · rw [kept, free]
          rfl
        · exact nomatch active.symm.trans idle
      rw [Generator.current, h.active, active, none]
      cases stopped : command.stopsTask task.command <;> simp [stopped]
  | none =>
      rw [current_of_pending active] at named
      obtain ⟨task, pending, rfl⟩ := Option.map_eq_some_iff.mp named
      rw [current_of_pending (by rw [h.active, active]; rfl)]
      rcases h.pending with kept | ⟨_, _, _, free, _⟩
      · rw [kept, pending]
        cases stopped : command.stopsTask task.command <;> simp [stopped]
      · exact nomatch pending.symm.trans free

/-- The same for a round of the worker. -/
theorem Round.current {api : DxApi} {g next : Generator} {input : Input} {outputs : List Output}
    (round : Round api g input next outputs) (wellFormed : g.WellFormed) {name : Text}
    (named : g.current = some name) :
    next.current = if input.stopsTask name then none else some name := by
  cases round with
  | waits => exact named
  | publishes ticked =>
      obtain ⟨nextTick, skipped, rfl⟩ := ticked.state
      rw [current_of_active ticked.current] at named
      rw [current_of_active rfl]
      exact (congrArg some ticked.publication.command).trans named
  | handles dispatched => exact dispatched.current wellFormed.toConsistent named
  | activates dispatched idle accepted activated =>
      have middle := dispatched.current wellFormed.toConsistent named
      rw [current_of_pending activated.idle, activated.pending] at middle
      rw [activated.state, current_of_active rfl]
      exact middle

/-- The name of a current task is the text of an accepted start request. -/
theorem current_parsed {api : DxApi} {limit : Nat} {configured : Option Nat} {start : Int}
    {inputs : List Input} {g : Generator} {outputs : List Output}
    (run : (machine api).run (create limit configured start) inputs = some (g, outputs))
    {name : Text} (named : g.current = some name) : ∃ pattern, parseTask name = .ok pattern := by
  have known := origins run
  cases active : g.active with
  | some task =>
      rw [current_of_active active] at named
      cases named
      obtain ⟨_, _, _, _, _, _, _, _, _, parsed, _⟩ := known.active task active
      exact ⟨_, parsed⟩
  | none =>
      rw [current_of_pending active] at named
      obtain ⟨task, pending, rfl⟩ := Option.map_eq_some_iff.mp named
      obtain ⟨_, _, _, _, _, _, _, _, _, parsed, _⟩ := known.pending task pending
      exact ⟨_, parsed⟩

/-- No task has the empty name. -/
theorem current_ne_nil {api : DxApi} {limit : Nat} {configured : Option Nat} {start : Int}
    {inputs : List Input} {g : Generator} {outputs : List Output}
    (run : (machine api).run (create limit configured start) inputs = some (g, outputs))
    {name : Text} (named : g.current = some name) : name ≠ [] := by
  rintro rfl
  obtain ⟨pattern, parsed⟩ := current_parsed run named
  cases parsed

/-- Handling a command loses a task: it was current before and is not after. -/
def Loses (g : Generator) (command : Command) (now : Int) (name : Text) : Prop :=
  g.current = some name ∧ (g.handleCommand command now).1.current ≠ some name

theorem loses_iff {g : Generator} (api : DxApi) (wellFormed : g.WellFormed) (command : Command)
    (now : Int) (name : Text) :
    g.Loses command now name ↔ g.current = some name ∧ command.stopsTask name = true := by
  refine and_congr_right fun named => ?_
  have round : Round api g (.command command now) (g.handleCommand command now).1
      (g.handleCommand command now).2 := round_of_step wellFormed rfl
  rw [round.current wellFormed named, Input.stopsTask]
  cases command.stopsTask name <;> simp

end Generator

/-! ### Isolation -/

namespace Server

/-- Who may stop a task, by the command of the round in which it stops. -/
inductive StoppedBy (inputs : List Input) (command : Command) (name : Text) : Prop where
  /-- A client removed the name of its task. -/
  | removed {symbols : List SymbolWrapper}
      (told : .notify (.controlRemoved symbols) ∈ inputs) (named : .string name ∈ symbols)
      (same : command.text = name)
  /-- The whole control subscription was closed. -/
  | closed (told : .notify .controlClosed ∈ inputs) (untold : command.text = [])

/-- A task stops in a round only by those who may stop it, unless the empty string
was removed from the control subscription. -/
theorem round_stoppedBy {api : DxApi} {limit : Nat} {configured : Option Nat} {start : Int}
    {inputs : List Input} {s next : Server} {outputs produced : List Output}
    (run : (machine api).run (create limit configured start) inputs = some (s, outputs))
    {nowNs now later : Int}
    (step : (machine api).step s (.round nowNs now later) = some (next, produced)) {name : Text}
    (named : s.generator.current = some name) (lost : next.generator.current ≠ some name) :
    ∃ command rest, s.commands = command :: rest ∧ (StoppedBy inputs command name ∨
      ∃ symbols, .notify (.controlRemoved symbols) ∈ inputs ∧ .string [] ∈ symbols) := by
  obtain ⟨rounds, generatorRun⟩ := run_generator run
  have wellFormed := Generator.run_wellFormed (Generator.wellFormed_create _ _ _) generatorRun
  obtain ⟨⟨generator, later'⟩, taken, same⟩ := Option.map_eq_some_iff.mp step
  cases same
  have after := (Generator.round_of_step wellFormed taken).current wellFormed named
  cases queue : s.commands with
  | nil =>
      simp only [Input.taken, queue] at after
      exact absurd after lost
  | cons command rest =>
      refine ⟨command, rest, rfl, ?_⟩
      simp only [Input.taken, queue, Generator.Input.stopsTask] at after
      have stopped : command.stopsTask name = true := by
        by_contra kept
        rw [if_neg kept] at after
        exact lost after
      simp only [Command.stopsTask, Generator.stops, Bool.and_eq_true, Bool.or_eq_true,
        decide_eq_true_eq] at stopped
      obtain ⟨type, text⟩ := stopped
      obtain ⟨notification, told, enqueued⟩ := run_enqueued run command (by simp [queue])
      rcases Notification.stop_mem enqueued type with ⟨symbols, rfl, present⟩ | ⟨rfl, untold⟩
      · rcases text with empty | same
        · rw [empty] at present
          exact .inr ⟨symbols, told, present⟩
        · rw [← same] at present
          exact .inl (.removed told present same.symm)
      · exact .inl (.closed told untold)

/-- Clients and tasks, in every reachable state. The STOP of a removed string `u`
stops no task of another name exactly if `u` is not empty or no task is current.
In a run in which no client removes the empty string, a task stops only when its
own name is removed or the control subscription is closed. -/
theorem control_isolation (api : DxApi) (limit : Nat) (configured : Option Nat) (start : Int)
    {inputs : List Input} {s : Server} {outputs : List Output}
    (run : (machine api).run (create limit configured start) inputs = some (s, outputs)) :
    (∀ symbols, ∀ command ∈ (Notification.controlRemoved symbols).commands,
      ∃ u, command = enqueueControl .stop u ∧ .string u ∈ symbols ∧
        ∀ now, (∀ name, s.generator.Loses command now name → name = u) ↔
          u ≠ [] ∨ s.generator.current = none) ∧
    ((∀ symbols, .notify (.controlRemoved symbols) ∈ inputs → .string [] ∉ symbols) →
      ∀ nowNs now later next produced name,
        (machine api).step s (.round nowNs now later) = some (next, produced) →
        s.generator.current = some name → next.generator.current ≠ some name →
        ∃ command rest, s.commands = command :: rest ∧ StoppedBy inputs command name) := by
  obtain ⟨rounds, generatorRun⟩ := run_generator run
  have wellFormed := Generator.run_wellFormed (Generator.wellFormed_create _ _ _) generatorRun
  constructor
  · intro symbols command enqueued
    obtain ⟨u, named, rfl⟩ := List.mem_map.mp enqueued
    obtain ⟨symbol, present, read⟩ := List.mem_filterMap.mp named
    obtain ⟨rfl, -⟩ := SymbolWrapper.controlText_eq_some.mp read
    refine ⟨u, rfl, present, ?_⟩
    intro now
    simp only [Generator.loses_iff api wellFormed, Generator.stopsTask_enqueueControl]
    constructor
    · intro isolated
      by_contra other
      obtain ⟨empty, busy⟩ := not_or.mp other
      obtain ⟨name, current⟩ := Option.ne_none_iff_exists'.mp busy
      rw [not_not] at empty
      have same := isolated name ⟨current, .inl empty⟩
      exact Generator.current_ne_nil generatorRun current (same.trans empty)
    · rintro allowed name ⟨current, empty | same⟩
      · rcases allowed with some | idle
        · exact absurd empty some
        · exact nomatch current.symm.trans idle
      · exact same
  · intro never nowNs now later next produced name step named lost
    obtain ⟨command, rest, queue, by' | ⟨symbols, told, empty⟩⟩ :=
      round_stoppedBy run step named lost
    · exact ⟨command, rest, queue, by'⟩
    · exact absurd empty (never symbols told)

/-- A task is pending when a client removes the empty string, which stops it. -/
theorem empty_string_stops_task :
    let inputs : List Input :=
      [.notify (.controlAdded [.string "SUB:Q1".toList]), .round 0 0 0]
    ∃ s outputs, (machine .release).run (create 1000 none 0) inputs = some (s, outputs) ∧
      enqueueControl .stop [] ∈ (Notification.controlRemoved [.string []]).commands ∧
      s.generator.Loses (enqueueControl .stop []) 0 "SUB:Q1".toList ∧ "SUB:Q1".toList ≠ [] := by
  intro inputs
  have pending : ((machine .release).run (create 1000 none 0) inputs).map
      (fun result => result.1.generator.current) = some (some "SUB:Q1".toList) := by
    decide +kernel
  obtain ⟨⟨s, outputs⟩, run, current⟩ := Option.map_eq_some_iff.mp pending
  obtain ⟨rounds, generatorRun⟩ := run_generator run
  have wellFormed := Generator.run_wellFormed (Generator.wellFormed_create _ _ _) generatorRun
  refine ⟨s, outputs, run, by decide, ?_, by decide⟩
  exact (Generator.loses_iff .release wellFormed _ 0 _).mpr
    ⟨current, (Generator.stopsTask_enqueueControl [] _).mpr (.inl rfl)⟩

/-- Another client removes its own text while the task is pending. -/
theorem control_isolation_other_text :
    ∃ s outputs, (machine .release).run (create 1000 none 0)
        [.notify (.controlAdded [.string "SUB:Q1".toList]), .round 0 0 0] = some (s, outputs) ∧
      s.generator.current = some "SUB:Q1".toList ∧
      ¬ s.generator.Loses (enqueueControl .stop "SUB:T1".toList) 0 "SUB:Q1".toList := by
  have pending : ((machine .release).run (create 1000 none 0)
      [.notify (.controlAdded [.string "SUB:Q1".toList]), .round 0 0 0]).map
      (fun result => result.1.generator.current) = some (some "SUB:Q1".toList) := by
    decide +kernel
  obtain ⟨⟨s, outputs⟩, run, current⟩ := Option.map_eq_some_iff.mp pending
  refine ⟨s, outputs, run, current, ?_⟩
  intro lost
  obtain ⟨u, same, -, isolated⟩ := (control_isolation .release 1000 none 0 run).1
    [.string "SUB:T1".toList] (enqueueControl .stop "SUB:T1".toList) (by decide)
  have text : "SUB:T1".toList = u := congrArg Command.text same
  have stopped := (isolated 0).mpr (.inl (by rw [← text]; decide)) _ lost
  rw [← text] at stopped
  exact absurd stopped (by decide)

end Server

end LatencyTest
