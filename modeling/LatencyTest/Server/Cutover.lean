import LatencyTest.Server.Lifecycle

/-!
From a time-series subscription to the live TimeAndSale events of its symbol.
While a task is active the subscription is answered at once with a snapshot, and
from then on every generated record is sent (`cutover`). A symbol that is already
subscribed when a task is activated gets no snapshot from that task: exactly then
live events can arrive without one (`snapshot_before_live_iff`).
-/

namespace LatencyTest

/-! ### What is sent and what is generated -/

/-- The TimeAndSale events of a call of `publishEvents`. -/
def Output.timeAndSales : Output → List TimeAndSale
  | .profiles _ => []
  | .snapshot events => events
  | .batch _ events => LatencyTest.timeAndSales events

/-- The records generated for a call of `publishEvents`. -/
def Output.generated : Output → List (Text × TimeAndSaleRecord)
  | .batch retained _ => retained
  | _ => []

/-- Whether a command removes, closes or adds again the TimeAndSale subscription of
a symbol. -/
def Command.resubscribes (symbol : Text) (command : Command) : Bool :=
  command.subscription = .timeAndSale &&
    match command.type with
    | .symbolsAdded => symbol ∈ command.symbols || symbol ∈ command.timeSeriesRequests.map Prod.fst
    | .symbolsRemoved => symbol ∈ command.symbols
    | .subscriptionClosed => true
    | _ => false

namespace Generator

def Input.resubscribes (symbol : Text) : Input → Bool
  | .command request _ => request.resubscribes symbol
  | .tick .. => false

/-- The records sent for a symbol, in order: its TimeAndSale events other than
REMOVE events. -/
def sentRecords (symbol : Text) (outputs : List Output) : List TimeAndSaleRecord :=
  ((outputs.flatMap Output.timeAndSales).filter fun event =>
    event.eventSymbol = symbol && !event.eventFlags.removeEvent).map TimeAndSale.record

/-- The records generated for a symbol, in order, whether sent or not. -/
def generatedRecords (symbol : Text) (outputs : List Output) : List TimeAndSaleRecord :=
  recordsOf symbol (outputs.flatMap Output.generated)

theorem sentRecords_append (symbol : Text) (xs ys : List Output) :
    sentRecords symbol (xs ++ ys) = sentRecords symbol xs ++ sentRecords symbol ys := by
  simp [sentRecords]

theorem generatedRecords_append (symbol : Text) (xs ys : List Output) :
    generatedRecords symbol (xs ++ ys) =
      generatedRecords symbol xs ++ generatedRecords symbol ys := by
  simp [generatedRecords, recordsOf]

/-- What a snapshot sends of a symbol depends on the events of that symbol. -/
theorem sentRecords_snapshot (symbol : Text) (events : List TimeAndSale) :
    sentRecords symbol [.snapshot events] =
      ((events.filter (·.eventSymbol = symbol)).filter fun event =>
        !event.eventFlags.removeEvent).map TimeAndSale.record := by
  simp only [sentRecords, List.flatMap_singleton, Output.timeAndSales, List.filter_filter]
  congr 2
  funext event
  rw [Bool.and_comm]

/-- A publication sends the generated records of every subscribed symbol. -/
theorem Ticked.sentRecords {api : DxApi} {g next : Generator} {nowNs : Int} {active : ActiveTask}
    {choices : Nat → List Choice} {result : Published} {outputs : List Output}
    (h : Ticked api g nowNs active choices result next outputs) {symbol : Text}
    (subscribed : symbol ∈ g.subscribedSymbols .timeAndSale) :
    Generator.sentRecords symbol outputs = generatedRecords symbol outputs := by
  obtain ⟨records, flags⟩ := h.publication.timeAndSales_events
  have live : (timeAndSales result.events).filter (fun event =>
      event.eventSymbol = symbol && !event.eventFlags.removeEvent) =
        (timeAndSales result.events).filter (·.eventSymbol = symbol) := by
    apply List.filter_congr
    intro event mem
    simp [flags event mem]
  have named : ((timeAndSales result.events).filter (·.eventSymbol = symbol)).map
      TimeAndSale.record = recordsOf symbol (result.retained.filter
        (·.1 ∈ g.subscribedSymbols .timeAndSale)) := by
    rw [← records, recordsOf, List.filter_map, List.map_map]
    rfl
  have all : recordsOf symbol (result.retained.filter
      (·.1 ∈ g.subscribedSymbols .timeAndSale)) = recordsOf symbol result.retained := by
    rw [recordsOf, recordsOf, List.filter_filter]
    congr 1
    apply List.filter_congr
    intro call _
    by_cases same : call.1 = symbol
    · simp [same, subscribed]
    · simp [same]
  rw [h.outputs, Generator.sentRecords, generatedRecords, List.flatMap_singleton,
    List.flatMap_singleton, Output.timeAndSales, Output.generated, live, named, all]

/-! ### Cutover -/

/-- A symbol stays subscribed until a command says otherwise. -/
theorem Dispatched.stays_subscribed {g next : Generator} {command : Command}
    {outputs : List Output} (h : Dispatched g command next outputs) {symbol : Text}
    (subscribed : symbol ∈ g.subscribedSymbols .timeAndSale)
    (kept : command.resubscribes symbol = false) :
    symbol ∈ next.subscribedSymbols .timeAndSale := by
  rw [h.subscribed]
  by_cases same : command.subscription = .timeAndSale
  · rw [same, Function.update_self]
    simp only [Command.resubscribes, same, decide_true, Bool.true_and] at kept
    unfold updateSymbols
    cases type : command.type <;> simp_all
  · rwa [Function.update_of_ne (Ne.symm same)]

/-- A command without a request for a symbol sends nothing for it. -/
theorem Dispatched.sends_nothing {g next : Generator} {command : Command} {outputs : List Output}
    (h : Dispatched g command next outputs) {symbol : Text}
    (kept : command.resubscribes symbol = false) : sentRecords symbol outputs = [] := by
  rw [h.outputs]
  cases here : g.active with
  | none => rfl
  | some active =>
      dsimp only [snapshots]
      split
      · rename_i requested
        obtain ⟨type, subscription, -⟩ := requested
        rw [sentRecords_snapshot, publishTimeSeriesSnapshots_events]
        have other : ∀ event ∈ command.timeSeriesRequests.flatMap (fun request =>
            snapshotEvents (active.timeAndSaleHistory request.1) request.1 request.2),
            ¬ (decide (event.eventSymbol = symbol)) = true := by
          intro event mem
          obtain ⟨request, asked, inside⟩ := List.mem_flatMap.mp mem
          rw [snapshotEvents_symbol inside, decide_eq_true_eq]
          rintro rfl
          simp only [Command.resubscribes, type, subscription, decide_true, Bool.true_and,
            Bool.or_eq_false_iff, decide_eq_false_iff_not] at kept
          exact kept.2 (List.mem_map_of_mem asked)
        rw [List.filter_eq_nil_iff.mpr other]
        rfl
      · rfl

theorem Dispatched.generates_nothing {g next : Generator} {command : Command}
    {outputs : List Output} (h : Dispatched g command next outputs) (symbol : Text) :
    generatedRecords symbol outputs = [] := by
  have none : outputs.flatMap Output.generated = [] := by
    apply List.flatMap_eq_nil_iff.mpr
    intro output mem
    obtain ⟨events, rfl⟩ := h.output mem
    rfl
  rw [generatedRecords, none]
  rfl

/-- A round of an active task sends what it generates for a subscribed symbol. -/
theorem Round.sends {api : DxApi} {g next : Generator} {input : Input} {outputs : List Output}
    (round : Round api g input next outputs) {task : ActiveTask} (current : g.active = some task)
    {symbol : Text} (subscribed : symbol ∈ g.subscribedSymbols .timeAndSale)
    (kept : input.resubscribes symbol = false) :
    symbol ∈ next.subscribedSymbols .timeAndSale ∧
      sentRecords symbol outputs = generatedRecords symbol outputs := by
  cases round with
  | waits => exact ⟨subscribed, rfl⟩
  | publishes ticked =>
      refine ⟨?_, ticked.sentRecords subscribed⟩
      obtain ⟨nextTick, skipped, rfl⟩ := ticked.state
      exact subscribed
  | handles dispatched =>
      refine ⟨dispatched.stays_subscribed subscribed kept, ?_⟩
      rw [dispatched.sends_nothing kept, dispatched.generates_nothing]
  | activates dispatched idle => exact nomatch current.symm.trans idle

/-- While a task stays current and a symbol subscribed, everything generated for
the symbol is sent, in order. -/
theorem run_sends {api : DxApi} {g last : Generator} {inputs : List Input} {outputs : List Output}
    (wellFormed : g.WellFormed) {task : ActiveTask} (current : g.active = some task)
    {symbol : Text} (subscribed : symbol ∈ g.subscribedSymbols .timeAndSale)
    (kept : ∀ input ∈ inputs, input.stopsTask task.command = false ∧
      input.resubscribes symbol = false)
    (run : (machine api).run g inputs = some (last, outputs)) :
    sentRecords symbol outputs = generatedRecords symbol outputs := by
  refine ((machine api).run_history (fun inputs last outputs =>
    (∀ input ∈ inputs, input.stopsTask task.command = false ∧
      input.resubscribes symbol = false) →
      symbol ∈ last.subscribedSymbols .timeAndSale ∧
        sentRecords symbol outputs = generatedRecords symbol outputs) ?_ ?_ run kept).2
  · intro _
    exact ⟨subscribed, rfl⟩
  · intro before state earlier input next outputs run ih step kept
    have sofar := fun other mem => kept other (List.mem_append_left [input] mem)
    obtain ⟨subscribed, sent⟩ := ih sofar
    obtain ⟨⟨task', current', -⟩, -⟩ :=
      run_stays wellFormed current (fun other mem => (sofar other mem).1) run
    have round := round_of_step (run_wellFormed wellFormed run) step
    obtain ⟨subscribed', sent'⟩ := round.sends current' subscribed (kept input (by simp)).2
    refine ⟨subscribed', ?_⟩
    rw [sentRecords_append, generatedRecords_append, sent, sent']

/-- A requested symbol is one of the added symbols. -/
theorem mem_symbols_of_request {symbols : List SymbolWrapper} {symbol : Text} {fromTime : Int}
    (request : (symbol, fromTime) ∈ symbols.filterMap SymbolWrapper.request) :
    symbol ∈ symbols.filterMap SymbolWrapper.name := by
  obtain ⟨wrapper, mem, asked⟩ := List.mem_filterMap.mp request
  refine List.mem_filterMap.mpr ⟨wrapper, mem, ?_⟩
  cases wrapper <;> simp_all [SymbolWrapper.request, SymbolWrapper.name]

/-- The cutover from history to live events. At any point of any run with an
active task, a command that adds the TimeAndSale request of a symbol is answered
with the retained records of the requested range, newest first; from then on,
until the subscription of the symbol changes or the task stops, exactly the records
generated for the symbol are sent, in the order of their generation. A callback
delivers a set of symbols, so a symbol has one request in a command. -/
theorem cutover (api : DxApi) (limit : Nat) (configured : Option Nat) (start : Int)
    (before : List Input) :
    ∃ g earlier, (machine api).run (create limit configured start) before = some (g, earlier) ∧
      ∀ task symbols symbol fromTime now rest, g.active = some task →
        (symbols.filterMap SymbolWrapper.request).filter (·.1 = symbol) = [(symbol, fromTime)] →
        (∀ input ∈ rest, input.stopsTask task.command = false ∧
          input.resubscribes symbol = false) →
        ∃ last outputs, (machine api).run g
            (.command (enqueueSymbols .symbolsAdded .timeAndSale symbols) now :: rest) =
              some (last, outputs) ∧
          sentRecords symbol outputs =
            requestedRecords (task.timeAndSaleHistory symbol) fromTime ++
              generatedRecords symbol outputs := by
  obtain ⟨g, earlier, reached, wellFormed⟩ :=
    run_ok api (wellFormed_create limit configured start) before
  refine ⟨g, earlier, reached, ?_⟩
  intro task symbols symbol fromTime now rest current single kept
  let command := enqueueSymbols .symbolsAdded .timeAndSale symbols
  have asked : (symbol, fromTime) ∈ symbols.filterMap SymbolWrapper.request := by
    have here : (symbol, fromTime) ∈
        (symbols.filterMap SymbolWrapper.request).filter (·.1 = symbol) := by simp [single]
    exact (List.mem_filter.mp here).1
  obtain ⟨next, first, step, kept'⟩ := step_ok api g (.command command now) wellFormed
  obtain ⟨last, outputs, run, -⟩ := run_ok api kept' rest
  refine ⟨last, first ++ outputs,
    (machine api).run_cons.mpr ⟨next, first, outputs, step, run, rfl⟩, ?_⟩
  have dispatched : Dispatched g command next first := by
    cases round_of_step wellFormed step with
    | handles dispatched => exact dispatched
    | activates dispatched idle => exact nomatch current.symm.trans idle
  have active : next.active = some task := by
    rw [dispatched.active, current, Option.filter_some_pos]
    rfl
  have subscribed : symbol ∈ next.subscribedSymbols .timeAndSale := by
    rw [dispatched.subscribed]
    have added : symbol ∈ symbols.filterMap SymbolWrapper.name := mem_symbols_of_request asked
    simp [command, enqueueSymbols, updateSymbols, -List.mem_filterMap, added]
  have answered : sentRecords symbol first =
      requestedRecords (task.timeAndSaleHistory symbol) fromTime := by
    have requested : command.type = .symbolsAdded ∧ command.subscription = .timeAndSale ∧
        command.timeSeriesRequests ≠ [] := ⟨rfl, rfl, List.ne_nil_of_mem asked⟩
    have single : command.timeSeriesRequests.filter (·.1 = symbol) = [(symbol, fromTime)] := single
    rw [dispatched.outputs, current, snapshots, if_pos requested, sentRecords_snapshot,
      publishTimeSeriesSnapshots_filter, single, List.flatMap_singleton, snapshotEvents_actual]
  rw [sentRecords_append, generatedRecords_append, answered, dispatched.generates_nothing,
    run_sends kept' active subscribed kept run, List.nil_append]

/-- A client asks for the history of a symbol after two ticks; the third one is live. -/
theorem cutover_third_tick :
    let symbol : Text := "SYM00".toList
    let before : List Input :=
      [.command (enqueueSymbols .symbolsAdded .profile [.string symbol]) 0,
        .command (enqueueControl .start "SUB:N1".toList) 0, .tick 1000000 0 0,
        .tick 2000000 1000000000 1000000000]
    let after : List Input :=
      [.command (enqueueSymbols .symbolsAdded .timeAndSale [.timeSeries symbol 0]) 1000000000,
        .tick 3000000 2000000000 2000000000]
    ∃ g earlier task last outputs,
      (machine .release).run (create 1000 none 0) before = some (g, earlier) ∧
        g.active = some task ∧ (machine .release).run g after = some (last, outputs) ∧
        sentRecords symbol outputs =
          requestedRecords (task.timeAndSaleHistory symbol) 0 ++
            generatedRecords symbol outputs ∧
        (requestedRecords (task.timeAndSaleHistory symbol) 0).map TimeAndSaleRecord.timeNanos =
          [2000000, 1000000] ∧
        (generatedRecords symbol outputs).map TimeAndSaleRecord.timeNanos = [3000000] := by
  intro symbol before after
  obtain ⟨g, earlier, reached, sends⟩ := cutover .release 1000 none 0 before
  have retained : ((machine .release).run (create 1000 none 0) before).map (fun result =>
      result.1.active.map fun task => (requestedRecords (task.timeAndSaleHistory symbol) 0).map
        TimeAndSaleRecord.timeNanos) = some (some [2000000, 1000000]) := by
    decide +kernel
  have generated : ((machine .release).run (create 1000 none 0) before).bind (fun result =>
      ((machine .release).run result.1 after).map fun result =>
        (generatedRecords symbol result.2).map TimeAndSaleRecord.timeNanos) = some [3000000] := by
    decide +kernel
  rw [reached, Option.map_some, Option.some_inj, Option.map_eq_some_iff] at retained
  obtain ⟨task, current, retained⟩ := retained
  obtain ⟨last, outputs, run, sent⟩ := sends task [.timeSeries symbol 0] symbol 0 1000000000
    [.tick 3000000 2000000000 2000000000] current rfl fun input mem => by
      rw [List.mem_singleton.mp mem]
      exact ⟨rfl, rfl⟩
  rw [reached, Option.bind_some, run, Option.map_some, Option.some_inj] at generated
  exact ⟨g, earlier, task, last, outputs, reached, current, run, sent, retained, generated⟩

/-! ### Snapshots before live events -/

/-- Whether an input adds a symbol to the TimeAndSale subscription without a request
for its snapshot. -/
def Input.addsPlain (symbol : Text) : Input → Bool
  | .command request _ =>
      request.type = .symbolsAdded && request.subscription = .timeAndSale &&
        symbol ∈ request.symbols && symbol ∉ request.timeSeriesRequests.map Prod.fst
  | .tick .. => false

def Input.isTick : Input → Bool
  | .command .. => false
  | .tick .. => true

section Law

variable (api : DxApi) (limit : Nat) (configured : Option Nat) (start : Int)

/-- A run of the generator takes this round after the inputs `before`. -/
structure Passage (before : List Input) (g : Generator) (input : Input) (next : Generator)
    (outputs : List Output) : Prop where
  reached : ∃ earlier, (machine api).run (create limit configured start) before =
    some (g, earlier)
  step : (machine api).step g input = some (next, outputs)

/-- During the current task of this name, a snapshot for the symbol was published
that starts with SNAPSHOT_BEGIN. -/
def SnapshotPublished (symbol name : Text) (inputs : List Input) : Prop :=
  ∃ before g input next outputs after events first rest, inputs = before ++ input :: after ∧
    Passage api limit configured start before g input next outputs ∧
    (∃ task, g.active = some task ∧ task.command = name) ∧
    (∀ other ∈ input :: after, other.stopsTask name = false) ∧
    .snapshot events ∈ outputs ∧ events.filter (·.eventSymbol = symbol) = first :: rest ∧
    first.eventFlags.snapshotBegin = true

/-- No task is activated that publishes a symbol which is already subscribed. -/
def ActivatesUnsubscribed (symbol : Text) (inputs : List Input) : Prop :=
  ∀ before g input next outputs after task, inputs = before ++ input :: after →
    Passage api limit configured start before g input next outputs → g.active = none →
    next.active = some task → task.PublishesTimeAndSale symbol →
    symbol ∉ next.subscribedSymbols .timeAndSale

/-- No live TimeAndSale event of a symbol without a snapshot during its task. -/
def SnapshotBeforeLive (symbol : Text) (inputs : List Input) : Prop :=
  ∀ before g input next outputs after task retained events, inputs = before ++ input :: after →
    Passage api limit configured start before g input next outputs → g.active = some task →
    .batch retained events ∈ outputs → symbol ∈ (timeAndSales events).map TimeAndSale.eventSymbol →
    SnapshotPublished api limit configured start symbol task.command before

end Law

section Law

variable {api : DxApi} {limit : Nat} {configured : Option Nat} {start : Int}

theorem SnapshotPublished.snoc {symbol name : Text} {inputs : List Input}
    (h : SnapshotPublished api limit configured start symbol name inputs) {input : Input}
    (kept : input.stopsTask name = false) :
    SnapshotPublished api limit configured start symbol name (inputs ++ [input]) := by
  obtain ⟨before, g, here, next, outputs, after, events, first, rest, rfl, passage, current,
    continues, published⟩ := h
  refine ⟨before, g, here, next, outputs, after ++ [input], events, first, rest, by simp, passage,
    current, ?_, published⟩
  intro other mem
  rw [← List.cons_append, List.mem_append, List.mem_singleton] at mem
  rcases mem with old | rfl
  · exact continues other old
  · exact kept

theorem ActivatesUnsubscribed.of_append {symbol : Text} {xs ys : List Input}
    (h : ActivatesUnsubscribed api limit configured start symbol (xs ++ ys)) :
    ActivatesUnsubscribed api limit configured start symbol xs := by
  rintro before g input next outputs after task rfl
  exact h before g input next outputs (after ++ ys) task (by simp)

/-- What a task publishes does not change with its state. -/
theorem Round.publishes_iff {api : DxApi} {g next : Generator} {input : Input}
    {outputs : List Output} (round : Round api g input next outputs) {task task' : ActiveTask}
    (current : g.active = some task) (kept : next.active = some task') {symbol : Text} :
    task'.PublishesTimeAndSale symbol ↔ task.PublishesTimeAndSale symbol := by
  obtain ⟨-, pattern, count⟩ := round.same_task current kept
  rw [ActiveTask.PublishesTimeAndSale, pattern, count]
  rfl

/-- A command that subscribes a symbol, with a request as it must, answers it. -/
theorem Dispatched.answers {g next : Generator} {command : Command} {outputs : List Output}
    (h : Dispatched g command next outputs) {task : ActiveTask} (current : g.active = some task)
    {symbol : Text} (before : symbol ∉ g.subscribedSymbols .timeAndSale)
    (after : symbol ∈ next.subscribedSymbols .timeAndSale) {now : Int}
    (series : (Input.command command now).addsPlain symbol = false) :
    ∃ events first rest, .snapshot events ∈ outputs ∧
      events.filter (·.eventSymbol = symbol) = first :: rest ∧
      first.eventFlags.snapshotBegin = true := by
  rw [h.subscribed] at after
  have subscription : command.subscription = .timeAndSale := by
    by_contra other
    rw [Function.update_of_ne (Ne.symm other)] at after
    exact before after
  rw [subscription, Function.update_self] at after
  have added : command.type = .symbolsAdded ∧ symbol ∈ command.symbols := by
    unfold updateSymbols at after
    cases type : command.type <;> simp_all
  obtain ⟨type, named⟩ := added
  simp only [Input.addsPlain, type, subscription, named, decide_true, Bool.true_and,
    decide_eq_false_iff_not, not_not] at series
  obtain ⟨request, asked, rfl⟩ := List.mem_map.mp series
  have requested : command.type = .symbolsAdded ∧ command.subscription = .timeAndSale ∧
      command.timeSeriesRequests ≠ [] := ⟨type, subscription, List.ne_nil_of_mem asked⟩
  have mine : request ∈ command.timeSeriesRequests.filter (·.1 = request.1) :=
    List.mem_filter.mpr ⟨asked, by simp⟩
  obtain ⟨answered, others, split⟩ := List.exists_cons_of_ne_nil (List.ne_nil_of_mem mine)
  obtain ⟨first, rest, begins, flag⟩ := snapshotEvents_begin
    (task.timeAndSaleHistory answered.1) answered.1 answered.2
  have mine : (publishTimeSeriesSnapshots task command.timeSeriesRequests).events.filter
      (·.eventSymbol = request.1) = first :: (rest ++ others.flatMap fun request =>
        snapshotEvents (task.timeAndSaleHistory request.1) request.1 request.2) := by
    rw [publishTimeSeriesSnapshots_filter, split, List.flatMap_cons, begins, List.cons_append]
  refine ⟨_, first, _, ?_, mine, flag⟩
  rw [h.outputs, current, snapshots, if_pos requested]
  exact List.mem_singleton_self _

theorem Round.answers {g next : Generator} {input : Input} {outputs : List Output}
    (round : Round api g input next outputs) {task : ActiveTask} (current : g.active = some task)
    {symbol : Text} (before : symbol ∉ g.subscribedSymbols .timeAndSale)
    (after : symbol ∈ next.subscribedSymbols .timeAndSale)
    (series : input.addsPlain symbol = false) :
    ∃ events first rest, .snapshot events ∈ outputs ∧
      events.filter (·.eventSymbol = symbol) = first :: rest ∧
      first.eventFlags.snapshotBegin = true := by
  cases round with
  | waits => exact absurd after before
  | publishes ticked =>
      obtain ⟨nextTick, skipped, rfl⟩ := ticked.state
      exact absurd after before
  | handles dispatched => exact dispatched.answers current before after series
  | activates dispatched idle => exact nomatch current.symm.trans idle

/-- A task that is current before and after a round was not stopped by it. -/
theorem Round.not_stopped {g next : Generator} {input : Input} {outputs : List Output}
    (round : Round api g input next outputs) {task task' : ActiveTask}
    (current : g.active = some task) (kept : next.active = some task') :
    input.stopsTask task.command = false := by
  cases round with
  | waits | publishes => rfl
  | handles dispatched =>
      rw [dispatched.active, current] at kept
      obtain ⟨same, continues⟩ := Option.filter_eq_some_iff.mp kept
      cases same
      simpa [Input.stopsTask] using continues
  | activates dispatched idle =>
      rw [idle] at current
      cases current

/-- When no activation finds the symbol subscribed, every subscription of the symbol
that the current task can serve was answered by it. -/
theorem answered {symbol : Text} {inputs : List Input} {last : Generator} {outputs : List Output}
    (series : ∀ input ∈ inputs, input.addsPlain symbol = false)
    (unsubscribed : ActivatesUnsubscribed api limit configured start symbol inputs)
    (run : (machine api).run (create limit configured start) inputs = some (last, outputs))
    {task : ActiveTask} (current : last.active = some task)
    (publishes : task.PublishesTimeAndSale symbol)
    (subscribed : symbol ∈ last.subscribedSymbols .timeAndSale) :
    SnapshotPublished api limit configured start symbol task.command inputs := by
  refine (machine api).run_history (fun inputs last _ =>
    (∀ input ∈ inputs, input.addsPlain symbol = false) →
    ActivatesUnsubscribed api limit configured start symbol inputs →
    ∀ task, last.active = some task → task.PublishesTimeAndSale symbol →
      symbol ∈ last.subscribedSymbols .timeAndSale →
      SnapshotPublished api limit configured start symbol task.command inputs) ?_ ?_ run series
    unsubscribed task current publishes subscribed
  · intro _ _ task none
    cases none
  · intro before g earlier input next outputs run ih step series unsubscribed task current
      publishes subscribed
    have ih := ih (fun other mem => series other (List.mem_append_left _ mem))
      unsubscribed.of_append
    have wellFormed := run_wellFormed (wellFormed_create limit configured start) run
    have round := round_of_step wellFormed step
    have passage : Passage api limit configured start before g input next outputs :=
      ⟨⟨earlier, run⟩, step⟩
    cases active : g.active with
    | none =>
        exact absurd subscribed
          (unsubscribed before g input next outputs [] task rfl passage active current publishes)
    | some old =>
        have same := round.same_task active current
        have publishes' := (round.publishes_iff active current).mp publishes
        have kept := round.not_stopped active current
        rw [same.1]
        by_cases here : symbol ∈ g.subscribedSymbols .timeAndSale
        · exact (ih old active publishes' here).snoc kept
        · obtain ⟨events, first, rest, sent, begins⟩ :=
            round.answers active here subscribed (series input (by simp))
          exact ⟨before, g, input, next, outputs, [], events, first, rest, rfl, passage,
            ⟨old, active, rfl⟩, by simpa using kept, sent, begins⟩

/-- A run whose activations never find the symbol subscribed obeys the law. -/
theorem snapshotBeforeLive_of {symbol : Text} {inputs : List Input}
    (series : ∀ input ∈ inputs, input.addsPlain symbol = false)
    (unsubscribed : ActivatesUnsubscribed api limit configured start symbol inputs) :
    SnapshotBeforeLive api limit configured start symbol inputs := by
  rintro before g input next outputs after task retained events rfl passage current sent live
  obtain ⟨earlier, run⟩ := passage.reached
  have wellFormed := run_wellFormed (wellFormed_create limit configured start) run
  have series' : ∀ other ∈ before, other.addsPlain symbol = false :=
    fun other mem => series other (List.mem_append_left _ mem)
  have unsubscribed' := unsubscribed.of_append
  cases round_of_step wellFormed passage.step with
  | waits => cases sent
  | publishes ticked =>
      cases current.symm.trans ticked.current
      rw [ticked.outputs] at sent
      cases List.mem_singleton.mp sent
      have active := wellFormed.active task current
      rw [ticked.publication.timeAndSales_symbols active] at live
      obtain ⟨selected, subscribed⟩ := List.mem_filter.mp live
      exact answered series' unsubscribed' run current
        (ActiveTask.publishes_of_selected active.count_pos selected) (of_decide_eq_true subscribed)
  | handles dispatched =>
      obtain ⟨events, other⟩ := dispatched.output sent
      cases other
  | activates dispatched idle => exact nomatch current.symm.trans idle

/-- A tick at the deadline publishes. -/
theorem tick_due (api : DxApi) {g : Generator} (h : g.WellFormed) {task : ActiveTask}
    (current : g.active = some task) (nowNs later : Int) :
    ∃ choices result next outputs,
      (machine api).step g (.tick nowNs g.nextTick later) = some (next, outputs) ∧
        Ticked api g nowNs task choices result next outputs := by
  rcases tick_cases api h.toConsistent nowNs g.nextTick later with
    ⟨-, early⟩ | ⟨active, choices, result, next, outputs, taken, ticked⟩
  · exact absurd (early task current) (lt_irrefl _)
  · cases current.symm.trans ticked.current
    exact ⟨choices, result, next, outputs, taken, ticked⟩

/-- A task can be made to publish any number of times. -/
theorem run_ticks (api : DxApi) {g : Generator} (h : g.WellFormed) {task : ActiveTask}
    (current : g.active = some task) (n : Nat) :
    ∃ ticks last outputs task', (∀ input ∈ ticks, input.isTick = true) ∧
      (machine api).run g ticks = some (last, outputs) ∧ last.active = some task' ∧
      task'.pattern = task.pattern ∧ task'.activeSymbolCount = task.activeSymbolCount ∧
      task'.publications = task.publications + UInt64.ofNat n ∧
      last.subscribedSymbols = g.subscribedSymbols := by
  induction n generalizing g task with
  | zero => exact ⟨[], g, [], task, by simp, rfl, current, rfl, rfl, by simp, rfl⟩
  | succ n ih =>
      obtain ⟨choices, result, next, first, step, ticked⟩ := tick_due api h current 0 0
      have kept := ticked.wellFormed h
      obtain ⟨nextTick, skipped, rfl⟩ := ticked.state
      obtain ⟨ticks, last, outputs, task', all, run, active, pattern, count, publications, same⟩ :=
        ih kept rfl
      refine ⟨.tick 0 g.nextTick 0 :: ticks, last, first ++ outputs, task', ?_,
        (machine api).run_cons.mpr ⟨_, first, outputs, step, run, rfl⟩, active,
        pattern.trans ticked.publication.pattern,
        count.trans ticked.publication.activeSymbolCount, ?_, same⟩
      · intro input mem
        rcases List.mem_cons.mp mem with rfl | later
        · rfl
        · exact all input later
      · rw [publications]
        dsimp only
        rw [ticked.publication.publications, Nat.add_comm n 1, UInt64.ofNat_add, UInt64.add_assoc]
        rfl

/-- Publish ticks alone never publish a snapshot. -/
theorem no_snapshot_since {before ticks : List Input} {g next : Generator} {input : Input}
    {outputs : List Output} {symbol name : Text}
    (passage : Passage api limit configured start before g input next outputs)
    (idle : g.active = none) (all : ∀ input ∈ ticks, input.isTick = true) :
    ¬ SnapshotPublished api limit configured start symbol name (before ++ input :: ticks) := by
  rintro ⟨pre, g', input', next', outputs', post, events, first, rest, split, passage', ⟨task,
    active, named⟩, kept, sent, -⟩
  obtain ⟨earlier, run⟩ := passage.reached
  obtain ⟨earlier', run'⟩ := passage'.reached
  have wellFormed := run_wellFormed (wellFormed_create limit configured start) run'
  -- The activation itself starts without a task, so the snapshot is not there.
  have elsewhere : pre ≠ before := by
    rintro rfl
    rw [run] at run'
    cases run'
    exact nomatch idle.symm.trans active
  rcases List.append_eq_append_iff.mp split with ⟨between, rfl, tail⟩ | ⟨between, rfl, tail⟩
  · cases between with
    | nil => exact elsewhere (List.append_nil _)
    | cons other between =>
        obtain ⟨-, rfl⟩ := List.cons_eq_cons.mp (tail.trans List.cons_append)
        have tick := all input' (by simp)
        cases round_of_step wellFormed passage'.step with
        | waits => cases sent
        | publishes ticked =>
            rw [ticked.outputs] at sent
            simp at sent
        | handles | activates => cases tick
  · cases between with
    | nil => exact elsewhere (List.append_nil _).symm
    | cons other between =>
        obtain ⟨rfl, rfl⟩ := List.cons_eq_cons.mp (tail.trans List.cons_append)
        obtain ⟨middle, outputs₁, outputs₂, toMiddle, fromMiddle, -⟩ :=
          (machine api).run_append.mp run
        rw [run'] at toMiddle
        cases toMiddle
        subst named
        obtain ⟨⟨task', current, -⟩, -⟩ := run_stays wellFormed active
          (fun other mem => kept other (by
            rw [← List.cons_append]
            exact List.mem_append_left _ mem)) fromMiddle
        exact nomatch idle.symm.trans current

/-- A round that activates a task starts it without publications. -/
theorem Round.fresh {g next : Generator} {input : Input} {outputs : List Output}
    (round : Round api g input next outputs) (idle : g.active = none) {task : ActiveTask}
    (active : next.active = some task) : task.publications = 0 := by
  cases round with
  | waits => exact nomatch idle.symm.trans active
  | publishes ticked => exact nomatch idle.symm.trans ticked.current
  | handles dispatched =>
      rw [dispatched.active, idle] at active
      cases active
  | activates _ _ _ activated =>
      rw [activated.state] at active
      cases active
      rfl

/-- Publish ticks activate no task. -/
theorem Round.activates_by_command {g next : Generator} {input : Input} {outputs : List Output}
    (round : Round api g input next outputs) (idle : g.active = none) {task : ActiveTask}
    (active : next.active = some task) : input.isTick = false := by
  cases round with
  | waits => exact nomatch idle.symm.trans active
  | publishes ticked => exact nomatch idle.symm.trans ticked.current
  | handles | activates => rfl

/-- The round after some inputs and the round that follows it. -/
theorem Passage.extend {before ticks : List Input} {g next last : Generator} {input : Input}
    {outputs later : List Output}
    (passage : Passage api limit configured start before g input next outputs)
    (run : (machine api).run next ticks = some (last, later)) :
    ∃ earlier, (machine api).run (create limit configured start) (before ++ input :: ticks) =
      some (last, earlier) := by
  obtain ⟨earlier, reached⟩ := passage.reached
  exact ⟨_, (machine api).run_append.mpr ⟨g, earlier, _, reached,
    (machine api).run_cons.mpr ⟨next, outputs, later, passage.step, run, rfl⟩, rfl⟩⟩

/-- A task activated while one of its symbols is subscribed publishes, within its
next ticks, a live event of the symbol that no snapshot precedes. -/
theorem live_without_snapshot {before : List Input} {g next : Generator} {input : Input}
    {outputs : List Output} {symbol : Text} {task : ActiveTask}
    (passage : Passage api limit configured start before g input next outputs)
    (idle : g.active = none) (active : next.active = some task)
    (publishes : task.PublishesTimeAndSale symbol)
    (subscribed : symbol ∈ next.subscribedSymbols .timeAndSale) :
    ∃ ticks, (∀ input ∈ ticks, input.isTick = true) ∧
      ¬ SnapshotBeforeLive api limit configured start symbol (before ++ input :: ticks) := by
  obtain ⟨earlier, reached⟩ := passage.reached
  obtain ⟨next', outputs', step', kept⟩ := step_ok api g input
    (run_wellFormed (wellFormed_create limit configured start) reached)
  cases passage.step.symm.trans step'
  have fresh := (round_of_step (run_wellFormed (wellFormed_create limit configured start) reached)
    passage.step).fresh idle active
  have wellFormed := kept.active task active
  -- The symbol is base symbol `j`; it is selected after `j / quantity` publications.
  obtain ⟨quantity, configured'⟩ := Option.ne_none_iff_exists'.mp publishes.1
  obtain ⟨j, inTake, found⟩ := List.getElem_of_mem publishes.2
  have inBase : j < task.activeSymbolCount := by
    rw [List.length_take] at inTake
    omega
  rw [List.getElem_take] at found
  have positive : 0 < quantity := by
    obtain ⟨item, search, rfl⟩ := Option.map_eq_some_iff.mp configured'
    exact wellFormed.admissible.items.quantity_pos item (List.mem_of_find?_eq_some search)
  have small : task.activeSymbolCount < 2 ^ 63 := by
    have : task.pattern.symbolCount ≤
        task.pattern.symbolCount * (task.pattern.regionalSourceCount + 1) :=
      Nat.le_mul_of_pos_right _ (Nat.succ_pos _)
    have := wellFormed.market_lt
    have := wellFormed.count_le
    omega
  obtain ⟨ticks, last, later, task', all, run, current, pattern, count, publications, same⟩ :=
    run_ticks api kept active (j / quantity)
  obtain ⟨choices, result, final, sent, due, ticked⟩ :=
    tick_due api (run_wellFormed kept run) current 0 0
  have live : symbol ∈ (timeAndSales result.events).map TimeAndSale.eventSymbol := by
    rw [ticked.publication.timeAndSales_symbols ((run_wellFormed kept run).active task' current)]
    refine List.mem_filter.mpr ⟨?_, decide_eq_true (by rwa [same])⟩
    refine ActiveTask.selected_of_rotation (by rw [pattern]; exact configured') positive
      (j := j) ?_ (by rwa [count]) (by rwa [count]) (by rw [publications, fresh, UInt64.zero_add])
    rw [pattern, ← found]
    exact List.getElem?_eq_getElem _
  refine ⟨ticks ++ [.tick 0 last.nextTick 0], ?_, ?_⟩
  · intro input mem
    rcases List.mem_append.mp mem with old | new
    · exact all input old
    · rw [List.mem_singleton.mp new]
      rfl
  · intro law
    refine no_snapshot_since passage idle all (law (before ++ input :: ticks) last _ final sent []
      task' result.retained result.events (by simp) ⟨passage.extend run, due⟩ current ?_ live)
    rw [ticked.outputs]
    exact List.mem_singleton_self _

theorem ActivatesUnsubscribed.append_ticks {symbol : Text} {inputs ticks : List Input}
    (h : ActivatesUnsubscribed api limit configured start symbol inputs)
    (all : ∀ input ∈ ticks, input.isTick = true) :
    ActivatesUnsubscribed api limit configured start symbol (inputs ++ ticks) := by
  intro before g input next outputs after task split passage idle active
  obtain ⟨earlier, reached⟩ := passage.reached
  have command := (round_of_step (run_wellFormed (wellFormed_create limit configured start) reached)
    passage.step).activates_by_command idle active
  have old : input ∉ ticks := fun mem => by simp [all input mem] at command
  rcases List.append_eq_append_iff.mp split with ⟨between, rfl, tail⟩ | ⟨between, rfl, tail⟩
  · exact absurd (by simp [tail]) old
  · cases between with
    | nil =>
        have first : ticks = input :: after := tail.symm
        exact absurd (by simp [first]) old
    | cons other between =>
        obtain ⟨rfl, -⟩ := List.cons_eq_cons.mp (tail.trans List.cons_append)
        exact h before g input next outputs between task rfl passage idle active

/-- A symbol that only time-series subscriptions add never gets a live TimeAndSale
event without a snapshot of its task, however the run continues by publish ticks
from any of its points, exactly when no task is activated that publishes the symbol
while it is already subscribed. -/
theorem snapshot_before_live_iff (api : DxApi) (limit : Nat) (configured : Option Nat)
    (start : Int) (symbol : Text) (inputs : List Input)
    (series : ∀ input ∈ inputs, input.addsPlain symbol = false) :
    (∀ before ticks, before <+: inputs → (∀ input ∈ ticks, input.isTick = true) →
      SnapshotBeforeLive api limit configured start symbol (before ++ ticks)) ↔
      ActivatesUnsubscribed api limit configured start symbol inputs := by
  constructor
  · rintro law before g input next outputs after task rfl passage idle active publishes subscribed
    obtain ⟨ticks, all, broken⟩ :=
      live_without_snapshot passage idle active publishes subscribed
    apply broken
    rw [List.append_cons]
    exact law (before ++ [input]) ticks ⟨after, by simp⟩ all
  · rintro unsubscribed before ticks ⟨rest, rfl⟩ all
    refine snapshotBeforeLive_of ?_ ?_
    · intro input mem
      rcases List.mem_append.mp mem with old | tick
      · exact series input (List.mem_append_left _ old)
      · cases input with
        | command => exact nomatch all _ tick
        | tick => rfl
    · exact unsubscribed.of_append.append_ticks all

end Law

/-- The subscriptions of a client come before the start request: the first tick
publishes a live event of the symbol, and no snapshot is ever published. -/
theorem live_before_snapshot :
    let symbol : Text := "SYM00".toList
    let inputs : List Input :=
      [.command (enqueueSymbols .symbolsAdded .profile [.string symbol]) 0,
        .command (enqueueSymbols .symbolsAdded .timeAndSale [.timeSeries symbol 0]) 0,
        .command (enqueueControl .start "SUB:N1".toList) 0, .tick 1000000 0 0]
    (∀ input ∈ inputs, input.addsPlain symbol = false) ∧
      ¬ SnapshotBeforeLive .release 1000 none 0 symbol inputs := by
  intro symbol inputs
  refine ⟨by decide, ?_⟩
  intro law
  let before : List Input :=
    [.command (enqueueSymbols .symbolsAdded .profile [.string symbol]) 0,
      .command (enqueueSymbols .symbolsAdded .timeAndSale [.timeSeries symbol 0]) 0]
  let request : Input := .command (enqueueControl .start "SUB:N1".toList) 0
  have initial := wellFormed_create 1000 none 0
  obtain ⟨g, earlier, reached, wellFormed⟩ := run_ok .release initial before
  obtain ⟨next, outputs, step, kept⟩ := step_ok .release g request wellFormed
  have passage : Passage .release 1000 none 0 before g request next outputs :=
    ⟨⟨earlier, reached⟩, step⟩
  have started := (machine .release).run_append.mpr
    ⟨g, earlier, outputs, reached, (machine .release).run_singleton.mpr step, rfl⟩
  have idle : ((machine .release).run (create 1000 none 0) before).map
      (fun result => result.1.active.isNone) = some true := by decide +kernel
  have ready : ((machine .release).run (create 1000 none 0) (before ++ [request])).map
      (fun result => (result.1.active.map ActiveTask.selectedTimeAndSales,
        decide (symbol ∈ result.1.subscribedSymbols .timeAndSale), result.1.nextTick)) =
      some (some [symbol], true, 0) := by decide +kernel
  rw [reached, Option.map_some, Option.some.injEq, Option.isNone_iff_eq_none] at idle
  rw [started, Option.map_some, Option.some.injEq, Prod.mk.injEq, Prod.mk.injEq,
    Option.map_eq_some_iff, decide_eq_true_eq] at ready
  obtain ⟨⟨task, current, selected⟩, subscribed, nextTick⟩ := ready
  obtain ⟨choices, result, last, sent, due, ticked⟩ :=
    tick_due .release kept current 1000000 0
  have live : symbol ∈ (timeAndSales result.events).map TimeAndSale.eventSymbol := by
    rw [ticked.publication.timeAndSales_symbols (kept.active task current), selected]
    exact List.mem_filter.mpr ⟨List.mem_singleton_self _, decide_eq_true subscribed⟩
  rw [nextTick] at due
  have noTicks : ∀ input ∈ ([] : List Input), input.isTick = true := by simp
  refine no_snapshot_since passage idle noTicks (law (before ++ [request]) next _
    last sent [] task result.retained result.events rfl ⟨⟨_, started⟩, due⟩ current ?_ live)
  rw [ticked.outputs]
  exact List.mem_singleton_self _

/-- The same client after the start request: the symbol is not subscribed when the task is
activated, and the law holds. -/
theorem snapshot_before_live_iff_started :
    let symbol : Text := "SYM00".toList
    let inputs : List Input :=
      [.command (enqueueSymbols .symbolsAdded .profile [.string symbol]) 0,
        .command (enqueueControl .start "SUB:N1".toList) 0,
        .command (enqueueSymbols .symbolsAdded .timeAndSale [.timeSeries symbol 0]) 0]
    ActivatesUnsubscribed .release 1000 none 0 symbol inputs ∧
      ∀ before ticks, before <+: inputs → (∀ input ∈ ticks, input.isTick = true) →
        SnapshotBeforeLive .release 1000 none 0 symbol (before ++ ticks) := by
  intro symbol inputs
  have condition : ActivatesUnsubscribed .release 1000 none 0 symbol inputs := by
    rintro before g input next outputs after task split ⟨⟨earlier, reached⟩, step⟩ idle active -
    have run := (machine .release).run_append.mpr
      ⟨g, earlier, outputs, reached, (machine .release).run_singleton.mpr step, rfl⟩
    have evaluated : ∀ count < 2,
        ((machine .release).run (create 1000 none 0) (inputs.take (count + 1))).map (fun result =>
          decide (symbol ∈ result.1.subscribedSymbols .timeAndSale)) = some false := by
      decide +kernel
    have started : ((machine .release).run (create 1000 none 0) (inputs.take 2)).map (fun result =>
        result.1.active.isSome) = some true := by
      decide +kernel
    have short : before.length < 3 := by
      have length := congrArg List.length split
      rw [List.length_append, List.length_cons] at length
      simp only [List.length_cons, List.length_nil] at length
      omega
    have initial : inputs.take (before.length + 1) = before ++ [input] := by
      rw [split, List.append_cons, List.take_left' (by simp)]
    have first : inputs.take before.length = before := by
      rw [split, List.take_left' rfl]
    obtain last | early := Nat.eq_or_lt_of_le (Nat.le_of_lt_succ short)
    · -- The last command finds the task active.
      rw [last] at first
      rw [first, reached, Option.map_some, idle] at started
      cases started
    · have unsubscribed := evaluated before.length early
      rw [initial, run, Option.map_some, Option.some_inj, decide_eq_false_iff_not] at unsubscribed
      exact unsubscribed
  exact ⟨condition, (snapshot_before_live_iff .release 1000 none 0 _ _ (by decide)).mpr condition⟩

end Generator

end LatencyTest
