import LatencyTest.Delivery.Calls
import LatencyTest.Delivery.Delivered

/-!
How the delivery clients end, and what they report. A report counts calls of the listeners
(`main_delivered`); the exit code says whether there is one, and the legacy client has ended its
session by then (`main_exits`).
-/

namespace LatencyTest.Delivery

open Lib (Program Shared)
open Lib.Shared (counterOf)
open Runner (DeliveryConfig LegacyConfig deliveryParseArgs legacyParseArgs)

variable {κ : Type} {listener : κ → Listener}

/-! ### How a run ends -/

/-- A measurement of full length, if its end is in time for the clock. -/
def Full (settings : Settings) (report : DeliveryReport) : Prop :=
  Client.InTime report.endedSteady settings.duration →
    settings.duration * 1000000 ≤ report.elapsed

/-- The end of a run that has begun with some settings: an exception, which nothing is written
before, or a report, and the exit code that follows. `error` begins the line of an exception,
`eventless` is the line for a report without the required events. -/
inductive Ended (watches : Bool) (settings : Settings) (since : Int)
    (error eventless : Text) : Int → World → Prop where
  | failed {world : World} (message : Text) (unwritten : world.written = none)
      (explained : world.errors = [error ++ message]) :
      Ended watches settings since error eventless 1 world
  | interrupted {world : World} (report : DeliveryReport)
      (written : Written watches settings since report world)
      (asked : world.interrupted.isSome) (silent : world.errors = []) :
      Ended watches settings since error eventless 130 world
  | terminated {world : World} (report : DeliveryReport)
      (written : Written watches settings since report world) (watched : watches = true)
      (asked : world.terminated.isSome) (silent : world.errors = []) :
      Ended watches settings since error eventless 1 world
  | eventless {world : World} (report : DeliveryReport)
      (written : Written watches settings since report world)
      (full : Full settings report) (required : settings.requireEvents = true)
      (nothing : report.measured .recurringEvents = 0) (explained : world.errors = [eventless]) :
      Ended watches settings since error eventless 1 world
  | succeeded {world : World} (report : DeliveryReport)
      (written : Written watches settings since report world)
      (full : Full settings report)
      (events : settings.requireEvents = true → report.measured .recurringEvents ≠ 0)
      (silent : world.errors = []) :
      Ended watches settings since error eventless 0 world

/-- The end of a run that has refused something. -/
structure Refused (error message : Text) (code : Int) (world : World) : Prop where
  code : code = 1
  unwritten : world.written = none
  explained : world.errors = [error ++ message]

theorem Refused.ended {watches : Bool} {settings : Settings} {since code : Int}
    {error eventless message : Text} {world : World} (refused : Refused error message code world) :
    Ended watches settings since error eventless code world := by
  obtain ⟨rfl, unwritten, explained⟩ := refused
  exact .failed message unwritten explained

/-- The report of a run is that of its measurement. -/
theorem Ended.written {watches : Bool} {settings : Settings} {since code : Int}
    {error eventless : Text} {world : World} {report : DeliveryReport}
    (ended : Ended watches settings since error eventless code world)
    (written : world.written = some report) : Written watches settings since report world := by
  cases ended with
  | failed message unwritten explained => cases unwritten.symm.trans written
  | interrupted _ measured | terminated _ measured | eventless _ measured | succeeded _ measured =>
      cases measured.1.symm.trans written
      exact measured

theorem Beside.interrupted (listener : κ → Listener) :
    Beside listener fun world => world.interrupted.isSome where
  stable _ made holds := by cases made <;> first | exact holds | rfl
  kept _ _ kept holds := kept.interrupted.symm ▸ holds

theorem Beside.terminated (listener : κ → Listener) :
    Beside listener fun world => world.terminated.isSome where
  stable _ made holds := by cases made <;> first | exact holds | rfl
  kept _ _ kept holds := kept.terminated.symm ▸ holds

section Endings

variable {watches : Bool} {settings : Settings} {since : Int} {report : DeliveryReport}
  {host : Host} {error eventless : Text}

theorem Beside.written_report (listener : κ → Listener) (watches : Bool) (settings : Settings)
    (since : Int) (report : DeliveryReport) :
    Beside listener (Written watches settings since report) :=
  (Beside.written listener _).and (.exists fun o => .observed watches settings since report o)

/-- An end stays one in a world of which the same is known. -/
theorem Ended.transfer {code : Int} {world world' : World}
    (ended : Ended watches settings since error eventless code world)
    (carries : ∀ {assertion : World → Prop}, Beside listener assertion →
      assertion world → assertion world') :
    Ended watches settings since error eventless code world' := by
  have silent {lines : List Text} := carries (.errors listener lines)
  cases ended with
  | failed message unwritten explained =>
      exact .failed message (carries (.written listener none) unwritten) (silent explained)
  | interrupted report written asked quiet =>
      exact .interrupted report (carries (.written_report listener ..) written)
        (carries (.interrupted listener) asked) (silent quiet)
  | terminated report written watched asked quiet =>
      exact .terminated report (carries (.written_report listener ..) written) watched
        (carries (.terminated listener) asked) (silent quiet)
  | eventless report written full required nothing explained =>
      exact .eventless report (carries (.written_report listener ..) written) full required nothing
        (silent explained)
  | succeeded report written full events quiet =>
      exact .succeeded report (carries (.written_report listener ..) written) full events
        (silent quiet)

theorem Beside.ended (code : Int) :
    Beside listener (Ended watches settings since error eventless code) where
  stable world made ended :=
    ended.transfer fun (beside : Beside listener _) => beside.stable world made
  kept world world' kept ended :=
    ended.transfer fun (beside : Beside listener _) => beside.kept world world' kept

/-- A run that fails before its report says why. -/
theorem fail_ensures {kept : World → Prop} (stable : Program.Stable (move listener) kept)
    (unaffected : ∀ world lines, kept world → kept { world with errors := lines })
    (message : Text) :
    Program.Ensures (fun world => (world.written = none ∧ world.errors = []) ∧ kept world)
      (do
        complain (error ++ message)
        pure 1 : Action listener Int)
      fun code world => Refused error message code world ∧ kept world := by
  refine .bind (.modify (fun world => Refused error message 1 world ∧ kept world)
    ((Beside.silent listener).stable.and stable) ?_) fun _ => .pure fun _ => id
  rintro world ⟨⟨unwritten, silent⟩, holds⟩
  refine ⟨⟨rfl, unwritten, ?_⟩, unaffected world _ holds⟩
  change world.errors ++ _ = _
  rw [silent]
  rfl

/-- A measurement that was not asked to stop lasted as long as it should. -/
theorem Written.full {world : World}
    (written : Written watches settings since report world)
    (uninterrupted : world.interrupted.isSome = false)
    (alive : watches = true → world.terminated.isSome = false) : Full settings report := by
  obtain ⟨-, o, observed⟩ := written
  intro inTime
  rcases observed.lasts inTime with (⟨time, asked, -⟩ | ⟨watched, time, asked, -⟩) | late
  · rw [Option.mem_def.mp asked] at uninterrupted
    cases uninterrupted
  · have gone := alive watched
    rw [Option.mem_def.mp asked] at gone
    cases gone
  · exact le_sub_iff_add_le'.mpr late

/-- The last check of both clients. -/
theorem requireEvents_ensures {kept : World → Prop} (full : Full settings report)
    (beside : Program.Stable (move listener) kept)
    (unaffected : ∀ world lines, kept world → kept { world with errors := lines }) :
    Program.Ensures
      (fun world => (Written watches settings since report world ∧ world.errors = []) ∧
        kept world)
      (if settings.requireEvents = true ∧ report.measured .recurringEvents = 0 then do
        complain eventless
        pure 1
      else pure 0 : Action listener Int)
      fun code world => Ended watches settings since error eventless code world ∧
        kept world := by
  have stable := ((Beside.written_report listener watches settings since report).and
    (.errors listener [])).stable
  split
  · rename_i missing
    refine .bind (.modify (fun world => Ended watches settings since error eventless 1 world ∧
      kept world) (stable.and beside) ?_) fun _ => .pure fun _ => id
    rintro world ⟨⟨⟨written, o, observed⟩, silent⟩, holds⟩
    refine ⟨.eventless report ⟨written, o, observed.write _ _⟩ full missing.1 missing.2 ?_,
      unaffected world _ holds⟩
    change world.errors ++ [eventless] = _
    rw [silent]
    rfl
  · rename_i events
    exact .pure fun world ⟨⟨written, silent⟩, holds⟩ =>
      ⟨.succeeded report written full (fun required none => events ⟨required, none⟩) silent, holds⟩

/-- A run of either client up to its measurement. -/
theorem waitForStartup_keeps {assertion : World → Prop} (beside : Beside listener assertion)
    (timeout : Int) (symbolCount : Nat) :
    Program.Ensures assertion
      (waitForStartup watches timeout symbolCount : Action listener Bool) fun _ => assertion := by
  have loads (counter : Counter) (holds : Nat → Bool) : Program.Ensures assertion
      (do pure (holds (← load counter)) : Action listener Bool) fun _ => assertion :=
    .bind (.read_keeps beside.stable) fun _ => .pure fun world => id
  refine .bind (.read_keeps beside.stable) fun now => .loop (fun _ => assertion) _
    (fun _ => ?_) ()
  refine .bind (goesOn_keeps beside _) fun going => ?_
  cases going with
  | false => exact .pure fun world => id
  | true =>
      refine .bind (.both_keeps (loads _ _) (loads _ _)) fun ready => ?_
      cases ready with
      | true => exact .pure fun _ => id
      | false => exact .bind (sleep_keeps beside) fun _ => .pure fun world => id

theorem startupError_keeps {assertion : World → Prop} (beside : Beside listener assertion)
    (symbolCount : Nat) :
    Program.Ensures assertion (startupError symbolCount : Action listener Text)
      fun _ => assertion :=
  .bind (.read_keeps beside.stable) fun _ => .bind (.read_keeps beside.stable) fun _ =>
    .pure fun _ => id

/-- Before a measurement nothing is written, and no error. -/
def Unmeasured (since : Int) (world : World) : Prop :=
  (Sound world ∧ world.written = none ∧ world.errors = []) ∧ since ≤ world.steady

theorem Beside.unmeasured : Beside listener (Unmeasured since) :=
  ((Beside.sound listener).and (.silent listener)).and (.steady since)

end Endings

/-! ### The Graal client -/

namespace Graal

variable {host : Host} {supportsMonitoring : Bool} {config : DeliveryConfig}
  {pattern : TaskPattern} {since : Int} {report : DeliveryReport}

/-- The end of a run of the Graal client, which has closed its endpoint if it has a report. -/
def Ended (settings : Settings) (since code : Int) (world : World) : Prop :=
  Delivery.Ended false settings since "Graal delivery client error: ".toList
      "Graal delivery-only client did not receive any recurring events".toList code world ∧
    (world.connected = true → world.written = none)

theorem fail_ensures {settings : Settings} (message : Text) :
    Program.Ensures (fun world => world.written = none ∧ world.errors = []) (fail message)
      (Ended settings since) :=
  (Delivery.fail_ensures (.const True) (fun _ _ => id) message).weaken
    (fun _ silent => ⟨silent, trivial⟩) fun _ _ ⟨refused, _⟩ =>
      ⟨refused.ended, fun _ => refused.unwritten⟩

theorem close_keeps {assertion : World → Prop} (beside : Beside GraalCall.listener assertion) :
    Program.Ensures assertion close fun _ world => assertion world ∧ world.connected = false :=
  .modify _ beside.stable fun world holds =>
    ⟨beside.kept world _ (.connection ..) holds, rfl⟩

theorem stable_closed : Program.Stable (move GraalCall.listener)
    fun world => world.connected = false :=
  fun _ made holds => by cases made <;> exact holds

theorem conclude_ensures : Program.Ensures
    (fun world => Written false (settings config) since report world ∧
      world.errors = [])
    (conclude config report) (Ended (settings config) since) := by
  have written := (Beside.written_report GraalCall.listener false (settings config) since
    report).and (.errors _ [])
  refine .bind (close_keeps written) fun _ => ?_
  have closed := written.stable.and stable_closed
  refine .bind (.read_value closed) fun stopped => ?_
  cases stopped with
  | true =>
      exact .pure fun world ⟨⟨⟨holds, silent⟩, gone⟩, asked⟩ =>
        ⟨.interrupted report holds asked silent, fun open' => nomatch gone.symm.trans open'⟩
  | false =>
      refine .of_imp (fun world => Full (settings config) report ∧
        (Written false (settings config) since report world ∧
          world.errors = []) ∧ world.connected = false) ?_ (.of_fact fun full => ?_)
      · rintro world ⟨⟨⟨holds, silent⟩, gone⟩, running⟩
        exact ⟨holds.full running nofun, ⟨holds, silent⟩, gone⟩
      · exact (requireEvents_ensures full stable_closed fun _ _ => id).weaken
          (fun _ => id) fun _ _ ⟨ended, gone⟩ =>
            ⟨ended, fun open' => nomatch gone.symm.trans open'⟩

theorem connected_ensures {eventCount : Nat} :
    Program.Ensures (Unmeasured since)
      (connected host config pattern eventCount) (Ended (settings config) since) := by
  have unmeasured : Beside GraalCall.listener (Unmeasured since) := .unmeasured
  refine .bind (waitForStartup_keeps unmeasured _ _) fun ready => ?_
  cases ready with
  | true =>
      refine .bind (measure_ensures since) fun result => ?_
      cases result with
      | error message => exact fail_ensures message
      | ok report => exact conclude_ensures
  | false =>
      refine .bind (.of_imp _ (fun _ => id) ((close_keeps unmeasured).weaken (fun _ => id)
        fun _ _ => And.left)) fun _ => .bind (startupError_keeps unmeasured _) fun message => ?_
      exact (fail_ensures message).of_imp _ fun world holds => holds.1.2

theorem run_ensures :
    Program.Ensures (Unmeasured since)
      (run host supportsMonitoring config pattern) (Ended (settings config) since) := by
  have fails (message : Text) : Program.Ensures (Unmeasured since)
      (fail message) (Ended (settings config) since) :=
    (fail_ensures message).of_imp _ fun world holds => holds.1.2
  unfold run
  split
  · split
    · exact fails _
    · split
      · exact fails _
      · exact fails _
      · refine .bind (modify_keeps .unmeasured fun _ => .connection ..) fun _ => ?_
        split
        · exact fails _
        · exact connected_ensures
  · exact fails _

/-- The end of a run with some arguments; `--help` does nothing. -/
def Exit (arguments : List Text) (start : World) (code : Int) (world : World) : Prop :=
  match deliveryParseArgs arguments with
  | .error .help => code = 0 ∧ world = start
  | .error (.invalid message) =>
      Refused "Graal delivery client error: ".toList message code world ∧ world.connected = false
  | .ok config => Ended (settings config) start.steady code world

end Graal

/-! ### The legacy client -/

namespace Legacy

variable {host : Host} {api : Api} {config : LegacyConfig} {pattern : TaskPattern}
  {since : Int} {report : DeliveryReport}

/-- The end of a run of the legacy client while it has a session. -/
def Ended (settings : Settings) (since : Int) : Int → World → Prop :=
  Delivery.Ended true settings since "Legacy client error: ".toList
    "Legacy client did not receive any recurring events".toList

/-- The session of the legacy client has ended. -/
def Closed (world : World) : Prop := world.connected = false ∧ world.subscribed = false

theorem stable_closed : Program.Stable (move LegacyCall.listener) Closed :=
  fun _ made holds => by cases made <;> exact holds

/-- The destructor closes what is open. -/
theorem close_ensures {assertion : World → Prop} (beside : Beside LegacyCall.listener assertion) :
    Program.Ensures assertion close fun _ world => assertion world ∧ Closed world := by
  have unsubscribed : Program.Stable (move LegacyCall.listener)
      fun world => assertion world ∧ world.subscribed = false :=
    beside.stable.and fun _ made holds => by cases made <;> exact holds
  have first : Program.Ensures assertion closeSubscription
      fun _ world => assertion world ∧ world.subscribed = false := by
    refine .bind (.read_value beside.stable) fun subscribed => .whenever _ (fun _ => ?_) ?_
    · exact .of_imp assertion (fun _ => And.left) (.modify _ beside.stable fun world holds =>
        ⟨beside.kept world _ (.connection ..) holds, rfl⟩)
    · rintro nothing world ⟨holds, value⟩
      exact ⟨holds, value.trans (Bool.eq_false_iff.mpr nothing)⟩
  refine .bind first fun _ => .bind (.read_value unsubscribed) fun connected =>
    .whenever _ (fun _ => ?_) ?_
  · exact .of_imp _ (fun _ => And.left) (.modify _ unsubscribed fun world ⟨holds, gone⟩ =>
      ⟨beside.kept world _ (.connection ..) holds, rfl, gone⟩)
  · rintro nothing world ⟨⟨holds, gone⟩, value⟩
    exact ⟨holds, value.trans (Bool.eq_false_iff.mpr nothing), gone⟩

theorem conclude_ensures : Program.Ensures
    (fun world => Written true (settings config) since report world ∧
      world.errors = [])
    (conclude config report) (Ended (settings config) since) := by
  have written := (Beside.written_report LegacyCall.listener true (settings config) since
    report).and (.errors _ [])
  refine .bind (.read_value written.stable) fun stopped => ?_
  cases stopped with
  | true =>
      exact .pure fun world ⟨⟨holds, silent⟩, asked⟩ => .interrupted report holds asked silent
  | false =>
      -- the connection can still be lost before it is looked at
      have known := written.and ((Beside.terminated LegacyCall.listener).or
        (.fact (Full (settings config) report)))
      refine .of_imp _ ?_ (.bind (.read_value known.stable) fun terminated => ?_)
      · rintro world ⟨holds, running⟩
        refine ⟨holds, or_iff_not_imp_left.mpr fun alive => holds.1.full running fun _ => ?_⟩
        exact Bool.eq_false_iff.mpr alive
      · cases terminated with
        | true =>
            exact .pure fun world ⟨⟨⟨holds, silent⟩, _⟩, gone⟩ =>
              .terminated report holds rfl gone silent
        | false =>
            refine .of_imp (fun world => Full (settings config) report ∧
              (Written true (settings config) since report world ∧
                world.errors = []) ∧ True) ?_ (.of_fact fun full => ?_)
            · rintro world ⟨⟨holds, full⟩, alive⟩
              exact ⟨full.resolve_left (Bool.eq_false_iff.mp alive), holds, trivial⟩
            · exact (requireEvents_ensures full (.const True) fun _ _ => id).weaken (fun _ => id)
                fun _ _ => And.left

theorem orThrow_ensures {α : Type} {first : Run (Except Text Unit)}
    {next : Run (Except Text α)} {assertion : World → Prop} {after : Except Text α → World → Prop}
    (start : Program.Ensures assertion first fun _ => assertion)
    (throws : ∀ message world, assertion world → after (.error message) world)
    (rest : Program.Ensures assertion next after) :
    Program.Ensures assertion (orThrow first next) after := by
  refine .bind start fun result => ?_
  cases result with
  | error message => exact .pure (throws message)
  | ok done => exact rest

theorem checkApi_keeps {assertion : World → Prop} (beside : Beside LegacyCall.listener assertion)
    (operation : Operation) {change : World → World} (kept : ∀ world, Kept world (change world)) :
    Program.Ensures assertion (checkApi api operation change) fun _ => assertion := by
  unfold checkApi
  split
  · exact .pure fun _ => id
  · exact .bind (modify_keeps beside kept) fun _ => .pure fun _ => id

theorem start_keeps {assertion : World → Prop} (beside : Beside LegacyCall.listener assertion) :
    Program.Ensures assertion (start api config pattern) fun _ => assertion := by
  refine orThrow_ensures (checkApi_keeps beside _ fun _ => .connection ..) (fun _ _ => id) ?_
  refine orThrow_ensures (checkApi_keeps beside _ fun _ => .connection ..) (fun _ _ => id) ?_
  refine orThrow_ensures (checkApi_keeps beside _ fun _ => .connection ..) (fun _ _ => id) ?_
  split
  · exact .pure fun _ => id
  · split
    · exact .pure fun _ => id
    · exact checkApi_keeps beside _ fun _ => .connection ..

/-- What a session leaves for the end of `main`. -/
def Concluded (settings : Settings) (since : Int) (result : Except Text Int) (world : World) :
    Prop :=
  match result with
  | .error _ => world.written = none ∧ world.errors = []
  | .ok code => Ended settings since code world

theorem started_ensures {eventCount : Nat} :
    Program.Ensures (Unmeasured since)
      (started host config pattern eventCount) (Concluded (settings config) since) := by
  have unmeasured : Beside LegacyCall.listener (Unmeasured since) :=
    .unmeasured
  refine .bind (waitForStartup_keeps unmeasured _ _) fun ready => ?_
  cases ready with
  | true =>
      refine .bind (measure_ensures since) fun result => ?_
      cases result with
      | error message => exact .pure fun world silent => silent
      | ok report => exact .bind conclude_ensures fun code => .pure fun world ended => ended
  | false =>
      exact .bind (startupError_keeps unmeasured _) fun message =>
        .pure fun world holds => holds.1.2

theorem session_ensures :
    Program.Ensures (Unmeasured since)
      (session host api config pattern) (Concluded (settings config) since) := by
  unfold session
  split
  · exact .pure fun world holds => holds.1.2
  · exact orThrow_ensures (start_keeps .unmeasured) (fun _ _ holds => holds.1.2) started_ensures

theorem beside_concluded {settings : Settings} (result : Except Text Int) :
    Beside LegacyCall.listener (Concluded settings since result) := by
  cases result with
  | error message => exact .silent LegacyCall.listener
  | ok code => exact .ended code

/-- An exception is explained when the session has ended. -/
theorem fail_ensures {settings : Settings} (message : Text) :
    Program.Ensures (fun world => (world.written = none ∧ world.errors = []) ∧ Closed world)
      (fail message) fun code world => Ended settings since code world ∧ Closed world :=
  (Delivery.fail_ensures stable_closed (fun _ _ => id) message).weaken (fun _ => id)
    fun _ _ ⟨refused, closed⟩ => ⟨refused.ended, closed⟩

theorem run_ensures :
    Program.Ensures (Unmeasured since) (run host api config pattern)
      fun code world => Ended (settings config) since code world ∧ Closed world := by
  refine .bind session_ensures fun result => .bind (close_ensures (beside_concluded result))
    fun _ => ?_
  cases result with
  | error message => exact fail_ensures message
  | ok code => exact .pure fun _ => id

/-- The end of a run with some arguments; `--help` does nothing. -/
def Exit (arguments : List Text) (start : World) (code : Int) (world : World) : Prop :=
  match legacyParseArgs arguments with
  | .error .help => code = 0 ∧ world = start
  | .error (.invalid message) =>
      Refused "Legacy client error: ".toList message code world ∧ Closed world
  | .ok config => Ended (settings config) start.steady code world ∧ Closed world

end Legacy

/-! ### Runs of `main` -/

/-- A client before its run: no call of a listener, no request to stop, no session, no output. -/
structure Fresh (world : World) : Prop where
  state : world.state = .create
  interrupted : world.interrupted = none
  terminated : world.terminated = none
  connected : world.connected = false
  subscribed : world.subscribed = false
  written : world.written = none
  errors : world.errors = []

theorem Fresh.unmeasured {world : World} (fresh : Fresh world) :
    Unmeasured world.steady world := by
  refine ⟨⟨⟨?_, ?_, ?_, ?_⟩, fresh.written, fresh.errors⟩, le_rfl⟩
  · rw [fresh.state]
    exact Shared.linear_start _ _
  · rw [fresh.state]
    exact fun _ mem => (List.not_mem_nil mem).elim
  · rw [fresh.interrupted]
    exact fun _ mem => nomatch mem
  · rw [fresh.terminated]
    exact fun _ mem => nomatch mem

theorem GraalCall.distinct (call : GraalCall) : (call.listener.filterMap counterOf).Nodup := by
  cases call with
  | market events =>
      change [Counter.callbacks, .recurringEvents, .quotes, .trades, .tradeEths,
        .summaries].Nodup
      decide
  | profiles events => exact List.nodup_singleton _

theorem LegacyCall.distinct (call : LegacyCall) : (call.listener.filterMap counterOf).Nodup := by
  obtain ⟨eventType, dataCount⟩ := call
  cases eventType with
  | profile =>
      change [Counter.callbacks, .profiles].Nodup
      decide
  | regular kind =>
      change [Counter.callbacks, .recurringEvents, .ofKind kind].Nodup
      cases kind <;> decide
  | other =>
      change [Counter.callbacks, .recurringEvents].Nodup
      decide

section Exits

variable {host : Host} {supportsMonitoring : Bool} {api : Legacy.Api} {arguments : List Text}
  {bound : Nat} {start world : World} {code : Int}

theorem Graal.main_ends {moves moves' : List (List (Move GraalCall))} (fresh : Fresh start)
    (ran : Graal.main host supportsMonitoring arguments bound moves start =
      some (code, moves', world)) : Graal.Exit arguments start code world := by
  cases parsed : deliveryParseArgs arguments with
  | error stopped =>
      rw [Graal.main, parsed] at ran
      rw [Graal.Exit, parsed]
      cases stopped with
      | help =>
          cases ran
          exact ⟨rfl, rfl⟩
      | invalid message =>
          exact Delivery.fail_ensures Graal.stable_closed (fun _ _ => id) message bound moves start
            ⟨⟨fresh.written, fresh.errors⟩, fresh.connected⟩ code moves' world ran
  | ok config =>
      rw [Graal.main, parsed] at ran
      rw [Graal.Exit, parsed]
      dsimp only at ran
      cases admission : config.admission with
      | error message =>
          rw [admission] at ran
          exact Graal.fail_ensures message bound moves start ⟨fresh.written, fresh.errors⟩ code
            moves' world ran
      | ok pattern =>
          rw [admission] at ran
          exact Graal.run_ensures bound moves start fresh.unmeasured code moves' world ran

theorem Legacy.main_ends {moves moves' : List (List (Move LegacyCall))} (fresh : Fresh start)
    (ran : Legacy.main host api arguments bound moves start = some (code, moves', world)) :
    Legacy.Exit arguments start code world := by
  have closed : Legacy.Closed start := ⟨fresh.connected, fresh.subscribed⟩
  cases parsed : legacyParseArgs arguments with
  | error stopped =>
      rw [Legacy.main, parsed] at ran
      rw [Legacy.Exit, parsed]
      cases stopped with
      | help =>
          cases ran
          exact ⟨rfl, rfl⟩
      | invalid message =>
          exact Delivery.fail_ensures Legacy.stable_closed (fun _ _ => id) message bound moves start
            ⟨⟨fresh.written, fresh.errors⟩, closed⟩ code moves' world ran
  | ok config =>
      rw [Legacy.main, parsed] at ran
      rw [Legacy.Exit, parsed]
      dsimp only at ran
      cases admission : config.admission with
      | error message =>
          rw [admission] at ran
          exact Legacy.fail_ensures message bound moves start
            ⟨⟨fresh.written, fresh.errors⟩, closed⟩ code moves' world ran
      | ok pattern =>
          rw [admission] at ran
          exact Legacy.run_ensures bound moves start fresh.unmeasured code moves' world ran

theorem Graal.Exit.written {report : DeliveryReport}
    (exit : Graal.Exit arguments start code world) (fresh : Fresh start)
    (written : world.written = some report) :
    ∃ settings, (deliveryParseArgs arguments).map Graal.settings = .ok settings ∧
      Written false settings start.steady report world := by
  unfold Graal.Exit at exit
  cases parsed : deliveryParseArgs arguments with
  | error stopped =>
      rw [parsed] at exit
      cases stopped with
      | help =>
          rw [exit.2, fresh.written] at written
          cases written
      | invalid message => cases exit.1.unwritten.symm.trans written
  | ok config =>
      rw [parsed] at exit
      exact ⟨Graal.settings config, rfl, exit.1.written written⟩

theorem Legacy.Exit.written {report : DeliveryReport}
    (exit : Legacy.Exit arguments start code world) (fresh : Fresh start)
    (written : world.written = some report) :
    ∃ settings, (legacyParseArgs arguments).map Legacy.settings = .ok settings ∧
      Written true settings start.steady report world := by
  unfold Legacy.Exit at exit
  cases parsed : legacyParseArgs arguments with
  | error stopped =>
      rw [parsed] at exit
      cases stopped with
      | help =>
          rw [exit.2, fresh.written] at written
          cases written
      | invalid message => cases exit.1.unwritten.symm.trans written
  | ok config =>
      rw [parsed] at exit
      exact ⟨Legacy.settings config, rfl, Ended.written exit.1 written⟩

end Exits

/-- Every report of a program counts the calls of its listeners, which are those of the moves that
the run has used up. -/
def Reports (listener : κ → Listener) (watches : Bool) (parsed : Except Lib.Stop Settings)
    (main : Action listener Int) : Prop :=
  ∀ bound moves start code moves' world report, Fresh start →
    main bound moves start = some (code, moves', world) → world.written = some report →
    ∃ settings used loads, parsed = .ok settings ∧ moves = used ++ moves' ∧
      Delivered listener watches settings start.steady report world (callsIn used) loads

theorem Written.delivered {watches : Bool} {settings : Settings} {since : Int}
    {report : DeliveryReport} {world : World} {calls : List κ}
    (written : Written watches settings since report world)
    (distinct : ∀ heard, ((listener heard).filterMap counterOf).Nodup)
    (called : world.state.threads.map Lib.Thread.operations = calls.map listener) :
    ∃ loads, Delivered listener watches settings since report world calls loads := by
  obtain ⟨-, o, observed⟩ := written
  exact observed.delivered distinct called

/-! A run of each client. A call begins in the warm-up, and adds to some of its counters only
while the elapsed time is measured; in the run of the Graal client another one begins and ends in
this time, the connection of the legacy client is lost. -/

/-- So many actions of `main` without a move before them. -/
private def quiet {κ : Type} (actions : Nat) : List (List (Move κ)) := List.replicate actions []

private def graalMoves : List (List (Move GraalCall)) :=
  [[[.call (.profiles 1), .advance 0 false, .call (.market [some .trade]), .advance 1 false,
      .advance 1 false]],
    quiet 7, [[.elapse 2000000000]], quiet 12,
    [[.advance 1 false, .elapse 1000000000, .call (.market [some .quote, some .trade])] ++
      List.replicate 8 (.advance 2 false) ++ [.elapse 4000000000] ++
      List.replicate 5 (.advance 1 false)]].flatten

private def legacyMoves : List (List (Move LegacyCall)) :=
  [quiet 4,
    [[.call ⟨.profile, 1⟩] ++ List.replicate 4 (.advance 0 false) ++
      [.call ⟨.regular .trade, 1⟩] ++ List.replicate 3 (.advance 1 false)],
    quiet 8, [[.elapse 2000000000]], quiet 12,
    [[.advance 1 false, .elapse 3000000000, .terminate]]].flatten

/-- What the runs are looked at for: two counters, the maximum and the elapsed time. -/
private def summary (report : DeliveryReport) : Nat × Nat × Int × Int :=
  (report.measured .callbacks, report.measured .trades, report.maximumBatch, report.elapsed)

private theorem ran_of_summary {run : Option (Int × List (List (Move κ)) × World)} {code : Int}
    {counted : Nat × Nat × Int × Int}
    (evaluated : (run.map fun result => (result.1, result.2.2.written.map summary)) =
      some (code, some counted)) :
    ∃ moves' world report, run = some (code, moves', world) ∧ world.written = some report ∧
      summary report = counted := by
  obtain ⟨⟨code', moves', world⟩, ran, same⟩ := Option.map_eq_some_iff.mp evaluated
  obtain ⟨rfl, read⟩ := Prod.mk.inj same
  obtain ⟨report, written, counts⟩ := Option.map_eq_some_iff.mp read
  exact ⟨moves', world, report, ran, written, counts⟩

private theorem graal_ran : ∃ moves' world report,
    Graal.main {} true [] 10 graalMoves {} = some (0, moves', world) ∧
      world.written = some report ∧ summary report = (1, 2, 2, 5000000000) :=
  ran_of_summary (by decide +kernel)

private theorem legacy_ran : ∃ moves' world report,
    Legacy.main {} (fun _ => none) [] 10 legacyMoves {} = some (1, moves', world) ∧
      world.written = some report ∧ summary report = (0, 1, 1, 3000000000) :=
  ran_of_summary (by decide +kernel)

private theorem fresh_default : Fresh {} := ⟨rfl, rfl, rfl, rfl, rfl, rfl, rfl⟩

section Main

variable (host : Host) (supportsMonitoring : Bool) (api : Legacy.Api)
  (graalArguments legacyArguments : List Text)

/-- What the two clients report, whatever their listeners do in the meantime: every counter is
the sum of what the calls between its two loads add to it, none of them in part, and it has all of
the calls within the elapsed time; the maximum is that of one of the calls, and no smaller than
that of any call before the end. -/
theorem main_delivered :
    Reports GraalCall.listener false ((deliveryParseArgs graalArguments).map Graal.settings)
        (Graal.main host supportsMonitoring graalArguments) ∧
      Reports LegacyCall.listener true ((legacyParseArgs legacyArguments).map Legacy.settings)
        (Legacy.main host api legacyArguments) := by
  constructor
  · intro bound moves start code moves' world report fresh ran written
    obtain ⟨settings, parsed, measured⟩ := (Graal.main_ends fresh ran).written fresh written
    obtain ⟨used, split, called⟩ := (Graal.main_calls graalArguments).operations ran
      (by rw [fresh.state]; rfl)
    obtain ⟨loads, delivered⟩ := measured.delivered GraalCall.distinct called
    exact ⟨settings, used, loads, parsed, split, delivered⟩
  · intro bound moves start code moves' world report fresh ran written
    obtain ⟨settings, parsed, measured⟩ := (Legacy.main_ends fresh ran).written fresh written
    obtain ⟨used, split, called⟩ := (Legacy.main_calls legacyArguments).operations ran
      (by rw [fresh.state]; rfl)
    obtain ⟨loads, delivered⟩ := measured.delivered LegacyCall.distinct called
    exact ⟨settings, used, loads, parsed, split, delivered⟩

theorem main_delivered_both :
    (∃ moves' world report used loads,
      Graal.main {} true [] 10 graalMoves {} = some (0, moves', world) ∧
        world.written = some report ∧ summary report = (1, 2, 2, 5000000000) ∧
        graalMoves = used ++ moves' ∧
        Delivered GraalCall.listener false (Graal.settings {}) 0 report world (callsIn used)
          loads) ∧
    ∃ moves' world report used loads,
      Legacy.main {} (fun _ => none) [] 10 legacyMoves {} = some (1, moves', world) ∧
        world.written = some report ∧ summary report = (0, 1, 1, 3000000000) ∧
        legacyMoves = used ++ moves' ∧
        Delivered LegacyCall.listener true (Legacy.settings {}) 0 report world (callsIn used)
          loads := by
  obtain ⟨graal, legacy⟩ := main_delivered {} true (fun _ => none) [] []
  constructor
  · obtain ⟨moves', world, report, ran, written, counts⟩ := graal_ran
    obtain ⟨settings, used, loads, parsed, split, delivered⟩ :=
      graal _ _ _ _ _ _ _ fresh_default ran written
    cases parsed
    exact ⟨moves', world, report, used, loads, ran, written, counts, split, delivered⟩
  · obtain ⟨moves', world, report, ran, written, counts⟩ := legacy_ran
    obtain ⟨settings, used, loads, parsed, split, delivered⟩ :=
      legacy _ _ _ _ _ _ _ fresh_default ran written
    cases parsed
    exact ⟨moves', world, report, used, loads, ran, written, counts, split, delivered⟩

/-- How the two clients end, for all arguments. `--help` does nothing, and refused arguments are
an exception. Otherwise the exit code is 130 only for an interrupted run with a report, and 0 only
for a run with a report of a measurement of full length, which has events if they are required; a
failure is explained, or the connection of the legacy client was terminated. The Graal client has
closed its endpoint if there is a report; the legacy client has always ended its session. -/
theorem main_exits :
    (∀ bound moves start code moves' world, Fresh start →
      Graal.main host supportsMonitoring graalArguments bound moves start =
        some (code, moves', world) →
      Graal.Exit graalArguments start code world) ∧
    ∀ bound moves start code moves' world, Fresh start →
      Legacy.main host api legacyArguments bound moves start = some (code, moves', world) →
      Legacy.Exit legacyArguments start code world :=
  ⟨fun _ _ _ _ _ _ fresh ran => Graal.main_ends fresh ran,
    fun _ _ _ _ _ _ fresh ran => Legacy.main_ends fresh ran⟩

theorem main_exits_both :
    (∃ moves' world report, Graal.main {} true [] 10 graalMoves {} = some (0, moves', world) ∧
      world.written = some report ∧ Graal.Exit [] {} 0 world) ∧
    ∃ moves' world report,
      Legacy.main {} (fun _ => none) [] 10 legacyMoves {} = some (1, moves', world) ∧
        world.written = some report ∧ Legacy.Exit [] {} 1 world := by
  obtain ⟨graal, legacy⟩ := main_exits {} true (fun _ => none) [] []
  constructor
  · obtain ⟨moves', world, report, ran, written, -⟩ := graal_ran
    exact ⟨moves', world, report, ran, written, graal _ _ _ _ _ _ fresh_default ran⟩
  · obtain ⟨moves', world, report, ran, written, -⟩ := legacy_ran
    exact ⟨moves', world, report, ran, written, legacy _ _ _ _ _ _ fresh_default ran⟩

end Main

end LatencyTest.Delivery
