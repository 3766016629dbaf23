import Mathlib

/-!
Programs beside an environment. Between two actions of a program the environment moves any
number of times; a move changes the world the program reads. A program is a function of a
bound on the rounds of its loops and of the moves before each of its actions, so a run can be
evaluated; it has no result if a loop exceeds the bound. `Ensures` is what every run with a
result ensures, whatever the moves: its precondition has to be stable under them. `Completes`
says that a bound is large enough, `Logs` that a run notes the moves that it uses up.
-/

namespace LatencyTest.Lib

/-- A program that returns an `α`. -/
def Program {ω μ : Type} (_move : ω → μ → ω) (α : Type) : Type :=
  Nat → List (List μ) → ω → Option (α × List (List μ) × ω)

namespace Program

variable {ω μ α β σ : Type} {move : ω → μ → ω}

instance : Monad (Program move) where
  pure a := fun _ moves world => some (a, moves, world)
  bind first next := fun bound moves world =>
    (first bound moves world).bind fun (a, moves, world) => next a bound moves world

/-- The moves before an action, and the action. -/
def act (step : ω → α × ω) : Program move α := fun _ moves world =>
  let (a, world) := step ((moves.headD []).foldl move world)
  some (a, moves.tail, world)

/-- Reads the world. -/
def read (value : ω → α) : Program move α := act fun world => (value world, world)

/-- Changes the world. -/
def modify (change : ω → ω) : Program move Unit := act fun world => ((), change world)

/-- At most so many rounds: `inl` is the state of the next round, `inr` the result. -/
def rounds (body : σ → Program move (σ ⊕ α)) (bound : Nat) :
    Nat → σ → List (List μ) → ω → Option (α × List (List μ) × ω)
  | 0, _, _, _ => none
  | left + 1, state, moves, world =>
      (body state bound moves world).bind fun
        | (.inl next, moves, world) => rounds body bound left next moves world
        | (.inr a, moves, world) => some (a, moves, world)

def loop (body : σ → Program move (σ ⊕ α)) (state : σ) : Program move α := fun bound =>
  rounds body bound bound state

/-- An action under a condition. -/
def whenever (condition : Prop) [Decidable condition] (program : Program move Unit) :
    Program move Unit :=
  if condition then program else pure ()

/-- The second condition is evaluated only if the first one holds. -/
def both (first second : Program move Bool) : Program move Bool := do
  if ← first then second else pure false

/-- A run of two programs is a run of the first and then of the second. -/
theorem ran_bind {first : Program move α} {next : α → Program move β} {bound : Nat}
    {moves moves' : List (List μ)} {world world' : ω} {b : β}
    (ran : (first >>= next) bound moves world = some (b, moves', world')) :
    ∃ a middle between, first bound moves world = some (a, middle, between) ∧
      next a bound middle between = some (b, moves', world') := by
  obtain ⟨⟨a, middle, between⟩, first, second⟩ := Option.bind_eq_some_iff.mp ran
  exact ⟨a, middle, between, first, second⟩

/-! ### Partial correctness -/

/-- No move of the environment ends an assertion. -/
def Stable (move : ω → μ → ω) (assertion : ω → Prop) : Prop :=
  ∀ world made, assertion world → assertion (move world made)

/-- Whatever the moves, a run from `before` with a result ends in `after` of the result. -/
def Ensures (before : ω → Prop) (program : Program move α) (after : α → ω → Prop) : Prop :=
  ∀ bound moves world, before world → ∀ a moves' world',
    program bound moves world = some (a, moves', world') → after a world'

section

variable {before before' : ω → Prop} {after after' : α → ω → Prop}

theorem Stable.and {left right : ω → Prop} (first : Stable move left)
    (second : Stable move right) : Stable move fun world => left world ∧ right world :=
  fun world made holds => ⟨first world made holds.1, second world made holds.2⟩

theorem Stable.exists {family : σ → ω → Prop} (each : ∀ x, Stable move (family x)) :
    Stable move fun world => ∃ x, family x world :=
  fun world made ⟨x, holds⟩ => ⟨x, each x world made holds⟩

theorem Stable.const (fact : Prop) : Stable move fun _ => fact := fun _ _ holds => holds

theorem Stable.foldl {assertion : ω → Prop} (stable : Stable move assertion) {world : ω}
    (holds : assertion world) (moves : List μ) : assertion (moves.foldl move world) := by
  induction moves generalizing world with
  | nil => exact holds
  | cons made moves ih => exact ih (stable world made holds)

theorem Ensures.pure {a : α} (holds : ∀ world, before world → after a world) :
    Ensures before (Pure.pure a : Program move α) after := by
  intro bound moves world start b moves' world' ran
  cases ran
  exact holds world start

theorem Ensures.bind {first : Program move α} {next : α → Program move β} {last : β → ω → Prop}
    (start : Ensures before first after) (rest : ∀ a, Ensures (after a) (next a) last) :
    Ensures before (first >>= next) last := by
  intro bound moves world holds b moves' world' ran
  obtain ⟨a, middle, between, ran, continued⟩ := ran_bind ran
  exact rest a bound middle between (start bound moves world holds a middle between ran) b moves'
    world' continued

theorem Ensures.act {step : ω → α × ω} (stable : Stable move before)
    (holds : ∀ world, before world → after (step world).1 (step world).2) :
    Ensures before (act step : Program move α) after := by
  intro bound moves world start a moves' world' ran
  cases ran
  exact holds _ (stable.foldl start _)

theorem Ensures.read {value : ω → α} (stable : Stable move before)
    (holds : ∀ world, before world → after (value world) world) :
    Ensures before (read value : Program move α) after :=
  .act stable holds

theorem Ensures.read_keeps {value : ω → α} (stable : Stable move before) :
    Ensures before (Program.read value : Program move α) fun _ => before :=
  .act stable fun _ => id

/-- When nothing comes after it the value is that of the world. -/
theorem Ensures.read_value {value : ω → α} (stable : Stable move before) :
    Ensures before (Program.read value : Program move α) fun a world =>
      before world ∧ value world = a :=
  .act stable fun _ holds => ⟨holds, rfl⟩

theorem Ensures.modify {change : ω → ω} (after : ω → Prop) (stable : Stable move before)
    (holds : ∀ world, before world → after (change world)) :
    Ensures before (Program.modify change : Program move Unit) fun _ => after :=
  .act stable holds

theorem Ensures.modify_keeps {change : ω → ω} (stable : Stable move before)
    (holds : ∀ world, before world → before (change world)) :
    Ensures before (Program.modify change : Program move Unit) fun _ => before :=
  .act stable holds

theorem Ensures.weaken {program : Program move α} (ensures : Ensures before program after)
    (start : ∀ world, before' world → before world)
    (stop : ∀ a world, after a world → after' a world) : Ensures before' program after' :=
  fun bound moves world holds a moves' world' ran =>
    stop a world' (ensures bound moves world (start world holds) a moves' world' ran)

theorem Ensures.of_imp (before : ω → Prop) {program : Program move α}
    (start : ∀ world, before' world → before world)
    (ensures : Ensures before program after) : Ensures before' program after :=
  ensures.weaken start fun _ _ => id

theorem Ensures.and {program : Program move α} (first : Ensures before program after)
    (second : Ensures before' program after') :
    Ensures (fun world => before world ∧ before' world) program
      fun a world => after a world ∧ after' a world :=
  fun bound moves world holds a moves' world' ran =>
    ⟨first bound moves world holds.1 a moves' world' ran,
      second bound moves world holds.2 a moves' world' ran⟩

/-- What does not depend on the world can be assumed. -/
theorem Ensures.of_fact {program : Program move α} {fact : Prop}
    (ensures : fact → Ensures before program after) :
    Ensures (fun world => fact ∧ before world) program after :=
  fun bound moves world holds => ensures holds.1 bound moves world holds.2

theorem Ensures.of_exists {program : Program move α} {family : σ → ω → Prop}
    (each : ∀ x, Ensures (family x) program after) :
    Ensures (fun world => ∃ x, family x world) program after :=
  fun bound moves world ⟨x, holds⟩ => each x bound moves world holds

theorem Ensures.whenever {condition : Prop} [Decidable condition] {program : Program move Unit}
    (after : ω → Prop) (done : condition → Ensures before program fun _ => after)
    (skipped : ¬ condition → ∀ world, before world → after world) :
    Ensures before (Program.whenever condition program) fun _ => after := by
  unfold Program.whenever
  split
  · exact done ‹_›
  · exact .pure (skipped ‹_›)

theorem Ensures.whenever_keeps {condition : Prop} [Decidable condition]
    {program : Program move Unit} (done : Ensures before program fun _ => before) :
    Ensures before (Program.whenever condition program) fun _ => before :=
  .whenever before (fun _ => done) fun _ _ => id

/-- A result can have a property that does not depend on the world. -/
theorem Ensures.bind_fact {first : Program move α} {next : α → Program move β}
    {kept : α → ω → Prop} {fact : α → Prop} {last : β → ω → Prop}
    (start : Ensures before first fun a world => kept a world ∧ fact a)
    (rest : ∀ a, fact a → Ensures (kept a) (next a) last) :
    Ensures before (first >>= next) last :=
  .bind start fun a => .of_imp _ (fun _ holds => ⟨holds.2, holds.1⟩) (.of_fact (rest a))

/-- Both conditions were found true, or one of them was not. -/
theorem Ensures.both {first second : Program move Bool} (held : ω → Prop)
    {after : Bool → ω → Prop}
    (start : Ensures before first fun result world => if result then held world else
      after false world)
    (rest : Ensures held second after) : Ensures before (both first second) after := by
  refine .bind start fun result => ?_
  cases result with
  | true => exact rest
  | false => exact .pure fun world => id

theorem Ensures.both_keeps {first second : Program move Bool}
    (start : Ensures before first fun _ => before)
    (rest : Ensures before second fun _ => before) :
    Ensures before (Program.both first second) fun _ => before := by
  refine .both before (start.weaken (fun _ => id) fun result world holds => ?_) rest
  split <;> exact holds

/-- An invariant of the states of a loop that every round keeps or ends. -/
theorem Ensures.loop {body : σ → Program move (σ ⊕ α)} (invariant : σ → ω → Prop)
    (after : α → ω → Prop) (round : ∀ state, Ensures (invariant state) (body state)
      fun result world => result.elim (invariant · world) (after · world)) (state : σ) :
    Ensures (invariant state) (loop body state) after := by
  intro bound moves world holds a moves' world' ran
  have repeated : ∀ left state moves world, invariant state world →
      rounds body bound left state moves world = some (a, moves', world') → after a world' := by
    intro left
    induction left with
    | zero =>
        intro state moves world holds ran
        cases ran
    | succ left ih =>
        intro state moves world holds ran
        rw [rounds] at ran
        obtain ⟨⟨result, middle, between⟩, ran, continued⟩ := Option.bind_eq_some_iff.mp ran
        have kept := round state bound moves world holds result middle between ran
        cases result with
        | inl next => exact ih next middle between kept continued
        | inr b =>
            cases continued
            exact kept
  exact repeated bound state moves world holds ran

end

/-! ### Termination -/

/-- Whatever the moves, a run from `before` has a result if its loops may take `need` rounds. -/
def Completes (before : ω → Prop) (program : Program move α) (need : Nat) : Prop :=
  ∀ bound moves world, need ≤ bound → before world → (program bound moves world).isSome

section

variable {before : ω → Prop} {need : Nat}

theorem Completes.pure {a : α} : Completes before (Pure.pure a : Program move α) need :=
  fun _ _ _ _ _ => rfl

theorem Completes.act {step : ω → α × ω} :
    Completes before (act step : Program move α) need :=
  fun _ _ _ _ _ => rfl

theorem Completes.read {value : ω → α} :
    Completes before (Program.read value : Program move α) need := .act

theorem Completes.modify {change : ω → ω} :
    Completes before (Program.modify change : Program move Unit) need := .act

theorem Completes.bind {first : Program move α} {next : α → Program move β}
    {after : α → ω → Prop} (start : Completes before first need)
    (ensures : Ensures before first after) (rest : ∀ a, Completes (after a) (next a) need) :
    Completes before (first >>= next) need := by
  intro bound moves world enough holds
  obtain ⟨⟨a, middle, between⟩, ran⟩ :=
    Option.isSome_iff_exists.mp (start bound moves world enough holds)
  have continued := rest a bound middle between enough
    (ensures bound moves world holds a middle between ran)
  change ((first bound moves world).bind _).isSome
  rw [ran]
  exact continued

/-- Programs that always complete, one after the other. -/
theorem Completes.seq {first : Program move α} {next : α → Program move β}
    (start : Completes (fun _ => True) first need)
    (rest : ∀ a, Completes (fun _ => True) (next a) need) :
    Completes (fun _ => True) (first >>= next) need :=
  .bind start (fun _ _ _ _ _ _ _ _ => trivial) rest

theorem Completes.both {first second : Program move Bool}
    (start : Completes (fun _ => True) first need)
    (rest : Completes (fun _ => True) second need) :
    Completes (fun _ => True) (Program.both first second) need := by
  refine .seq start fun result => ?_
  cases result with
  | true => exact rest
  | false => exact .pure

theorem Completes.whenever {condition : Prop} [Decidable condition]
    {program : Program move Unit} (done : Completes before program need) :
    Completes before (Program.whenever condition program) need := by
  unfold Program.whenever
  split
  · exact done
  · exact .pure

theorem Completes.of_imp {before' : ω → Prop} {program : Program move α}
    (completes : Completes before program need) (start : ∀ world, before' world → before world) :
    Completes before' program need :=
  fun bound moves world enough holds => completes bound moves world enough (start world holds)

/-- A loop ends if every round ends it or leaves it one round less. -/
theorem Completes.loop {body : σ → Program move (σ ⊕ α)} (invariant : Nat → σ → ω → Prop)
    (ends : ∀ left state, Completes (invariant left state) (body state) need)
    (round : ∀ left state, Ensures (invariant left state) (body state) fun result world =>
      ∀ next, result = .inl next → ∃ fewer < left, invariant fewer next world)
    {left : Nat} (enough : left < need) (state : σ) :
    Completes (invariant left state) (loop body state) need := by
  intro bound moves world large holds
  have repeated : ∀ allowed left state moves world, left < allowed → invariant left state world →
      (rounds body bound allowed state moves world).isSome := by
    intro allowed
    induction allowed with
    | zero =>
        intro left state moves world fits
        exact absurd fits (Nat.not_lt_zero left)
    | succ allowed ih =>
        intro left state moves world fits holds
        obtain ⟨⟨result, middle, between⟩, ran⟩ :=
          Option.isSome_iff_exists.mp (ends left state bound moves world large holds)
        rw [rounds, ran]
        cases result with
        | inl next =>
            obtain ⟨fewer, less, kept⟩ :=
              round left state bound moves world holds _ middle between ran next rfl
            exact ih fewer next middle between (by omega) kept
        | inr b => rfl
  exact repeated bound left state moves world (by omega) holds

/-- A loop whose state counts its rounds down. -/
theorem Completes.counted {body : σ → Program move (σ ⊕ α)} (measure : σ → Nat)
    (ends : ∀ state, Completes (fun _ => True) (body state) need)
    (round : ∀ state, Ensures (fun _ => True) (body state) fun result _ =>
      ∀ next, result = .inl next → measure next < measure state)
    {state : σ} (enough : measure state < need) :
    Completes (fun _ => True) (Program.loop body state) need := by
  refine .of_imp (.loop (fun left state _ => measure state = left)
    (fun _ state => (ends state).of_imp fun _ _ => trivial) ?_ enough state) fun _ _ => rfl
  intro left state bound moves world same result moves' world' ran next continues
  have less := round state bound moves world trivial result moves' world' ran next continues
  exact ⟨measure next, same ▸ less, rfl⟩

/-- A loop that goes on before a deadline only, and takes some time, ends after it. -/
theorem Completes.timed {body : σ → Program move (σ ⊕ α)} (clock : ω → Int) {pause deadline : Int}
    (ends : ∀ state, Completes (fun _ => True) (body state) need)
    (round : ∀ time state, Ensures (fun world => time ≤ clock world) (body state)
      fun result world => ∀ next, result = .inl next →
        time < deadline ∧ time + pause ≤ clock world)
    {left : Nat} (enough : left < need) {time : Int} (due : deadline ≤ time + left * pause)
    (state : σ) : Completes (fun world => time ≤ clock world) (Program.loop body state) need := by
  have rounds : Completes (fun world => ∃ time, deadline ≤ time + left * pause ∧
      time ≤ clock world) (Program.loop body state) need := by
    refine .loop (fun left _ world => ∃ time, deadline ≤ time + left * pause ∧ time ≤ clock world)
      (fun _ state => (ends state).of_imp fun _ _ => trivial) (fun left state => ?_) enough state
    refine .of_exists fun time => .of_fact fun due => (round time state).weaken (fun _ => id) ?_
    intro result world advanced next continues
    obtain ⟨early, later⟩ := advanced next continues
    cases left with
    | zero =>
        rw [Nat.cast_zero, zero_mul, add_zero] at due
        exact absurd early (not_lt.mpr due)
    | succ left =>
        refine ⟨left, Nat.lt_succ_self left, time + pause, ?_, later⟩
        rw [Nat.cast_succ] at due
        linarith
  exact rounds.of_imp fun world passed => ⟨time, due, passed⟩

end

/-! ### What the environment does in a run -/

/-- A part of the world to which only the moves add something, each of them its entries. -/
structure Log (move : ω → μ → ω) (ν : Type) where
  read : ω → List ν
  entries : μ → List ν
  read_move : ∀ world made, read (move world made) = read world ++ entries made

/-- Whatever the moves, a run uses up the first ones and adds their entries to the log. -/
def Logs {ν : Type} (log : Log move ν) (program : Program move α) : Prop :=
  ∀ bound moves world a moves' world', program bound moves world = some (a, moves', world') →
    ∃ used, moves = used ++ moves' ∧
      log.read world' = log.read world ++ used.flatten.flatMap log.entries

section

variable {ν : Type} {log : Log move ν}

theorem Log.read_foldl (log : Log move ν) (moves : List μ) (world : ω) :
    log.read (moves.foldl move world) = log.read world ++ moves.flatMap log.entries := by
  induction moves generalizing world with
  | nil => exact (List.append_nil _).symm
  | cons made moves ih =>
      rw [List.foldl_cons, ih, log.read_move, List.flatMap_cons, List.append_assoc]

/-- What two runs add, one after the other. -/
theorem Log.append {moves between moves' : List (List μ)} {world middle world' : ω}
    (first : ∃ used, moves = used ++ between ∧
      log.read middle = log.read world ++ used.flatten.flatMap log.entries)
    (second : ∃ used, between = used ++ moves' ∧
      log.read world' = log.read middle ++ used.flatten.flatMap log.entries) :
    ∃ used, moves = used ++ moves' ∧
      log.read world' = log.read world ++ used.flatten.flatMap log.entries := by
  obtain ⟨used, rfl, read⟩ := first
  obtain ⟨more, rfl, read'⟩ := second
  refine ⟨used ++ more, (List.append_assoc ..).symm, ?_⟩
  rw [read', read, List.flatten_append, List.flatMap_append, List.append_assoc]

theorem Logs.pure {a : α} : Logs log (Pure.pure a : Program move α) := by
  intro bound moves world b moves' world' ran
  cases ran
  exact ⟨[], rfl, (List.append_nil _).symm⟩

/-- An action that leaves the log alone. -/
theorem Logs.act {step : ω → α × ω} (keeps : ∀ world, log.read (step world).2 = log.read world) :
    Logs log (Program.act step : Program move α) := by
  intro bound moves world a moves' world' ran
  cases ran
  rw [keeps, log.read_foldl]
  cases moves with
  | nil => exact ⟨[], rfl, rfl⟩
  | cons first moves => exact ⟨[first], rfl, by rw [List.flatten_singleton, List.headD_cons]⟩

theorem Logs.read {value : ω → α} : Logs log (Program.read value : Program move α) :=
  .act fun _ => rfl

theorem Logs.modify {change : ω → ω} (keeps : ∀ world, log.read (change world) = log.read world) :
    Logs log (Program.modify change : Program move Unit) :=
  .act keeps

theorem Logs.bind {first : Program move α} {next : α → Program move β} (start : Logs log first)
    (rest : ∀ a, Logs log (next a)) : Logs log (first >>= next) := by
  intro bound moves world b moves' world' ran
  obtain ⟨a, middle, between, ran, continued⟩ := ran_bind ran
  exact Log.append (start bound moves world a middle between ran)
    (rest a bound middle between b moves' world' continued)

theorem Logs.whenever {condition : Prop} [Decidable condition] {program : Program move Unit}
    (done : Logs log program) : Logs log (Program.whenever condition program) := by
  unfold Program.whenever
  split
  · exact done
  · exact .pure

theorem Logs.both {first second : Program move Bool} (start : Logs log first)
    (rest : Logs log second) : Logs log (Program.both first second) := by
  refine .bind start fun result => ?_
  cases result with
  | true => exact rest
  | false => exact .pure

theorem Logs.loop {body : σ → Program move (σ ⊕ α)} (round : ∀ state, Logs log (body state))
    (state : σ) : Logs log (Program.loop body state) := by
  intro bound moves world a moves' world' ran
  have repeated : ∀ left state moves world,
      rounds body bound left state moves world = some (a, moves', world') →
      ∃ used, moves = used ++ moves' ∧
        log.read world' = log.read world ++ used.flatten.flatMap log.entries := by
    intro left
    induction left with
    | zero =>
        intro state moves world ran
        cases ran
    | succ left ih =>
        intro state moves world ran
        rw [rounds] at ran
        obtain ⟨⟨result, middle, between⟩, ran, continued⟩ := Option.bind_eq_some_iff.mp ran
        have logged := round state bound moves world result middle between ran
        cases result with
        | inl next => exact Log.append logged (ih next middle between continued)
        | inr b =>
            cases continued
            exact logged
  exact repeated bound state moves world ran

end

end Program

end LatencyTest.Lib
