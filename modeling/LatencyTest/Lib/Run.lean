import Mathlib

/-!
Runs of a program that can fail. A `Machine` takes one input at a time and
either produces the next state and some outputs or fails (an index out of
range, a division by zero). Facts about runs follow from facts about steps: steps
that never fail and keep an invariant make runs that never fail (`run_total`), and
a property of the inputs, the state and the outputs so far holds of every run when
every step extends it (`run_history`). `foldlM_invariant` is the same rule for a
loop inside a step.
-/

namespace LatencyTest.Lib

/-- A step function with outputs; `none` is a failure. -/
structure Machine (σ ι ω : Type) where
  step : σ → ι → Option (σ × List ω)

namespace Machine

variable {σ ι ω : Type} (machine : Machine σ ι ω)

/-- The run over a list of inputs: the last state and all outputs in order. -/
def run (state : σ) : List ι → Option (σ × List ω)
  | [] => some (state, [])
  | input :: inputs =>
      (machine.step state input).bind fun next =>
        (run next.1 inputs).map fun rest => (rest.1, next.2 ++ rest.2)

@[simp] theorem run_nil (state : σ) : machine.run state [] = some (state, []) := rfl

/-- A run over one more input first takes its step. -/
theorem run_cons {state last : σ} {input : ι} {inputs : List ι} {outputs : List ω} :
    machine.run state (input :: inputs) = some (last, outputs) ↔
      ∃ next first rest, machine.step state input = some (next, first) ∧
        machine.run next inputs = some (last, rest) ∧ outputs = first ++ rest := by
  simp only [run, Option.bind_eq_some_iff, Option.map_eq_some_iff, Prod.exists, Prod.mk.injEq]
  constructor
  · rintro ⟨next, first, step, last', rest, run, rfl, rfl⟩
    exact ⟨next, first, rest, step, run, rfl⟩
  · rintro ⟨next, first, rest, step, run, rfl⟩
    exact ⟨next, first, step, last, rest, run, rfl, rfl⟩

/-- A run over a concatenation passes through an intermediate state. -/
theorem run_append {state last : σ} {xs ys : List ι} {outputs : List ω} :
    machine.run state (xs ++ ys) = some (last, outputs) ↔
      ∃ middle before after, machine.run state xs = some (middle, before) ∧
        machine.run middle ys = some (last, after) ∧ outputs = before ++ after := by
  induction xs generalizing state outputs with
  | nil =>
      constructor
      · intro run
        exact ⟨state, [], outputs, rfl, run, rfl⟩
      · rintro ⟨middle, before, after, start, run, rfl⟩
        cases start
        exact run
  | cons input xs ih =>
      rw [List.cons_append, run_cons]
      constructor
      · rintro ⟨next, first, rest, step, run, rfl⟩
        obtain ⟨middle, before, after, run', tail, rfl⟩ := ih.mp run
        exact ⟨middle, first ++ before, after,
          machine.run_cons.mpr ⟨next, first, before, step, run', rfl⟩, tail, by simp⟩
      · rintro ⟨middle, before, after, run, tail, rfl⟩
        obtain ⟨next, first, rest, step, run', rfl⟩ := machine.run_cons.mp run
        exact ⟨next, first, rest ++ after, step, ih.mpr ⟨middle, rest, after, run', tail, rfl⟩,
          by simp⟩

/-- A run of one input is its step. -/
theorem run_singleton {state last : σ} {input : ι} {outputs : List ω} :
    machine.run state [input] = some (last, outputs) ↔
      machine.step state input = some (last, outputs) := by
  rw [run_cons]
  constructor
  · rintro ⟨next, first, rest, step, done, rfl⟩
    cases done
    rwa [List.append_nil]
  · intro step
    exact ⟨last, outputs, [], step, rfl, (List.append_nil _).symm⟩

/-- Steps that succeed and keep an invariant make runs that succeed. -/
theorem run_total {invariant : σ → Prop}
    (step : ∀ state input, invariant state →
      ∃ next outputs, machine.step state input = some (next, outputs) ∧ invariant next)
    {state : σ} (inputs : List ι) (start : invariant state) :
    ∃ last outputs, machine.run state inputs = some (last, outputs) ∧ invariant last := by
  induction inputs generalizing state with
  | nil => exact ⟨state, [], rfl, start⟩
  | cons input inputs ih =>
      obtain ⟨next, first, taken, kept⟩ := step state input start
      obtain ⟨last, rest, run, final⟩ := ih kept
      exact ⟨last, first ++ rest, machine.run_cons.mpr ⟨next, first, rest, taken, run, rfl⟩, final⟩

/-- A property of a state together with the inputs and outputs that led to it holds
at the end of every run when it holds at the start and every step extends it. -/
theorem run_history (history : List ι → σ → List ω → Prop) {start : σ}
    (nothing : history [] start [])
    (step : ∀ before state earlier input next outputs,
      machine.run start before = some (state, earlier) → history before state earlier →
      machine.step state input = some (next, outputs) →
      history (before ++ [input]) next (earlier ++ outputs))
    {inputs : List ι} {last : σ} {outputs : List ω}
    (run : machine.run start inputs = some (last, outputs)) : history inputs last outputs := by
  induction inputs using List.reverseRecOn generalizing last outputs with
  | nil =>
      cases run
      exact nothing
  | append_singleton before input ih =>
      obtain ⟨state, earlier, later, run', final, rfl⟩ := machine.run_append.mp run
      exact step before state earlier input last later run' (ih run')
        (machine.run_singleton.mp final)

end Machine

/-- A loop that can fail: if every round succeeds and extends what is known of the
elements already processed, the loop succeeds and it is known of all. -/
theorem foldlM_invariant {α σ : Type} (body : σ → α → Option σ) (known : List α → σ → Prop)
    (elements : List α) (state : σ) (start : known [] state)
    (round : ∀ processed element, processed ++ [element] <+: elements → ∀ state,
      known processed state → ∃ next, body state element = some next ∧
        known (processed ++ [element]) next) :
    ∃ last, elements.foldlM body state = some last ∧ known elements last := by
  have loop : ∀ processed remaining state, processed ++ remaining = elements →
      known processed state →
      ∃ last, remaining.foldlM body state = some last ∧ known elements last := by
    intro processed remaining
    induction remaining generalizing processed with
    | nil =>
        intro state whole holds
        rw [List.append_nil] at whole
        subst whole
        exact ⟨state, rfl, holds⟩
    | cons element remaining ih =>
        intro state whole holds
        have sofar : processed ++ [element] <+: elements := ⟨remaining, by simp [← whole]⟩
        obtain ⟨next, done, extended⟩ := round processed element sofar state holds
        obtain ⟨last, rest, final⟩ :=
          ih (processed ++ [element]) next (by simp [← whole]) extended
        refine ⟨last, ?_, final⟩
        rw [List.foldlM_cons, done]
        exact rest
  exact loop [] elements state rfl start

/-- A loop that succeeds relates its states as its rounds do. -/
theorem foldlM_related {α σ : Type} {body : σ → α → Option σ} {related : σ → σ → Prop}
    (refl : ∀ state, related state state)
    (trans : ∀ {a b c}, related a b → related b c → related a c)
    (round : ∀ state element next, body state element = some next → related state next)
    {elements : List α} {state last : σ} (loop : elements.foldlM body state = some last) :
    related state last := by
  induction elements generalizing state with
  | nil =>
      cases loop
      exact refl _
  | cons element elements ih =>
      rw [List.foldlM_cons] at loop
      obtain ⟨next, done, rest⟩ := Option.bind_eq_some_iff.mp loop
      exact trans (round state element next done) (ih rest)

/-- A loop of checks that succeeds keeps what its rounds keep. -/
theorem foldlM_ok {ε α σ : Type} {body : σ → α → Except ε σ} {holds : σ → Prop}
    (round : ∀ state element next, holds state → body state element = .ok next → holds next)
    {elements : List α} {state last : σ} (start : holds state)
    (loop : elements.foldlM body state = .ok last) : holds last := by
  induction elements generalizing state with
  | nil =>
      cases loop
      exact start
  | cons element elements ih =>
      rw [List.foldlM_cons] at loop
      cases done : body state element with
      | error e =>
          rw [done] at loop
          cases loop
      | ok next =>
          rw [done] at loop
          exact ih (round state element next start done) loop

/-- A loop of checks that succeeds has made each of its checks. -/
theorem foldlM_ok_mem {ε α σ : Type} {body : σ → α → Except ε σ} {elements : List α}
    {state last : σ} (loop : elements.foldlM body state = .ok last) {element : α}
    (mem : element ∈ elements) : ∃ state next, body state element = .ok next := by
  induction elements generalizing state with
  | nil => cases mem
  | cons first elements ih =>
      rw [List.foldlM_cons] at loop
      cases done : body state first with
      | error e =>
          rw [done] at loop
          cases loop
      | ok next =>
          rw [done] at loop
          rcases List.mem_cons.mp mem with rfl | later
          · exact ⟨state, next, done⟩
          · exact ih loop later

/-- Reading every element succeeds when each read does. -/
theorem mapM_eq_some {α β : Type} {read : α → Option β} {elements : List α} {values : List β} :
    elements.mapM read = some values ↔
      List.Forall₂ (fun element value => read element = some value) elements values := by
  induction elements generalizing values with
  | nil => simp [eq_comm]
  | cons element elements ih =>
      simp only [List.mapM_cons, Option.bind_eq_bind, Option.bind_eq_some_iff, Option.pure_def,
        Option.some.injEq, List.forall₂_cons_left_iff, ih]
      constructor
      · rintro ⟨value, here, values', rest, rfl⟩
        exact ⟨value, values', here, rest, rfl⟩
      · rintro ⟨value, values', here, rest, rfl⟩
        exact ⟨value, here, values', rest, rfl⟩

end LatencyTest.Lib
