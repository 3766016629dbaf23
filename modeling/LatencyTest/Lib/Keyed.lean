import Mathlib

/-!
Machines that keep one independent state per key. Every input names a key and
touches only that key's state; what the machine produces is accumulated in a
commutative monoid. Then nothing depends on how the inputs of different keys are
interleaved: the state of a key is what that key's own inputs produce, and the
accumulated output is the sum over the keys (`run_state`, `run_output`).
-/

namespace LatencyTest.Lib

/-- One step of the machine of a key: the new state and what it adds to the
output. -/
structure KeyedMachine (κ σ ι M : Type) where
  step : κ → σ → ι → σ × M

namespace KeyedMachine

variable {κ σ ι M : Type} (machine : KeyedMachine κ σ ι M)

/-- The inputs of one key, in order. -/
def inputsOf [DecidableEq κ] (k : κ) (inputs : List (κ × ι)) : List ι :=
  (inputs.filter (·.1 = k)).map Prod.snd

section InputsOf

variable [DecidableEq κ]

@[simp] theorem inputsOf_nil (k : κ) : inputsOf k ([] : List (κ × ι)) = [] := rfl

theorem inputsOf_cons (k : κ) (input : κ × ι) (inputs : List (κ × ι)) :
    inputsOf k (input :: inputs) =
      if input.1 = k then input.2 :: inputsOf k inputs else inputsOf k inputs := by
  by_cases eq : input.1 = k <;> simp [inputsOf, eq]

@[simp] theorem inputsOf_append (k : κ) (xs ys : List (κ × ι)) :
    inputsOf k (xs ++ ys) = inputsOf k xs ++ inputsOf k ys := by
  simp [inputsOf]

/-- A key has inputs exactly when it occurs in the input list. -/
theorem inputsOf_eq_nil {k : κ} {inputs : List (κ × ι)} :
    inputsOf k inputs = [] ↔ k ∉ inputs.map Prod.fst := by
  simp only [inputsOf, List.map_eq_nil_iff, List.filter_eq_nil_iff, List.mem_map, not_exists,
    not_and, decide_eq_true_eq]

/-- Inputs transformed without looking at the other keys are transformed per key. -/
theorem inputsOf_map {ι' : Type} (f : ι → ι') (k : κ) (inputs : List (κ × ι)) :
    inputsOf k (inputs.map fun input => (input.1, f input.2)) = (inputsOf k inputs).map f := by
  simp [inputsOf, List.filter_map, Function.comp_def]

end InputsOf

variable [AddCommMonoid M]

/-- The run of a single key over its own inputs. -/
def localRun (k : κ) (state : σ) : List ι → σ × M
  | [] => (state, 0)
  | input :: inputs =>
      let next := machine.step k state input
      let rest := localRun k next.1 inputs
      (rest.1, next.2 + rest.2)

theorem localRun_append (k : κ) (state : σ) (xs ys : List ι) :
    machine.localRun k state (xs ++ ys) =
      let first := machine.localRun k state xs
      let second := machine.localRun k first.1 ys
      (second.1, first.2 + second.2) := by
  induction xs generalizing state with
  | nil => simp [localRun]
  | cons input xs ih => simp [localRun, ih, add_assoc]

/-- A run over one more input ends with the step of that input. -/
theorem localRun_snoc (k : κ) (state : σ) (inputs : List ι) (input : ι) :
    machine.localRun k state (inputs ++ [input]) =
      let before := machine.localRun k state inputs
      let last := machine.step k before.1 input
      (last.1, before.2 + last.2) := by
  simp [localRun_append, localRun]

variable [DecidableEq κ]

/-- The run of all keys together over their interleaved inputs. -/
def run (states : κ → σ) : List (κ × ι) → (κ → σ) × M
  | [] => (states, 0)
  | input :: inputs =>
      let next := machine.step input.1 (states input.1) input.2
      let rest := run (Function.update states input.1 next.1) inputs
      (rest.1, next.2 + rest.2)

theorem run_append (states : κ → σ) (xs ys : List (κ × ι)) :
    machine.run states (xs ++ ys) =
      let first := machine.run states xs
      let second := machine.run first.1 ys
      (second.1, first.2 + second.2) := by
  induction xs generalizing states with
  | nil => simp [run]
  | cons input xs ih => simp [run, ih, add_assoc]

/-- The state of a key is the result of that key's own inputs. -/
theorem run_state (states : κ → σ) (inputs : List (κ × ι)) (k : κ) :
    (machine.run states inputs).1 k =
      (machine.localRun k (states k) (inputsOf k inputs)).1 := by
  induction inputs generalizing states with
  | nil => rfl
  | cons input inputs ih =>
      simp only [run, ih, inputsOf_cons]
      by_cases eq : input.1 = k
      · subst eq
        simp [localRun]
      · simp [eq, Function.update_of_ne (Ne.symm eq)]

/-- The output is the sum of the outputs of the keys. -/
theorem run_output (states : κ → σ) (inputs : List (κ × ι)) (keys : Finset κ)
    (covers : ∀ input ∈ inputs, input.1 ∈ keys) :
    (machine.run states inputs).2 =
      ∑ k ∈ keys, (machine.localRun k (states k) (inputsOf k inputs)).2 := by
  induction inputs generalizing states with
  | nil => simp [run, localRun]
  | cons input inputs ih =>
      have mem : input.1 ∈ keys := covers input List.mem_cons_self
      have rest := ih (Function.update states input.1
        (machine.step input.1 (states input.1) input.2).1)
        fun other h => covers other (List.mem_cons_of_mem _ h)
      have others : ∀ k ∈ keys.erase input.1,
          machine.localRun k (Function.update states input.1
            (machine.step input.1 (states input.1) input.2).1 k) (inputsOf k inputs) =
          machine.localRun k (states k) (inputsOf k (input :: inputs)) := by
        intro k h
        have ne : input.1 ≠ k := (Finset.ne_of_mem_erase h).symm
        rw [Function.update_of_ne ne.symm, inputsOf_cons, if_neg ne]
      rw [run, rest, ← Finset.add_sum_erase _ _ mem, ← Finset.add_sum_erase keys _ mem,
        Finset.sum_congr rfl fun k h => by rw [others k h]]
      simp only [Function.update_self, inputsOf_cons, ↓reduceIte, localRun, add_assoc]

/-- What holds of the output of every step and passes to sums holds of every run. -/
theorem run_output_induction {P : List (κ × ι) → M → Prop} (nothing : P [] 0)
    (step : ∀ input state inputs output, P inputs output →
      P (input :: inputs) ((machine.step input.1 state input.2).2 + output))
    (states : κ → σ) (inputs : List (κ × ι)) : P inputs (machine.run states inputs).2 := by
  induction inputs generalizing states with
  | nil => exact nothing
  | cons input inputs ih => exact step input (states input.1) inputs _ (ih _)

end KeyedMachine

end LatencyTest.Lib
