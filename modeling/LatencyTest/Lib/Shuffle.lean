import Mathlib

/-!
The Fisher–Yates loop over an arbitrary source of random numbers, with every
index checked: `none` is an access outside the list or a reduction modulo zero.
The loop never fails on a list it starts at the end of, and it permutes the list
whatever the source produces.
-/

namespace LatencyTest.Lib

/-- Division with remainder by a divisor that must not be zero. -/
def checkedMod (a b : Nat) : Option Nat := if b = 0 then none else some (a % b)

theorem checkedMod_eq {a b : Nat} (h : 0 < b) : checkedMod a b = some (a % b) :=
  if_neg (Nat.pos_iff_ne_zero.mp h)

/-- Exchanges the elements at two positions. -/
def swapAt? {α : Type} (xs : List α) (i j : Nat) : Option (List α) := do
  let x ← xs[i]?
  let y ← xs[j]?
  return (xs.set i y).set j x

/-- Exchanging two positions inside the list succeeds and permutes it. -/
theorem swapAt?_perm {α : Type} {xs : List α} {i j : Nat} (hi : i < xs.length)
    (hj : j < xs.length) : ∃ ys, swapAt? xs i j = some ys ∧ ys.Perm xs := by
  refine ⟨(xs.set i xs[j]).set j xs[i], by simp [swapAt?, hi, hj], ?_⟩
  exact List.set_set_perm hi hj

/-- The loop `for (i = size; i > 1; --i) swap(xs[i - 1], xs[next() % i])`. -/
def shuffleFrom {α σ : Type} (next : σ → Nat × σ) : Nat → σ → List α → Option (List α)
  | 0, _, xs => some xs
  | 1, _, xs => some xs
  | i + 2, state, xs => do
      let selected ← checkedMod (next state).1 (i + 2)
      let swapped ← swapAt? xs (i + 1) selected
      shuffleFrom next (i + 1) (next state).2 swapped

theorem shuffleFrom_perm {α σ : Type} (next : σ → Nat × σ) (i : Nat) (state : σ) {xs : List α}
    (h : i ≤ xs.length) : ∃ ys, shuffleFrom next i state xs = some ys ∧ ys.Perm xs := by
  fun_induction shuffleFrom next i state xs with
  | case1 => exact ⟨_, rfl, .refl _⟩
  | case2 => exact ⟨_, rfl, .refl _⟩
  | case3 i state xs ih =>
      have positive : 0 < i + 2 := by omega
      have small : (next state).1 % (i + 2) < xs.length :=
        (Nat.mod_lt _ positive).trans_le h
      obtain ⟨swapped, swap, perm⟩ := swapAt?_perm (i := i + 1) (by omega) small
      have length : i + 1 ≤ swapped.length := by
        rw [perm.length_eq]
        omega
      obtain ⟨ys, shuffled, rest⟩ := ih swapped length
      refine ⟨ys, ?_, rest.trans perm⟩
      simp [checkedMod_eq positive, swap, shuffled]

end LatencyTest.Lib
