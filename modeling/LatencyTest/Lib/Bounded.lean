import Mathlib

/-!
Bounded logs: a log that drops its oldest element when it grows past its limit
holds the last elements of everything pushed (`foldl_pushBounded`). Reading it
from the newest element back while a condition holds finds all elements of the
log that satisfy it, when the condition is monotone along the log
(`recent_eq`), and all elements ever pushed that satisfy it exactly when none of
the dropped ones does (`recent_complete_iff`). What was dropped and what is kept
meet at a boundary (`exists_boundary`).
-/

namespace LatencyTest.Lib

variable {α : Type}

/-- Appends one element and drops the oldest one past the limit. -/
def pushBounded (limit : Nat) (log : List α) (x : α) : List α :=
  if (log ++ [x]).length > limit then (log ++ [x]).tail else log ++ [x]

theorem foldl_pushBounded (limit : Nat) (xs : List α) :
    xs.foldl (pushBounded limit) [] = xs.drop (xs.length - limit) := by
  induction xs using List.reverseRecOn with
  | nil => simp
  | append_singleton xs x ih =>
      have kept : (xs.drop (xs.length - limit) ++ [x]).length =
          xs.length - (xs.length - limit) + 1 := by
        rw [List.length_append, List.length_drop, List.length_singleton]
      rw [List.foldl_append, ih, List.foldl_cons, List.foldl_nil, pushBounded, kept,
        List.length_append, List.length_singleton, ← List.drop_append_of_le_length (by omega)]
      split
      · rename_i full
        rw [List.tail_drop]
        congr 1
        omega
      · rename_i within
        congr 1
        omega

/-- Reads a log from the newest element back while a condition holds. -/
def recent (p : α → Bool) (log : List α) : List α := log.reverse.takeWhile p

theorem takeWhile_eq_filter {p : α → Bool} {xs : List α}
    (closed : xs.Pairwise fun a b => p b = true → p a = true) : xs.takeWhile p = xs.filter p := by
  induction xs with
  | nil => rfl
  | cons x xs ih =>
      obtain ⟨first, rest⟩ := List.pairwise_cons.mp closed
      by_cases holds : p x = true
      · rw [List.takeWhile_cons_of_pos holds, List.filter_cons_of_pos holds, ih rest]
      · have none : xs.filter p = [] :=
          List.filter_eq_nil_iff.mpr fun y mem later => holds (first y mem later)
        rw [List.takeWhile_cons_of_neg holds, List.filter_cons_of_neg holds, none]

/-- When the condition is monotone along the log, all its elements that satisfy
the condition are found, newest first. -/
theorem recent_eq {p : α → Bool} {log : List α}
    (monotone : log.Pairwise fun a b => p a = true → p b = true) :
    recent p log = (log.filter p).reverse := by
  rw [recent, takeWhile_eq_filter (List.pairwise_reverse.mpr monotone), List.filter_reverse]

/-- What is found in the last elements is everything ever pushed that satisfies
the condition exactly when no dropped element satisfies it. -/
theorem recent_complete_iff {p : α → Bool} {xs : List α} (dropped : Nat)
    (monotone : xs.Pairwise fun a b => p a = true → p b = true) :
    (xs.filter p).Subperm (recent p (xs.drop dropped)) ↔
      ∀ x ∈ xs.take dropped, ¬ p x = true := by
  have found : recent p (xs.drop dropped) = ((xs.drop dropped).filter p).reverse :=
    recent_eq (monotone.sublist (List.drop_sublist _ _))
  have split : xs.filter p = (xs.take dropped).filter p ++ (xs.drop dropped).filter p := by
    rw [← List.filter_append, List.take_append_drop]
  have none : (∀ x ∈ xs.take dropped, ¬ p x = true) ↔ (xs.take dropped).filter p = [] :=
    List.filter_eq_nil_iff.symm
  rw [none, found, split]
  constructor
  · intro contained
    have length := contained.length_le
    rw [List.length_append, List.length_reverse] at length
    exact List.length_eq_zero_iff.mp (by omega)
  · intro empty
    rw [empty, List.nil_append]
    exact (List.reverse_perm _).symm.subperm

/-- A log that dropped something has a newest dropped and an oldest kept element. -/
theorem exists_boundary {limit : Nat} (positive : 1 ≤ limit) {xs : List α}
    (full : xs.length > limit) :
    ∃ dropped newest oldest kept, xs.take (xs.length - limit) = dropped ++ [newest] ∧
      xs.drop (xs.length - limit) = oldest :: kept := by
  have someDropped : xs.take (xs.length - limit) ≠ [] := by
    intro none
    have length := congrArg List.length none
    rw [List.length_take, List.length_nil] at length
    omega
  have someKept : xs.drop (xs.length - limit) ≠ [] := by
    intro none
    have length := congrArg List.length none
    rw [List.length_drop, List.length_nil] at length
    omega
  obtain ⟨dropped, newest, before⟩ := (List.eq_nil_or_concat _).resolve_left someDropped
  obtain ⟨oldest, kept, after⟩ := List.exists_cons_of_ne_nil someKept
  exact ⟨dropped, newest, oldest, kept, by rw [before, List.concat_eq_append], after⟩

end LatencyTest.Lib
