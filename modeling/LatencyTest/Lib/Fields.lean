import Mathlib

/-!
Fields between separators. `List.splitOn` is the specification of a split that keeps
empty fields; here is the induction along the fields of a list, and what core does not say
of them.
-/

namespace LatencyTest.Lib

variable {α : Type} [DecidableEq α] {separator : α}

/-- Induction on the fields: a list is one field, or a field and a separator in front of a
list for which the statement holds. -/
@[elab_as_elim]
theorem fields_induction (separator : α) {motive : List α → Prop}
    (last : ∀ field, separator ∉ field → motive field)
    (more : ∀ field rest, separator ∉ field → motive rest →
      motive (field ++ separator :: rest)) (text : List α) :
    motive text := by
  by_cases mem : separator ∈ text
  · obtain ⟨field, rest, rfl, first⟩ := List.eq_append_cons_of_mem mem
    exact more field rest first (fields_induction separator last more rest)
  · exact last text mem
termination_by text.length

/-- There is one field more than there are separators. -/
theorem length_splitOn (text : List α) :
    (text.splitOn separator).length = text.count separator + 1 := by
  induction text using fields_induction separator with
  | last field absent =>
      rw [List.splitOn_eq_singleton absent, List.count_eq_zero_of_not_mem absent]
      rfl
  | more field rest absent ih =>
      rw [List.splitOn_append_cons_self_of_not_mem absent, List.length_cons, ih, List.count_append,
        List.count_eq_zero_of_not_mem absent, List.count_cons_self, Nat.zero_add]

theorem notMem_of_mem_splitOn {field text : List α} (mem : field ∈ text.splitOn separator) :
    separator ∉ field := by
  induction text using fields_induction separator with
  | last text absent =>
      rw [List.splitOn_eq_singleton absent, List.mem_singleton] at mem
      exact mem ▸ absent
  | more first rest absent ih =>
      rw [List.splitOn_append_cons_self_of_not_mem absent, List.mem_cons] at mem
      rcases mem with rfl | later
      · exact absent
      · exact ih later

end LatencyTest.Lib
