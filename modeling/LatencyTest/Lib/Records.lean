import Mathlib

/-!
Selections of a stream that keep an element by looking at the elements before
it, and the strict records of keyed series: the elements whose value exceeds
every earlier value of their series. One value per series is enough memory to
compute the records (`advances_iff`, `greatest_snoc`), a coarser notion of series
keeps fewer elements (`records_sublist`), and the records of one series depend on
its own elements only (`filter_records`).
-/

namespace LatencyTest.Lib

variable {α κ τ : Type}

section Select

/-- The elements the test accepts, given everything before them. -/
def selectAfter (keep : List α → α → Bool) (before : List α) : List α → List α
  | [] => []
  | x :: xs =>
      if keep before x then x :: selectAfter keep (before ++ [x]) xs
      else selectAfter keep (before ++ [x]) xs

/-- The elements of a stream accepted against the elements before them. -/
def select (keep : List α → α → Bool) (xs : List α) : List α := selectAfter keep [] xs

@[simp] theorem select_nil (keep : List α → α → Bool) : select keep [] = [] := rfl

theorem selectAfter_append (keep : List α → α → Bool) (before xs ys : List α) :
    selectAfter keep before (xs ++ ys) =
      selectAfter keep before xs ++ selectAfter keep (before ++ xs) ys := by
  induction xs generalizing before with
  | nil => simp [selectAfter]
  | cons x xs ih =>
      simp only [List.cons_append, selectAfter, ih, List.append_assoc, List.nil_append]
      split <;> rfl

/-- The last element is kept or dropped by what precedes it. -/
theorem select_snoc (keep : List α → α → Bool) (xs : List α) (x : α) :
    select keep (xs ++ [x]) = select keep xs ++ if keep xs x then [x] else [] := by
  simp only [select, selectAfter_append, List.nil_append, selectAfter]

/-- A stricter test selects a subsequence. -/
theorem select_sublist {strict weak : List α → α → Bool}
    (implies : ∀ before x, strict before x → weak before x) (xs : List α) :
    (select strict xs).Sublist (select weak xs) := by
  induction xs using List.reverseRecOn with
  | nil => exact .slnil
  | append_singleton xs x ih =>
      rw [select_snoc, select_snoc]
      apply ih.append
      by_cases accepted : strict xs x
      · rw [if_pos accepted, if_pos (implies xs x accepted)]
      · rw [if_neg accepted]
        exact List.nil_sublist _

/-- A selection is a subsequence of its stream. -/
theorem select_sublist_self (keep : List α → α → Bool) (xs : List α) :
    (select keep xs).Sublist xs := by
  induction xs using List.reverseRecOn with
  | nil => exact .slnil
  | append_singleton xs x ih =>
      rw [select_snoc]
      apply ih.append
      split
      · exact .refl _
      · exact List.nil_sublist _

/-- On a class of elements whose test reads only that class, selecting and
restricting to the class commute. -/
theorem filter_select {keep : List α → α → Bool} {member : α → Bool}
    (reads : ∀ before x, member x → keep (before.filter member) x = keep before x)
    (xs : List α) : (select keep xs).filter member = select keep (xs.filter member) := by
  induction xs using List.reverseRecOn with
  | nil => rfl
  | append_singleton xs x ih =>
      rw [select_snoc, List.filter_append, List.filter_append, ih]
      by_cases mem : member x
      · have alone : [x].filter member = [x] := by simp [mem]
        rw [alone, select_snoc, reads xs x mem]
        split
        · rw [alone]
        · rfl
      · have skipped : [x].filter member = [] := by simp [mem]
        rw [skipped, List.append_nil]
        split
        · rw [skipped, List.append_nil]
        · exact List.append_nil _

end Select

section Records

variable [DecidableEq κ] [LinearOrder τ] (series : α → κ) (value : α → τ)

/-- The value is strictly greater than every earlier one of the same series. -/
def Advances (before : List α) (x : α) : Prop :=
  ∀ y ∈ before, series y = series x → value y < value x

instance (before : List α) (x : α) : Decidable (Advances series value before x) :=
  inferInstanceAs (Decidable (∀ y ∈ before, series y = series x → value y < value x))

/-- The strict records of all series, in stream order. -/
def records (xs : List α) : List α :=
  select (fun before x => decide (Advances series value before x)) xs

/-- The greatest value of a series so far. -/
def greatest (xs : List α) (k : κ) : Option τ :=
  ((xs.filter fun x => series x = k).map value).max?

variable {series value}

@[simp] theorem records_nil : records series value [] = [] := rfl

theorem records_snoc (xs : List α) (x : α) :
    records series value (xs ++ [x]) =
      records series value xs ++ if Advances series value xs x then [x] else [] := by
  simp only [records, select_snoc, decide_eq_true_eq]

/-- The greatest value of a series decides whether the next element advances. -/
theorem advances_iff {before : List α} {x : α} :
    Advances series value before x ↔
      ∀ last, greatest series value before (series x) = some last → last < value x := by
  constructor
  · intro advances last top
    have mem := List.max?_mem top
    obtain ⟨y, earlier, rfl⟩ := List.mem_map.mp mem
    obtain ⟨earlier, same⟩ := List.mem_filter.mp earlier
    exact advances y earlier (of_decide_eq_true same)
  · intro below y earlier same
    have mem : value y ∈ (before.filter fun z => series z = series x).map value :=
      List.mem_map_of_mem (List.mem_filter.mpr ⟨earlier, decide_eq_true same⟩)
    cases top : greatest series value before (series x) with
    | none =>
        rw [greatest, List.max?_eq_none_iff] at top
        rw [top] at mem
        cases mem
    | some last =>
        have bound := (List.max?_eq_some_iff.mp top).2 _ mem
        exact bound.trans_lt (below last top)

/-- Only the series of the new element changes, and only when it advances. -/
theorem greatest_snoc (xs : List α) (x : α) (k : κ) :
    greatest series value (xs ++ [x]) k =
      if series x = k ∧ Advances series value xs x then some (value x)
      else greatest series value xs k := by
  by_cases same : series x = k
  · subst same
    have snoc : ((xs ++ [x]).filter fun y => series y = series x).map value =
        (xs.filter fun y => series y = series x).map value ++ [value x] := by
      simp
    by_cases advances : Advances series value xs x
    · rw [if_pos ⟨rfl, advances⟩, greatest, snoc, List.max?_eq_some_iff]
      refine ⟨by simp, ?_⟩
      intro v mem
      rcases List.mem_append.mp mem with earlier | last
      · obtain ⟨y, present, rfl⟩ := List.mem_map.mp earlier
        obtain ⟨present, sameSeries⟩ := List.mem_filter.mp present
        exact (advances y present (of_decide_eq_true sameSeries)).le
      · exact (List.mem_singleton.mp last).le
    · rw [if_neg fun both => advances both.2, greatest, snoc]
      rw [advances_iff] at advances
      push Not at advances
      obtain ⟨last, top, le⟩ := advances
      rw [top, List.max?_eq_some_iff]
      obtain ⟨mem, bound⟩ := List.max?_eq_some_iff.mp top
      refine ⟨List.mem_append_left _ mem, ?_⟩
      intro v either
      rcases List.mem_append.mp either with earlier | new
      · exact bound v earlier
      · rw [List.mem_singleton.mp new]
        exact le
  · rw [if_neg fun both => same both.1]
    simp [greatest, same]

/-- A coarser notion of series keeps fewer elements. -/
theorem records_sublist {κ' : Type} [DecidableEq κ'] {coarse : α → κ'}
    (coarser : ∀ x y, series x = series y → coarse x = coarse y) (xs : List α) :
    (records coarse value xs).Sublist (records series value xs) := by
  refine select_sublist ?_ xs
  intro before x advances
  rw [decide_eq_true_eq] at advances ⊢
  intro y earlier same
  exact advances y earlier (coarser y x same)

/-- The records of one series are those of its own elements. -/
theorem filter_records (xs : List α) (k : κ) :
    (records series value xs).filter (fun x => series x = k) =
      records series value (xs.filter fun x => series x = k) := by
  refine filter_select ?_ xs
  intro before x mem
  have member : series x = k := of_decide_eq_true mem
  rw [decide_eq_decide]
  constructor
  · intro advances y earlier same
    refine advances y (List.mem_filter.mpr ⟨earlier, ?_⟩) same
    exact decide_eq_true (same.trans member)
  · intro advances y earlier same
    exact advances y (List.mem_filter.mp earlier).1 same

end Records

/-- Two streams that agree on every series are rearrangements of each other. -/
theorem perm_of_series [DecidableEq α] [DecidableEq κ] {series : α → κ} {xs ys : List α}
    (agree : ∀ k, xs.filter (fun x => series x = k) = ys.filter fun x => series x = k) :
    xs.Perm ys := by
  rw [List.perm_iff_count]
  intro x
  have own (zs : List α) : (zs.filter fun y => series y = series x).count x = zs.count x :=
    List.count_filter (by simp)
  rw [← own xs, ← own ys, agree (series x)]

end LatencyTest.Lib
