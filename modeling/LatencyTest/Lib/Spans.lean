import Mathlib

/-!
Spans between consecutive times of a clock that can step back. The spans that do not start
before a range and do not end after it lie inside the range, no two of them with a common
stretch, exactly if no step goes back from a time that is not before the range to one that
is not after it (`admitted_sound_iff`).
-/

namespace LatencyTest.Lib

variable {τ : Type} [LinearOrder τ]

/-- The spans from each time to the next one. -/
def spans : τ → List τ → List (τ × τ)
  | _, [] => []
  | previous, time :: times => (previous, time) :: spans time times

/-- A span that does not start before a range and does not end after it. -/
def Admitted (low high : τ) (span : τ × τ) : Prop := low ≤ span.1 ∧ span.2 ≤ high

instance (low high : τ) (span : τ × τ) : Decidable (Admitted low high span) :=
  inferInstanceAs (Decidable (_ ∧ _))

/-- Two spans without a common stretch. -/
def Apart (first second : τ × τ) : Prop := first.2 ≤ second.1 ∨ second.2 ≤ first.1

/-- What is meant by a measured span: it lies inside the range, and so does every time of
it. -/
def Inside (low high : τ) (span : τ × τ) : Prop :=
  low ≤ span.1 ∧ span.1 ≤ span.2 ∧ span.2 ≤ high

/-- A step of the clock back over the range or inside it. -/
def StepsBack (low high previous time : τ) : Prop :=
  low ≤ previous ∧ time < previous ∧ time ≤ high

instance (low high previous time : τ) : Decidable (StepsBack low high previous time) :=
  inferInstanceAs (Decidable (_ ∧ _ ∧ _))

/-- No step goes back from a time that is not before the range to one not after it. -/
def Steady (low high : τ) (times : List τ) : Prop :=
  times.IsChain fun previous time => ¬ StepsBack low high previous time

instance (low high : τ) (times : List τ) : Decidable (Steady low high times) :=
  inferInstanceAs (Decidable (times.IsChain _))

section

variable {low high : τ}

theorem steady_cons {previous time : τ} {times : List τ} :
    Steady low high (previous :: time :: times) ↔
      ¬ StepsBack low high previous time ∧ Steady low high (time :: times) :=
  List.isChain_cons_cons

/-- From a time that is not before the range, a steady step to one that is not after it goes
forward. -/
theorem le_of_not_stepsBack {previous time : τ} (steady : ¬ StepsBack low high previous time)
    (notBefore : low ≤ previous) (notAfter : time ≤ high) : previous ≤ time :=
  not_lt.mp fun back => steady ⟨notBefore, back, notAfter⟩

/-- No span goes back behind a time of the range that steady times have reached. -/
theorem le_start_of_mem {bound time : τ} {times : List τ} (inRange : low ≤ bound ∧ bound ≤ high)
    (reached : bound ≤ time) (steady : Steady low high (time :: times))
    {span : τ × τ} (mem : span ∈ spans time times) : bound ≤ span.1 := by
  induction times generalizing time with
  | nil => cases mem
  | cons next times ih =>
      obtain ⟨step, rest⟩ := steady_cons.mp steady
      rcases List.mem_cons.mp mem with rfl | later
      · exact reached
      · -- the next time is beyond the range, or not before this one
        rcases le_or_gt next high with within | beyond
        · have forward := le_of_not_stepsBack step (inRange.1.trans reached) within
          exact ih (reached.trans forward) rest later
        · exact ih (inRange.2.trans beyond.le) rest later

/-- The spans of steady times that are admitted are inside the range. -/
theorem inside_of_steady {first : τ} {times : List τ} (steady : Steady low high (first :: times))
    {span : τ × τ} (mem : span ∈ spans first times) (admitted : Admitted low high span) :
    Inside low high span := by
  induction times generalizing first with
  | nil => cases mem
  | cons next times ih =>
      obtain ⟨step, rest⟩ := steady_cons.mp steady
      rcases List.mem_cons.mp mem with rfl | later
      · exact ⟨admitted.1, le_of_not_stepsBack step admitted.1 admitted.2, admitted.2⟩
      · exact ih rest later

/-- The spans of steady times that are admitted follow each other. -/
theorem apart_of_steady {first : τ} {times : List τ} (steady : Steady low high (first :: times)) :
    ((spans first times).filter fun span => Admitted low high span).Pairwise Apart := by
  induction times generalizing first with
  | nil => exact .nil
  | cons next times ih =>
      obtain ⟨step, rest⟩ := steady_cons.mp steady
      rw [spans, List.filter_cons]
      split
      · rename_i first_admitted
        have admitted : Admitted low high (first, next) := of_decide_eq_true first_admitted
        have forward := le_of_not_stepsBack step admitted.1 admitted.2
        refine List.pairwise_cons.mpr ⟨?_, ih rest⟩
        intro span mem
        exact .inl (le_start_of_mem ⟨admitted.1.trans forward, admitted.2⟩ le_rfl rest
          (List.mem_of_mem_filter mem))
      · exact ih rest

/-- If every admitted span is inside the range, the times are steady. -/
theorem steady_of_inside {first : τ} {times : List τ}
    (inside : ∀ span ∈ spans first times, Admitted low high span → Inside low high span) :
    Steady low high (first :: times) := by
  induction times generalizing first with
  | nil => exact .singleton first
  | cons next times ih =>
      refine steady_cons.mpr ⟨?_, ih fun span mem => inside span (List.mem_cons_of_mem _ mem)⟩
      rintro ⟨notBefore, back, notAfter⟩
      have forward := (inside (first, next) List.mem_cons_self ⟨notBefore, notAfter⟩).2.1
      exact absurd back (not_lt.mpr forward)

/-- The admitted spans are inside the range, each two without a common stretch, exactly if the
times are steady. -/
theorem admitted_sound_iff {first : τ} {times : List τ} :
    ((∀ span ∈ spans first times, Admitted low high span → Inside low high span) ∧
      ((spans first times).filter fun span => Admitted low high span).Pairwise Apart) ↔
      Steady low high (first :: times) := by
  constructor
  · rintro ⟨inside, -⟩
    exact steady_of_inside inside
  · intro steady
    exact ⟨fun span mem admitted => inside_of_steady steady mem admitted, apart_of_steady steady⟩

end

end LatencyTest.Lib
