import LatencyTest.Lib.Decimal

/-!
Zero-padded decimal numbers. Numbers that are padded to one width have equally long
texts, and the lexicographic order of the texts is the order of the numbers.
-/

namespace LatencyTest.Lib

theorem toNat_of_isDigit {c : Char} (digit : c.isDigit = true) : 48 ≤ c.toNat ∧ c.toNat ≤ 57 := by
  simpa [Char.isDigit, UInt32.le_iff_toNat_le] using digit

/-- Larger numbers have no fewer digits. -/
theorem digits_length_mono {m n : Nat} (le : m ≤ n) :
    (digits m).length ≤ (digits n).length := by
  have few : n < 10 ^ (digits n).length :=
    (Nat.length_toDigits_le_iff (by decide) Nat.length_toDigits_pos).mp le_rfl
  exact (Nat.length_toDigits_le_iff (by decide) Nat.length_toDigits_pos).mpr (le.trans_lt few)

theorem paddedDigits_ne_nil {width n : Nat} : paddedDigits width n ≠ [] :=
  List.append_ne_nil_of_right_ne_nil _ digits_ne_nil

/-- A number that fits is padded to the width. -/
theorem paddedDigits_length {width n : Nat} (fits : (digits n).length ≤ width) :
    (paddedDigits width n).length = width := by
  rw [paddedDigits, List.length_append, List.length_replicate]
  omega

/-- The value of some digits is below the power of ten of their number. -/
theorem ofDigitChars_lt {text : List Char} (decimal : ∀ c ∈ text, c.isDigit = true) :
    Nat.ofDigitChars 10 text 0 < 10 ^ text.length := by
  induction text with
  | nil => simp
  | cons c text ih =>
      have tail := ih fun d mem => decimal d (List.mem_cons_of_mem _ mem)
      have digit := toNat_of_isDigit (decimal c List.mem_cons_self)
      have leading : 10 ^ text.length * (c.toNat - 48) ≤ 10 ^ text.length * 9 :=
        Nat.mul_le_mul_left _ (by omega)
      rw [Nat.ofDigitChars_cons, Nat.ofDigitChars_eq_ofDigitChars_zero, List.length_cons,
        Nat.pow_succ, Nat.mul_zero, Nat.zero_add]
      change 10 ^ text.length * (c.toNat - 48) + _ < _
      omega

/-- Of equally many digits the smaller number comes first. -/
theorem lt_of_ofDigitChars_lt {xs ys : List Char} (decimal : ∀ c ∈ xs ++ ys, c.isDigit = true)
    (length : xs.length = ys.length)
    (less : Nat.ofDigitChars 10 xs 0 < Nat.ofDigitChars 10 ys 0) : xs < ys := by
  induction xs generalizing ys with
  | nil =>
      rw [List.eq_nil_of_length_eq_zero length.symm] at less
      exact absurd less (lt_irrefl _)
  | cons c xs ih =>
      obtain ⟨d, ys, rfl⟩ := List.exists_cons_of_length_eq_add_one length.symm
      have same : xs.length = ys.length := Nat.succ_injective length
      have xsDecimal : ∀ c ∈ xs, c.isDigit = true := fun e mem => decimal e (by simp [mem])
      have ysDecimal : ∀ c ∈ ys, c.isDigit = true := fun e mem => decimal e (by simp [mem])
      have below := ofDigitChars_lt ysDecimal
      have digitC := toNat_of_isDigit (decimal c (by simp))
      have digitD := toNat_of_isDigit (decimal d (by simp))
      rw [Nat.ofDigitChars_cons, Nat.ofDigitChars_cons, Nat.ofDigitChars_eq_ofDigitChars_zero,
        @Nat.ofDigitChars_eq_ofDigitChars_zero ys, same, Nat.mul_zero, Nat.zero_add,
        Nat.zero_add] at less
      change 10 ^ ys.length * (c.toNat - 48) + _ < 10 ^ ys.length * (d.toNat - 48) + _ at less
      rw [List.cons_lt_cons_iff]
      rcases lt_trichotomy c.toNat d.toNat with first | equal | greater
      · exact .inl first
      · have tails : Nat.ofDigitChars 10 xs 0 < Nat.ofDigitChars 10 ys 0 := by
          rw [equal] at less
          omega
        refine .inr ⟨Char.toNat_inj.mp equal, ih (fun e mem => ?_) same tails⟩
        rcases List.mem_append.mp mem with inXs | inYs
        · exact xsDecimal e inXs
        · exact ysDecimal e inYs
      · -- a greater leading digit outweighs the rest
        have outweighs : 10 ^ ys.length * (d.toNat - 48) + 10 ^ ys.length ≤
            10 ^ ys.length * (c.toNat - 48) := by
          rw [← Nat.mul_succ]
          exact Nat.mul_le_mul_left _ (by omega)
        omega

/-- Padded numbers of one width are ordered as the numbers are. -/
theorem paddedDigits_lt {width i j : Nat} (less : i < j) (fits : (digits j).length ≤ width) :
    paddedDigits width i < paddedDigits width j := by
  refine lt_of_ofDigitChars_lt ?_ ?_ ?_
  · intro c mem
    rcases List.mem_append.mp mem with left | right
    · exact isDigit_of_mem_paddedDigits left
    · exact isDigit_of_mem_paddedDigits right
  · rw [paddedDigits_length fits, paddedDigits_length ((digits_length_mono less.le).trans fits)]
  · rw [paddedDigits_value, paddedDigits_value]
    exact less

end LatencyTest.Lib
