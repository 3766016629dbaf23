import LatencyTest.Lib.Padded
import LatencyTest.Lib.Numeral

/-!
Digits behind a decimal dot. Zeros at the end do not change their value, a number of
thousandths is its three padded digits (`fractionValue_paddedDigits`), and a number
written with a dot is determined by its text.
-/

namespace LatencyTest.Lib

/-- The value of the digits behind the dot. -/
def fractionValue (text : List Char) : ℚ := (Nat.ofDigitChars 10 text 0 : ℚ) / 10 ^ text.length

@[simp] theorem fractionValue_nil : fractionValue [] = 0 := by
  simp [fractionValue]

theorem fractionValue_append_zero (text : List Char) :
    fractionValue (text ++ ['0']) = fractionValue text := by
  have shifted : Nat.ofDigitChars 10 (text ++ ['0']) 0 = 10 * Nat.ofDigitChars 10 text 0 := by
    rw [Nat.ofDigitChars_append]
    exact Nat.ofDigitChars_replicate_zero (n := 1)
  unfold fractionValue
  rw [shifted, List.length_append, List.length_singleton, pow_succ', Nat.cast_mul, Nat.cast_ofNat]
  exact mul_div_mul_left _ _ (by norm_num)

/-- Zero padding to the width of the fraction divides by its power of ten. -/
theorem fractionValue_paddedDigits {width n : Nat} (fits : (digits n).length ≤ width) :
    fractionValue (paddedDigits width n) = (n : ℚ) / 10 ^ width := by
  rw [fractionValue, paddedDigits_value, paddedDigits_length fits]

/-! ### Stripping zeros -/

/-- The text without the zeros at its end. -/
def stripZeros (text : List Char) : List Char := text.rdropWhile (· == '0')

theorem fractionValue_stripZeros (text : List Char) :
    fractionValue (stripZeros text) = fractionValue text := by
  unfold stripZeros
  induction text using List.reverseRecOn with
  | nil => rw [List.rdropWhile_nil]
  | append_singleton text last ih =>
      rw [List.rdropWhile_concat]
      split
      · rename_i zero
        rw [beq_iff_eq.mp zero, ih, fractionValue_append_zero]
      · rfl

theorem stripZeros_prefix (text : List Char) : stripZeros text <+: text :=
  List.rdropWhile_prefix _ text

theorem stripZeros_getLast? (text : List Char) : (stripZeros text).getLast? ≠ some '0' := by
  intro last
  have nonempty : stripZeros text ≠ [] := by
    intro empty
    rw [empty] at last
    cases last
  rw [List.getLast?_eq_some_getLast nonempty, Option.some.injEq] at last
  exact List.rdropWhile_last_not _ _ nonempty (beq_iff_eq.mpr last)

/-! ### Numbers with a dot -/

/-- A number written with digits in front of the dot and behind it. -/
structure DecimalNumber where
  whole : Numeral
  fraction : List Char
  decimal : ∀ c ∈ fraction, c.isDigit = true

namespace DecimalNumber

/-- There is a dot only in front of fraction digits. -/
def text (d : DecimalNumber) : List Char :=
  d.whole.digits ++ if d.fraction = [] then [] else '.' :: d.fraction

def value (d : DecimalNumber) : ℚ := d.whole.value + fractionValue d.fraction

/-- The digits of the whole part end where the dot or the text does. -/
theorem span_text (d : DecimalNumber) :
    d.text.takeWhile Char.isDigit = d.whole.digits ∧
      (d.text.dropWhile Char.isDigit).drop 1 = d.fraction := by
  have ends : ∀ c ∈ (if d.fraction = [] then [] else '.' :: d.fraction).head?,
      c.isDigit = false := by
    intro c first
    split at first
    · cases first
    · cases first
      rfl
  obtain ⟨whole, rest⟩ := d.whole.span_append ends
  refine ⟨whole, ?_⟩
  rw [text, rest]
  split
  · rename_i empty
    rw [empty]
    rfl
  · rfl

/-- The text of a number determines its digits. -/
theorem text_injective : Function.Injective text := by
  intro d e same
  obtain ⟨whole, fraction⟩ := d.span_text
  obtain ⟨otherWhole, otherFraction⟩ := e.span_text
  rw [same] at whole fraction
  have digits := whole.symm.trans otherWhole
  have behind := fraction.symm.trans otherFraction
  obtain ⟨⟨_, _, _⟩, _, _⟩ := d
  obtain ⟨⟨_, _, _⟩, _, _⟩ := e
  cases digits
  cases behind
  rfl

/-- A number ends with a digit. -/
theorem isDigit_of_getLast? (d : DecimalNumber) {c : Char} (last : d.text.getLast? = some c) :
    c.isDigit = true := by
  unfold text at last
  split at last
  · rw [List.append_nil] at last
    exact d.whole.decimal c (List.mem_of_getLast? last)
  · rename_i nonempty
    rw [List.getLast?_append_of_ne_nil _ (List.cons_ne_nil _ _), List.getLast?_cons] at last
    obtain ⟨e, final⟩ := Option.ne_none_iff_exists'.mp (mt List.getLast?_eq_none_iff.mp nonempty)
    rw [final, Option.getD_some, Option.some.injEq] at last
    exact d.decimal c (last ▸ List.mem_of_getLast? final)

end DecimalNumber

end LatencyTest.Lib
