import LatencyTest.Core.Print
import LatencyTest.Runner.Programs
import LatencyTest.Lib.Fraction

/-!
The monitoring period on its way to the endpoint: `monitoringPeriodPropertyValue`
(`src/core.cpp`) writes the milliseconds of the option as a number of seconds. What it
writes for an accepted period is the text of a decimal number, `secondsNumber`, with the
value of the period and no digit too many.
-/

namespace LatencyTest.Runner

open Lib (digits paddedDigits stripZeros fractionValue DecimalNumber Numeral)

/-- Zero-padded printing of a signed number, as `{:0width}` does: the zeros stand between
the sign and the digits. -/
def signedPadded (width : Nat) (n : Int) : Text :=
  if n < 0 then '-' :: paddedDigits (width - 1) n.natAbs else paddedDigits width n.natAbs

/-- The property value of a period in milliseconds; no period disables the statistics. -/
def monitoringPeriodPropertyValue (period : Option Int) : Text :=
  match period with
  | none => "0".toList
  | some milliseconds =>
      let seconds := milliseconds.tdiv 1000
      let remainder := milliseconds.tmod 1000
      if remainder = 0 then signedDigits seconds ++ ['s']
      else
        let fraction := stripZeros (signedPadded 3 remainder)
        signedDigits seconds ++ ['.'] ++ fraction ++ ['s']

example : monitoringPeriodPropertyValue (some 1500) = "1.5s".toList := by decide
example : monitoringPeriodPropertyValue (some 60010) = "60.01s".toList := by decide

/-! ### The number in front of the unit -/

/-- A number of milliseconds in seconds. -/
def secondsNumber (milliseconds : Nat) : DecimalNumber where
  whole := .print (milliseconds / 1000)
  fraction := stripZeros (paddedDigits 3 (milliseconds % 1000))
  decimal := fun _ mem =>
    Lib.isDigit_of_mem_paddedDigits ((Lib.stripZeros_prefix _).subset mem)

theorem remainder_fits (milliseconds : Nat) : (digits (milliseconds % 1000)).length ≤ 3 :=
  (Nat.length_toDigits_le_iff (by decide) (by decide)).mpr (Nat.mod_lt _ (by decide))

/-- The three padded digits are the remainder in thousandths, and so are those of them
that the loop leaves. -/
theorem fractionValue_remainder (milliseconds : Nat) :
    fractionValue (stripZeros (paddedDigits 3 (milliseconds % 1000))) =
      ((milliseconds % 1000 : Nat) : ℚ) / 1000 := by
  rw [Lib.fractionValue_stripZeros, Lib.fractionValue_paddedDigits (remainder_fits milliseconds)]
  norm_num

theorem value_secondsNumber (milliseconds : Nat) :
    (secondsNumber milliseconds).value = (milliseconds : ℚ) / 1000 := by
  have division : (1000 : ℚ) * ((milliseconds / 1000 : Nat) : ℚ) +
      ((milliseconds % 1000 : Nat) : ℚ) = milliseconds := by
    exact_mod_cast Nat.div_add_mod milliseconds 1000
  unfold DecimalNumber.value secondsNumber
  rw [Numeral.value_print, fractionValue_remainder, ← division]
  ring

theorem secondsNumber_fraction_length (milliseconds : Nat) :
    (secondsNumber milliseconds).fraction.length ≤ 3 := by
  refine (Lib.stripZeros_prefix _).length_le.trans_eq ?_
  exact Lib.paddedDigits_length (remainder_fits milliseconds)

/-- The fraction is empty for whole seconds only, where the source writes no dot. -/
theorem secondsNumber_fraction_eq_nil {milliseconds : Nat} :
    (secondsNumber milliseconds).fraction = [] ↔ milliseconds % 1000 = 0 := by
  constructor
  · intro empty
    have value := fractionValue_remainder milliseconds
    rw [show stripZeros (paddedDigits 3 (milliseconds % 1000)) = [] from empty,
      Lib.fractionValue_nil, eq_comm, div_eq_zero_iff] at value
    rcases value with zero | impossible
    · exact_mod_cast zero
    · norm_num at impossible
  · intro zero
    change stripZeros (paddedDigits 3 (milliseconds % 1000)) = []
    rw [zero]
    decide

/-- What is written for a period that is not negative. -/
theorem monitoringPeriodPropertyValue_natCast (milliseconds : Nat) :
    monitoringPeriodPropertyValue (some milliseconds) =
      (secondsNumber milliseconds).text ++ ['s'] := by
  have seconds : (milliseconds : Int).tdiv 1000 = ((milliseconds / 1000 : Nat) : Int) := rfl
  have remainder : (milliseconds : Int).tmod 1000 = ((milliseconds % 1000 : Nat) : Int) := rfl
  have padded : signedPadded 3 ((milliseconds % 1000 : Nat) : Int) =
      paddedDigits 3 (milliseconds % 1000) := by
    rw [signedPadded, if_neg (by omega), Int.natAbs_natCast]
  simp only [monitoringPeriodPropertyValue, seconds, remainder, padded, signedDigits_natCast,
    DecimalNumber.text, secondsNumber_fraction_eq_nil]
  by_cases whole : milliseconds % 1000 = 0
  · rw [if_pos (by rw [whole]; rfl), if_pos whole, List.append_nil]
    rfl
  · rw [if_neg (by exact_mod_cast whole), if_neg whole]
    simp [secondsNumber]

/-- The property values tell periods apart. -/
theorem monitoringPeriodPropertyValue_natCast_inj {m n : Nat}
    (same : monitoringPeriodPropertyValue (some m) = monitoringPeriodPropertyValue (some n)) :
    m = n := by
  rw [monitoringPeriodPropertyValue_natCast, monitoringPeriodPropertyValue_natCast,
    List.append_cancel_right_eq] at same
  have number := congrArg DecimalNumber.value (DecimalNumber.text_injective same)
  rw [value_secondsNumber, value_secondsNumber, div_left_inj' (by norm_num)] at number
  exact_mod_cast number

theorem monitoringPeriodPropertyValue_ne_zero (milliseconds : Nat) :
    monitoringPeriodPropertyValue (some milliseconds) ≠ monitoringPeriodPropertyValue none := by
  intro same
  have last := congrArg List.getLast? same
  rw [monitoringPeriodPropertyValue_natCast, List.getLast?_concat] at last
  cases last

/-! ### Accepted periods -/

/-- An accepted period is disabled or a positive number of milliseconds. -/
theorem parseMonitoringPeriod_ok {text : Text} {period : Option Int}
    (accepted : parseMonitoringPeriod text = .ok period) :
    period = none ∨
      ∃ milliseconds : Nat, 0 < milliseconds ∧ period = some (milliseconds : Int) := by
  unfold parseMonitoringPeriod at accepted
  split at accepted
  · cases accepted
    exact .inl rfl
  · obtain ⟨duration, parsed, returned⟩ := ok_of_bind accepted
    cases returned
    obtain ⟨positive, -⟩ := parseDuration_ok parsed
    exact .inr ⟨duration.toNat, by omega, by rw [Int.toNat_of_nonneg positive.le]⟩

/-- The endpoint is given the accepted period: its exact number of seconds, with at most
three fraction digits and none of them to spare, and nothing else gives the same text. -/
theorem monitoringPeriodPropertyValue_exact {text : Text} {period : Option Int}
    (accepted : parseMonitoringPeriod text = .ok period) :
    (∀ milliseconds, period = some milliseconds →
      0 < milliseconds ∧
      ∃ number : DecimalNumber,
        monitoringPeriodPropertyValue period = number.text ++ ['s'] ∧
        number.value = (milliseconds : ℚ) / 1000 ∧ number.fraction.length ≤ 3 ∧
        number.fraction.getLast? ≠ some '0' ∧
        ∀ last ∈ number.text.getLast?, last.isDigit = true) ∧
    (∀ otherText otherPeriod, parseMonitoringPeriod otherText = .ok otherPeriod →
      period ≠ otherPeriod →
      monitoringPeriodPropertyValue period ≠ monitoringPeriodPropertyValue otherPeriod) ∧
    (monitoringPeriodPropertyValue period = "0".toList ↔ period = none) := by
  refine ⟨?_, ?_, ?_⟩
  · rintro _ rfl
    obtain absent | ⟨milliseconds, positive, present⟩ := parseMonitoringPeriod_ok accepted
    · cases absent
    · cases present
      refine ⟨by exact_mod_cast positive, secondsNumber milliseconds,
        monitoringPeriodPropertyValue_natCast milliseconds, ?_,
        secondsNumber_fraction_length milliseconds, Lib.stripZeros_getLast? _, ?_⟩
      · rw [value_secondsNumber, Int.cast_natCast]
      · exact fun _ last => DecimalNumber.isDigit_of_getLast? _ last
  · intro otherText otherPeriod otherAccepted different same
    obtain rfl | ⟨m, -, rfl⟩ := parseMonitoringPeriod_ok accepted
    · obtain rfl | ⟨n, -, rfl⟩ := parseMonitoringPeriod_ok otherAccepted
      · exact different rfl
      · exact monitoringPeriodPropertyValue_ne_zero n same.symm
    · obtain rfl | ⟨n, -, rfl⟩ := parseMonitoringPeriod_ok otherAccepted
      · exact monitoringPeriodPropertyValue_ne_zero m same
      · exact different (by rw [monitoringPeriodPropertyValue_natCast_inj same])
  · constructor
    · intro zero
      obtain absent | ⟨milliseconds, -, rfl⟩ := parseMonitoringPeriod_ok accepted
      · exact absent
      · exact absurd zero (monitoringPeriodPropertyValue_ne_zero milliseconds)
    · rintro rfl
      rfl

theorem monitoringPeriodPropertyValue_exact_halfSecond :
    parseMonitoringPeriod "1500ms".toList = .ok (some 1500) ∧
      ∃ number : DecimalNumber,
        monitoringPeriodPropertyValue (some 1500) = number.text ++ ['s'] ∧
        number.value = ((1500 : Int) : ℚ) / 1000 := by
  have accepted : parseMonitoringPeriod "1500ms".toList = .ok (some 1500) := by decide
  obtain ⟨-, number, written, value, -⟩ :=
    (monitoringPeriodPropertyValue_exact accepted).1 1500 rfl
  exact ⟨accepted, number, written, value⟩

end LatencyTest.Runner
