import Mathlib

/-!
Decimal scanning of a character list in the manner of `std::from_chars`: the
longest prefix of digits is consumed, whatever follows it is returned, and a
value outside the target range is reported separately from a missing number.
`toDigits` of the core library prints; the scanners below read it back.
-/

namespace LatencyTest.Lib

/-- Outcome of one `std::from_chars` call. `rest` is what lies from `ptr` on;
with `invalidArgument` nothing is consumed. -/
inductive FromChars (α : Type) where
  | invalidArgument
  | resultOutOfRange (rest : List Char)
  | ok (value : α) (rest : List Char)
deriving DecidableEq, Repr

/-- The decimal digits a number is printed with. -/
abbrev digits (n : Nat) : List Char := Nat.toDigits 10 n

/-- `std::from_chars` into an unsigned type whose largest value is `limit`. -/
def fromCharsNat (limit : Nat) (text : List Char) : FromChars Nat :=
  let number := text.takeWhile Char.isDigit
  let rest := text.dropWhile Char.isDigit
  if number = [] then .invalidArgument
  else if limit < Nat.ofDigitChars 10 number 0 then .resultOutOfRange rest
  else .ok (Nat.ofDigitChars 10 number 0) rest

/-- `std::from_chars` into a signed type with values `-limit - 1 .. limit`: a
leading minus sign is the only accepted sign. -/
def fromCharsInt (limit : Nat) (text : List Char) : FromChars Int :=
  match text with
  | '-' :: rest =>
      match fromCharsNat (limit + 1) rest with
      | .invalidArgument => .invalidArgument
      | .resultOutOfRange rest => .resultOutOfRange rest
      | .ok value rest => .ok (-(value : Int)) rest
  | _ =>
      match fromCharsNat limit text with
      | .invalidArgument => .invalidArgument
      | .resultOutOfRange rest => .resultOutOfRange rest
      | .ok value rest => .ok (value : Int) rest

/-- The value of a scan that succeeded and consumed its whole input. -/
def FromChars.whole {α : Type} : FromChars α → Option α
  | .ok value [] => some value
  | _ => none

/-- Consuming the whole input is succeeding with nothing left. -/
theorem FromChars.whole_eq_some {α : Type} {scan : FromChars α} {value : α} :
    scan.whole = some value ↔ scan = .ok value [] := by
  cases scan with
  | invalidArgument => simp [FromChars.whole]
  | resultOutOfRange rest => simp [FromChars.whole]
  | ok v rest => cases rest <;> simp [FromChars.whole]

theorem ne_of_isDigit {c d : Char} (digit : c.isDigit = true) (other : d.isDigit = false) :
    c ≠ d := by
  rintro rfl
  rw [other] at digit
  cases digit

/-- Digits contain no other character. -/
theorem notMem_of_isDigit {text : List Char} (decimal : ∀ c ∈ text, c.isDigit = true) {c : Char}
    (other : c.isDigit = false) : c ∉ text :=
  fun mem => ne_of_isDigit (decimal c mem) other rfl

theorem isDigit_of_mem_digits {n : Nat} {c : Char} (h : c ∈ digits n) : c.isDigit = true :=
  Nat.isDigit_of_mem_toDigits (by decide) (by decide) h

theorem digits_ne_nil {n : Nat} : digits n ≠ [] := Nat.toDigits_ne_nil

/-- A printed number starts with a digit, so in particular with no sign. -/
theorem digits_head_ne {n : Nat} {c : Char} (h : c.isDigit = false) {rest : List Char} :
    digits n ≠ c :: rest := by
  intro eq
  have first : c ∈ digits n := by
    rw [eq]
    exact List.mem_cons_self
  exact notMem_of_isDigit (fun _ => isDigit_of_mem_digits) h first

/-- Splitting printed digits from a tail that starts with no digit. -/
theorem span_digits {n : Nat} {tail : List Char}
    (ends : ∀ c ∈ tail.head?, c.isDigit = false) :
    (digits n ++ tail).takeWhile Char.isDigit = digits n ∧
      (digits n ++ tail).dropWhile Char.isDigit = tail := by
  have all : ∀ c ∈ digits n, c.isDigit = true := fun c hc => isDigit_of_mem_digits hc
  rw [List.takeWhile_append_of_pos all, List.dropWhile_append_of_pos all]
  cases tail with
  | nil => simp
  | cons c tail =>
      have : c.isDigit = false := ends c (by simp)
      simp [this]

/-- Scanning a printed number gives it back and stops at the first character
that is no digit. -/
theorem fromCharsNat_digits {limit n : Nat} {tail : List Char} (bound : n ≤ limit)
    (ends : ∀ c ∈ tail.head?, c.isDigit = false) :
    fromCharsNat limit (digits n ++ tail) = .ok n tail := by
  obtain ⟨number, rest⟩ := span_digits (n := n) ends
  have value : Nat.ofDigitChars 10 (digits n) 0 = n := Nat.ofDigitChars_ten_toDigits
  simp only [fromCharsNat, number, rest, value, if_neg digits_ne_nil]
  rw [if_neg (by omega)]

theorem fromCharsInt_digits {limit n : Nat} {tail : List Char} (bound : n ≤ limit)
    (ends : ∀ c ∈ tail.head?, c.isDigit = false) :
    fromCharsInt limit (digits n ++ tail) = .ok (n : Int) tail := by
  have scan := fromCharsNat_digits bound ends
  unfold fromCharsInt
  split
  · rename_i rest eq
    cases hd : digits n with
    | nil => exact absurd hd digits_ne_nil
    | cons c cs =>
        rw [hd, List.cons_append, List.cons.injEq] at eq
        exact absurd (eq.1 ▸ hd) (digits_head_ne (by decide))
  · simp only [scan]

/-- What an unsigned scan returns lies within the target range. -/
theorem fromCharsNat_le {limit value : Nat} {text rest : List Char}
    (h : fromCharsNat limit text = .ok value rest) : value ≤ limit := by
  simp only [fromCharsNat] at h
  split at h
  · cases h
  · split at h
    · cases h
    · cases h
      omega

/-- What an unsigned scan leaves is a proper suffix of its input. -/
theorem fromCharsNat_rest {limit value : Nat} {text rest : List Char}
    (h : fromCharsNat limit text = .ok value rest) :
    rest <:+ text ∧ rest.length < text.length := by
  simp only [fromCharsNat] at h
  split at h
  · cases h
  · rename_i nonempty
    split at h
    · cases h
    · cases h
      refine ⟨List.dropWhile_suffix _, ?_⟩
      have total := congrArg List.length (List.takeWhile_append_dropWhile (p := Char.isDigit)
        (l := text))
      rw [List.length_append] at total
      have := List.length_pos_iff.mpr nonempty
      omega

/-- Zero-padded printing, as `{:0width}` does. -/
def paddedDigits (width n : Nat) : List Char :=
  List.replicate (width - (digits n).length) '0' ++ digits n

theorem isDigit_of_mem_paddedDigits {width n : Nat} {c : Char} (mem : c ∈ paddedDigits width n) :
    c.isDigit = true := by
  rcases List.mem_append.mp mem with zero | digit
  · rw [List.eq_of_mem_replicate zero]
    decide
  · exact isDigit_of_mem_digits digit

/-- Padding does not change the number read back, so padded names stay distinct. -/
theorem paddedDigits_value (width n : Nat) :
    Nat.ofDigitChars 10 (paddedDigits width n) 0 = n := by
  rw [paddedDigits, Nat.ofDigitChars_append, Nat.ofDigitChars_replicate_zero, Nat.mul_zero]
  exact Nat.ofDigitChars_ten_toDigits

theorem paddedDigits_injective (width : Nat) : Function.Injective (paddedDigits width) := by
  intro m n eq
  have value := congrArg (fun cs => Nat.ofDigitChars 10 cs 0) eq
  simpa only [paddedDigits_value] using value

end LatencyTest.Lib
