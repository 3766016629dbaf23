import LatencyTest.Lib.Decimal

/-!
Decimal numerals: what the scanners of `Lib.Decimal` accept. A numeral keeps its
leading zeros, so a scan that succeeds has read exactly one numeral
(`fromCharsNat_eq_ok`), and printing is a choice of one numeral for each number.
-/

namespace LatencyTest.Lib

/-- A nonempty sequence of decimal digits. -/
structure Numeral where
  digits : List Char
  nonempty : digits ≠ []
  decimal : ∀ c ∈ digits, c.isDigit = true

namespace Numeral

def value (n : Numeral) : Nat := Nat.ofDigitChars 10 n.digits 0

/-- The numeral a number is printed as. -/
def print (n : Nat) : Numeral := ⟨Lib.digits n, digits_ne_nil, fun _ => isDigit_of_mem_digits⟩

@[simp] theorem value_print (n : Nat) : (print n).value = n := Nat.ofDigitChars_ten_toDigits

@[simp] theorem digits_print (n : Nat) : (print n).digits = Lib.digits n := rfl

theorem notMem_digits (n : Numeral) {c : Char} (other : c.isDigit = false) : c ∉ n.digits :=
  notMem_of_isDigit n.decimal other

/-- A numeral and what follows it are told apart when no digit follows. -/
theorem span_append (n : Numeral) {tail : List Char}
    (ends : ∀ c ∈ tail.head?, c.isDigit = false) :
    (n.digits ++ tail).takeWhile Char.isDigit = n.digits ∧
      (n.digits ++ tail).dropWhile Char.isDigit = tail := by
  rw [List.takeWhile_append_of_pos n.decimal, List.dropWhile_append_of_pos n.decimal]
  cases tail with
  | nil => simp
  | cons c tail =>
      have other : c.isDigit = false := ends c (by simp)
      simp [other]

end Numeral

/-- A scan succeeds when it reads a numeral whose value fits. -/
theorem fromCharsNat_eq_ok {limit value : Nat} {text rest : List Char} :
    fromCharsNat limit text = .ok value rest ↔
      ∃ n : Numeral, n.digits ++ rest = text ∧ n.value = value ∧ value ≤ limit ∧
        ∀ c ∈ rest.head?, c.isDigit = false := by
  constructor
  · intro scan
    have bound := fromCharsNat_le scan
    unfold fromCharsNat at scan
    dsimp only at scan
    split at scan
    · cases scan
    · rename_i nonempty
      split at scan
      · cases scan
      · cases scan
        refine ⟨⟨text.takeWhile Char.isDigit, nonempty, fun c => List.mem_takeWhile_imp⟩,
          List.takeWhile_append_dropWhile, rfl, bound, ?_⟩
        intro c head
        have first := List.head?_dropWhile_not Char.isDigit text
        rw [Option.mem_def.mp head] at first
        simpa using first
  · rintro ⟨n, rfl, rfl, bound, ends⟩
    obtain ⟨number, rest⟩ := n.span_append ends
    unfold fromCharsNat
    dsimp only
    rw [number, rest, if_neg n.nonempty]
    exact if_neg (not_lt.mpr bound)

/-- A scan of a whole text succeeds on numerals. -/
theorem whole_fromCharsNat {limit value : Nat} {text : List Char} :
    (fromCharsNat limit text).whole = some value ↔
      ∃ n : Numeral, n.digits = text ∧ n.value = value ∧ value ≤ limit := by
  rw [FromChars.whole_eq_some, fromCharsNat_eq_ok]
  simp only [List.append_nil, List.head?_nil, Option.not_mem_none, false_implies, implies_true,
    and_true]

/-- A signed scan of a whole text gives a positive value on numerals only. -/
theorem whole_fromCharsInt {limit : Nat} {value : Int} {text : List Char} (positive : 0 < value) :
    (fromCharsInt limit text).whole = some value ↔
      ∃ n : Numeral, n.digits = text ∧ (n.value : Int) = value ∧ n.value ≤ limit := by
  unfold fromCharsInt
  split
  · rename_i rest
    -- A minus sign makes the value negative or zero, and starts no numeral.
    constructor
    · intro scan
      exfalso
      split at scan
      · cases scan
      · cases scan
      · rename_i magnitude tail _
        cases tail with
        | nil =>
            cases scan
            omega
        | cons c tail => cases scan
    · rintro ⟨n, digits, -⟩
      have first := n.decimal '-' (by rw [digits]; exact List.mem_cons_self)
      exact absurd first (by decide)
  · have unsigned := @whole_fromCharsNat limit value.toNat text
    have nonneg : (value.toNat : Int) = value := Int.toNat_of_nonneg positive.le
    constructor
    · intro scan
      have found : (fromCharsNat limit text).whole = some value.toNat := by
        split at scan
        · cases scan
        · cases scan
        · rename_i magnitude tail read
          cases tail with
          | nil =>
              cases scan
              rw [read]
              rfl
          | cons c tail => cases scan
      obtain ⟨n, digits, same, bound⟩ := unsigned.mp found
      exact ⟨n, digits, by rw [same, nonneg], same ▸ bound⟩
    · rintro ⟨n, digits, same, bound⟩
      have found := (@whole_fromCharsNat limit n.value text).mpr ⟨n, digits, rfl, bound⟩
      rw [FromChars.whole_eq_some.mp found, ← same]
      rfl

end LatencyTest.Lib
