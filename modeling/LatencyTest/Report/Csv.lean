import LatencyTest.Lib.Decimal
import LatencyTest.Core.Task

/-!
CSV files as the client writes them and `src/monitoring.cpp` reads them: rows of
comma-separated fields, `parseCsvRow`, `parseNumber`. The client never quotes a
field, so it reads back what it wrote only because its fields are plain
(`parseCsvRow_csvLine`, `getLines_fileText`).
-/

namespace LatencyTest

open Lib (digits)

/-! ### Writing -/

/-- A character that means nothing to `parseCsvRow` and to `std::getline`. -/
def plainChar (c : Char) : Bool := c ≠ ',' && c ≠ '"' && c ≠ '\r' && c ≠ '\n'

/-- A field that can be written without quotes. -/
structure PlainText where
  text : Text
  plain : ∀ c ∈ text, plainChar c = true

namespace PlainText

/-- A literal of the source. -/
def lit (s : String) (plain : s.toList.all plainChar = true := by decide +kernel) : PlainText :=
  ⟨s.toList, List.all_eq_true.mp plain⟩

theorem plainChar_of_isDigit {c : Char} (digit : c.isDigit = true) : plainChar c = true := by
  simp only [plainChar, Bool.and_eq_true, decide_eq_true_eq]
  refine ⟨⟨⟨?_, ?_⟩, ?_⟩, ?_⟩ <;> exact Lib.ne_of_isDigit digit (by decide)

/-- A printed unsigned number. -/
def ofNat (n : Nat) : PlainText :=
  ⟨digits n, fun _ mem => plainChar_of_isDigit (Lib.isDigit_of_mem_digits mem)⟩

/-- A printed signed number. -/
def ofInt : Int → PlainText
  | .ofNat n => ofNat n
  | .negSucc n => ⟨'-' :: digits (n + 1), by
      intro c mem
      rcases List.mem_cons.mp mem with rfl | rest
      · decide
      · exact plainChar_of_isDigit (Lib.isDigit_of_mem_digits rest)⟩

end PlainText

/-- The fields of a row, separated by commas. -/
def csvLine : List PlainText → Text
  | [] => []
  | [field] => field.text
  | field :: fields => field.text ++ ',' :: csvLine fields

/-- The lines of a file, each ended by a line feed. -/
def fileText (lines : List Text) : Text := lines.flatMap (· ++ ['\n'])

/-! ### Reading -/

/-- The loop of `parseCsvRow`: whether it is inside quotes, and the current value. -/
def parseCsvFrom : Bool → Text → Text → List Text
  | _, value, [] => [value]
  | true, value, '"' :: '"' :: rest => parseCsvFrom true (value ++ ['"']) rest
  | true, value, '"' :: rest => parseCsvFrom false value rest
  | true, value, character :: rest => parseCsvFrom true (value ++ [character]) rest
  | false, value, '"' :: rest => parseCsvFrom true value rest
  | false, value, ',' :: rest => value :: parseCsvFrom false [] rest
  | false, value, '\r' :: rest => parseCsvFrom false value rest
  | false, value, character :: rest => parseCsvFrom false (value ++ [character]) rest

/-- Parses one CSV row. -/
def parseCsvRow (line : Text) : List Text := parseCsvFrom false [] line

/-- The lines that successive calls of `std::getline` return, with the characters of
the current line so far. -/
def getLinesFrom (line : Text) : Text → List Text
  | [] => if line = [] then [] else [line]
  | '\n' :: rest => line :: getLinesFrom [] rest
  | c :: rest => getLinesFrom (line ++ [c]) rest

def getLines (text : Text) : List Text := getLinesFrom [] text

/-- `operator>>` of a stream for a `double` in the classic locale, without skipping
white space: the value and what it leaves. All that is used of it is that it reads
the digits of an integer exactly below 2^53, and rounds larger ones to no less. -/
structure DoubleInput where
  read : Text → Option (ℚ × Text)
  exact : ∀ n < 2 ^ 53, read (digits n) = some ((n : ℚ), [])
  large : ∀ (n : Nat) (value : ℚ), 2 ^ 53 ≤ n → read (digits n) = some (value, []) → 2 ^ 53 ≤ value

/-- Parses one locale-independent decimal number. -/
def DoubleInput.parseNumber (input : DoubleInput) (text : Text) : Except Text ℚ :=
  let text := text.filter (· ≠ ',')
  match input.read text with
  | some (value, []) => .ok value
  | _ => .error ("invalid number: ".toList ++ text)

/-- The position of a column. -/
def indexOf (headings : List Text) (name : Text) : Option Nat := headings.findIdx? (· == name)

/-! ### Round trips -/

theorem parseCsvFrom_plain {text : Text} (plain : ∀ c ∈ text, plainChar c = true)
    (value rest : Text) :
    parseCsvFrom false value (text ++ rest) = parseCsvFrom false (value ++ text) rest := by
  induction text generalizing value with
  | nil => rw [List.nil_append, List.append_nil]
  | cons c text ih =>
      have here := plain c List.mem_cons_self
      simp only [plainChar, Bool.and_eq_true, decide_eq_true_eq] at here
      have step : parseCsvFrom false value (c :: (text ++ rest)) =
          parseCsvFrom false (value ++ [c]) (text ++ rest) := by
        rw [parseCsvFrom]
        · exact here.1.1.2
        · exact here.1.1.1
        · exact here.1.2
      rw [List.cons_append, step, ih fun d mem => plain d (List.mem_cons_of_mem _ mem),
        List.append_assoc, List.singleton_append]

/-- A row of plain fields is read back as it was written. -/
theorem parseCsvRow_csvLine {fields : List PlainText} (nonempty : fields ≠ []) :
    parseCsvRow (csvLine fields) = fields.map PlainText.text := by
  unfold parseCsvRow
  induction fields with
  | nil => exact absurd rfl nonempty
  | cons field fields ih =>
      cases fields with
      | nil =>
          have read := parseCsvFrom_plain field.plain [] []
          rw [List.append_nil, List.nil_append] at read
          rw [csvLine, read, parseCsvFrom]
          rfl
      | cons next fields =>
          have line : csvLine (field :: next :: fields) =
              field.text ++ ',' :: csvLine (next :: fields) := rfl
          rw [line, parseCsvFrom_plain field.plain, List.nil_append, parseCsvFrom,
            ih (List.cons_ne_nil next fields)]
          rfl

/-- A row of plain fields is one line. -/
theorem ne_newline_of_mem_csvLine {fields : List PlainText} {c : Char} (mem : c ∈ csvLine fields) :
    c ≠ '\n' := by
  have inField : ∀ field : PlainText, c ∈ field.text → c ≠ '\n' := by
    intro field here
    have plain := field.plain c here
    simp only [plainChar, Bool.and_eq_true, decide_eq_true_eq] at plain
    exact plain.2
  induction fields with
  | nil => cases mem
  | cons field fields ih =>
      cases fields with
      | nil => exact inField field mem
      | cons next fields =>
          have line : csvLine (field :: next :: fields) =
              field.text ++ ',' :: csvLine (next :: fields) := rfl
          rw [line, List.mem_append, List.mem_cons] at mem
          rcases mem with here | rfl | rest
          · exact inField field here
          · decide
          · exact ih rest

theorem getLinesFrom_line {line : Text} (oneLine : ∀ c ∈ line, c ≠ '\n') (start rest : Text) :
    getLinesFrom start (line ++ '\n' :: rest) = (start ++ line) :: getLinesFrom [] rest := by
  induction line generalizing start with
  | nil => rw [List.nil_append, getLinesFrom, List.append_nil]
  | cons c line ih =>
      have other := oneLine c List.mem_cons_self
      rw [List.cons_append, getLinesFrom, ih fun d mem => oneLine d (List.mem_cons_of_mem _ mem),
        List.append_assoc, List.singleton_append]
      exact other

/-- A file is read back line by line. -/
theorem getLines_fileText {lines : List Text} (oneLine : ∀ line ∈ lines, ∀ c ∈ line, c ≠ '\n') :
    getLines (fileText lines) = lines := by
  unfold getLines
  induction lines with
  | nil => rfl
  | cons line lines ih =>
      have rest := ih fun other mem => oneLine other (List.mem_cons_of_mem _ mem)
      rw [fileText, List.flatMap_cons, List.append_assoc, List.singleton_append,
        getLinesFrom_line (oneLine line List.mem_cons_self), List.nil_append]
      exact congrArg (line :: ·) rest

/-- Digits contain no thousands separators. -/
theorem filter_digits (n : Nat) : (digits n).filter (· ≠ ',') = digits n := by
  rw [List.filter_eq_self]
  intro c mem
  exact decide_eq_true (Lib.ne_of_isDigit (Lib.isDigit_of_mem_digits mem) (by decide))

namespace DoubleInput

variable (input : DoubleInput)

/-- A counter below 2^53 is read back exactly. -/
theorem parseNumber_digits {n : Nat} (bound : n < 2 ^ 53) :
    input.parseNumber (digits n) = .ok (n : ℚ) := by
  rw [parseNumber, filter_digits, input.exact n bound]

/-- A counter is read as itself, or as something from 2^53 on. -/
theorem parseNumber_cases {n : Nat} {value : ℚ} (read : input.parseNumber (digits n) = .ok value) :
    value = n ∨ 2 ^ 53 ≤ value := by
  rcases lt_or_ge n (2 ^ 53) with small | big
  · left
    rw [input.parseNumber_digits small] at read
    cases read
    rfl
  · right
    rw [parseNumber, filter_digits] at read
    cases found : input.read (digits n) with
    | none =>
        rw [found] at read
        cases read
    | some result =>
        obtain ⟨number, rest⟩ := result
        rw [found] at read
        cases rest with
        | nil =>
            cases read
            exact input.large n value big found
        | cons c rest => cases read

/-- What is read as a number below 2^53 is that number. -/
theorem eq_of_parseNumber {n m : Nat} (read : input.parseNumber (digits n) = .ok (m : ℚ))
    (bound : m < 2 ^ 53) : n = m := by
  rcases input.parseNumber_cases read with same | big
  · exact (Nat.cast_inj.mp same).symm
  · have small : (m : ℚ) < 2 ^ 53 := by exact_mod_cast bound
    exact absurd big (not_le.mpr small)

/-- A reader of digits, for reports in which every number is an integer. -/
def ofDigits : DoubleInput where
  read text :=
    match Lib.fromCharsNat (2 ^ 53 - 1) text with
    | .ok value rest => some (value, rest)
    | _ => none
  exact n bound := by
    have scan := @Lib.fromCharsNat_digits (2 ^ 53 - 1) n [] (by omega) (by simp)
    rw [List.append_nil] at scan
    rw [scan]
  large n value big read := by
    have value : Nat.ofDigitChars 10 (digits n) 0 = n := Nat.ofDigitChars_ten_toDigits
    have whole : (digits n).takeWhile Char.isDigit = digits n :=
      List.takeWhile_eq_self_iff.mpr fun _ mem => Lib.isDigit_of_mem_digits mem
    rw [Lib.fromCharsNat, whole, if_neg Lib.digits_ne_nil, value, if_pos (by omega)] at read
    cases read

end DoubleInput

end LatencyTest
