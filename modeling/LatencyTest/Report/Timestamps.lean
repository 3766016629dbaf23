import LatencyTest.Lib.Numeral
import LatencyTest.Report.Monitoring

/-!
Timestamps in the reports. The client writes nanoseconds (`utcTimestamp`, `src/core.cpp`), the
analyzer writes milliseconds (`formatUtc`, `src/monitoring.cpp`), and `parseUtcTimestamp` reads
both: the calendar from fixed columns, and the fraction through a double after padding it to
nine digits. What was written is read back as the time it was written for
(`parseUtcTimestamp_utcTimestamp`).
-/

namespace LatencyTest

open Lib (Tm Numeral gmtime timegm digits paddedDigits checked)

/-- `operator>>` for a `double`, of which it is used here that leading zeros do not change
what is read. -/
structure DecimalInput extends DoubleInput where
  numerals : ∀ n : Numeral, n.value < 2 ^ 53 → read n.digits = some ((n.value : ℚ), [])

/-- A calendar value as `%FT%T` writes it without a fraction. -/
def dateTimeText (utc : Tm) : Text :=
  paddedDigits 4 (utc.year + 1900).toNat ++ '-' :: paddedDigits 2 (utc.mon + 1).toNat ++
    '-' :: paddedDigits 2 utc.mday.toNat ++ 'T' :: paddedDigits 2 utc.hour.toNat ++
    ':' :: paddedDigits 2 utc.min.toNat ++ ':' :: paddedDigits 2 utc.sec.toNat

/-- Formats nanoseconds since the epoch, `{:%FT%T}Z`. -/
def utcTimestamp (unixNanos : Int) : Text :=
  dateTimeText (gmtime (unixNanos / 1000000000)) ++
    '.' :: paddedDigits 9 (unixNanos % 1000000000).toNat ++ ['Z']

/-- `text.find_first_of(set, start)`. -/
def findFirstOf (set : List Char) (start : Nat) (text : Text) : Option Nat :=
  ((text.drop start).findIdx? set.contains).map (· + start)

/-- `static_cast<std::int64_t>` of a double: the part in front of the dot. -/
def truncate (value : ℚ) : Int := if value < 0 then ⌈value⌉ else ⌊value⌋

/-- The calendar value in the columns of a timestamp. -/
def timestampCalendar (text : Text) : Option Tm := do
  let year ← stoi (substr text 0 4)
  let month ← stoi (substr text 5 2)
  let day ← stoi (substr text 8 2)
  let hour ← stoi (substr text 11 2)
  let minute ← stoi (substr text 14 2)
  let second ← stoi (substr text 17 2)
  return { year := year - 1900, mon := month - 1, mday := day, hour := hour, min := minute,
           sec := second }

/-- The digits behind the dot, nine of them. -/
def fractionDigits (text : Text) (dot : Nat) : Text :=
  let count :=
    match findFirstOf ['Z', '+', '-'] dot text with
    | none => text.length
    | some stop => stop - dot - 1
  let digits := (substr text (dot + 1) count).take 9
  digits ++ List.replicate (9 - digits.length) '0'

/-- Parses an ISO-8601 UTC timestamp with optional fractional seconds. -/
def parseUtcTimestamp (input : DoubleInput) (text : Text) : Except LogFailure Int :=
  let invalid := LogFailure.error ("invalid UTC timestamp: ".toList ++ text)
  if text.length < 20 ∨ text[4]? ≠ some '-' ∨ text[7]? ≠ some '-' ∨ text[10]? ≠ some 'T' ∨
      text[13]? ≠ some ':' ∨ text[16]? ≠ some ':' then .error invalid
  else match timestampCalendar text with
  | none => .error invalid
  | some calendar =>
      let seconds := timegm calendar
      if seconds = -1 then .error invalid
      else do
        let fraction ←
          match findFrom '.' 19 text with
          | none => .ok 0
          | some dot =>
              match input.parseNumber (fractionDigits text dot) with
              | .error _ => .error invalid
              | .ok parsed => orOverflow (checked 63 (truncate parsed))
        let whole ← orOverflow (checked 63 (seconds * 1000000000))
        orOverflow (checked 63 (whole + fraction))

example : utcTimestamp 1767225600000001000 = "2026-01-01T00:00:00.000001000Z".toList := by decide

example : parseUtcTimestamp .ofDigits "2026-01-01T00:00:00.5Z".toList =
    .ok 1767225600500000000 := by
  decide +kernel

/-! ### The columns -/

theorem digits_length_le {width n : Nat} (fits : n < 10 ^ width) (positive : 0 < width) :
    (digits n).length ≤ width :=
  (Nat.length_toDigits_le_iff (by decide) positive).mpr fits

/-- `std::stoi` of a padded number. -/
theorem stoi_paddedDigits {width n : Nat} (fits : n < 10 ^ width) (positive : 0 < width)
    (short : width ≤ 9) : stoi (paddedDigits width n) = some (n : Int) := by
  have length := Lib.paddedDigits_length (digits_length_le fits positive)
  rw [stoi_digits (fun _ => Lib.isDigit_of_mem_paddedDigits) Lib.paddedDigits_ne_nil
    (length.trans_le short), Lib.paddedDigits_value]

/-- The calendar values that fit the columns. -/
structure Columns (utc : Tm) : Prop where
  year : 0 ≤ utc.year + 1900 ∧ utc.year + 1900 < 10 ^ 4
  mon : 0 ≤ utc.mon + 1 ∧ utc.mon + 1 < 10 ^ 2
  mday : 0 ≤ utc.mday ∧ utc.mday < 10 ^ 2
  hour : 0 ≤ utc.hour ∧ utc.hour < 10 ^ 2
  min : 0 ≤ utc.min ∧ utc.min < 10 ^ 2
  sec : 0 ≤ utc.sec ∧ utc.sec < 10 ^ 2
  isdst : utc.isdst = 0

/-- The times from the epoch on, while the year has four digits. -/
theorem columns_gmtime {seconds : Int} (nonneg : 0 ≤ seconds) (below : seconds < 2 ^ 37) :
    Columns (gmtime seconds) := by
  have year := @Lib.civilOfDays_year (seconds / 86400) (by omega) (by omega)
  have month := Lib.civilOfDays_month (seconds / 86400)
  have day := Lib.civilOfDays_day (seconds / 86400)
  simp only [gmtime]
  generalize Lib.civilOfDays (seconds / 86400) = civil at *
  obtain ⟨y, m, d⟩ := civil
  dsimp only at year month day
  constructor <;> dsimp only <;> omega

/-- A number of the calendar as a column of its width. -/
theorem column {width : Nat} {value : Int} (nonneg : 0 ≤ value) (below : value < 10 ^ width)
    (positive : 0 < width) (short : width ≤ 9) :
    (paddedDigits width value.toNat).length = width ∧
      stoi (paddedDigits width value.toNat) = some value := by
  have fits : value.toNat < 10 ^ width := by
    have same : (value.toNat : Int) = value := Int.toNat_of_nonneg nonneg
    exact_mod_cast same ▸ below
  refine ⟨Lib.paddedDigits_length (digits_length_le fits positive), ?_⟩
  rw [stoi_paddedDigits fits positive short, Int.toNat_of_nonneg nonneg]

/-- The columns are where the parser looks for them. -/
theorem timestampCalendar_dateTimeText {utc : Tm} (columns : Columns utc) (rest : Text) :
    (dateTimeText utc).length = 19 ∧
      ((dateTimeText utc ++ rest)[4]? = some '-' ∧ (dateTimeText utc ++ rest)[7]? = some '-' ∧
        (dateTimeText utc ++ rest)[10]? = some 'T' ∧ (dateTimeText utc ++ rest)[13]? = some ':' ∧
        (dateTimeText utc ++ rest)[16]? = some ':') ∧
      timestampCalendar (dateTimeText utc ++ rest) = some utc := by
  obtain ⟨yearLength, year⟩ := column columns.year.1 columns.year.2 (by decide) (by decide)
  obtain ⟨monLength, mon⟩ := column columns.mon.1 columns.mon.2 (by decide) (by decide)
  obtain ⟨mdayLength, mday⟩ := column columns.mday.1 columns.mday.2 (by decide) (by decide)
  obtain ⟨hourLength, hour⟩ := column columns.hour.1 columns.hour.2 (by decide) (by decide)
  obtain ⟨minLength, min⟩ := column columns.min.1 columns.min.2 (by decide) (by decide)
  obtain ⟨secLength, sec⟩ := column columns.sec.1 columns.sec.2 (by decide) (by decide)
  unfold dateTimeText
  generalize paddedDigits 4 (utc.year + 1900).toNat = y at *
  generalize paddedDigits 2 (utc.mon + 1).toNat = m at *
  generalize paddedDigits 2 utc.mday.toNat = d at *
  generalize paddedDigits 2 utc.hour.toNat = h at *
  generalize paddedDigits 2 utc.min.toNat = n at *
  generalize paddedDigits 2 utc.sec.toNat = s at *
  obtain ⟨y₁, y₂, y₃, y₄, rfl⟩ := List.length_eq_four.mp yearLength
  obtain ⟨m₁, m₂, rfl⟩ := List.length_eq_two.mp monLength
  obtain ⟨d₁, d₂, rfl⟩ := List.length_eq_two.mp mdayLength
  obtain ⟨h₁, h₂, rfl⟩ := List.length_eq_two.mp hourLength
  obtain ⟨n₁, n₂, rfl⟩ := List.length_eq_two.mp minLength
  obtain ⟨s₁, s₂, rfl⟩ := List.length_eq_two.mp secLength
  refine ⟨rfl, ⟨rfl, rfl, rfl, rfl, rfl⟩, ?_⟩
  have calendar : timestampCalendar ([y₁, y₂, y₃, y₄] ++ '-' :: [m₁, m₂] ++ '-' :: [d₁, d₂] ++
      'T' :: [h₁, h₂] ++ ':' :: [n₁, n₂] ++ ':' :: [s₁, s₂] ++ rest) = (do
        let year ← stoi [y₁, y₂, y₃, y₄]
        let month ← stoi [m₁, m₂]
        let day ← stoi [d₁, d₂]
        let hour ← stoi [h₁, h₂]
        let minute ← stoi [n₁, n₂]
        let second ← stoi [s₁, s₂]
        return { year := year - 1900, mon := month - 1, mday := day, hour := hour,
                 min := minute, sec := second }) := rfl
  rw [calendar, year, mon, mday, hour, min, sec]
  obtain ⟨_, _, _, _, _, _, _⟩ := utc
  cases columns.isdst
  simp

/-! ### The fraction -/

/-- The nine digits that are read: those of the fraction, and zeros for the missing ones. -/
def nineDigits (fraction : Numeral) : Numeral where
  digits := fraction.digits ++ List.replicate (9 - fraction.digits.length) '0'
  nonempty := List.append_ne_nil_of_left_ne_nil fraction.nonempty _
  decimal := by
    intro c mem
    rcases List.mem_append.mp mem with digit | zero
    · exact fraction.decimal c digit
    · rw [List.eq_of_mem_replicate zero]
      decide

/-- They are the fraction in nanoseconds. -/
theorem value_nineDigits (fraction : Numeral) :
    (nineDigits fraction).value = 10 ^ (9 - fraction.digits.length) * fraction.value := by
  rw [Numeral.value, nineDigits, Nat.ofDigitChars_append, Nat.ofDigitChars_replicate_zero]
  rfl

section Fraction

variable {front : Text} {fraction : Numeral}

theorem findFrom_dot (length : front.length = 19) (rest : Text) :
    findFrom '.' 19 (front ++ '.' :: rest) = some 19 := by
  rw [findFrom, List.drop_left' length]
  rfl

theorem findFirstOf_zone (length : front.length = 19) :
    findFirstOf ['Z', '+', '-'] 19 (front ++ '.' :: (fraction.digits ++ ['Z'])) =
      some (fraction.digits.length + 20) := by
  have inside : ('.' :: fraction.digits).findIdx? ['Z', '+', '-'].contains = none := by
    rw [List.findIdx?_eq_none_iff]
    intro c mem
    rcases List.mem_cons.mp mem with rfl | digit
    · decide
    · have other : ∀ d : Char, d.isDigit = false → c ≠ d := fun _ =>
        Lib.ne_of_isDigit (fraction.decimal c digit)
      simp [other 'Z' (by decide), other '+' (by decide), other '-' (by decide)]
  rw [findFirstOf, List.drop_left' length, ← List.cons_append, List.findIdx?_append, inside]
  simp

theorem fractionDigits_append (length : front.length = 19) (short : fraction.digits.length ≤ 9) :
    fractionDigits (front ++ '.' :: (fraction.digits ++ ['Z'])) 19 =
      (nineDigits fraction).digits := by
  have behind : substr (front ++ '.' :: (fraction.digits ++ ['Z'])) 20 fraction.digits.length =
      fraction.digits := by
    rw [substr, List.append_cons, List.drop_left' (by simp [length]), List.take_left]
  have count : fraction.digits.length + 20 - 19 - 1 = fraction.digits.length := by omega
  rw [fractionDigits, findFirstOf_zone length]
  dsimp only
  rw [count, behind, List.take_of_length_le short]
  rfl

/-- Nine digits pass through a double exactly. -/
theorem parseNumber_nineDigits (input : DecimalInput) (short : fraction.digits.length ≤ 9) :
    input.parseNumber (nineDigits fraction).digits = .ok ((nineDigits fraction).value : ℚ) := by
  have length : (nineDigits fraction).digits.length = 9 := by
    rw [nineDigits, List.length_append, List.length_replicate]
    omega
  have below := length ▸ Lib.ofDigitChars_lt (nineDigits fraction).decimal
  have read := input.numerals (nineDigits fraction) (below.trans (by norm_num))
  have commas : (nineDigits fraction).digits.filter (· ≠ ',') = (nineDigits fraction).digits := by
    rw [List.filter_eq_self]
    intro c mem
    exact decide_eq_true (Lib.ne_of_isDigit ((nineDigits fraction).decimal c mem) (by decide))
  rw [DoubleInput.parseNumber, commas, read]

end Fraction

theorem truncate_natCast (n : Nat) : truncate (n : ℚ) = n := by
  rw [truncate, if_neg (Nat.cast_nonneg n).not_gt]
  exact Int.floor_natCast n

/-! ### Round trips -/

/-- A timestamp with up to nine fraction digits is read as its time. -/
theorem parseUtcTimestamp_dateTimeText (input : DecimalInput) {seconds : Int} {fraction : Numeral}
    (nonneg : 0 ≤ seconds) (short : fraction.digits.length ≤ 9)
    (fits : seconds * 1000000000 + (nineDigits fraction).value < 2 ^ 63) :
    parseUtcTimestamp input.toDoubleInput
        (dateTimeText (gmtime seconds) ++ '.' :: (fraction.digits ++ ['Z'])) =
      .ok (seconds * 1000000000 + (nineDigits fraction).value) := by
  have below : seconds < 2 ^ 37 := by omega
  obtain ⟨length, ⟨c₄, c₇, c₁₀, c₁₃, c₁₆⟩, calendar⟩ :=
    timestampCalendar_dateTimeText (columns_gmtime nonneg below)
      ('.' :: (fraction.digits ++ ['Z']))
  have long : ¬ (dateTimeText (gmtime seconds) ++
      '.' :: (fraction.digits ++ ['Z'])).length < 20 := by
    rw [List.length_append, length, List.length_cons]
    omega
  have notInvalid : seconds ≠ -1 := by omega
  have whole : checked 63 (seconds * 1000000000) = some (seconds * 1000000000) :=
    Lib.checked_of_signed ((Lib.signed_of_nonneg (by omega)).mpr (by omega))
  have behind : checked 63 ((nineDigits fraction).value : Int) =
      some ((nineDigits fraction).value : Int) :=
    Lib.checked_of_signed ((Lib.signed_of_nonneg (by omega)).mpr (by omega))
  have sum : checked 63 (seconds * 1000000000 + (nineDigits fraction).value) =
      some (seconds * 1000000000 + (nineDigits fraction).value) :=
    Lib.checked_of_signed ((Lib.signed_of_nonneg (by omega)).mpr fits)
  unfold parseUtcTimestamp
  rw [if_neg, calendar]
  rotate_left
  · rw [c₄, c₇, c₁₀, c₁₃, c₁₆]
    simpa only [ne_eq, not_true_eq_false, or_false] using long
  dsimp only
  rw [Lib.timegm_gmtime, if_neg notInvalid, findFrom_dot length]
  dsimp only
  rw [fractionDigits_append length short, parseNumber_nineDigits input short]
  dsimp only
  rw [truncate_natCast, behind, whole]
  exact congrArg orOverflow sum

/-- The fraction of a padded number. -/
def paddedNumeral (width n : Nat) : Numeral :=
  ⟨paddedDigits width n, Lib.paddedDigits_ne_nil, fun _ => Lib.isDigit_of_mem_paddedDigits⟩

theorem parseUtcTimestamp_padded (input : DecimalInput) {seconds : Int} {width n : Nat}
    (nonneg : 0 ≤ seconds) (positive : 0 < width) (short : width ≤ 9) (below : n < 10 ^ width)
    (fits : seconds * 1000000000 + 10 ^ (9 - width) * n < 2 ^ 63) :
    parseUtcTimestamp input.toDoubleInput
        (dateTimeText (gmtime seconds) ++ '.' :: paddedDigits width n ++ ['Z']) =
      .ok (seconds * 1000000000 + 10 ^ (9 - width) * n) := by
  have length : (paddedNumeral width n).digits.length = width :=
    Lib.paddedDigits_length (digits_length_le below positive)
  have value : ((nineDigits (paddedNumeral width n)).value : Int) = 10 ^ (9 - width) * n := by
    rw [value_nineDigits, length, Numeral.value, paddedNumeral, Lib.paddedDigits_value]
    push_cast
    rfl
  have read := @parseUtcTimestamp_dateTimeText input seconds (paddedNumeral width n) nonneg
    (length.trans_le short) (by rw [value]; exact fits)
  rw [value] at read
  rw [List.append_assoc, List.cons_append]
  exact read

/-- A time from the epoch on is not rounded towards a later one. -/
theorem formatUtc_nonneg {n : Int} (nonneg : 0 ≤ n) :
    formatUtc n = dateTimeText (gmtime (n / 1000000000)) ++
      '.' :: paddedDigits 3 (n / 1000000 % 1000).toNat ++ ['Z'] := by
  have milliseconds : n.tdiv 1000000 = n / 1000000 := Int.tdiv_eq_ediv_of_nonneg nonneg
  have seconds : (n / 1000000).tdiv 1000 = n / 1000000000 := by
    rw [Int.tdiv_eq_ediv_of_nonneg (by omega)]
    omega
  have fraction : n / 1000000 - n / 1000000000 * 1000 = n / 1000000 % 1000 := by omega
  have notNegative : ¬ n / 1000000 % 1000 < 0 := by omega
  simp only [formatUtc, milliseconds, seconds, fraction, if_neg notNegative]
  rfl

/-- What was written for a time is read back as that time: to the nanosecond as the client
writes it, and rounded down to a millisecond as the analyzer does. -/
theorem parseUtcTimestamp_utcTimestamp (input : DecimalInput) {n : Int} (nonneg : 0 ≤ n)
    (bound : n < 2 ^ 63) :
    parseUtcTimestamp input.toDoubleInput (utcTimestamp n) = .ok n ∧
      parseUtcTimestamp input.toDoubleInput (formatUtc n) = .ok (n / 1000000 * 1000000) := by
  have nanos : n / 1000000000 * 1000000000 + 10 ^ (9 - 9) * ((n % 1000000000).toNat : Int) = n := by
    omega
  have millis : n / 1000000000 * 1000000000 + 10 ^ (9 - 3) * ((n / 1000000 % 1000).toNat : Int) =
      n / 1000000 * 1000000 := by
    omega
  constructor
  · have read := @parseUtcTimestamp_padded input (n / 1000000000) 9 (n % 1000000000).toNat
      (by omega) (by decide) le_rfl (by omega) (by omega)
    rw [nanos] at read
    exact read
  · have read := @parseUtcTimestamp_padded input (n / 1000000000) 3 (n / 1000000 % 1000).toNat
      (by omega) (by decide) (by decide) (by omega) (by omega)
    rw [millis] at read
    rw [formatUtc_nonneg nonneg]
    exact read

/-- A reader of digits reads leading zeros. -/
def DecimalInput.ofDigits : DecimalInput where
  toDoubleInput := .ofDigits
  numerals n bound := by
    have scan : Lib.fromCharsNat (2 ^ 53 - 1) n.digits = .ok n.value [] :=
      Lib.FromChars.whole_eq_some.mp (Lib.whole_fromCharsNat.mpr ⟨n, rfl, rfl, by omega⟩)
    change (match Lib.fromCharsNat (2 ^ 53 - 1) n.digits with
      | .ok value rest => some ((value : ℚ), rest)
      | _ => none) = _
    rw [scan]

theorem parseUtcTimestamp_utcTimestamp_newYear :
    parseUtcTimestamp .ofDigits (utcTimestamp 1767225600123456789) = .ok 1767225600123456789 ∧
      parseUtcTimestamp .ofDigits (formatUtc 1767225600123456789) = .ok 1767225600123000000 :=
  parseUtcTimestamp_utcTimestamp .ofDigits (by norm_num) (by norm_num)

/-! ### In a row -/

theorem plain_paddedDigits (width n : Nat) : ∀ c ∈ paddedDigits width n, plainChar c = true :=
  fun _ mem => PlainText.plainChar_of_isDigit (Lib.isDigit_of_mem_paddedDigits mem)

theorem plain_dateTimeText (utc : Tm) : ∀ c ∈ dateTimeText utc, plainChar c = true := by
  have digit := plain_paddedDigits
  unfold dateTimeText
  simp only [List.forall_mem_append, List.forall_mem_cons]
  exact ⟨⟨⟨⟨⟨digit 4 _, by decide, digit 2 _⟩, by decide, digit 2 _⟩, by decide, digit 2 _⟩,
    by decide, digit 2 _⟩, by decide, digit 2 _⟩

/-- The text of a timestamp has digits and separators only. -/
theorem plain_utcTimestamp (unixNanos : Int) :
    ∀ c ∈ utcTimestamp unixNanos, plainChar c = true := by
  unfold utcTimestamp
  simp only [List.forall_mem_append, List.forall_mem_cons]
  exact ⟨⟨plain_dateTimeText _, by decide, plain_paddedDigits 9 _⟩, by decide, by simp⟩

/-- A timestamp is written without quotes. -/
def utcField (unixNanos : Int) : PlainText := ⟨utcTimestamp unixNanos, plain_utcTimestamp unixNanos⟩

/-- The analyzer finds the time in the row that the client wrote. -/
theorem parseUtcTimestamp_csvLine (input : DecimalInput) {n : Int} (nonneg : 0 ≤ n)
    (bound : n < 2 ^ 63) (before after : List PlainText) :
    ∃ text, (parseCsvRow (csvLine (before ++ utcField n :: after)))[before.length]? = some text ∧
      parseUtcTimestamp input.toDoubleInput text = .ok n := by
  refine ⟨utcTimestamp n, ?_, (parseUtcTimestamp_utcTimestamp input nonneg bound).1⟩
  rw [parseCsvRow_csvLine (by simp)]
  simp [utcField]

end LatencyTest
