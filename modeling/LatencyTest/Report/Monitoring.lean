import LatencyTest.Lib.Calendar
import LatencyTest.Lib.Spans
import LatencyTest.Link.Durations
import LatencyTest.Report.Csv
import LatencyTest.Report.Profile

/-!
The monitoring logs of the two programs (`readMonitoringLog`, `src/monitoring.cpp`). A record
has the local time of its end; its interval begins where that of the record before it ended.
A record is in the measurement if its interval does not start before the measurement and does
not end after it, which says that the interval is inside only while the local clock does not
step back (`measured_intervals_iff`). A log cannot be read if the time zone has no time for a
record, or a time point overflows (`readRecords_error`).
-/

namespace LatencyTest

open Lib (Regex Tm gmtime timegm paddedDigits checked spans Admitted Apart Inside Steady)

/-! ### Time points -/

/-- What ends the reading of a log: an error, an exception, or an overflow of the clock's
`int64_t` of nanoseconds, after which nothing is defined. -/
inductive LogFailure where
  | error (text : Text)
  | thrown
  | overflow
deriving DecidableEq

def LogFailure.inFile (path : Text) : LogFailure → LogFailure
  | .error text => .error (text ++ " in ".toList ++ path)
  | failure => failure

def orOverflow : Option Int → Except LogFailure Int
  | none => .error .overflow
  | some value => .ok value

/-- Whether a number is negative, and what follows its sign. -/
def takeSign : Text → Bool × Text
  | '-' :: rest => (true, rest)
  | '+' :: rest => (false, rest)
  | text => (false, text)

/-- `std::stoi`: no value where it throws. -/
def stoi (text : Text) : Option Int :=
  let (negative, text) := takeSign (text.dropWhile Runner.isSpace)
  let number := text.takeWhile Char.isDigit
  if number = [] then none
  else
    let value : Int := Nat.ofDigitChars 10 number 0
    checked 31 (if negative then -value else value)

/-- `text.substr(position, count)` of a text that is long enough. -/
def substr (text : Text) (position count : Nat) : Text := (text.drop position).take count

/-- The broken-down local time of a record. -/
def localLogTime (date time : Text) : Option Tm := do
  let year ← stoi (substr date 0 2)
  let month ← stoi (substr date 2 2)
  let day ← stoi (substr date 4 2)
  let hour ← stoi (substr time 0 2)
  let minute ← stoi (substr time 2 2)
  let second ← stoi (substr time 4 2)
  return { year := (if 70 ≤ year then 1900 + year else 2000 + year) - 1900, mon := month - 1,
           mday := day, hour := hour, min := minute, sec := second, isdst := -1 }

/-- Parses the local timestamp format of the logs to nanoseconds since the epoch. The time zone
is that of `std::mktime`. -/
def parseLocalLogTimestamp (mktime : Tm → Int) (date time : Text) : Except LogFailure Int :=
  let invalid := LogFailure.error ("invalid QD timestamp: ".toList ++ date ++ ' ' :: time)
  if date.length ≠ 6 ∨ time.length ≠ 10 then .error invalid
  else match localLogTime date time with
  | none => .error invalid
  | some calendar =>
      let seconds := mktime calendar
      if seconds = -1 then .error invalid
      else match stoi (substr time 7 3) with
      | none => .error .thrown
      | some milliseconds => do
          let whole ← orOverflow (checked 63 (seconds * 1000000000))
          orOverflow (checked 63 (whole + milliseconds * 1000000))

/-- Formats a time point with the precision of a millisecond. -/
def formatUtc (value : Int) : Text :=
  let milliseconds := value.tdiv 1000000
  let seconds := milliseconds.tdiv 1000
  let fraction := milliseconds - seconds * 1000
  let (seconds, fraction) :=
    if fraction < 0 then (seconds - 1, fraction + 1000) else (seconds, fraction)
  let utc := gmtime seconds
  paddedDigits 4 (utc.year + 1900).toNat ++ '-' :: paddedDigits 2 (utc.mon + 1).toNat ++
    '-' :: paddedDigits 2 utc.mday.toNat ++ 'T' :: paddedDigits 2 utc.hour.toNat ++
    ':' :: paddedDigits 2 utc.min.toNat ++ ':' :: paddedDigits 2 utc.sec.toNat ++
    '.' :: paddedDigits 3 fraction.toNat ++ ['Z']

/-- The latency-measurement interval of a run. -/
structure Measurement where
  start : Int
  «end» : Int
  nominalEventsPerSecond : ℚ

/-! ### Patterns -/

/-- `^[A-Z]\s+([0-9]{6})\s+([0-9]{6}\.[0-9]{3}).*?\{([^}]+)\}\s+(Subscription:.*)$` -/
def linePattern : Regex Char :=
  .sequence [.start, .one Char.isUpper, .oneOrMore Runner.isSpace,
    .group 1 (.times 6 Char.isDigit), .oneOrMore Runner.isSpace,
    .group 2 (.sequence [.times 6 Char.isDigit, .literal ['.'], .times 3 Char.isDigit]),
    .repeated (fun c => !lineTerminator c) 0 none false, .literal ['{'],
    .group 3 (.oneOrMore fun c => c != '}'), .literal ['}'], .oneOrMore Runner.isSpace,
    .group 4 (.seq (.literal "Subscription:".toList) (.many fun c => !lineTerminator c)),
    .finish]

/-- `[-+]?[0-9][0-9,]*(?:\.[0-9]+)?` -/
def NUMBER_PATTERN : Regex Char :=
  .sequence [.optional (.one fun c => c = '-' || c = '+'), .one Char.isDigit,
    .many fun c => c.isDigit || c = ',',
    .optional (.seq (.literal ['.']) (.oneOrMore Char.isDigit))]

/-- `before (number) after` -/
def numberBetween (before : Regex Char) (after : String) : Regex Char :=
  .sequence [before, .group 1 NUMBER_PATTERN, .literal after.toList]

/-- `(?:^|; )` -/
def fieldStart : Regex Char := .choice .start (.literal "; ".toList)

/-- `(?:^|; )name: (number) Bps(?: \(([^)]*)\))?` -/
def trafficPattern (name : String) : Regex Char :=
  .seq (numberBetween (.seq fieldStart (.literal (name ++ ": ").toList)) " Bps")
    (.optional (.sequence [.literal " (".toList, .group 2 (.many fun c => c != ')'),
      .literal [')']]))

def readPattern : Regex Char := trafficPattern "Read"

def writePattern : Regex Char := trafficPattern "Write"

/-- The first number that a pattern captures, a NaN if it is not one. -/
def findNumber (input : DoubleInput) (text : Text) (pattern : Regex Char) : Option Double :=
  (pattern.search text).map fun found =>
    match input.parseNumber (found.captured 1) with
    | .ok value => .finite value
    | .error _ => .nonFinite

/-! ### Records -/

/-- Metrics extracted from one monitoring interval. -/
structure MonitoringSample where
  profile : Text
  process : Text
  endpoint : Text
  intervalStartUtc : Text
  intervalEndUtc : Text
  inMeasurement : Bool
  nominalEventsPerSecond : ℚ
  subscription : Option Double
  sticky : Option Double
  storage : Option Double
  buffer : Option Double
  dropped : Option Double
  readBps : Option Double
  readSubscriptionRps : Option Double
  readDataRps : Option Double
  readDataLagUs : Option Double
  writeBps : Option Double
  writeSubscriptionRps : Option Double
  writeDataRps : Option Double
  writeDataLagUs : Option Double
  rttUs : Option Double
  cpuPercent : Option Double

/-- A sample with the time points of its interval, which it has as texts. -/
structure LogRecord where
  intervalStart : Int
  intervalEnd : Int
  sample : MonitoringSample

/-- What `readMonitoringLog` is called with, apart from the log. -/
structure LogRequest where
  path : Text
  profile : Text
  process : Text
  measurement : Measurement
  monitoringPeriod : Int

section

variable (input : DoubleInput) (mktime : Tm → Int) (request : LogRequest)

/-- The throughput of a direction, zero if it is not a number. -/
def trafficBps (traffic : Option (Regex.State Char)) : Option Double :=
  traffic.map fun found => .finite ((input.parseNumber (found.captured 1)).toOption.getD 0)

/-- The text in parentheses behind the throughput of a direction. -/
def trafficDetails (traffic : Option (Regex.State Char)) : Text :=
  (traffic.map fun found => found.captured 2).getD []

example : trafficDetails (readPattern.search
    "Subscription: 3,001; Read: 84,000 Bps (data 3,002 rps lag -800 us); Write: 1 Bps".toList) =
      "data 3,002 rps lag -800 us".toList := by decide +kernel

/-- The record of a line with an interval. -/
def logRecord (found : Regex.State Char) (intervalStart intervalEnd : Int) : LogRecord :=
  let stats := found.captured 4
  let read := readPattern.search stats
  let write := writePattern.search stats
  let readDetails := trafficDetails read
  let writeDetails := trafficDetails write
  let find (text : Text) (before after : String) : Option Double :=
    findNumber input text (numberBetween (.literal before.toList) after)
  { intervalStart := intervalStart
    intervalEnd := intervalEnd
    sample :=
      { profile := request.profile
        process := request.process
        endpoint := found.captured 3
        intervalStartUtc := formatUtc intervalStart
        intervalEndUtc := formatUtc intervalEnd
        inMeasurement := request.measurement.start ≤ intervalStart ∧
          intervalEnd ≤ request.measurement.end
        nominalEventsPerSecond := request.measurement.nominalEventsPerSecond
        subscription := find stats "Subscription: " ""
        sticky := find stats "Sticky: " ""
        storage := find stats "Storage: " ""
        buffer := find stats "Buffer: " ""
        dropped := find stats "Dropped: " ""
        readBps := trafficBps input read
        readSubscriptionRps := find readDetails "sub " " rps"
        readDataRps := find readDetails "data " " rps"
        readDataLagUs := find readDetails "lag " " us"
        writeBps := trafficBps input write
        writeSubscriptionRps := find writeDetails "sub " " rps"
        writeDataRps := find writeDetails "data " " rps"
        writeDataLagUs := find writeDetails "lag " " us"
        rttUs := findNumber input stats
          (numberBetween (.seq fieldStart (.literal "rtt ".toList)) " us")
        cpuPercent := find stats "CPU: " "%" } }

/-- The start of the first interval. -/
def firstStart (intervalEnd : Int) : Except LogFailure Int := do
  let period ← orOverflow (toNanoseconds request.monitoringPeriod)
  orOverflow (checked 63 (intervalEnd - period))

/-- The loop over the lines, with the end of the record before them. -/
def readRecords : Option Int → List Text → Except LogFailure (List LogRecord)
  | _, [] => .ok []
  | previousEnd, line :: lines =>
      match linePattern.search line with
      | none => readRecords previousEnd lines
      | some found =>
          match parseLocalLogTimestamp mktime (found.captured 1) (found.captured 2) with
          | .error failure => .error (failure.inFile request.path)
          | .ok intervalEnd => do
              -- the argument of `value_or` is evaluated for every record
              let first ← firstStart request intervalEnd
              let intervalStart := previousEnd.getD first
              let records ← readRecords (some intervalEnd) lines
              return logRecord input request found intervalStart intervalEnd :: records

/-- The records of a log, if there is one. -/
def readLogRecords : Option Text → Except LogFailure (List LogRecord)
  | none => .error (.error ("missing monitoring log: ".toList ++ request.path))
  | some text => readRecords input mktime request none (getLines text)

/-- Parses the monitoring records of one process. -/
def readMonitoringLog (file : Option Text) : Except LogFailure (List MonitoringSample) :=
  (readLogRecords input mktime request file).map fun records => records.map LogRecord.sample

/-! ### Failures -/

/-- The failure at a record whose time `std::mktime` does not know: it names the record and the
log. -/
def UnknownTime (line : Text) (failure : LogFailure) : Prop :=
  ∃ found calendar, linePattern.search line = some found ∧
    localLogTime (found.captured 1) (found.captured 2) = some calendar ∧
    mktime calendar = -1 ∧
    failure = .error ("invalid QD timestamp: ".toList ++ found.captured 1 ++
      ' ' :: found.captured 2 ++ " in ".toList ++ request.path)

section

variable {input mktime request}

theorem orOverflow_eq_ok {exact : Option Int} {value : Int} :
    orOverflow exact = .ok value ↔ exact = some value := by
  cases exact <;> simp [orOverflow]

theorem orOverflow_error {exact : Option Int} {failure : LogFailure}
    (failed : orOverflow exact = .error failure) : failure = .overflow := by
  cases exact with
  | none =>
      cases failed
      rfl
  | some value => cases failed

/-- What the pattern captures as the date and the time of a record. -/
structure IsStamp (date time : Text) : Prop where
  date_length : date.length = 6
  date_digits : ∀ c ∈ date, c.isDigit = true
  parts : ∃ clock fraction, time = clock ++ '.' :: fraction ∧ clock.length = 6 ∧
    fraction.length = 3 ∧ ∀ c ∈ clock ++ fraction, c.isDigit = true

/-- The date and the time of a line that the pattern matches. -/
theorem isStamp_of_search {line : Text} {found : Regex.State Char}
    (matched : linePattern.search line = some found) :
    IsStamp (found.captured 1) (found.captured 2) := by
  obtain ⟨_, _, -, _, -, _, -, _, date, _, blanks, _, time, rest⟩ :=
    Regex.matches_of_search matched
  -- the parts after a group leave it as it is
  rw [Regex.captured_of_notMem rest (by decide : 1 ∉ _),
    Regex.captured_of_notMem time (by decide : 1 ∉ _),
    Regex.captured_of_notMem blanks (by decide : 1 ∉ _),
    Regex.captured_of_notMem rest (by decide : 2 ∉ _)]
  obtain ⟨_, days, dateSplit⟩ := Regex.captured_group date
  obtain ⟨dateWord, _, daySplit, dateLength, dateDigits, rfl⟩ := Regex.matches_times.mp days
  obtain ⟨_, ⟨_, clock, _, dot, _, fraction, rfl⟩, timeSplit⟩ := Regex.captured_group time
  obtain ⟨hours, _, clockSplit, clockLength, clockDigits, rfl⟩ := Regex.matches_times.mp clock
  obtain ⟨_, dotSplit, rfl⟩ := Regex.matches_literal.mp dot
  obtain ⟨millis, after, millisSplit, millisLength, millisDigits, rfl⟩ :=
    Regex.matches_times.mp fraction
  dsimp only at dateSplit dotSplit millisSplit timeSplit
  subst dotSplit millisSplit
  have dateWhole := List.append_cancel_right (daySplit.symm.trans dateSplit)
  have timeWhole := List.append_cancel_right <|
    show hours ++ '.' :: millis ++ after = _ by
      rw [← timeSplit, clockSplit]
      simp
  rw [← dateWhole, ← timeWhole]
  refine ⟨dateLength, dateDigits, hours, millis, rfl, clockLength, millisLength, ?_⟩
  intro c mem
  exact (List.mem_append.mp mem).elim (clockDigits c) (millisDigits c)

theorem not_isSpace_of_isDigit {c : Char} (digit : c.isDigit = true) :
    Runner.isSpace c = false := by
  simp only [Runner.isSpace, Bool.or_eq_false_iff, beq_eq_false_iff_ne]
  refine ⟨⟨⟨⟨⟨?_, ?_⟩, ?_⟩, ?_⟩, ?_⟩, ?_⟩ <;> exact Lib.ne_of_isDigit digit (by decide)

/-- `std::stoi` of a few digits. -/
theorem stoi_digits {text : Text} (decimal : ∀ c ∈ text, c.isDigit = true) (nonempty : text ≠ [])
    (short : text.length ≤ 9) : stoi text = some (Nat.ofDigitChars 10 text 0 : Int) := by
  have below : Nat.ofDigitChars 10 text 0 < 2 ^ 31 :=
    calc Nat.ofDigitChars 10 text 0 < 10 ^ text.length := Lib.ofDigitChars_lt decimal
      _ ≤ 10 ^ 9 := Nat.pow_le_pow_right (by norm_num) short
      _ < 2 ^ 31 := by norm_num
  have fits : Lib.Signed 31 (Nat.ofDigitChars 10 text 0 : Int) :=
    (Lib.signed_of_nonneg (by positivity)).mpr (by exact_mod_cast below)
  have whole : text.takeWhile Char.isDigit = text := List.takeWhile_eq_self_iff.mpr decimal
  obtain ⟨c, rest, rfl⟩ := List.exists_cons_of_ne_nil nonempty
  have digit := decimal c List.mem_cons_self
  have noBlank : (c :: rest).dropWhile Runner.isSpace = c :: rest := by
    rw [List.dropWhile_cons, not_isSpace_of_isDigit digit]
    rfl
  have unsigned : takeSign (c :: rest) = (false, c :: rest) := by
    unfold takeSign
    split
    · rename_i minus
      exact absurd (List.cons.inj minus).1 (Lib.ne_of_isDigit digit (by decide))
    · rename_i plus
      exact absurd (List.cons.inj plus).1 (Lib.ne_of_isDigit digit (by decide))
    · rfl
  simp only [stoi, noBlank, unsigned, whole]
  rw [if_neg nonempty]
  exact Lib.checked_of_signed fits

/-- `std::stoi` of a part of the digits of a record's time. -/
theorem stoi_substr {text : Text} (decimal : ∀ c ∈ text, c.isDigit = true) (position count : Nat)
    (inText : position + count ≤ text.length) (positive : 0 < count) (short : count ≤ 9) :
    ∃ value, stoi (substr text position count) = some value := by
  have length : (substr text position count).length = count := by
    rw [substr, List.length_take, List.length_drop]
    omega
  refine ⟨_, stoi_digits ?_ (List.length_pos_iff.mp (by omega)) (by omega)⟩
  intro c mem
  exact decimal c (List.mem_of_mem_drop (List.mem_of_mem_take mem))

/-- The numbers of a record's date and time can be read. -/
theorem IsStamp.numbers {date time : Text} (stamp : IsStamp date time) :
    (∃ calendar, localLogTime date time = some calendar) ∧
      ∃ milliseconds, stoi (substr time 7 3) = some milliseconds := by
  obtain ⟨dateLength, dateDigits, clock, fraction, rfl, clockLength, fractionLength, decimal⟩ :=
    stamp
  have clockDigits : ∀ c ∈ clock, c.isDigit = true := fun c mem => decimal c (by simp [mem])
  have fractionDigits : ∀ c ∈ fraction, c.isDigit = true := fun c mem => decimal c (by simp [mem])
  have inClock : ∀ {position count}, position + count ≤ 6 →
      substr (clock ++ '.' :: fraction) position count = substr clock position count := by
    intro position count within
    rw [substr, List.drop_append_of_le_length (by omega), List.take_append_of_le_length, substr]
    rw [List.length_drop]
    omega
  have afterDot : substr (clock ++ '.' :: fraction) 7 3 = substr fraction 0 3 := by
    have split : clock ++ '.' :: fraction = (clock ++ ['.']) ++ fraction := by simp
    have length : (clock ++ ['.']).length = 7 := by simp [clockLength]
    rw [split, substr, List.drop_left' length, substr, List.drop_zero]
  obtain ⟨year, year_eq⟩ := stoi_substr dateDigits 0 2 (by omega) (by omega) (by omega)
  obtain ⟨month, month_eq⟩ := stoi_substr dateDigits 2 2 (by omega) (by omega) (by omega)
  obtain ⟨day, day_eq⟩ := stoi_substr dateDigits 4 2 (by omega) (by omega) (by omega)
  obtain ⟨hour, hour_eq⟩ := stoi_substr clockDigits 0 2 (by omega) (by omega) (by omega)
  obtain ⟨minute, minute_eq⟩ := stoi_substr clockDigits 2 2 (by omega) (by omega) (by omega)
  obtain ⟨second, second_eq⟩ := stoi_substr clockDigits 4 2 (by omega) (by omega) (by omega)
  constructor
  · rw [localLogTime, year_eq, month_eq, day_eq, inClock (by omega), hour_eq,
      inClock (by omega), minute_eq, inClock (by omega), second_eq]
    exact ⟨_, rfl⟩
  · rw [afterDot]
    exact stoi_substr fractionDigits 0 3 (by omega) (by omega) (by omega)

/-- The time of a line that the pattern matches is rejected only by `std::mktime`; nothing is
thrown. -/
theorem parseLocalLogTimestamp_error {date time : Text} {failure : LogFailure}
    (stamp : IsStamp date time)
    (failed : parseLocalLogTimestamp mktime date time = .error failure) :
    failure = .overflow ∨ ∃ calendar, localLogTime date time = some calendar ∧
      mktime calendar = -1 ∧
      failure = .error ("invalid QD timestamp: ".toList ++ date ++ ' ' :: time) := by
  obtain ⟨⟨calendar, numbers⟩, milliseconds, fraction⟩ := stamp.numbers
  have sizes : ¬ (date.length ≠ 6 ∨ time.length ≠ 10) := by
    obtain ⟨dateLength, -, clock, fraction, rfl, clockLength, fractionLength, -⟩ := stamp
    simp [dateLength, clockLength, fractionLength]
  simp only [parseLocalLogTimestamp, if_neg sizes, numbers, fraction] at failed
  split at failed
  · rename_i unknown
    cases failed
    exact .inr ⟨calendar, numbers, unknown, rfl⟩
  · left
    rcases error_of_bind failed with seconds | ⟨whole, -, sum⟩
    · exact orOverflow_error seconds
    · exact orOverflow_error sum

theorem firstStart_error {intervalEnd : Int} {failure : LogFailure}
    (failed : firstStart request intervalEnd = .error failure) : failure = .overflow := by
  rcases error_of_bind failed with period | ⟨period, -, difference⟩
  · exact orOverflow_error period
  · exact orOverflow_error difference

/-- The reading of a log fails only at a record of an unknown time, or when a time point
overflows. -/
theorem readRecords_error {previousEnd : Option Int} {lines : List Text} {failure : LogFailure}
    (failed : readRecords input mktime request previousEnd lines = .error failure) :
    failure = .overflow ∨ ∃ line ∈ lines, UnknownTime mktime request line failure := by
  induction lines generalizing previousEnd with
  | nil => cases failed
  | cons line lines ih =>
      have later {previousEnd : Option Int}
          (failed : readRecords input mktime request previousEnd lines = .error failure) :
          failure = .overflow ∨ ∃ other ∈ line :: lines, UnknownTime mktime request other failure :=
        (ih failed).imp_right fun ⟨other, mem, unknown⟩ =>
          ⟨other, List.mem_cons_of_mem line mem, unknown⟩
      cases matched : linePattern.search line with
      | none =>
          simp only [readRecords, matched] at failed
          exact later failed
      | some found =>
          cases parsed : parseLocalLogTimestamp mktime (found.captured 1) (found.captured 2) with
          | error invalid =>
              simp only [readRecords, matched, parsed, Except.error.injEq] at failed
              subst failed
              rcases parseLocalLogTimestamp_error (isStamp_of_search matched) parsed with
                rfl | ⟨calendar, numbers, unknown, rfl⟩
              · exact .inl rfl
              · refine .inr ⟨line, List.mem_cons_self, found, calendar, matched, numbers, unknown,
                  ?_⟩
                simp [LogFailure.inFile]
          | ok intervalEnd =>
              simp only [readRecords, matched, parsed] at failed
              rcases error_of_bind failed with subtraction | ⟨first, -, failed⟩
              · exact .inl (firstStart_error subtraction)
              · rcases error_of_bind failed with rest | ⟨records, -, impossible⟩
                · exact later rest
                · cases impossible

end

/-! ### Intervals -/

/-- The ends of the records of some lines that can be read. -/
def recordTimes (lines : List Text) : List Int :=
  lines.filterMap fun line => do
    let found ← linePattern.search line
    (parseLocalLogTimestamp mktime (found.captured 1) (found.captured 2)).toOption

/-- The ends of the records, headed by the start of the first interval. -/
def linesTimes (lines : List Text) : List Int :=
  match recordTimes mktime lines with
  | [] => []
  | first :: times => (first - request.monitoringPeriod * 1000000) :: first :: times

/-- The times of a log: where the first interval starts, and where each one ends. -/
def logTimes (text : Text) : List Int := linesTimes mktime request (getLines text)

def LogRecord.interval (record : LogRecord) : Int × Int :=
  (record.intervalStart, record.intervalEnd)

variable {input mktime request}

/-- The first interval is a period long. -/
theorem eq_of_firstStart {intervalEnd start : Int}
    (subtracted : firstStart request intervalEnd = .ok start) :
    start = intervalEnd - request.monitoringPeriod * 1000000 := by
  obtain ⟨period, scaled, subtracted⟩ := ok_of_bind subtracted
  obtain ⟨-, rfl⟩ := Lib.checked_eq_some.mp (orOverflow_eq_ok.mp scaled)
  obtain ⟨-, rfl⟩ := Lib.checked_eq_some.mp (orOverflow_eq_ok.mp subtracted)
  rfl

/-- A line is passed over, or its record is put before those of the rest. -/
theorem readRecords_cons {previousEnd : Option Int} {line : Text} {lines : List Text}
    {records : List LogRecord}
    (read : readRecords input mktime request previousEnd (line :: lines) = .ok records) :
    (recordTimes mktime (line :: lines) = recordTimes mktime lines ∧
      readRecords input mktime request previousEnd lines = .ok records) ∨
    ∃ found intervalEnd rest,
      recordTimes mktime (line :: lines) = intervalEnd :: recordTimes mktime lines ∧
      readRecords input mktime request (some intervalEnd) lines = .ok rest ∧
      records = logRecord input request found
        (previousEnd.getD (intervalEnd - request.monitoringPeriod * 1000000)) intervalEnd ::
          rest := by
  cases matched : linePattern.search line with
  | none =>
      left
      simp only [readRecords, matched] at read
      exact ⟨by simp [recordTimes, matched], read⟩
  | some found =>
      right
      cases parsed : parseLocalLogTimestamp mktime (found.captured 1) (found.captured 2) with
      | error failure =>
          simp only [readRecords, matched, parsed] at read
          cases read
      | ok intervalEnd =>
          simp only [readRecords, matched, parsed] at read
          obtain ⟨first, subtracted, read⟩ := ok_of_bind read
          obtain ⟨rest, later, same⟩ := ok_of_bind read
          cases same
          cases eq_of_firstStart subtracted
          exact ⟨found, intervalEnd, rest,
            by simp [recordTimes, matched, parsed, Except.toOption], later, rfl⟩

/-- Every record of a log is flagged by its interval. -/
theorem flagged_of_mem {previousEnd : Option Int} {lines : List Text} {records : List LogRecord}
    (read : readRecords input mktime request previousEnd lines = .ok records)
    {record : LogRecord} (mem : record ∈ records) :
    record.sample.inMeasurement = true ↔
      Admitted request.measurement.start request.measurement.end record.interval := by
  induction lines generalizing previousEnd records with
  | nil =>
      cases read
      cases mem
  | cons line lines ih =>
      rcases readRecords_cons read with ⟨-, later⟩ | ⟨found, intervalEnd, rest, -, later, rfl⟩
      · exact ih later mem
      · rcases List.mem_cons.mp mem with rfl | inRest
        · exact decide_eq_true_iff
        · exact ih later inRest

/-- After a record, the intervals are the spans between the ends. -/
theorem intervals_of_some {previousEnd : Int} {lines : List Text} {records : List LogRecord}
    (read : readRecords input mktime request (some previousEnd) lines = .ok records) :
    records.map LogRecord.interval = spans previousEnd (recordTimes mktime lines) := by
  induction lines generalizing previousEnd records with
  | nil =>
      cases read
      rfl
  | cons line lines ih =>
      rcases readRecords_cons read with
        ⟨same, later⟩ | ⟨found, intervalEnd, rest, times, later, rfl⟩
      · rw [same, ih later]
      · rw [times, List.map_cons, ih later]
        rfl

/-- The intervals of a log are the spans between its times. -/
theorem intervals_eq {lines : List Text} {records : List LogRecord}
    (read : readRecords input mktime request none lines = .ok records) :
    records.map LogRecord.interval =
      match linesTimes mktime request lines with
      | [] => []
      | first :: times => spans first times := by
  induction lines generalizing records with
  | nil =>
      cases read
      rfl
  | cons line lines ih =>
      rcases readRecords_cons read with
        ⟨same, later⟩ | ⟨found, intervalEnd, rest, times, later, rfl⟩
      · rw [linesTimes, same]
        exact ih later
      · rw [linesTimes, times, List.map_cons, intervals_of_some later]
        rfl

/-- What a measured interval is meant to be: it is inside the measurement, and it has no
stretch in common with another one. -/
structure MeasuredSound (measurement : Measurement) (records : List LogRecord) : Prop where
  inside : ∀ record ∈ records, record.sample.inMeasurement = true →
    measurement.start ≤ record.intervalStart ∧ record.intervalStart ≤ record.intervalEnd ∧
      record.intervalEnd ≤ measurement.end
  apart : (records.filter fun record => record.sample.inMeasurement).Pairwise fun one other =>
    one.intervalEnd ≤ other.intervalStart ∨ other.intervalEnd ≤ one.intervalStart

/-- The flagged records are sound as the admitted ones of their intervals are. -/
theorem measuredSound_iff {records : List LogRecord}
    (flagged : ∀ record ∈ records, record.sample.inMeasurement = true ↔
      Admitted request.measurement.start request.measurement.end record.interval) :
    MeasuredSound request.measurement records ↔
      (∀ span ∈ records.map LogRecord.interval,
        Admitted request.measurement.start request.measurement.end span →
        Inside request.measurement.start request.measurement.end span) ∧
      ((records.map LogRecord.interval).filter fun span =>
        Admitted request.measurement.start request.measurement.end span).Pairwise Apart := by
  have sameRecords : (records.filter fun record => record.sample.inMeasurement) =
      records.filter fun record =>
        decide (Admitted request.measurement.start request.measurement.end record.interval) :=
    List.filter_congr fun record mem => by
      rw [Bool.eq_iff_iff, flagged record mem, decide_eq_true_iff]
  have apart : ((records.map LogRecord.interval).filter fun span =>
        Admitted request.measurement.start request.measurement.end span).Pairwise Apart ↔
      (records.filter fun record => record.sample.inMeasurement).Pairwise fun one other =>
        one.intervalEnd ≤ other.intervalStart ∨ other.intervalEnd ≤ one.intervalStart := by
    rw [sameRecords, List.filter_map, List.pairwise_map]
    rfl
  constructor
  · rintro ⟨inside, separate⟩
    refine ⟨?_, apart.mpr separate⟩
    intro span mem admitted
    obtain ⟨record, recorded, rfl⟩ := List.mem_map.mp mem
    exact inside record recorded ((flagged record recorded).mpr admitted)
  · rintro ⟨inside, separate⟩
    refine ⟨?_, apart.mp separate⟩
    intro record mem measured
    exact inside record.interval (List.mem_map_of_mem mem) ((flagged record mem).mp measured)

/-- The measured intervals of a log are sound exactly if its times do not step back from one
that is not before the measurement to one that is not after it. -/
theorem measured_intervals_iff {text : Text} {records : List LogRecord}
    (read : readLogRecords input mktime request (some text) = .ok records) :
    readMonitoringLog input mktime request (some text) = .ok (records.map LogRecord.sample) ∧
    (MeasuredSound request.measurement records ↔
      Steady request.measurement.start request.measurement.end
        (logTimes mktime request text)) := by
  constructor
  · rw [readMonitoringLog, read]
    rfl
  · rw [measuredSound_iff fun record mem => flagged_of_mem read mem, intervals_eq read, logTimes]
    cases linesTimes mktime request (getLines text) with
    | nil => exact ⟨fun _ => .nil, fun _ => ⟨fun _ mem => (List.not_mem_nil mem).elim, .nil⟩⟩
    | cons first times => exact Lib.admitted_sound_iff

end

/-! ### Two logs -/

/-- 2 January 2026, 12:00 UTC, in nanoseconds. -/
def noon : Int := 1767355200000000000

/-- A log of the client, for a measurement of one minute from noon on. -/
def noonMinute : LogRequest where
  path := "example-client.log".toList
  profile := "example".toList
  process := "client".toList
  measurement := { start := noon, «end» := noon + 60000000000, nominalEventsPerSecond := 3000 }
  monitoringPeriod := 10000

/-- A log with records of some times of that day. -/
def noonLog (times : List String) : Text :=
  times.flatMap fun time => "I 260102 ".toList ++ time.toList ++
    ".000 {latency-client} Subscription: 3,001; Buffer: 0; Dropped: 1; CPU: 1%\n".toList

/-- The interval of a record and whether it is measured. -/
def LogRecord.verdict (record : LogRecord) : (Int × Int) × Bool :=
  (record.interval, record.sample.inMeasurement)

/-- A clock in UTC that goes back only after the measurement. -/
theorem measured_intervals_late :
    ∃ records, readLogRecords .ofDigits timegm noonMinute
        (some (noonLog ["120005", "120015", "120025", "120130", "120110"])) = .ok records ∧
      MeasuredSound noonMinute.measurement records := by
  have evaluated : (readLogRecords .ofDigits timegm noonMinute
      (some (noonLog ["120005", "120015", "120025", "120130", "120110"]))).map
        (fun _ => ()) = .ok () := by decide +kernel
  obtain ⟨records, read, -⟩ := Runner.ok_of_map evaluated
  exact ⟨records, read, (measured_intervals_iff read).2.mpr (by decide +kernel)⟩

/-- A clock that is set back by twenty seconds inside the measurement: an interval that ends
before it starts is measured, and one that is measured is measured again. -/
theorem clock_set_back_measured :
    ∃ records, readLogRecords .ofDigits timegm noonMinute
        (some (noonLog ["120030", "120010", "120020", "120030"])) = .ok records ∧
      (∃ record ∈ records, record.sample.inMeasurement = true ∧
        record.intervalEnd < record.intervalStart) ∧
      ¬ (records.filter fun record => record.sample.inMeasurement).Pairwise fun one other =>
        one.intervalEnd ≤ other.intervalStart ∨ other.intervalEnd ≤ one.intervalStart := by
  have evaluated : (readLogRecords .ofDigits timegm noonMinute
      (some (noonLog ["120030", "120010", "120020", "120030"]))).map
        (fun records => records.map LogRecord.verdict) =
      .ok [((noon + 20000000000, noon + 30000000000), true),
        ((noon + 30000000000, noon + 10000000000), true),
        ((noon + 10000000000, noon + 20000000000), true),
        ((noon + 20000000000, noon + 30000000000), true)] := by decide +kernel
  obtain ⟨records, read, verdicts⟩ := Runner.ok_of_map evaluated
  refine ⟨records, read, ?_, ?_⟩
  · have second : ((noon + 30000000000, noon + 10000000000), true) ∈
        records.map LogRecord.verdict := by
      rw [verdicts]
      simp
    obtain ⟨record, mem, verdict⟩ := List.mem_map.mp second
    obtain ⟨interval, measured⟩ := Prod.ext_iff.mp verdict
    obtain ⟨starts, ends⟩ := Prod.ext_iff.mp interval
    refine ⟨record, mem, measured, ?_⟩
    change record.verdict.1.2 < record.verdict.1.1
    rw [starts, ends]
    decide
  · intro apart
    have separate : ((records.map LogRecord.verdict).filter Prod.snd).Pairwise fun one other =>
        one.1.2 ≤ other.1.1 ∨ other.1.2 ≤ one.1.1 := by
      rw [List.filter_map, List.pairwise_map]
      exact apart
    rw [verdicts] at separate
    revert separate
    decide +kernel

end LatencyTest
