import LatencyTest.Report.Csv
import LatencyTest.Core.Wire

/-!
CSV rows as the analyzer and the runner write them (`writeCsvValue`, `writeColumn`,
`src/monitoring.cpp`; `csv`, `src/runner.cpp`): every value is quoted, with its quotes
doubled, and an absent number leaves its column empty. `parseCsvRow` reads the columns
back, whatever characters they have (`csv_round_trip`).
-/

namespace LatencyTest

/-! ### Writing -/

/-- Writes a quoted and escaped string value. -/
def writeCsvValue (value : Text) : Text :=
  '"' :: value.flatMap (fun character => if character = '"' then ['"', character] else [character])
    ++ ['"']

/-- Escapes one field, as the runner does. -/
def csv (value : Text) : Text :=
  '"' :: value.flatMap (fun character => character :: if character = '"' then ['"'] else [])
    ++ ['"']

/-- A value that is written to a column. -/
inductive Column where
  | text (value : Text)
  | number (value : Double)
  | optional (value : Option Double)

namespace Column

variable (formatted : Double → Text)

/-- The overloads of `writeCsvValue`; `formatted` is what a stream prints of a number. -/
def write : Column → Text
  | .text value => writeCsvValue value
  | .number value => writeCsvValue (formatted value)
  | .optional (some value) => writeCsvValue (formatted value)
  | .optional none => []

/-- What a column says. -/
def content : Column → Text
  | .text value => value
  | .number value => formatted value
  | .optional (some value) => formatted value
  | .optional none => []

/-- Writes one optionally comma-prefixed value to a CSV row. -/
def writeColumn (first : Bool) (column : Column) : Text :=
  (if first then [] else [',']) ++ column.write formatted

/-- The calls of `writeColumn` for one row, up to the end of the line. -/
def writeRow (first : Column) (others : List Column) : Text :=
  first.writeColumn formatted true ++ others.flatMap (writeColumn formatted false)

end Column

/-! ### Reading it back -/

/-- Doubled quotes inside quotes are read as one. -/
theorem parseCsvFrom_escaped (text value rest : Text) :
    parseCsvFrom true value
        (text.flatMap (fun c => if c = '"' then ['"', c] else [c]) ++ rest) =
      parseCsvFrom true (value ++ text) rest := by
  induction text generalizing value with
  | nil => rw [List.flatMap_nil, List.nil_append, List.append_nil]
  | cons c text ih =>
      rw [List.flatMap_cons, List.append_assoc]
      by_cases isQuote : c = '"'
      · subst isQuote
        rw [if_pos rfl, List.cons_append, List.cons_append, List.nil_append, parseCsvFrom, ih,
          List.append_assoc, List.singleton_append]
      · have step : ∀ tail, parseCsvFrom true value (c :: tail) =
            parseCsvFrom true (value ++ [c]) tail := by
          intro tail
          rw [parseCsvFrom]
          · exact fun _ same _ => isQuote same
          · exact isQuote
        rw [if_neg isQuote, List.singleton_append, step, ih, List.append_assoc,
          List.singleton_append]

/-- A column is read in front of the end of the row or the next column. -/
theorem parseCsvFrom_column (formatted : Double → Text) (column : Column) {rest : Text}
    (boundary : ∀ c ∈ rest.head?, c = ',') :
    parseCsvFrom false [] (column.write formatted ++ rest) =
      parseCsvFrom false (column.content formatted) rest := by
  have quoted : ∀ value, parseCsvFrom false [] (writeCsvValue value ++ rest) =
      parseCsvFrom false value rest := by
    intro value
    rw [writeCsvValue, List.append_assoc, List.cons_append, parseCsvFrom, parseCsvFrom_escaped,
      List.nil_append, List.singleton_append]
    cases rest with
    | nil => rfl
    | cons c rest =>
        rw [boundary c rfl]
        rfl
  cases column with
  | text value => exact quoted value
  | number value => exact quoted (formatted value)
  | optional value =>
      cases value with
      | none => rfl
      | some value => exact quoted (formatted value)

/-- The columns of a row are read back. -/
theorem parseCsvRow_writeRow (formatted : Double → Text) (first : Column)
    (others : List Column) :
    parseCsvRow (Column.writeRow formatted first others) =
      (first :: others).map (Column.content formatted) := by
  unfold parseCsvRow Column.writeRow
  rw [Column.writeColumn, if_pos rfl, List.nil_append]
  induction others generalizing first with
  | nil =>
      rw [List.flatMap_nil, parseCsvFrom_column formatted first (by simp), parseCsvFrom]
      rfl
  | cons next others ih =>
      have comma : (next :: others).flatMap (Column.writeColumn formatted false) =
          ',' :: (next.write formatted ++
            others.flatMap (Column.writeColumn formatted false)) := by
        simp [Column.writeColumn]
      rw [comma, parseCsvFrom_column formatted first (by simp), parseCsvFrom, ih]
      rfl

/-- The runner escapes as the analyzer does. -/
theorem csv_eq_writeCsvValue (value : Text) : csv value = writeCsvValue value := by
  unfold csv writeCsvValue
  congr 3
  funext c
  split
  · rename_i isQuote
    rw [isQuote]
  · rfl

/-- CSV round trip: every non-empty list of strings is read back as it was written, by
either encoder, and so is a row with numbers, in which an absent one is an empty field. -/
theorem csv_round_trip (formatted : Double → Text) :
    (∀ (first : Text) (others : List Text),
      parseCsvRow (Column.writeRow formatted (.text first) (others.map .text)) =
        first :: others) ∧
    (∀ value, csv value = writeCsvValue value) ∧
    ∀ (first : Column) (others : List Column),
      parseCsvRow (Column.writeRow formatted first others) =
        (first :: others).map (Column.content formatted) := by
  refine ⟨?_, csv_eq_writeCsvValue, parseCsvRow_writeRow formatted⟩
  intro first others
  rw [parseCsvRow_writeRow, List.map_cons, List.map_map]
  exact congrArg (first :: ·) (List.map_id others)

/-- An absent number between a quoted comma and a quoted quote. -/
example : parseCsvRow (Column.writeRow (fun _ => []) (.text [',']) [.optional none, .text ['"']]) =
    [[','], [], ['"']] := by decide

end LatencyTest
