import LatencyTest.Core.Task

/-!
Which files of a run directory the analysis reads, and what the runner's
`makePartial` leaves of a failed run. Three lists of file suffixes have to agree:
the clients', the runner's and the analyzer's. Files are named relative to the run
directory. The main result is `failed_run_invisible_iff`.
-/

namespace LatencyTest

/-! ### The run directory -/

/-- An entry of a directory: a regular file with its content, or anything else. -/
inductive Entry where
  | regular (content : Text)
  | other
deriving DecidableEq

/-- A directory, by file name. -/
abbrev Directory := AList fun _ : Text => Entry

namespace Directory

/-- `std::filesystem::rename`, which replaces an existing destination. -/
def rename (d : Directory) (source destination : Text) : Directory :=
  match d.lookup source with
  | none => d
  | some entry => (d.erase source).insert destination entry

/-- Everything an iteration over the directory selects. -/
def select {α : Type} (d : Directory) (reader : Text → Entry → Option α) : List α :=
  d.entries.filterMap fun file => reader file.1 file.2

theorem mem_select {α : Type} {d : Directory} {reader : Text → Entry → Option α} {input : α} :
    input ∈ d.select reader ↔
      ∃ name entry, d.lookup name = some entry ∧ reader name entry = some input := by
  simp only [select, List.mem_filterMap, Sigma.exists, AList.mem_lookup_iff, ← Option.mem_def]

theorem lookup_rename_of_ne {d : Directory} {source destination name : Text}
    (other : name ≠ source) (kept : name ≠ destination) :
    (d.rename source destination).lookup name = d.lookup name := by
  unfold rename
  cases d.lookup source with
  | none => rfl
  | some entry => rw [AList.lookup_insert_ne kept, AList.lookup_erase_ne other]

theorem lookup_rename_source {d : Directory} {source destination : Text}
    (moved : source ≠ destination) : (d.rename source destination).lookup source = none := by
  unfold rename
  cases found : d.lookup source with
  | none => exact found
  | some entry => rw [AList.lookup_insert_ne moved, AList.lookup_erase]

end Directory

/-! ### File names -/

/-- `std::string::ends_with`. -/
def endsWith (name suffix : Text) : Bool := suffix.isSuffixOf name

/-- `std::string::find` of a text. -/
def findText (needle text : Text) : Option Nat :=
  (List.range (text.length + 1)).find? fun start => needle.isPrefixOf (text.drop start)

/-- Two names of one run are equal, or one ends with the other, only if their
suffixes do. -/
theorem suffix_or_suffix_of_append {p a b : Text} (h : b <:+ p ++ a) : a <:+ b ∨ b <:+ a :=
  List.suffix_or_suffix_of_suffix (List.suffix_append p a) h

theorem endsWith_append_self (p suffix : Text) : endsWith (p ++ suffix) suffix = true :=
  List.isSuffixOf_iff_suffix.mpr (List.suffix_append p suffix)

/-- Whether a name of a run ends with a suffix shows in the name's own suffix, unless
that is shorter. -/
theorem endsWith_append {p a b : Text} (apart : ¬ a <:+ b) :
    endsWith (p ++ a) b = endsWith a b := by
  rw [Bool.eq_iff_iff, endsWith, endsWith, List.isSuffixOf_iff_suffix, List.isSuffixOf_iff_suffix]
  constructor
  · intro ends
    exact (suffix_or_suffix_of_append ends).resolve_left apart
  · intro ends
    exact ends.trans (List.suffix_append p a)

/-! ### Writers -/

def summarySuffix : Text := "-summary.csv".toList
def outliersSuffix : Text := "-outliers.csv".toList
def callbacksSuffix : Text := "-callbacks.csv".toList
def sourceTimeMethodsSuffix : Text := "-source-time-methods.csv".toList
def snapshotOverlapSuffix : Text := "-snapshot-overlap.csv".toList
def timeSeriesSuffix : Text := "-time-series.csv".toList
def deliverySuffix : Text := "-delivery.csv".toList
def serverLogSuffix : Text := "-server.log".toList
def clientLogSuffix : Text := "-client.log".toList

/-- The CSV files of the clients: those of the Reporter, of the time-series tracker
and of the delivery-only clients. -/
def clientCsvSuffixes : List Text :=
  [summarySuffix, outliersSuffix, callbacksSuffix, sourceTimeMethodsSuffix, snapshotOverlapSuffix,
    timeSeriesSuffix, deliverySuffix]

/-- The files that `makePartial` renames. -/
def incompleteSuffixes : List Text :=
  [summarySuffix, outliersSuffix, callbacksSuffix, sourceTimeMethodsSuffix, deliverySuffix]

def partialSuffix (suffix : Text) : Text :=
  match findText ".csv".toList suffix with
  | none => suffix
  | some start => suffix.take start ++ ".partial.csv".toList ++ suffix.drop (start + 4)

/-- Renames the incomplete CSV files of a client. -/
def makePartial (p : Text) (d : Directory) : Directory :=
  incompleteSuffixes.foldl (fun d suffix => d.rename (p ++ suffix) (p ++ partialSuffix suffix)) d

/-! ### Readers -/

/-- The text before a suffix. -/
def profileOf (filename suffix : Text) : Text := filename.take (filename.length - suffix.length)

/-- Which of the client result files `analyzeMonitoringDirectory` reads, and of which
profile. -/
def monitoringProfile (filename : Text) : Option Text :=
  if (endsWith filename summarySuffix && filename ≠ "monitoring-summary.csv".toList) ||
      endsWith filename deliverySuffix then
    some (profileOf filename
      (if endsWith filename deliverySuffix then deliverySuffix else summarySuffix))
  else none

/-- A result file read by `analyzeMonitoringDirectory`, with the logs of its profile. -/
structure MonitoringInput where
  profile : Text
  result : Text
  serverLog : Option Entry
  clientLog : Option Entry
deriving DecidableEq

def monitoringInput (d : Directory) (filename : Text) : Entry → Option MonitoringInput
  | .regular content =>
      (monitoringProfile filename).map fun profile =>
        { profile := profile
          result := content
          serverLog := d.lookup (profile ++ serverLogSuffix)
          clientLog := d.lookup (profile ++ clientLogSuffix) }
  | .other => none

/-- The readers of `writeBenchmarkComparison` for CSV files. -/
inductive ComparisonReader where
  | sourceTimeMethods
  | delivery
  | timeSeries
  | snapshotOverlap
  | latencyTotals
deriving DecidableEq, Repr

/-- The suffix of the files of a reader. -/
def ComparisonReader.suffix : ComparisonReader → Text
  | .sourceTimeMethods => sourceTimeMethodsSuffix
  | .delivery => deliverySuffix
  | .timeSeries => timeSeriesSuffix
  | .snapshotOverlap => snapshotOverlapSuffix
  | .latencyTotals => summarySuffix

/-- The reader that `writeBenchmarkComparison` chooses, and the profile it passes. -/
def comparisonReader (filename : Text) : Option (ComparisonReader × Text) :=
  if endsWith filename sourceTimeMethodsSuffix then
    some (.sourceTimeMethods, profileOf filename sourceTimeMethodsSuffix)
  else if endsWith filename deliverySuffix then
    some (.delivery, profileOf filename deliverySuffix)
  else if endsWith filename timeSeriesSuffix then
    some (.timeSeries, profileOf filename timeSeriesSuffix)
  else if endsWith filename snapshotOverlapSuffix then
    some (.snapshotOverlap, profileOf filename snapshotOverlapSuffix)
  else if !endsWith filename summarySuffix || filename = "monitoring-summary.csv".toList then none
  else some (.latencyTotals, profileOf filename summarySuffix)

/-- A CSV file read by `writeBenchmarkComparison`. -/
structure ComparisonInput where
  reader : ComparisonReader
  profile : Text
  content : Text
deriving DecidableEq

def comparisonInput (filename : Text) : Entry → Option ComparisonInput
  | .regular content =>
      (comparisonReader filename).map fun (reader, profile) => ⟨reader, profile, content⟩
  | .other => none

/-! ### The resource line of a client log -/

/-- The text after an expected literal. -/
def literal (expected text : Text) : Option Text :=
  if expected.isPrefixOf text then some (text.drop expected.length) else none

/-- `[-+]?[0-9]+(?:\.[0-9]+)?` and the text after it. What follows the number in the
pattern is neither a digit nor a dot, so the longest match is the only one. -/
def decimalNumber (text : Text) : Option (Text × Text) :=
  let unsigned :=
    match text with
    | sign :: rest => if sign = '-' ∨ sign = '+' then rest else text
    | [] => []
  let whole := unsigned.dropWhile Char.isDigit
  if whole.length = unsigned.length then none
  else
    let rest :=
      match whole with
      | '.' :: fraction =>
          let rest := fraction.dropWhile Char.isDigit
          if rest.length = fraction.length then whole else rest
      | _ => whole
    some (text.take (text.length - rest.length), rest)

/-- `[0-9]+`. -/
def wholeNumber (text : Text) : Option Text :=
  let number := text.takeWhile Char.isDigit
  if number = [] then none else some number

/-- The label and the five numbers of a resource line. -/
structure ResourceLine where
  label : Text
  cpuCore : Text
  cpuHost : Text
  rssMean : Text
  rssMaximum : Text
  samples : Text
deriving DecidableEq

def resourceLabels : List Text :=
  ["Client resources".toList, "Graal delivery resources".toList, "Legacy resources".toList]

/-- The resource pattern at the start of a text. -/
def matchResources (text : Text) : Option ResourceLine :=
  resourceLabels.firstM fun label => do
    let text ← literal label text
    let text ← literal ": cpu-core=".toList text
    let (cpuCore, text) ← decimalNumber text
    let text ← literal "% cpu-host=".toList text
    let (cpuHost, text) ← decimalNumber text
    let text ← literal "% rss-mean=".toList text
    let (rssMean, text) ← decimalNumber text
    let text ← literal " MiB rss-maximum=".toList text
    let (rssMaximum, text) ← decimalNumber text
    let text ← literal " MiB samples=".toList text
    let samples ← wholeNumber text
    return ⟨label, cpuCore, cpuHost, rssMean, rssMaximum, samples⟩

/-- `readClientResources` up to the conversion of the numbers: the first resource line
of a log. Without one there is no row; otherwise there is a row, or an error when a
number is no `double`. -/
def readClientResources (contents : Text) : Option ResourceLine :=
  contents.tails.firstM matchResources

/-- A client log that adds a resource row, or an error, to the comparison. -/
structure ResourceInput where
  profile : Text
  line : ResourceLine
deriving DecidableEq

def resourceInput (filename : Text) : Entry → Option ResourceInput
  | .regular content =>
      if endsWith filename clientLogSuffix then
        (readClientResources content).map fun line => ⟨profileOf filename clientLogSuffix, line⟩
      else none
  | .other => none

example : readClientResources ("Done\nClient resources: cpu-core=1.5% cpu-host=0.25% " ++
    "rss-mean=3 MiB rss-maximum=4.0 MiB samples=7\n").toList =
      some ⟨"Client resources".toList, "1.5".toList, "0.25".toList, "3".toList, "4.0".toList,
        "7".toList⟩ := by
  decide +kernel

/-! ### What the names of a run select -/

theorem profileOf_append (p suffix : Text) : profileOf (p ++ suffix) suffix = p := by
  simp [profileOf]

theorem append_profileOf {filename suffix : Text} (ends : endsWith filename suffix = true) :
    profileOf filename suffix ++ suffix = filename := by
  obtain ⟨before, rfl⟩ := List.isSuffixOf_iff_suffix.mp ends
  rw [profileOf_append]

/-- The suffixes of the files that the analyses read as client results. -/
def readerSuffixes : List Text :=
  [sourceTimeMethodsSuffix, deliverySuffix, timeSeriesSuffix, snapshotOverlapSuffix, summarySuffix]

theorem endsWith_false {a b : Text} (apart : ¬ a <:+ b ∧ ¬ b <:+ a) (p : Text) :
    endsWith (p ++ a) b = false := by
  rw [endsWith_append apart.1, Bool.eq_false_iff]
  intro ends
  exact apart.2 (List.isSuffixOf_iff_suffix.mp ends)

/-- Names of other suffixes are read by neither analysis. -/
theorem unread {suffix : Text}
    (apart : ∀ read ∈ readerSuffixes, ¬ suffix <:+ read ∧ ¬ read <:+ suffix) (p : Text) :
    monitoringProfile (p ++ suffix) = none ∧ comparisonReader (p ++ suffix) = none := by
  have methods := endsWith_false (apart sourceTimeMethodsSuffix (by simp [readerSuffixes])) p
  have delivery := endsWith_false (apart deliverySuffix (by simp [readerSuffixes])) p
  have series := endsWith_false (apart timeSeriesSuffix (by simp [readerSuffixes])) p
  have overlap := endsWith_false (apart snapshotOverlapSuffix (by simp [readerSuffixes])) p
  have summary := endsWith_false (apart summarySuffix (by simp [readerSuffixes])) p
  constructor
  · rw [monitoringProfile, delivery, summary, Bool.false_and, Bool.false_or,
      if_neg Bool.false_ne_true]
  · rw [comparisonReader, methods, delivery, series, overlap, summary]
    simp only [Bool.false_eq_true, if_false, Bool.not_false, Bool.true_or, if_true]

/-- The partial files and the logs are of this kind. -/
theorem partial_apart : ∀ suffix ∈ clientCsvSuffixes.map partialSuffix ++
    [serverLogSuffix, clientLogSuffix], ∀ read ∈ readerSuffixes,
    ¬ suffix <:+ read ∧ ¬ read <:+ suffix := by
  decide +kernel

theorem comparisonReader_timeSeries (p : Text) :
    comparisonReader (p ++ timeSeriesSuffix) = some (.timeSeries, p) := by
  have methods : endsWith (p ++ timeSeriesSuffix) sourceTimeMethodsSuffix = false :=
    endsWith_false (by decide +kernel) p
  have delivery : endsWith (p ++ timeSeriesSuffix) deliverySuffix = false :=
    endsWith_false (by decide +kernel) p
  rw [comparisonReader, methods, delivery, endsWith_append_self, profileOf_append,
    if_neg Bool.false_ne_true, if_neg Bool.false_ne_true, if_pos rfl]

theorem comparisonReader_snapshotOverlap (p : Text) :
    comparisonReader (p ++ snapshotOverlapSuffix) = some (.snapshotOverlap, p) := by
  have methods : endsWith (p ++ snapshotOverlapSuffix) sourceTimeMethodsSuffix = false :=
    endsWith_false (by decide +kernel) p
  have delivery : endsWith (p ++ snapshotOverlapSuffix) deliverySuffix = false :=
    endsWith_false (by decide +kernel) p
  have series : endsWith (p ++ snapshotOverlapSuffix) timeSeriesSuffix = false :=
    endsWith_false (by decide +kernel) p
  rw [comparisonReader, methods, delivery, series, endsWith_append_self, profileOf_append,
    if_neg Bool.false_ne_true, if_neg Bool.false_ne_true, if_neg Bool.false_ne_true, if_pos rfl]

/-! ### What `makePartial` leaves -/

section MakePartial

variable {p : Text}

/-- The renames of a list of suffixes. -/
def renames (p : Text) (suffixes : List Text) (d : Directory) : Directory :=
  suffixes.foldl (fun d suffix => d.rename (p ++ suffix) (p ++ partialSuffix suffix)) d

theorem lookup_renames_other {suffixes : List Text} {d : Directory} {name : Text}
    (other : ∀ suffix ∈ suffixes, name ≠ p ++ suffix)
    (kept : ∀ suffix ∈ suffixes, name ≠ p ++ partialSuffix suffix) :
    (renames p suffixes d).lookup name = d.lookup name := by
  induction suffixes generalizing d with
  | nil => rfl
  | cons suffix suffixes ih =>
      calc (renames p (suffix :: suffixes) d).lookup name
          = (d.rename (p ++ suffix) (p ++ partialSuffix suffix)).lookup name :=
            ih (fun s mem => other s (List.mem_cons_of_mem _ mem))
              (fun s mem => kept s (List.mem_cons_of_mem _ mem))
        _ = d.lookup name :=
            Directory.lookup_rename_of_ne (other suffix List.mem_cons_self)
              (kept suffix List.mem_cons_self)

theorem lookup_renames_source {suffixes : List Text} {d : Directory} {suffix : Text}
    (mem : suffix ∈ suffixes) (kept : ∀ s ∈ suffixes, suffix ≠ partialSuffix s) :
    (renames p suffixes d).lookup (p ++ suffix) = none := by
  have apart : ∀ s ∈ suffixes, p ++ suffix ≠ p ++ partialSuffix s := by
    intro s mem same
    exact kept s mem (List.append_cancel_left same)
  induction suffixes generalizing d with
  | nil => cases mem
  | cons first suffixes ih =>
      change (renames p suffixes (d.rename _ _)).lookup _ = none
      by_cases later : suffix ∈ suffixes
      · exact ih later (fun s mem => kept s (List.mem_cons_of_mem _ mem))
          (fun s mem => apart s (List.mem_cons_of_mem _ mem))
      · have here := (List.mem_cons.mp mem).resolve_right later
        subst here
        rw [lookup_renames_other]
        · exact Directory.lookup_rename_source (apart suffix List.mem_cons_self)
        · rintro s mem same
          rw [List.append_cancel_left same] at later
          exact later mem
        · intro s mem
          exact apart s (List.mem_cons_of_mem _ mem)

/-- An incomplete result file is gone. -/
theorem lookup_makePartial_incomplete (d : Directory) {suffix : Text}
    (mem : suffix ∈ incompleteSuffixes) : (makePartial p d).lookup (p ++ suffix) = none := by
  have apart : ∀ suffix ∈ incompleteSuffixes, ∀ s ∈ incompleteSuffixes,
      suffix ≠ partialSuffix s := by decide +kernel
  exact lookup_renames_source mem (apart suffix mem)

/-- Names that are neither renamed nor the new name of a file keep their entry. -/
theorem lookup_makePartial_suffix (d : Directory) {suffix : Text}
    (other : suffix ∉ incompleteSuffixes)
    (kept : ∀ s ∈ incompleteSuffixes, suffix ≠ partialSuffix s) :
    (makePartial p d).lookup (p ++ suffix) = d.lookup (p ++ suffix) := by
  refine lookup_renames_other ?_ ?_
  · rintro s mem same
    rw [List.append_cancel_left same] at other
    exact other mem
  · intro s mem same
    exact kept s mem (List.append_cancel_left same)

end MakePartial

/-! ### A failed run -/

/-- The names of a run's files: result files, their partial names, and logs. -/
def runNames (p : Text) : List Text :=
  (clientCsvSuffixes ++ (clientCsvSuffixes.map partialSuffix ++
    [serverLogSuffix, clientLogSuffix])).map (p ++ ·)

/-- The directory without the files of a run. -/
def otherRuns (p : Text) (d : Directory) : Directory :=
  (runNames p).foldl (fun d name => d.erase name) d

/-- One of the analyses reads a file as a client result. -/
def Selected (d : Directory) (name : Text) : Prop :=
  ∃ content, d.lookup name = some (.regular content) ∧
    (monitoringProfile name ≠ none ∨ comparisonReader name ≠ none)

/-- Two directories give the analyses the same inputs: the result files with their
logs, the comparison files, and the resource lines. -/
structure SameAnalysis (d d' : Directory) : Prop where
  monitoring : ∀ input,
    input ∈ d.select (monitoringInput d) ↔ input ∈ d'.select (monitoringInput d')
  comparison : ∀ input, input ∈ d.select comparisonInput ↔ input ∈ d'.select comparisonInput
  resources : ∀ input, input ∈ d.select resourceInput ↔ input ∈ d'.select resourceInput

theorem lookup_eraseAll (names : List Text) (d : Directory) (name : Text) :
    (names.foldl (fun d name => d.erase name) d).lookup name =
      if name ∈ names then none else d.lookup name := by
  induction names generalizing d with
  | nil => rfl
  | cons first names ih =>
      rw [List.foldl_cons, ih]
      by_cases same : name = first
      · subst same
        simp
      · rw [AList.lookup_erase_ne same]
        simp [same]

/-- The suffixes of the files of a run that `makePartial` leaves in place and an analysis
can read. -/
def remainingSuffixes : List Text := [timeSeriesSuffix, snapshotOverlapSuffix, clientLogSuffix]

theorem remaining_untouched : ∀ suffix ∈ remainingSuffixes, suffix ∉ incompleteSuffixes ∧
    ∀ s ∈ incompleteSuffixes, suffix ≠ partialSuffix s := by
  decide +kernel

theorem lookup_makePartial_remaining (p : Text) (d : Directory) {suffix : Text}
    (mem : suffix ∈ remainingSuffixes) :
    (makePartial p d).lookup (p ++ suffix) = d.lookup (p ++ suffix) := by
  obtain ⟨other, kept⟩ := remaining_untouched suffix mem
  exact lookup_makePartial_suffix d other kept

theorem lookup_otherRuns_remaining (p : Text) (d : Directory) {suffix : Text}
    (mem : suffix ∈ remainingSuffixes) : (otherRuns p d).lookup (p ++ suffix) = none := by
  have listed : ∀ suffix ∈ remainingSuffixes, suffix ∈ clientCsvSuffixes ++
      (clientCsvSuffixes.map partialSuffix ++ [serverLogSuffix, clientLogSuffix]) := by
    decide +kernel
  have own : p ++ suffix ∈ runNames p := List.mem_map_of_mem (listed suffix mem)
  rw [otherRuns, lookup_eraseAll, if_pos own]

/-- The files that `makePartial` leaves to the names of a run: nothing under the
names it renames, and the time-series and snapshot-overlap files as they are. -/
theorem makePartial_cases {p name : Text} {d : Directory} {entry : Entry}
    (mem : name ∈ runNames p) (found : (makePartial p d).lookup name = some entry) :
    (name = p ++ timeSeriesSuffix ∧ d.lookup name = some entry) ∨
      (name = p ++ snapshotOverlapSuffix ∧ d.lookup name = some entry) ∨
      (name = p ++ clientLogSuffix ∧ d.lookup name = some entry) ∨
      (monitoringProfile name = none ∧ comparisonReader name = none ∧
        endsWith name clientLogSuffix = false) := by
  obtain ⟨suffix, listed, rfl⟩ := List.mem_map.mp mem
  have left : ∀ suffix ∈ clientCsvSuffixes ++ (clientCsvSuffixes.map partialSuffix ++
      [serverLogSuffix, clientLogSuffix]),
      suffix ∈ incompleteSuffixes ∨ suffix = timeSeriesSuffix ∨ suffix = snapshotOverlapSuffix ∨
        suffix = clientLogSuffix ∨
        (suffix ∈ clientCsvSuffixes.map partialSuffix ++ [serverLogSuffix, clientLogSuffix] ∧
          ¬ suffix <:+ clientLogSuffix ∧ ¬ clientLogSuffix <:+ suffix) := by
    decide +kernel
  rcases left suffix listed with gone | rfl | rfl | rfl | ⟨unreadable, apart⟩
  · rw [lookup_makePartial_incomplete d gone] at found
    cases found
  · rw [lookup_makePartial_remaining p d (by simp [remainingSuffixes])] at found
    exact .inl ⟨rfl, found⟩
  · rw [lookup_makePartial_remaining p d (by simp [remainingSuffixes])] at found
    exact .inr (.inl ⟨rfl, found⟩)
  · rw [lookup_makePartial_remaining p d (by simp [remainingSuffixes])] at found
    exact .inr (.inr (.inl ⟨rfl, found⟩))
  · obtain ⟨monitoring, comparison⟩ := unread (partial_apart suffix unreadable) p
    exact .inr (.inr (.inr ⟨monitoring, comparison, endsWith_false apart p⟩))

/-- Files of other names are left alone. -/
theorem lookup_makePartial_other {p name : Text} (d : Directory) (other : name ∉ runNames p) :
    (makePartial p d).lookup name = d.lookup name := by
  have listed : ∀ suffix ∈ incompleteSuffixes, suffix ∈ clientCsvSuffixes := by decide +kernel
  refine lookup_renames_other ?_ ?_
  · rintro suffix mem rfl
    exact other (List.mem_map_of_mem (List.mem_append_left _ (listed suffix mem)))
  · rintro suffix mem rfl
    exact other (List.mem_map_of_mem (List.mem_append_right _ (List.mem_append_left _
      (List.mem_map_of_mem (listed suffix mem)))))

/-- A reader that reads no file of a run reads the same files without it. -/
theorem mem_select_otherRuns {α : Type} (reader : Text → Entry → Option α) (p : Text)
    (d : Directory) (unread : ∀ name ∈ runNames p, ∀ entry,
      (makePartial p d).lookup name = some entry → reader name entry = none) (input : α) :
    input ∈ (makePartial p d).select reader ↔ input ∈ (otherRuns p d).select reader := by
  rw [Directory.mem_select, Directory.mem_select]
  constructor
  · rintro ⟨name, entry, found, read⟩
    have other : name ∉ runNames p := by
      intro mem
      exact nomatch (unread name mem entry found).symm.trans read
    rw [lookup_makePartial_other d other] at found
    exact ⟨name, entry, by rw [otherRuns, lookup_eraseAll, if_neg other, found], read⟩
  · rintro ⟨name, entry, found, read⟩
    rw [otherRuns, lookup_eraseAll] at found
    by_cases mem : name ∈ runNames p
    · rw [if_pos mem] at found
      cases found
    · rw [if_neg mem] at found
      exact ⟨name, entry, by rw [lookup_makePartial_other d mem, found], read⟩

/-- The names of the result files that the monitoring analysis reads. -/
theorem monitoringProfile_eq_some {name profile : Text}
    (read : monitoringProfile name = some profile) :
    ∃ suffix ∈ clientCsvSuffixes, name = profile ++ suffix := by
  unfold monitoringProfile at read
  split at read
  · rename_i chosen
    cases read
    by_cases delivery : endsWith name deliverySuffix = true
    · rw [if_pos delivery]
      exact ⟨deliverySuffix, by decide +kernel, (append_profileOf delivery).symm⟩
    · rw [if_neg delivery]
      have summary := ((Bool.or_eq_true _ _).mp chosen).resolve_right delivery
      rw [Bool.and_eq_true] at summary
      exact ⟨summarySuffix, by decide +kernel, (append_profileOf summary.1).symm⟩
  · cases read

/-- The logs of another profile are not among the files of a run. -/
theorem log_other {p name profile : Text} (read : monitoringProfile name = some profile)
    (other : name ∉ runNames p) {log : Text} (kind : log ∈ [serverLogSuffix, clientLogSuffix]) :
    profile ++ log ∉ runNames p := by
  have only : ∀ log ∈ [serverLogSuffix, clientLogSuffix], ∀ suffix ∈ clientCsvSuffixes ++
      (clientCsvSuffixes.map partialSuffix ++ [serverLogSuffix, clientLogSuffix]),
      suffix <:+ log ∨ log <:+ suffix → suffix = log := by decide +kernel
  intro mem
  obtain ⟨suffix, listed, same⟩ := List.mem_map.mp mem
  have ends : log <:+ p ++ suffix := ⟨profile, same.symm⟩
  obtain rfl := only log kind suffix listed (suffix_or_suffix_of_append ends)
  obtain rfl := List.append_cancel_right same
  obtain ⟨result, written, rfl⟩ := monitoringProfile_eq_some read
  exact other (List.mem_map_of_mem (List.mem_append_left _ written))

theorem monitoringInput_congr {d d' : Directory} {name : Text} (entry : Entry)
    (server : ∀ profile, monitoringProfile name = some profile →
      d.lookup (profile ++ serverLogSuffix) = d'.lookup (profile ++ serverLogSuffix))
    (client : ∀ profile, monitoringProfile name = some profile →
      d.lookup (profile ++ clientLogSuffix) = d'.lookup (profile ++ clientLogSuffix)) :
    monitoringInput d name entry = monitoringInput d' name entry := by
  cases entry with
  | other => rfl
  | regular content =>
      unfold monitoringInput
      cases read : monitoringProfile name with
      | none => rfl
      | some profile => simp only [Option.map_some, server profile read, client profile read]

/-- No name of a run is read by the monitoring analysis after `makePartial`. -/
theorem monitoringProfile_makePartial {p name : Text} {d : Directory} {entry : Entry}
    (mem : name ∈ runNames p) (found : (makePartial p d).lookup name = some entry) :
    monitoringProfile name = none := by
  have apart : ∀ suffix ∈ [timeSeriesSuffix, snapshotOverlapSuffix, clientLogSuffix],
      ∀ read ∈ [summarySuffix, deliverySuffix], ¬ suffix <:+ read ∧ ¬ read <:+ suffix := by
    decide +kernel
  have ignored : ∀ suffix ∈ [timeSeriesSuffix, snapshotOverlapSuffix, clientLogSuffix],
      monitoringProfile (p ++ suffix) = none := by
    intro suffix listed
    have summary := endsWith_false (apart suffix listed summarySuffix (by simp)) p
    have delivery := endsWith_false (apart suffix listed deliverySuffix (by simp)) p
    rw [monitoringProfile, delivery, summary, Bool.false_and, Bool.false_or,
      if_neg Bool.false_ne_true]
  rcases makePartial_cases mem found with ⟨rfl, -⟩ | ⟨rfl, -⟩ | ⟨rfl, -⟩ | ⟨none, -, -⟩
  · exact ignored _ (by simp)
  · exact ignored _ (by simp)
  · exact ignored _ (by simp)
  · exact none

/-- The monitoring analysis never reads a file of the failed run. -/
theorem monitoring_otherRuns (p : Text) (d : Directory) (input : MonitoringInput) :
    input ∈ (makePartial p d).select (monitoringInput (makePartial p d)) ↔
      input ∈ (otherRuns p d).select (monitoringInput (otherRuns p d)) := by
  have logs : ∀ {name profile : Text}, monitoringProfile name = some profile → name ∉ runNames p →
      ∀ log ∈ [serverLogSuffix, clientLogSuffix],
        (makePartial p d).lookup (profile ++ log) = (otherRuns p d).lookup (profile ++ log) := by
    intro name profile read other log kind
    have unnamed := log_other read other kind
    rw [lookup_makePartial_other d unnamed, otherRuns, lookup_eraseAll, if_neg unnamed]
  have same : ∀ name entry, name ∉ runNames p →
      monitoringInput (makePartial p d) name entry =
        monitoringInput (otherRuns p d) name entry := by
    intro name entry other
    exact monitoringInput_congr entry
      (fun profile read => logs read other _ (by simp))
      (fun profile read => logs read other _ (by simp))
  have whole := mem_select_otherRuns (monitoringInput (makePartial p d)) p d
    (by
      intro name mem entry found
      have none := monitoringProfile_makePartial mem found
      cases entry <;> simp [monitoringInput, none]) input
  rw [whole, Directory.mem_select, Directory.mem_select]
  have unnamed : ∀ {name entry}, (otherRuns p d).lookup name = some entry → name ∉ runNames p := by
    intro name entry found mem
    rw [otherRuns, lookup_eraseAll, if_pos mem] at found
    cases found
  constructor
  · rintro ⟨name, entry, found, read⟩
    exact ⟨name, entry, found, (same name entry (unnamed found)).symm.trans read⟩
  · rintro ⟨name, entry, found, read⟩
    exact ⟨name, entry, found, (same name entry (unnamed found)).trans read⟩

/-- The reader and the profile determine the file. -/
theorem comparisonReader_eq_some {name p : Text} {reader : ComparisonReader}
    (read : comparisonReader name = some (reader, p)) : name = p ++ reader.suffix := by
  unfold comparisonReader at read
  split at read
  · cases read
    exact (append_profileOf ‹_›).symm
  split at read
  · cases read
    exact (append_profileOf ‹_›).symm
  split at read
  · cases read
    exact (append_profileOf ‹_›).symm
  split at read
  · cases read
    exact (append_profileOf ‹_›).symm
  split at read
  · cases read
  · rename_i summary
    cases read
    simp only [Bool.or_eq_true, Bool.not_eq_true', not_or, Bool.not_eq_false] at summary
    exact (append_profileOf summary.1).symm

theorem comparisonInput_named {name : Text} {entry : Entry} {input : ComparisonInput}
    (read : comparisonInput name entry = some input) :
    name = input.profile ++ input.reader.suffix := by
  cases entry with
  | other => cases read
  | regular text =>
      obtain ⟨⟨reader, profile⟩, found, rfl⟩ := Option.map_eq_some_iff.mp read
      exact comparisonReader_eq_some found

theorem resourceInput_named {name : Text} {entry : Entry} {input : ResourceInput}
    (read : resourceInput name entry = some input) : name = input.profile ++ clientLogSuffix := by
  cases entry with
  | other => cases read
  | regular text =>
      rw [resourceInput] at read
      by_cases ends : endsWith name clientLogSuffix = true
      · rw [if_pos ends] at read
        obtain ⟨line, -, rfl⟩ := Option.map_eq_some_iff.mp read
        exact (append_profileOf ends).symm
      · rw [if_neg ends] at read
        cases read

/-! ### Visibility -/

/-- A directory has a regular file of this name. -/
def IsRegular (d : Directory) (name : Text) : Prop :=
  ∃ content, d.lookup name = some (.regular content)

/-- No CSV file that the clients create for a run, under its own or its partial name,
is read as a client result. -/
def NoneSelected (p : Text) (d : Directory) : Prop :=
  ∀ suffix ∈ clientCsvSuffixes ++ clientCsvSuffixes.map partialSuffix, ¬ Selected d (p ++ suffix)

/-- After `makePartial` no result file of the failed run is selected exactly if the
run left neither a time-series nor a snapshot-overlap file. -/
theorem noneSelected_iff (p : Text) (d : Directory) :
    NoneSelected p (makePartial p d) ↔
      ¬ IsRegular d (p ++ timeSeriesSuffix) ∧ ¬ IsRegular d (p ++ snapshotOverlapSuffix) := by
  have visible : ∀ suffix ∈ remainingSuffixes, suffix ∈ clientCsvSuffixes →
      comparisonReader (p ++ suffix) ≠ none → NoneSelected p (makePartial p d) →
        ¬ IsRegular d (p ++ suffix) := by
    rintro suffix mem written read hidden ⟨content, found⟩
    refine hidden suffix (List.mem_append_left _ written) ⟨content, ?_, .inr read⟩
    rw [lookup_makePartial_remaining p d mem, found]
  constructor
  · intro hidden
    constructor
    · refine visible _ (by simp [remainingSuffixes]) (by decide +kernel) ?_ hidden
      rw [comparisonReader_timeSeries]
      exact Option.some_ne_none _
    · refine visible _ (by simp [remainingSuffixes]) (by decide +kernel) ?_ hidden
      rw [comparisonReader_snapshotOverlap]
      exact Option.some_ne_none _
  · rintro ⟨series, overlap⟩ suffix mem ⟨content, found, read⟩
    have named : p ++ suffix ∈ runNames p := by
      apply List.mem_map_of_mem
      rw [← List.append_assoc]
      exact List.mem_append_left _ mem
    have monitoring := monitoringProfile_makePartial named found
    rcases makePartial_cases named found with ⟨same, old⟩ | ⟨same, old⟩ | ⟨same, old⟩ |
      ⟨-, comparison, -⟩
    · exact series ⟨content, same ▸ old⟩
    · exact overlap ⟨content, same ▸ old⟩
    · have apart : clientLogSuffix ∉ clientCsvSuffixes ++ clientCsvSuffixes.map partialSuffix := by
        decide +kernel
      exact apart (List.append_cancel_left same ▸ mem)
    · rcases read with here | here
      · exact here monitoring
      · exact here comparison

/-- A file left in place that the comparison reads tells the analyses apart. -/
theorem SameAnalysis.unread_comparison {p : Text} {d : Directory}
    (same : SameAnalysis (makePartial p d) (otherRuns p d)) {reader : ComparisonReader}
    (mem : reader.suffix ∈ remainingSuffixes)
    (chosen : comparisonReader (p ++ reader.suffix) = some (reader, p)) :
    ¬ IsRegular d (p ++ reader.suffix) := by
  rintro ⟨content, found⟩
  have read : comparisonInput (p ++ reader.suffix) (.regular content) =
      some ⟨reader, p, content⟩ := by
    rw [comparisonInput, chosen, Option.map_some]
  have input := (same.comparison ⟨reader, p, content⟩).mp (Directory.mem_select.mpr
    ⟨_, _, (lookup_makePartial_remaining p d mem).trans found, read⟩)
  obtain ⟨name, entry, kept, named⟩ := Directory.mem_select.mp input
  rw [comparisonInput_named named] at kept
  exact nomatch (lookup_otherRuns_remaining p d mem).symm.trans kept

/-- So does a client log with a resource line. -/
theorem SameAnalysis.unread_resources {p : Text} {d : Directory}
    (same : SameAnalysis (makePartial p d) (otherRuns p d)) {content : Text}
    (found : d.lookup (p ++ clientLogSuffix) = some (.regular content)) :
    readClientResources content = none := by
  have mem : clientLogSuffix ∈ remainingSuffixes := by simp [remainingSuffixes]
  cases logged : readClientResources content with
  | none => rfl
  | some line =>
      have read : resourceInput (p ++ clientLogSuffix) (.regular content) = some ⟨p, line⟩ := by
        rw [resourceInput, if_pos (endsWith_append_self _ _), logged, Option.map_some,
          profileOf_append]
      have input := (same.resources ⟨p, line⟩).mp (Directory.mem_select.mpr
        ⟨_, _, (lookup_makePartial_remaining p d mem).trans found, read⟩)
      obtain ⟨name, entry, kept, named⟩ := Directory.mem_select.mp input
      rw [resourceInput_named named] at kept
      exact nomatch (lookup_otherRuns_remaining p d mem).symm.trans kept

section Hidden

variable {p : Text} {d : Directory} (series : ¬ IsRegular d (p ++ timeSeriesSuffix))
  (overlap : ¬ IsRegular d (p ++ snapshotOverlapSuffix))

include series overlap

/-- Without the two files the comparison reads no file of the failed run. -/
theorem comparison_unread {name : Text} (mem : name ∈ runNames p) {entry : Entry}
    (found : (makePartial p d).lookup name = some entry) : comparisonInput name entry = none := by
  cases entry with
  | other => rfl
  | regular content =>
      rcases makePartial_cases mem found with ⟨rfl, old⟩ | ⟨rfl, old⟩ | ⟨rfl, old⟩ | ⟨-, none, -⟩
      · exact absurd ⟨content, old⟩ series
      · exact absurd ⟨content, old⟩ overlap
      · rw [comparisonInput, (unread (partial_apart _ (by simp)) p).2, Option.map_none]
      · rw [comparisonInput, none, Option.map_none]

/-- Without a resource line in its log neither does the resource analysis. -/
theorem resources_unread
    (silent : ∀ content, d.lookup (p ++ clientLogSuffix) = some (.regular content) →
      readClientResources content = none)
    {name : Text} (mem : name ∈ runNames p) {entry : Entry}
    (found : (makePartial p d).lookup name = some entry) : resourceInput name entry = none := by
  cases entry with
  | other => rfl
  | regular content =>
      rcases makePartial_cases mem found with ⟨rfl, old⟩ | ⟨rfl, old⟩ | ⟨rfl, old⟩ | ⟨-, -, none⟩
      · exact absurd ⟨content, old⟩ series
      · exact absurd ⟨content, old⟩ overlap
      · rw [resourceInput, silent content old, Option.map_none, ite_self]
      · rw [resourceInput, none, if_neg Bool.false_ne_true]

end Hidden

/-- After `makePartial` the analyses are those of the other runs exactly if, in
addition, the client log of the failed run has no resource line. -/
theorem sameAnalysis_iff (p : Text) (d : Directory) :
    SameAnalysis (makePartial p d) (otherRuns p d) ↔
      ¬ IsRegular d (p ++ timeSeriesSuffix) ∧ ¬ IsRegular d (p ++ snapshotOverlapSuffix) ∧
        ∀ content, d.lookup (p ++ clientLogSuffix) = some (.regular content) →
          readClientResources content = none := by
  constructor
  · intro same
    have series : ComparisonReader.timeSeries.suffix ∈ remainingSuffixes := List.mem_cons_self
    have overlap : ComparisonReader.snapshotOverlap.suffix ∈ remainingSuffixes :=
      List.mem_cons_of_mem _ List.mem_cons_self
    exact ⟨same.unread_comparison series (comparisonReader_timeSeries p),
      same.unread_comparison overlap (comparisonReader_snapshotOverlap p),
      fun content found => same.unread_resources found⟩
  · rintro ⟨series, overlap, silent⟩
    refine ⟨monitoring_otherRuns p d, mem_select_otherRuns _ p d ?_, mem_select_otherRuns _ p d ?_⟩
    · intro name mem entry found
      exact comparison_unread series overlap mem found
    · intro name mem entry found
      exact resources_unread series overlap silent mem found

/-- The failed run with prefix `p`, for every content of the run directory: when
`makePartial` leaves no selected result file, and when the analysis is that of the
other runs. -/
theorem failed_run_invisible_iff (p : Text) (d : Directory) :
    (NoneSelected p (makePartial p d) ↔
      ¬ IsRegular d (p ++ timeSeriesSuffix) ∧ ¬ IsRegular d (p ++ snapshotOverlapSuffix)) ∧
    (NoneSelected p (makePartial p d) ∧ SameAnalysis (makePartial p d) (otherRuns p d) ↔
      ¬ IsRegular d (p ++ timeSeriesSuffix) ∧ ¬ IsRegular d (p ++ snapshotOverlapSuffix) ∧
        ∀ content, d.lookup (p ++ clientLogSuffix) = some (.regular content) →
          readClientResources content = none) := by
  refine ⟨noneSelected_iff p d, ?_⟩
  rw [noneSelected_iff, sameAnalysis_iff]
  constructor
  · exact And.right
  · rintro ⟨series, overlap, silent⟩
    exact ⟨⟨series, overlap⟩, series, overlap, silent⟩

/-- A client that waits in vain for its time-series snapshot writes its counters and
exits: the file is still read as the result of a run. -/
theorem timed_out_run_selected :
    let p : Text := "history-r01".toList
    let d : Directory := AList.insert (p ++ timeSeriesSuffix) (.regular [])
      (AList.insert (p ++ summarySuffix) (.regular []) ∅)
    ¬ NoneSelected p (makePartial p d) ∧ ¬ SameAnalysis (makePartial p d) (otherRuns p d) := by
  intro p d
  have written : IsRegular d (p ++ timeSeriesSuffix) := ⟨[], AList.lookup_insert _⟩
  constructor
  · intro hidden
    exact ((noneSelected_iff p d).mp hidden).1 written
  · intro same
    exact ((sameAnalysis_iff p d).mp same).1 written

end LatencyTest
