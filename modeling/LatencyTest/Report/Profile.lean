import LatencyTest.Runner.Plan
import LatencyTest.Lib.Padded
import LatencyTest.Lib.Regex

/-!
The identity of a run (`parseBenchmarkProfile`, `src/monitoring.cpp`). The runner appends
the repetition to the name of a profile; the analyzer takes it off again with a regular
expression. The number has no hyphen, so that there is only one way to do it.
-/

namespace LatencyTest

open Lib (paddedDigits Regex)

/-- What `.` does not match. -/
def lineTerminator (c : Char) : Bool := c = '\n' || c = '\r'

/-- A benchmark output prefix split into a scenario and repetition number. -/
structure BenchmarkProfile where
  scenario : Text
  repetition : Nat := 1
deriving DecidableEq, Repr

/-- `^(.+)-r([0-9]+)$` -/
def repetitionPattern : Regex Char :=
  .sequence [.start, .group 1 (.oneOrMore fun c => !lineTerminator c), .literal ['-', 'r'],
    .group 2 (.oneOrMore Char.isDigit), .finish]

/-- `std::stoull` of digits. -/
def stoull (number : Text) : Option Nat :=
  let value := Nat.ofDigitChars 10 number 0
  if value < sizeLimit then some value else none

/-- Splits a prefix into its scenario and repetition. -/
def parseBenchmarkProfile (profile : Text) : BenchmarkProfile :=
  match repetitionPattern.fullMatch profile with
  | none => { scenario := profile }
  | some found =>
      match stoull (found.captured 2) with
      | none => { scenario := profile }
      | some repetition => { scenario := found.captured 1, repetition := repetition }

/-! ### The pattern -/

/-- The end of a match of a name and a number. -/
def splitState (name number : Text) : Regex.State Char where
  before := (name ++ '-' :: 'r' :: number).reverse
  rest := []
  groups := [(2, number), (1, name)]

/-- The pattern matches a text in the ways in which it is a name and a number. -/
theorem matches_repetitionPattern {text : Text} {t : Regex.State Char} :
    repetitionPattern.Matches (.begin text) t ↔
      ∃ name number, text = name ++ '-' :: 'r' :: number ∧ name ≠ [] ∧
        (∀ c ∈ name, lineTerminator c = false) ∧ number ≠ [] ∧
        (∀ c ∈ number, c.isDigit = true) ∧ t = splitState name number := by
  constructor
  · rintro ⟨_, ⟨-, rfl⟩, _, one, _, separator, _, two, _, ⟨atEnd, rfl⟩, rfl⟩
    obtain ⟨name, rest, split, nonempty, plain, rfl⟩ := Regex.matches_group_oneOrMore.mp one
    obtain ⟨rest', split', rfl⟩ := Regex.matches_literal.mp separator
    obtain ⟨number, rest'', split'', some, decimal, rfl⟩ :=
      Regex.matches_group_oneOrMore.mp two
    simp only [Regex.State.begin, List.isEmpty_iff] at split split' split'' atEnd ⊢
    subst split split' split'' atEnd
    refine ⟨name, number, by simp, nonempty, ?_, some, decimal, by simp [splitState]⟩
    intro c mem
    simpa using plain c mem
  · rintro ⟨name, number, rfl, nonempty, plain, some, decimal, rfl⟩
    refine ⟨_, ⟨rfl, rfl⟩, _, Regex.matches_group_oneOrMore.mpr
      ⟨name, _, rfl, nonempty, ?_, rfl⟩, _, Regex.matches_literal.mpr ⟨number, rfl, rfl⟩, _,
      Regex.matches_group_oneOrMore.mpr
        ⟨number, [], (List.append_nil number).symm, some, decimal, rfl⟩, _, ⟨rfl, rfl⟩, ?_⟩
    · intro c mem
      rw [plain c mem]
      rfl
    · simp [splitState, Regex.State.begin, Regex.Matches]

/-- A text that ends in a number is split before its last hyphen. -/
theorem fullMatch_repetitionPattern {name number : Text} (nonempty : name ≠ [])
    (plain : ∀ c ∈ name, lineTerminator c = false) (some : number ≠ [])
    (decimal : ∀ c ∈ number, c.isDigit = true) :
    repetitionPattern.fullMatch (name ++ '-' :: 'r' :: number) =
      .some (splitState name number) := by
  refine Regex.fullMatch_unique
    (matches_repetitionPattern.mpr ⟨name, number, rfl, nonempty, plain, some, decimal, rfl⟩) rfl ?_
  intro t matched _
  obtain ⟨other, number', split, -, -, -, decimal', rfl⟩ := matches_repetitionPattern.mp matched
  obtain ⟨rfl, tail⟩ := (Runner.append_cons_inj_of_notMem_tail
    (Runner.hyphen_notMem_suffix decimal) (Runner.hyphen_notMem_suffix decimal')).mp split
  rw [(List.cons.inj tail).2]

/-! ### The round trip -/

theorem stoull_paddedDigits {width n : Nat} (fits : n < sizeLimit) :
    stoull (paddedDigits width n) = some n := by
  have value := Lib.paddedDigits_value width n
  rw [stoull, value, if_pos fits]

/-- A profile name that the pattern can match. -/
structure Identifiable (name : Text) : Prop where
  nonempty : name ≠ []
  plain : ∀ c ∈ name, lineTerminator c = false

/-- The prefix of a run is split into the name of its profile and its repetition. -/
theorem parseBenchmarkProfile_runPrefix {name : Text} {repetition : Nat}
    (identifiable : Identifiable name) (fits : repetition < sizeLimit) :
    parseBenchmarkProfile (Runner.runPrefix name repetition) = ⟨name, repetition⟩ := by
  have split := fullMatch_repetitionPattern identifiable.nonempty identifiable.plain
    Lib.paddedDigits_ne_nil fun c mem => @Lib.isDigit_of_mem_paddedDigits 2 repetition c mem
  have scenario : (splitState name (paddedDigits 2 repetition)).captured 1 = name := rfl
  have number : (splitState name (paddedDigits 2 repetition)).captured 2 =
      paddedDigits 2 repetition := rfl
  rw [parseBenchmarkProfile, Runner.runPrefix, split]
  simp only [scenario, number, stoull_paddedDigits fits]

/-- The runs of the plan of an accepted suite are identified by their prefixes. -/
theorem parseBenchmarkProfile_filePrefix {text : Text} {suite : Runner.BenchmarkSuite}
    (accepted : Runner.parseBenchmarkSuite text = .ok suite)
    {overrides : Runner.BenchmarkOverrides} {run : Runner.BenchmarkRun}
    (planned : run ∈ Runner.buildBenchmarkPlan suite overrides)
    (identifiable : Identifiable run.profile) :
    parseBenchmarkProfile run.filePrefix = ⟨run.profile, run.repetition⟩ := by
  have bound := (Runner.parseBenchmarkSuite_wellFormed accepted).repetitions.2
  obtain ⟨repetition, -, last, profile, -, rfl⟩ := Runner.mem_buildBenchmarkPlan.mp planned
  exact parseBenchmarkProfile_runPrefix identifiable (last.trans_lt bound)

/-- Run identity round trip: the prefix of a run gives back the name of its profile and its
repetition, in the plan of every accepted suite too, so that runs of differently named
profiles never have one scenario. -/
theorem run_identity :
    (∀ (name : Text) (repetition : Nat), Identifiable name → 1 ≤ repetition →
      repetition < 2 ^ 64 →
      parseBenchmarkProfile (Runner.runPrefix name repetition) = ⟨name, repetition⟩) ∧
    ∀ (text : Text) (suite : Runner.BenchmarkSuite) (overrides : Runner.BenchmarkOverrides),
      Runner.parseBenchmarkSuite text = .ok suite →
      ∀ run ∈ Runner.buildBenchmarkPlan suite overrides, Identifiable run.profile →
        parseBenchmarkProfile run.filePrefix = ⟨run.profile, run.repetition⟩ ∧
        ∀ other ∈ Runner.buildBenchmarkPlan suite overrides, Identifiable other.profile →
          (parseBenchmarkProfile run.filePrefix).scenario =
            (parseBenchmarkProfile other.filePrefix).scenario → run.profile = other.profile := by
  constructor
  · intro name repetition identifiable _ fits
    exact parseBenchmarkProfile_runPrefix identifiable fits
  · intro text suite overrides accepted run planned identifiable
    have split := parseBenchmarkProfile_filePrefix accepted planned identifiable
    refine ⟨split, ?_⟩
    intro other planned' identifiable' same
    rwa [split, parseBenchmarkProfile_filePrefix accepted planned' identifiable'] at same

/-- The hundredth run of a profile whose name ends like a prefix, and the plan of a suite
with such a profile. -/
theorem run_identity_suffixed :
    parseBenchmarkProfile "q-r01-r100".toList = ⟨"q-r01".toList, 100⟩ ∧
    ∃ suite, Runner.parseBenchmarkSuite Runner.suffixedText = .ok suite ∧
      ∃ run ∈ Runner.buildBenchmarkPlan suite {},
        parseBenchmarkProfile run.filePrefix = ⟨run.profile, run.repetition⟩ := by
  have parsed : (Runner.parseBenchmarkSuite Runner.suffixedText).map
      (fun suite => (Runner.buildBenchmarkPlan suite {}).map Runner.BenchmarkRun.profile) =
        .ok ["q".toList, "q-r01".toList] := by decide +kernel
  obtain ⟨suite, accepted, names⟩ := Runner.ok_of_map parsed
  have found : "q-r01".toList ∈
      (Runner.buildBenchmarkPlan suite {}).map Runner.BenchmarkRun.profile := by
    rw [names]
    exact List.mem_of_getLast? rfl
  obtain ⟨run, planned, name⟩ := List.mem_map.mp found
  have identifiable : Identifiable "q-r01".toList :=
    ⟨by decide, by simp [lineTerminator]⟩
  have hundredth := run_identity.1 _ 100 identifiable (by norm_num) (by norm_num)
  have written : Runner.runPrefix "q-r01".toList 100 = "q-r01-r100".toList := by decide
  rw [written] at hundredth
  refine ⟨hundredth, suite, accepted, run, planned,
    (run_identity.2 _ suite {} accepted run planned ?_).1⟩
  rwa [name]

end LatencyTest
