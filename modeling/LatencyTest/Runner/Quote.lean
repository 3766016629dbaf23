import LatencyTest.Lib.CommandLine

/-!
The command line with which the runner starts a child process on Windows
(`quoteWindows`, `ChildProcess::start`, `src/runner.cpp`). A `std::wstring` is the list
of its 16-bit units. What the C runtime of the child reads from the command line are
the arguments that the runner wrote (`splitArguments_quoteWindows`).
-/

namespace LatencyTest.Runner

open Lib.CommandLine

/-- A `std::wstring`. -/
abbrev WideText := List UInt16

def wideSpace : UInt16 := 32

def wideTab : UInt16 := 9

def wideQuote : UInt16 := 34

def wideBackslash : UInt16 := 92

/-- The loop of `quoteWindows`: what it appends when `backslashes` of them are held back. -/
def quoteFrom (backslashes : Nat) : WideText → WideText
  | [] => List.replicate (backslashes * 2) wideBackslash ++ [wideQuote]
  | character :: value =>
      if character = wideBackslash then quoteFrom (backslashes + 1) value
      else if character = wideQuote then
        List.replicate (backslashes * 2 + 1) wideBackslash ++ character :: quoteFrom 0 value
      else List.replicate backslashes wideBackslash ++ character :: quoteFrom 0 value

/-- Quotes one argument according to the Windows C command-line parsing rules. -/
def quoteWindows (value : WideText) : WideText :=
  if value ≠ [] ∧ ∀ c ∈ value, c ≠ wideSpace ∧ c ≠ wideTab ∧ c ≠ wideQuote then value
  else wideQuote :: quoteFrom 0 value

/-- The command line of `ChildProcess::start`. -/
def commandLine (executable : WideText) (arguments : List WideText) : WideText :=
  quoteWindows executable ++ arguments.flatMap fun argument => wideSpace :: quoteWindows argument

/-! ### Reading it back -/

/-- The characters with a meaning to the C runtime. -/
def windowsMarks : Marks UInt16 where
  quote := wideQuote
  backslash := wideBackslash
  blank c := c == wideSpace || c == wideTab
  backslash_ne_quote := by decide
  blank_quote := by decide
  blank_backslash := by decide

theorem windowsMarks_blank {c : UInt16} :
    windowsMarks.blank c = false ↔ c ≠ wideSpace ∧ c ≠ wideTab := by
  simp [windowsMarks]

/-- Inside quotes the scanner reads what the loop holds back and appends. -/
theorem splitFrom_quoteFrom {rest : WideText} (boundary : AtBoundary windowsMarks rest)
    (value before : WideText) (backslashes : Nat) :
    splitFrom windowsMarks .quoted (some before) 0 (quoteFrom backslashes value ++ rest) =
      splitFrom windowsMarks .plain
        (some (before ++ List.replicate backslashes wideBackslash ++ value)) 0 rest := by
  induction value generalizing before backslashes with
  | nil =>
      rw [quoteFrom, List.append_assoc, List.singleton_append, List.append_nil]
      refine (splitFrom_backslashes rfl _).trans ?_
      rw [Nat.zero_add]
      refine (splitFrom_close backslashes).trans ?_
      refine (splitFrom_boundary (by decide) boundary).trans ?_
      rw [List.replicate_zero, List.append_nil]
      rfl
  | cons c value ih =>
      unfold quoteFrom
      split
      · rename_i slash
        rw [ih, slash, List.replicate_succ', List.append_assoc, List.append_assoc,
          List.append_assoc, List.singleton_append]
      · rename_i literal
        split
        · rename_i isQuote
          rw [isQuote, List.append_assoc, List.cons_append]
          refine (splitFrom_backslashes rfl _).trans ?_
          rw [Nat.zero_add]
          refine (splitFrom_escaped backslashes).trans ?_
          rw [ih]
          simp [windowsMarks]
        · rename_i unquote
          rw [List.append_assoc, List.cons_append]
          refine (splitFrom_backslashes rfl _).trans ?_
          refine (splitFrom_plain literal unquote (.inl rfl)).trans ?_
          refine (ih _ 0).trans ?_
          simp [windowsMarks]

/-- Every argument is encoded, quoted or not. -/
theorem encodes_quoteWindows (value : WideText) :
    Encodes windowsMarks (quoteWindows value) value := by
  unfold quoteWindows
  split
  · rename_i plain
    refine encodes_plain plain.1 fun c mem => ?_
    obtain ⟨space, tab, unquote⟩ := plain.2 c mem
    exact ⟨unquote, windowsMarks_blank.mpr ⟨space, tab⟩⟩
  · intro rest boundary
    refine splitFrom_open.trans ?_
    refine (splitFrom_quoteFrom boundary value [] 0).trans ?_
    rfl

theorem encodes_map_quoteWindows (arguments : List WideText) :
    List.Forall₂ (Encodes windowsMarks) (arguments.map quoteWindows) arguments := by
  rw [List.forall₂_map_left_iff]
  exact List.forall₂_same.mpr fun value _ => encodes_quoteWindows value

/-- Quoted arguments, joined by single spaces, are read back as they were, whatever
characters they have. -/
theorem splitArguments_quoteWindows (arguments : List WideText) :
    splitArguments windowsMarks ([wideSpace].intercalate (arguments.map quoteWindows)) =
      arguments :=
  splitArguments_intercalate rfl (encodes_map_quoteWindows arguments)

/-- The command line joins the quoted executable and arguments. -/
theorem commandLine_eq (executable : WideText) (arguments : List WideText) :
    commandLine executable arguments =
      [wideSpace].intercalate ((executable :: arguments).map quoteWindows) := by
  induction arguments generalizing executable with
  | nil => simp [commandLine, List.intercalate_singleton]
  | cons argument arguments ih =>
      rw [List.map_cons, List.map_cons, List.intercalate_cons_cons, ← List.map_cons, ← ih,
        commandLine, commandLine, List.flatMap_cons]
      simp

/-- So a child reads the executable and the arguments it was started with. -/
theorem splitArguments_commandLine (executable : WideText) (arguments : List WideText) :
    splitArguments windowsMarks (commandLine executable arguments) = executable :: arguments := by
  rw [commandLine_eq]
  exact splitArguments_intercalate rfl (encodes_map_quoteWindows _)

end LatencyTest.Runner
