import Mathlib

/-!
Command lines and their arguments, by the rules of the Microsoft C runtime. Blanks
separate arguments outside quotes. Backslashes are literal unless a quote follows
them: `2n` of them and a quote stand for `n` backslashes and a delimiter, `2n + 1` and
a quote for `n` backslashes and a literal quote. Inside quotes a doubled quote is a
literal quote. An argument is encoded when the scanner reads it back in front of any
boundary (`Encodes`), and encoded arguments are joined by blanks
(`splitArguments_intercalate`).
-/

namespace LatencyTest.Lib.CommandLine

/-- The characters with a meaning in a command line. -/
structure Marks (α : Type) where
  quote : α
  backslash : α
  blank : α → Bool
  backslash_ne_quote : backslash ≠ quote
  blank_quote : blank quote = false
  blank_backslash : blank backslash = false

/-- Where the scanner is: outside quotes, inside, or right after a quote that closes
unless it is doubled. -/
inductive Mode where
  | plain
  | quoted
  | closing
deriving DecidableEq, Repr

namespace Mode

/-- A character other than a quote settles that a quote has closed. -/
def settle : Mode → Mode
  | .quoted => .quoted
  | .plain | .closing => .plain

/-- What a quote does. -/
def turn : Mode → Mode
  | .quoted => .closing
  | .plain | .closing => .quoted

end Mode

/-- The scanner, with the argument so far, or nothing between arguments, and the number
of backslashes just before. -/
def splitFrom {α : Type} [DecidableEq α] (marks : Marks α) (mode : Mode)
    (current : Option (List α)) (slashes : Nat) : List α → List (List α)
  | [] => (current.map (· ++ List.replicate slashes marks.backslash)).toList
  | c :: rest =>
      let argument := current.getD []
      if c = marks.backslash then splitFrom marks mode.settle (some argument) (slashes + 1) rest
      else if c = marks.quote then
        let halved := argument ++ List.replicate (slashes / 2) marks.backslash
        if slashes % 2 = 1 then splitFrom marks mode (some (halved ++ [c])) 0 rest
        else
          splitFrom marks mode.turn
            (some (if mode = .closing then halved ++ [c] else halved)) 0 rest
      else if marks.blank c ∧ mode ≠ .quoted then
        (current.map (· ++ List.replicate slashes marks.backslash)).toList ++
          splitFrom marks .plain none 0 rest
      else
        splitFrom marks mode.settle
          (some (argument ++ List.replicate slashes marks.backslash ++ [c])) 0 rest

/-- The arguments of a command line. -/
def splitArguments {α : Type} [DecidableEq α] (marks : Marks α) (commandLine : List α) :
    List (List α) :=
  splitFrom marks .plain none 0 commandLine

namespace Marks

variable {α : Type} {marks : Marks α} {c : α}

theorem backslash_of_blank (blank : marks.blank c = true) : c ≠ marks.backslash := by
  rintro rfl
  rw [marks.blank_backslash] at blank
  cases blank

theorem quote_of_blank (blank : marks.blank c = true) : c ≠ marks.quote := by
  rintro rfl
  rw [marks.blank_quote] at blank
  cases blank

end Marks

/-! ### Steps of the scanner -/

section Steps

variable {α : Type} [DecidableEq α] {marks : Marks α} {mode : Mode} {argument : List α}
  {slashes : Nat} {c : α} {rest : List α}

theorem splitFrom_backslash {current : Option (List α)} :
    splitFrom marks mode current slashes (marks.backslash :: rest) =
      splitFrom marks mode.settle (some (current.getD [])) (slashes + 1) rest := by
  rw [splitFrom, if_pos rfl]

/-- Backslashes are counted. -/
theorem splitFrom_backslashes (settled : mode.settle = mode) (count : Nat) :
    splitFrom marks mode (some argument) slashes
        (List.replicate count marks.backslash ++ rest) =
      splitFrom marks mode (some argument) (slashes + count) rest := by
  induction count generalizing slashes with
  | zero => rfl
  | succ count ih =>
      rw [List.replicate_succ, List.cons_append, splitFrom_backslash, settled, Option.getD_some,
        ih, Nat.add_assoc, Nat.add_comm 1]

/-- Any other character follows the backslashes before it. -/
theorem splitFrom_plain {current : Option (List α)} (literal : c ≠ marks.backslash)
    (unquote : c ≠ marks.quote) (inside : mode = .quoted ∨ marks.blank c = false) :
    splitFrom marks mode current slashes (c :: rest) =
      splitFrom marks mode.settle
        (some (current.getD [] ++ List.replicate slashes marks.backslash ++ [c])) 0 rest := by
  have joined : ¬ (marks.blank c = true ∧ mode ≠ .quoted) := by
    rintro ⟨blank, outside⟩
    rcases inside with quoted | solid
    · exact outside quoted
    · rw [solid] at blank
      cases blank
  rw [splitFrom, if_neg literal, if_neg unquote, if_neg joined]

/-- An odd number of backslashes makes a quote literal. -/
theorem splitFrom_escaped (count : Nat) :
    splitFrom marks mode (some argument) (count * 2 + 1) (marks.quote :: rest) =
      splitFrom marks mode
        (some (argument ++ List.replicate count marks.backslash ++ [marks.quote])) 0 rest := by
  have half : (count * 2 + 1) / 2 = count := by omega
  rw [splitFrom, if_neg marks.backslash_ne_quote.symm, if_pos rfl, half, if_pos (by omega)]
  rfl

/-- A quote opens an argument. -/
theorem splitFrom_open :
    splitFrom marks .plain none 0 (marks.quote :: rest) =
      splitFrom marks .quoted (some []) 0 rest := by
  rw [splitFrom, if_neg marks.backslash_ne_quote.symm, if_pos rfl, if_neg (by decide)]
  rfl

/-- An even number of backslashes makes a quote a delimiter. -/
theorem splitFrom_close (count : Nat) :
    splitFrom marks .quoted (some argument) (count * 2) (marks.quote :: rest) =
      splitFrom marks .closing (some (argument ++ List.replicate count marks.backslash)) 0
        rest := by
  have half : count * 2 / 2 = count := by omega
  rw [splitFrom, if_neg marks.backslash_ne_quote.symm, if_pos rfl, half, if_neg (by omega)]
  rfl

/-- Outside quotes a blank ends an argument, after the backslashes before it. -/
theorem splitFrom_blank (outside : mode ≠ .quoted) (blank : marks.blank c = true) :
    splitFrom marks mode (some argument) slashes (c :: rest) =
      (argument ++ List.replicate slashes marks.backslash) ::
        splitFrom marks .plain none 0 rest := by
  rw [splitFrom, if_neg (Marks.backslash_of_blank blank), if_neg (Marks.quote_of_blank blank),
    if_pos ⟨blank, outside⟩]
  rfl

end Steps

/-! ### Encoded arguments -/

variable {α : Type} [DecidableEq α] (marks : Marks α)

/-- The end of a command line or a blank. -/
def AtBoundary (rest : List α) : Prop := ∀ c ∈ rest.head?, marks.blank c = true

/-- The scanner reads `argument` from `code` in front of any boundary. -/
def Encodes (code argument : List α) : Prop :=
  ∀ rest, AtBoundary marks rest →
    splitFrom marks .plain none 0 (code ++ rest) = splitFrom marks .plain (some argument) 0 rest

variable {marks} {argument rest : List α}

/-- At a boundary backslashes are literal, and a quote has closed. -/
theorem splitFrom_boundary {mode : Mode} (outside : mode ≠ .quoted) {slashes : Nat}
    (boundary : AtBoundary marks rest) :
    splitFrom marks mode (some argument) slashes rest =
      splitFrom marks .plain (some (argument ++ List.replicate slashes marks.backslash)) 0
        rest := by
  cases rest with
  | nil => simp [splitFrom]
  | cons c rest =>
      have blank : marks.blank c = true := boundary c rfl
      rw [splitFrom_blank outside blank, splitFrom_blank (by decide) blank, List.replicate_zero,
        List.append_nil]

/-- An argument of other characters is its own code. -/
theorem encodes_plain (nonempty : argument ≠ [])
    (plain : ∀ c ∈ argument, c ≠ marks.quote ∧ marks.blank c = false) :
    Encodes marks argument argument := by
  intro rest boundary
  -- After the first character the scanner is inside the argument.
  have inside : ∀ (tail before : List α) (slashes : Nat),
      (∀ c ∈ tail, c ≠ marks.quote ∧ marks.blank c = false) →
      splitFrom marks .plain (some before) slashes (tail ++ rest) =
        splitFrom marks .plain
          (some (before ++ List.replicate slashes marks.backslash ++ tail)) 0 rest := by
    intro tail
    induction tail with
    | nil =>
        intro before slashes _
        rw [List.nil_append, List.append_nil]
        exact splitFrom_boundary (by decide) boundary
    | cons c tail ih =>
        intro before slashes plain
        have later := fun d mem => plain d (List.mem_cons_of_mem _ mem)
        by_cases slash : c = marks.backslash
        · rw [slash, List.cons_append, splitFrom_backslash, Option.getD_some, Mode.settle,
            ih _ _ later, List.replicate_succ', List.append_assoc, List.append_assoc,
            List.append_assoc, List.singleton_append]
        · obtain ⟨unquote, solid⟩ := plain c List.mem_cons_self
          rw [List.cons_append, splitFrom_plain slash unquote (.inr solid), Mode.settle,
            ih _ _ later]
          simp
  have start : splitFrom marks .plain none 0 (argument ++ rest) =
      splitFrom marks .plain (some []) 0 (argument ++ rest) := by
    obtain ⟨c, tail, rfl⟩ := List.exists_cons_of_ne_nil nonempty
    by_cases slash : c = marks.backslash
    · rw [slash, List.cons_append, splitFrom_backslash, splitFrom_backslash]
      rfl
    · obtain ⟨unquote, solid⟩ := plain c List.mem_cons_self
      rw [List.cons_append, splitFrom_plain slash unquote (.inr solid),
        splitFrom_plain slash unquote (.inr solid)]
      rfl
  rw [start, inside argument [] 0 plain]
  rfl

/-- Encoded arguments that are joined by a blank are read back. -/
theorem splitArguments_intercalate {space : α} (blank : marks.blank space = true)
    {codes arguments : List (List α)} (encoded : List.Forall₂ (Encodes marks) codes arguments) :
    splitArguments marks ([space].intercalate codes) = arguments := by
  unfold splitArguments
  induction encoded with
  | nil => rfl
  | @cons code argument codes arguments first others ih =>
      cases others with
      | nil =>
          have last := first [] (by simp [AtBoundary])
          rw [List.append_nil] at last
          rw [List.intercalate_singleton, last]
          simp [splitFrom]
      | cons next more =>
          have boundary : ∀ later, AtBoundary marks (space :: later) := by
            rintro later c ⟨⟩
            exact blank
          rw [List.intercalate_cons_cons, List.append_assoc, List.singleton_append,
            first _ (boundary _), splitFrom_blank (by decide) blank, ih, List.replicate_zero,
            List.append_nil]

end LatencyTest.Lib.CommandLine
