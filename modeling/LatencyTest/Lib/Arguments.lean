import Mathlib

/-!
Command lines of options: flags that stand alone and options that take the next
argument as their value. Programs differ in what an option does with its value, not
in the loop. A line of known options is accepted exactly when each of its values is
(`parse_eq_ok_iff`, `accepts_iff`).
-/

namespace LatencyTest.Lib

/-- Why a command line is not read to its end: the usage text, or a refused argument. -/
inductive Stop where
  | help
  | invalid (message : List Char)
deriving DecidableEq, Repr

def helpFlag : List Char := "--help".toList

/-- The options of a program, as updates of its configuration. -/
structure Options (κ : Type) where
  flag : List Char → Option (κ → κ)
  read : List Char → List Char → Except (List Char) (κ → κ)

/-- A second step that never fails leaves the outcome to the first one. -/
theorem exists_bind_iff {ε α β : Type} {x : Except ε α} {f : α → Except ε β}
    (total : ∀ a, ∃ b, f a = .ok b) : (∃ b, (x >>= f) = .ok b) ↔ ∃ a, x = .ok a := by
  cases x with
  | error e =>
      constructor
      · rintro ⟨b, refused⟩
        cases refused
      · rintro ⟨a, refused⟩
        cases refused
  | ok a => exact ⟨fun _ => ⟨a, rfl⟩, fun _ => total a⟩

/-- A first step that succeeds is followed by the second one. -/
theorem bind_of_ok {ε α β : Type} {x : Except ε α} {a : α} (done : x = .ok a)
    (f : α → Except ε β) : (x >>= f) = f a := by
  rw [done]
  rfl

namespace Options

variable {κ : Type} (options : Options κ)

/-- The loop over the arguments. -/
def parse (config : κ) : List (List Char) → Except Stop κ
  | [] => .ok config
  | arg :: rest =>
      if arg = helpFlag then .error .help
      else
        match options.flag arg with
        | some change => parse (change config) rest
        | none =>
            match rest with
            | [] => .error (.invalid ("missing value for ".toList ++ arg))
            | value :: rest =>
                match options.read arg value with
                | .error message => .error (.invalid message)
                | .ok change => parse (change config) rest

/-- One option as it is written on a command line. -/
inductive Written where
  | valued (name value : List Char)
  | flag (name : List Char)
deriving DecidableEq, Repr

def Written.texts : Written → List (List Char)
  | .valued name value => [name, value]
  | .flag name => [name]

/-- The option after every argument has been transformed. -/
def Written.map (f : List Char → List Char) : Written → Written
  | .valued name value => .valued (f name) (f value)
  | .flag name => .flag (f name)

/-- Transforming the arguments is transforming the options. -/
theorem map_texts (f : List Char → List Char) (line : List Written) :
    (line.flatMap Written.texts).map f = (line.map (Written.map f)).flatMap Written.texts := by
  rw [List.map_flatMap, List.flatMap_map]
  refine List.flatMap_congr fun written _ => ?_
  cases written with
  | valued | flag => rfl

/-- Whether the program recognises an option in the form in which it is written. -/
def knows : Written → Bool
  | .valued name _ => name != helpFlag && (options.flag name).isNone
  | .flag name => name != helpFlag && (options.flag name).isSome

/-- What a written option does to the configuration, or why its value is refused. -/
def update : Written → Except (List Char) (κ → κ)
  | .valued name value => options.read name value
  | .flag name => .ok ((options.flag name).getD id)

/-- An option whose value is accepted. -/
def Accepts (written : Written) : Prop := ∃ change, options.update written = .ok change

/-- A known option is read before what follows it. -/
theorem parse_texts_append {written : Written} (known : options.knows written) (config : κ)
    (rest : List (List Char)) :
    options.parse config (written.texts ++ rest) =
      match options.update written with
      | .error message => .error (.invalid message)
      | .ok change => options.parse (change config) rest := by
  cases written with
  | valued name value =>
      obtain ⟨named, none⟩ := Bool.and_eq_true_iff.mp known
      have valued := Option.isNone_iff_eq_none.mp none
      simp only [Written.texts, update, List.cons_append, List.nil_append]
      rw [parse, if_neg (bne_iff_ne.mp named), valued]
  | flag name =>
      obtain ⟨named, flagged⟩ := Bool.and_eq_true_iff.mp known
      obtain ⟨change, found⟩ := Option.isSome_iff_exists.mp flagged
      simp only [Written.texts, update, List.cons_append, List.nil_append]
      rw [parse.eq_def]
      simp only [if_neg (bne_iff_ne.mp named), found, Option.getD_some]

/-- A line of known options is accepted when each option is; the updates are made in
order. -/
theorem parse_eq_ok_iff {line : List Written} (known : line.all options.knows)
    {config result : κ} :
    options.parse config (line.flatMap Written.texts) = .ok result ↔
      ∃ changes, List.Forall₂ (fun written change => options.update written = .ok change) line
        changes ∧ changes.foldl (fun config change => change config) config = result := by
  induction line generalizing config with
  | nil => simp [parse]
  | cons written line ih =>
      rw [List.all_cons, Bool.and_eq_true_iff] at known
      rw [List.flatMap_cons, options.parse_texts_append known.1]
      cases here : options.update written with
      | error message =>
          constructor
          · intro refused
            cases refused
          · rintro ⟨changes, each, -⟩
            obtain ⟨change, later, first, -, -⟩ := List.forall₂_cons_left_iff.mp each
            rw [here] at first
            cases first
      | ok change =>
          dsimp only
          rw [ih known.2]
          constructor
          · rintro ⟨changes, each, final⟩
            exact ⟨change :: changes, .cons here each, final⟩
          · rintro ⟨changes, each, final⟩
            obtain ⟨first, later, same, others, rfl⟩ := List.forall₂_cons_left_iff.mp each
            cases here.symm.trans same
            exact ⟨later, others, final⟩

/-- What follows an accepted line is read with the configuration that the line leaves. -/
theorem parse_append {line : List Written} (known : line.all options.knows) {config middle : κ}
    (parsed : options.parse config (line.flatMap Written.texts) = .ok middle)
    (rest : List (List Char)) :
    options.parse config (line.flatMap Written.texts ++ rest) = options.parse middle rest := by
  induction line generalizing config with
  | nil =>
      cases parsed
      rfl
  | cons written line ih =>
      rw [List.all_cons, Bool.and_eq_true_iff] at known
      rw [List.flatMap_cons, options.parse_texts_append known.1] at parsed
      rw [List.flatMap_cons, List.append_assoc, options.parse_texts_append known.1]
      cases here : options.update written with
      | error message =>
          rw [here] at parsed
          cases parsed
      | ok change =>
          rw [here] at parsed
          exact ih known.2 parsed

/-- The updates of accepted options exist together. -/
theorem exists_changes_iff {line : List Written} :
    (∃ changes, List.Forall₂ (fun written change => options.update written = .ok change) line
      changes) ↔ ∀ written ∈ line, options.Accepts written := by
  induction line with
  | nil => simp
  | cons written line ih =>
      rw [List.forall_mem_cons, ← ih]
      constructor
      · rintro ⟨changes, each⟩
        obtain ⟨change, later, here, rest, rfl⟩ := List.forall₂_cons_left_iff.mp each
        exact ⟨⟨change, here⟩, later, rest⟩
      · rintro ⟨⟨change, here⟩, later, rest⟩
        exact ⟨change :: later, .cons here rest⟩

/-- A line of known options is accepted exactly when each of its options is. -/
theorem accepts_iff {line : List Written} (known : line.all options.knows)
    (config : κ) :
    (∃ result, options.parse config (line.flatMap Written.texts) = .ok result) ↔
      ∀ written ∈ line, options.Accepts written := by
  rw [← options.exists_changes_iff]
  constructor
  · rintro ⟨result, parsed⟩
    obtain ⟨changes, each, -⟩ := (options.parse_eq_ok_iff known).mp parsed
    exact ⟨changes, each⟩
  · rintro ⟨changes, each⟩
    exact ⟨_, (options.parse_eq_ok_iff known).mpr ⟨changes, each, rfl⟩⟩

end Options

end LatencyTest.Lib
