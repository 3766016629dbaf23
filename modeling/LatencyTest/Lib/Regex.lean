import Mathlib

/-!
Regular expressions with the backtracking semantics of ECMAScript: an expression is run
with a continuation and tries its alternatives in order until the continuation succeeds, a
greedy repetition the longest one first. Repetitions are of a class of characters, so that
running an expression is structurally recursive.

What an expression matches at all, whatever is tried first, is the relation `Matches`.
Running an expression finds only what it matches (`matches_of_run`), and finds something
where the continuation succeeds after a match (`run_of_matches`); where there is one match
only, that is what is found (`fullMatch_unique`).
-/

namespace LatencyTest.Lib

/-- A regular expression over characters `α`. A repetition has a class, the least number of
characters, the greatest one if there is one, and whether it is greedy. -/
inductive Regex (α : Type) where
  | empty
  | one (accepts : α → Bool)
  | repeated (accepts : α → Bool) (least : Nat) (most : Option Nat) (greedy : Bool)
  | seq (first second : Regex α)
  | choice (first second : Regex α)
  | optional (body : Regex α)
  | group (index : Nat) (body : Regex α)
  | start
  | finish

namespace Regex

variable {α β : Type}

/-- A position in a text: the characters before it, the last one first, those after it, and
what the groups have captured. -/
structure State (α : Type) where
  before : List α
  rest : List α
  groups : List (Nat × List α) := []

namespace State

def begin (text : List α) : State α := { before := [], rest := text }

/-- The position some characters later. -/
def advance (s : State α) (count : Nat) : State α :=
  { s with before := (s.rest.take count).reverse ++ s.before, rest := s.rest.drop count }

/-- Captures the characters since an earlier position. -/
def capture (s : State α) (index : Nat) (since : State α) : State α :=
  { s with groups := (index, since.rest.take (since.rest.length - s.rest.length)) :: s.groups }

/-- The characters of a group, none if it took no part in the match. -/
def captured (s : State α) (index : Nat) : List α := (s.groups.lookup index).getD []

@[simp] theorem advance_zero (s : State α) : s.advance 0 = s := rfl

@[simp] theorem advance_rest (s : State α) (count : Nat) :
    (s.advance count).rest = s.rest.drop count := rfl

@[simp] theorem advance_groups (s : State α) (count : Nat) :
    (s.advance count).groups = s.groups := rfl

@[simp] theorem capture_rest (s since : State α) (index : Nat) :
    (s.capture index since).rest = s.rest := rfl

end State

/-- The lengths of a repetition in the order in which they are tried. -/
def counts (greedy : Bool) (least most : Nat) : List Nat :=
  let up := List.range' least (most + 1 - least)
  if greedy then up.reverse else up

/-- How many characters a repetition can take at most. -/
def available (accepts : α → Bool) (most : Option Nat) (text : List α) : Nat :=
  let run := (text.takeWhile accepts).length
  match most with
  | none => run
  | some most => min run most

/-- Runs an expression with a continuation: the first result of the continuation, in the
order of the alternatives. -/
def run : Regex α → (State α → Option β) → State α → Option β
  | .empty, next, s => next s
  | .one accepts, next, s => if s.rest.head?.any accepts then next (s.advance 1) else none
  | .repeated accepts least most greedy, next, s =>
      (counts greedy least (available accepts most s.rest)).findSome? fun count =>
        next (s.advance count)
  | .seq first second, next, s => first.run (second.run next) s
  | .choice first second, next, s => (first.run next s).or (second.run next s)
  | .optional body, next, s =>
      -- a repetition that consumes nothing does not count
      (body.run (fun t => if t.rest.length = s.rest.length then none else next t) s).or (next s)
  | .group index body, next, s => body.run (fun t => next (t.capture index s)) s
  | .start, next, s => if s.before.isEmpty then next s else none
  | .finish, next, s => if s.rest.isEmpty then next s else none

/-- The first match of the whole text. -/
def fullMatch (r : Regex α) (text : List α) : Option (State α) :=
  r.run (fun s => if s.rest.isEmpty then some s else none) (.begin text)

/-- The first match that starts at the first possible position. -/
def search (r : Regex α) (text : List α) : Option (State α) :=
  (List.range (text.length + 1)).findSome? fun position =>
    r.run some ((State.begin text).advance position)

/-! ### Derived expressions -/

def sequence (parts : List (Regex α)) : Regex α := parts.foldr seq empty

def literal [DecidableEq α] (text : List α) : Regex α :=
  sequence (text.map fun c => one fun d => decide (d = c))

/-- A greedy repetition of at least one character. -/
def oneOrMore (accepts : α → Bool) : Regex α := repeated accepts 1 none true

/-- A greedy repetition of any number of characters. -/
def many (accepts : α → Bool) : Regex α := repeated accepts 0 none true

/-- A repetition of exactly so many characters. -/
def times (count : Nat) (accepts : α → Bool) : Regex α :=
  repeated accepts count (some count) true

/-! ### Matches -/

/-- What an expression can match from a position on. -/
def Matches : Regex α → State α → State α → Prop
  | .empty, s, t => t = s
  | .one accepts, s, t => s.rest.head?.any accepts = true ∧ t = s.advance 1
  | .repeated accepts least most _, s, t =>
      ∃ count, least ≤ count ∧ count ≤ available accepts most s.rest ∧ t = s.advance count
  | .seq first second, s, t => ∃ u, first.Matches s u ∧ second.Matches u t
  | .choice first second, s, t => first.Matches s t ∨ second.Matches s t
  | .optional body, s, t => (body.Matches s t ∧ t.rest.length ≠ s.rest.length) ∨ t = s
  | .group index body, s, t => ∃ u, body.Matches s u ∧ t = u.capture index s
  | .start, s, t => s.before.isEmpty = true ∧ t = s
  | .finish, s, t => s.rest.isEmpty = true ∧ t = s

theorem mem_counts {greedy : Bool} {least most count : Nat} :
    count ∈ counts greedy least most ↔ least ≤ count ∧ count ≤ most := by
  cases greedy <;> simp only [counts, if_true, Bool.false_eq_true, if_false, List.mem_reverse,
    List.mem_range'_1] <;> omega

/-- What is found is a match after which the continuation succeeds. -/
theorem matches_of_run {r : Regex α} {next : State α → Option β} {s : State α} {result : β}
    (found : r.run next s = some result) : ∃ t, r.Matches s t ∧ next t = some result := by
  induction r generalizing next s with
  | empty => exact ⟨s, rfl, found⟩
  | one accepts =>
      simp only [run, Option.ite_none_right_eq_some] at found
      exact ⟨_, ⟨found.1, rfl⟩, found.2⟩
  | repeated accepts least most greedy =>
      obtain ⟨count, mem, succeeds⟩ := List.exists_of_findSome?_eq_some found
      obtain ⟨enough, within⟩ := mem_counts.mp mem
      exact ⟨_, ⟨count, enough, within, rfl⟩, succeeds⟩
  | seq first second ihFirst ihSecond =>
      obtain ⟨u, matched, rest⟩ := ihFirst found
      obtain ⟨t, matched', succeeds⟩ := ihSecond rest
      exact ⟨t, ⟨u, matched, matched'⟩, succeeds⟩
  | choice first second ihFirst ihSecond =>
      rcases Option.or_eq_some_iff.mp found with here | ⟨-, there⟩
      · obtain ⟨t, matched, succeeds⟩ := ihFirst here
        exact ⟨t, .inl matched, succeeds⟩
      · obtain ⟨t, matched, succeeds⟩ := ihSecond there
        exact ⟨t, .inr matched, succeeds⟩
  | optional body ih =>
      rcases Option.or_eq_some_iff.mp found with here | ⟨-, skipped⟩
      · obtain ⟨t, matched, succeeds⟩ := ih here
        rw [Option.ite_none_left_eq_some] at succeeds
        exact ⟨t, .inl ⟨matched, succeeds.1⟩, succeeds.2⟩
      · exact ⟨s, .inr rfl, skipped⟩
  | group index body ih =>
      obtain ⟨u, matched, succeeds⟩ := ih found
      exact ⟨_, ⟨u, matched, rfl⟩, succeeds⟩
  | start =>
      simp only [run, Option.ite_none_right_eq_some] at found
      exact ⟨s, ⟨found.1, rfl⟩, found.2⟩
  | finish =>
      simp only [run, Option.ite_none_right_eq_some] at found
      exact ⟨s, ⟨found.1, rfl⟩, found.2⟩

/-- Where the continuation succeeds after some match, something is found. -/
theorem run_of_matches {r : Regex α} {next : State α → Option β} {s t : State α}
    (matched : r.Matches s t) (succeeds : (next t).isSome = true) :
    (r.run next s).isSome = true := by
  induction r generalizing next s t with
  | empty =>
      cases matched
      exact succeeds
  | one accepts =>
      obtain ⟨accepted, rfl⟩ := matched
      rwa [run, if_pos accepted]
  | repeated accepts least most greedy =>
      obtain ⟨count, enough, within, rfl⟩ := matched
      exact List.findSome?_isSome_iff.mpr ⟨count, mem_counts.mpr ⟨enough, within⟩, succeeds⟩
  | seq first second ihFirst ihSecond =>
      obtain ⟨u, matched, matched'⟩ := matched
      exact ihFirst matched (ihSecond matched' succeeds)
  | choice first second ihFirst ihSecond =>
      rw [run, Option.isSome_or, Bool.or_eq_true]
      exact matched.imp (ihFirst · succeeds) (ihSecond · succeeds)
  | optional body ih =>
      rw [run, Option.isSome_or, Bool.or_eq_true]
      rcases matched with ⟨matched, consumed⟩ | rfl
      · exact .inl (ih matched (by rwa [if_neg consumed]))
      · exact .inr succeeds
  | group index body ih =>
      obtain ⟨u, matched, rfl⟩ := matched
      exact ih matched succeeds
  | start =>
      obtain ⟨atStart, rfl⟩ := matched
      rwa [run, if_pos atStart]
  | finish =>
      obtain ⟨atEnd, rfl⟩ := matched
      rwa [run, if_pos atEnd]

/-- What `search` finds is a match from some position on. -/
theorem matches_of_search {r : Regex α} {text : List α} {t : State α}
    (found : r.search text = some t) :
    ∃ position, r.Matches ((State.begin text).advance position) t := by
  obtain ⟨position, -, here⟩ := List.exists_of_findSome?_eq_some found
  obtain ⟨u, matched, same⟩ := matches_of_run here
  cases same
  exact ⟨position, matched⟩

theorem matches_of_fullMatch {r : Regex α} {text : List α} {t : State α}
    (found : r.fullMatch text = some t) : r.Matches (.begin text) t ∧ t.rest = [] := by
  obtain ⟨u, matched, accepted⟩ := matches_of_run found
  rw [Option.ite_none_right_eq_some, List.isEmpty_iff] at accepted
  obtain ⟨whole, same⟩ := accepted
  cases same
  exact ⟨matched, whole⟩

/-- The only match of the whole text is found. -/
theorem fullMatch_unique {r : Regex α} {text : List α} {t : State α}
    (matched : r.Matches (.begin text) t) (whole : t.rest = [])
    (only : ∀ u, r.Matches (.begin text) u → u.rest = [] → u = t) :
    r.fullMatch text = some t := by
  have succeeds : (r.fullMatch text).isSome = true :=
    run_of_matches matched (by rw [whole]; rfl)
  obtain ⟨u, found⟩ := Option.isSome_iff_exists.mp succeeds
  obtain ⟨matched', whole'⟩ := matches_of_fullMatch found
  rw [found, only u matched' whole']

/-! ### Matches as words -/

theorem le_available {accepts : α → Bool} {most : Option Nat} {text : List α} {count : Nat} :
    count ≤ available accepts most text ↔
      count ≤ (text.takeWhile accepts).length ∧ ∀ bound ∈ most, count ≤ bound := by
  cases most <;> simp [available]

/-- The position after a word. -/
theorem advance_word {s : State α} {word rest : List α} (split : s.rest = word ++ rest) :
    s.advance word.length =
      { before := word.reverse ++ s.before, rest := rest, groups := s.groups } := by
  rw [State.advance, split, List.take_left, List.drop_left]

/-- The text captured over a word. -/
theorem capture_word {s : State α} {word rest : List α} (index : Nat)
    (split : s.rest = word ++ rest) :
    State.capture { before := word.reverse ++ s.before, rest := rest, groups := s.groups }
        index s =
      { before := word.reverse ++ s.before, rest := rest
        groups := (index, word) :: s.groups } := by
  have length : s.rest.length - rest.length = word.length := by
    rw [split, List.length_append, Nat.add_sub_cancel]
  simp only [State.capture, length]
  rw [split, List.take_left]

/-- A repetition takes a word of its class. -/
theorem matches_repeated {accepts : α → Bool} {least : Nat} {most : Option Nat} {greedy : Bool}
    {s t : State α} :
    (repeated accepts least most greedy).Matches s t ↔
      ∃ word rest, s.rest = word ++ rest ∧ least ≤ word.length ∧
        (∀ bound ∈ most, word.length ≤ bound) ∧ (∀ c ∈ word, accepts c = true) ∧
        t = { before := word.reverse ++ s.before, rest := rest, groups := s.groups } := by
  constructor
  · rintro ⟨count, enough, within, rfl⟩
    obtain ⟨inRun, bounded⟩ := le_available.mp within
    have isPrefix : s.rest.take count = (s.rest.takeWhile accepts).take count := by
      rw [List.prefix_iff_eq_take.mp (List.takeWhile_prefix accepts), List.take_take,
        Nat.min_eq_left inRun]
    have length : (s.rest.take count).length = count := by
      rw [isPrefix, List.length_take, Nat.min_eq_left inRun]
    refine ⟨s.rest.take count, s.rest.drop count, (List.take_append_drop count s.rest).symm, ?_⟩
    rw [length]
    refine ⟨enough, bounded, ?_, rfl⟩
    intro c mem
    rw [isPrefix] at mem
    exact List.mem_takeWhile_imp (List.mem_of_mem_take mem)
  · rintro ⟨word, rest, split, enough, bounded, all, rfl⟩
    refine ⟨word.length, enough, le_available.mpr ⟨?_, bounded⟩, (advance_word split).symm⟩
    rw [split, List.takeWhile_append_of_pos all, List.length_append]
    exact Nat.le_add_right _ _

theorem matches_one {accepts : α → Bool} {s t : State α} :
    (one accepts).Matches s t ↔
      ∃ c rest, s.rest = c :: rest ∧ accepts c = true ∧
        t = { before := c :: s.before, rest := rest, groups := s.groups } := by
  cases split : s.rest with
  | nil => simp [Matches, split]
  | cons c rest =>
      have step : s.advance 1 = { before := c :: s.before, rest := rest, groups := s.groups } :=
        @advance_word _ s [c] rest split
      simp [Matches, split, step]

/-- A literal takes its characters. -/
theorem matches_literal [DecidableEq α] {text : List α} {s t : State α} :
    (literal text).Matches s t ↔
      ∃ rest, s.rest = text ++ rest ∧
        t = { before := text.reverse ++ s.before, rest := rest, groups := s.groups } := by
  induction text generalizing s with
  | nil =>
      constructor
      · intro matched
        exact ⟨s.rest, rfl, matched⟩
      · rintro ⟨rest, rfl, rfl⟩
        rfl
  | cons c text ih =>
      constructor
      · rintro ⟨u, first, others⟩
        obtain ⟨d, rest, split, same, rfl⟩ := matches_one.mp first
        obtain ⟨tail, rfl, rfl⟩ := ih.mp others
        rw [of_decide_eq_true same] at split ⊢
        exact ⟨tail, split, by simp⟩
      · rintro ⟨rest, split, rfl⟩
        exact ⟨_, matches_one.mpr ⟨c, _, split, decide_eq_true rfl, rfl⟩,
          ih.mpr ⟨rest, rfl, by simp⟩⟩

/-- A repetition of a number of characters takes a word of that length. -/
theorem matches_times {count : Nat} {accepts : α → Bool} {s t : State α} :
    (times count accepts).Matches s t ↔
      ∃ word rest, s.rest = word ++ rest ∧ word.length = count ∧
        (∀ c ∈ word, accepts c = true) ∧
        t = { before := word.reverse ++ s.before, rest := rest, groups := s.groups } := by
  constructor
  · intro matched
    obtain ⟨word, rest, split, enough, bounded, all, rfl⟩ := matches_repeated.mp matched
    exact ⟨word, rest, split, le_antisymm (bounded count rfl) enough, all, rfl⟩
  · rintro ⟨word, rest, split, rfl, all, rfl⟩
    refine matches_repeated.mpr ⟨word, rest, split, le_rfl, ?_, all, rfl⟩
    rintro bound ⟨⟩
    exact le_rfl

/-! ### Groups -/

/-- The groups of an expression. -/
def indices : Regex α → List Nat
  | .seq first second => first.indices ++ second.indices
  | .choice first second => first.indices ++ second.indices
  | .optional body => body.indices
  | .group index body => index :: body.indices
  | _ => []

/-- An expression captures its own groups only. -/
theorem captured_of_notMem {r : Regex α} {s t : State α} (matched : r.Matches s t) {index : Nat}
    (other : index ∉ r.indices) : t.captured index = s.captured index := by
  induction r generalizing s t with
  | empty =>
      cases matched
      rfl
  | one accepts =>
      obtain ⟨-, rfl⟩ := matched
      rfl
  | repeated accepts least most greedy =>
      obtain ⟨count, -, -, rfl⟩ := matched
      rfl
  | seq first second ihFirst ihSecond =>
      obtain ⟨u, matched, matched'⟩ := matched
      obtain ⟨notFirst, notSecond⟩ := not_or.mp (List.mem_append.not.mp other)
      exact (ihSecond matched' notSecond).trans (ihFirst matched notFirst)
  | choice first second ihFirst ihSecond =>
      obtain ⟨notFirst, notSecond⟩ := not_or.mp (List.mem_append.not.mp other)
      exact matched.elim (ihFirst · notFirst) (ihSecond · notSecond)
  | optional body ih =>
      rcases matched with ⟨matched, -⟩ | rfl
      · exact ih matched other
      · rfl
  | group captures body ih =>
      obtain ⟨u, matched, rfl⟩ := matched
      obtain ⟨differs, notBody⟩ := not_or.mp (List.mem_cons.not.mp other)
      rw [← ih matched notBody]
      simp only [State.captured, State.capture, List.lookup_cons, beq_false_of_ne differs]
  | start =>
      obtain ⟨-, rfl⟩ := matched
      rfl
  | finish =>
      obtain ⟨-, rfl⟩ := matched
      rfl

/-- A match takes a word. -/
theorem exists_word {r : Regex α} {s t : State α} (matched : r.Matches s t) :
    ∃ word, s.rest = word ++ t.rest := by
  induction r generalizing s t with
  | empty =>
      cases matched
      exact ⟨[], rfl⟩
  | one accepts =>
      obtain ⟨-, rfl⟩ := matched
      exact ⟨s.rest.take 1, (List.take_append_drop 1 s.rest).symm⟩
  | repeated accepts least most greedy =>
      obtain ⟨count, -, -, rfl⟩ := matched
      exact ⟨s.rest.take count, (List.take_append_drop count s.rest).symm⟩
  | seq first second ihFirst ihSecond =>
      obtain ⟨u, matched, matched'⟩ := matched
      obtain ⟨word, split⟩ := ihFirst matched
      obtain ⟨word', split'⟩ := ihSecond matched'
      exact ⟨word ++ word', by rw [split, split', List.append_assoc]⟩
  | choice first second ihFirst ihSecond => exact matched.elim (ihFirst ·) (ihSecond ·)
  | optional body ih =>
      rcases matched with ⟨matched, -⟩ | rfl
      · exact ih matched
      · exact ⟨[], rfl⟩
  | group index body ih =>
      obtain ⟨u, matched, rfl⟩ := matched
      exact (ih matched :)
  | start =>
      obtain ⟨-, rfl⟩ := matched
      exact ⟨[], rfl⟩
  | finish =>
      obtain ⟨-, rfl⟩ := matched
      exact ⟨[], rfl⟩

/-- A group captures the word that its body takes. -/
theorem captured_group {index : Nat} {body : Regex α} {s t : State α}
    (matched : (group index body).Matches s t) :
    ∃ u, body.Matches s u ∧ s.rest = t.captured index ++ u.rest := by
  obtain ⟨u, matched, rfl⟩ := matched
  obtain ⟨word, split⟩ := exists_word matched
  refine ⟨u, matched, ?_⟩
  have captured : (u.capture index s).captured index = word := by
    simp [State.captured, State.capture, split]
  rw [captured, split]

/-- A group of a class captures a word of the class. -/
theorem matches_group_oneOrMore {accepts : α → Bool} {index : Nat} {s t : State α} :
    (group index (oneOrMore accepts)).Matches s t ↔
      ∃ word rest, s.rest = word ++ rest ∧ word ≠ [] ∧ (∀ c ∈ word, accepts c = true) ∧
        t = { before := word.reverse ++ s.before, rest := rest
              groups := (index, word) :: s.groups } := by
  constructor
  · rintro ⟨_, matched, rfl⟩
    obtain ⟨word, rest, split, enough, -, all, rfl⟩ := matches_repeated.mp matched
    exact ⟨word, rest, split, List.length_pos_iff.mp enough, all, capture_word index split⟩
  · rintro ⟨word, rest, split, nonempty, all, rfl⟩
    refine ⟨_, matches_repeated.mpr ⟨word, rest, split, List.length_pos_iff.mpr nonempty, ?_, all,
      rfl⟩, (capture_word index split).symm⟩
    rintro bound ⟨⟩

end Regex

end LatencyTest.Lib
