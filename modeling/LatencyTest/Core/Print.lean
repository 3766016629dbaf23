import LatencyTest.Core.Grammar

/-!
`TaskPattern::toString` (`src/core.cpp`), and the round trip with `parseTask`. The
text printed for a written task is the text of another one, `TaskText.canonical`,
with the numbers printed afresh and the period in the unit that `toString` chooses;
it is well formed and denotes the same pattern.
-/

namespace LatencyTest

open Lib (digits Numeral)

/-- `std::to_string` of a signed number. -/
def signedDigits (n : Int) : Text :=
  if n < 0 then '-' :: digits n.natAbs else digits n.natAbs

def PatternItem.toString (item : PatternItem) : Text := item.kind.code :: digits item.quantity

/-- The loop over the items: a semicolon in front of every item but the first. -/
def itemsString : List PatternItem → Text
  | [] => []
  | item :: items => item.toString ++ items.flatMap fun item => ';' :: item.toString

/-- The task text of a pattern. The period is omitted when it is one second, and is in
seconds when they are whole. -/
def TaskPattern.toString (pattern : TaskPattern) : Text :=
  let period :=
    if pattern.publishPeriod ≠ 1000 then
      '@' ::
        if pattern.publishPeriod.tmod 1000 = 0 then
          signedDigits (pattern.publishPeriod.tdiv 1000) ++ ['s']
        else signedDigits pattern.publishPeriod ++ ['m', 's']
    else []
  let regional :=
    if pattern.regionalSourceCount ≠ 0 then '&' :: digits pattern.regionalSourceCount else []
  taskPrefix ++ itemsString pattern.items ++ period ++
    part '#' (pattern.subscribedSymbolCount.map digits) ++ regional ++
    part '~' (pattern.shuffleSeed.map fun seed => digits seed.toNat)

example :
    TaskPattern.toString
      { items := [⟨.quote, 375⟩, ⟨.trade, 37⟩], publishPeriod := 10
        subscribedSymbolCount := some 375, regionalSourceCount := 2, shuffleSeed := some 22805 } =
      "SUB:Q375;T37@10ms#375&2~22805".toList := by
  decide

/-! ### The printed task -/

/-- The duration that `toString` prints, none for one second. -/
def canonicalPeriod (milliseconds : Nat) : Option DurationText :=
  if milliseconds = 1000 then none
  else if milliseconds % 1000 = 0 then some ⟨.print (milliseconds / 1000), .seconds⟩
  else some ⟨.print milliseconds, .milliseconds⟩

def Lib.Numeral.canonical (n : Numeral) : Numeral := .print n.value

@[simp] theorem Lib.Numeral.value_canonical (n : Numeral) : n.canonical.value = n.value :=
  Numeral.value_print n.value

def ItemText.canonical (i : ItemText) : ItemText := ⟨i.kind, i.number.canonical⟩

/-- The task that `toString` prints for the pattern of a task. -/
def TaskText.canonical (t : TaskText) : TaskText where
  first := t.first.canonical
  more := t.more.map ItemText.canonical
  period := t.period.bind fun d => canonicalPeriod d.milliseconds
  symbols := t.symbols.map Numeral.canonical
  regional := t.regional.map Numeral.canonical
  seed := t.seed.map Numeral.canonical

theorem canonicalPeriod_milliseconds {milliseconds : Nat} {d : DurationText}
    (printed : canonicalPeriod milliseconds = some d) : d.milliseconds = milliseconds := by
  unfold canonicalPeriod at printed
  split_ifs at printed with second whole
  · cases printed
    rw [DurationText.milliseconds, Numeral.value_print]
    exact Nat.div_mul_cancel (Nat.dvd_of_mod_eq_zero whole)
  · cases printed
    rw [DurationText.milliseconds, Numeral.value_print]
    exact Nat.mul_one milliseconds

theorem canonicalPeriod_eq_none {milliseconds : Nat} :
    canonicalPeriod milliseconds = none ↔ milliseconds = 1000 := by
  unfold canonicalPeriod
  split_ifs with second whole <;> simp [second]

@[simp] theorem ItemText.item_canonical (i : ItemText) : i.canonical.item = i.item := by
  simp [ItemText.item, ItemText.canonical, Numeral.canonical]

namespace TaskText

variable (t : TaskText)

@[simp] theorem items_canonical : t.canonical.items = t.items := by
  simp [items, canonical]

@[simp] theorem symbolCount_canonical : t.canonical.symbolCount = t.symbolCount := by
  unfold symbolCount largestQuantity
  rw [items_canonical]
  cases here : t.symbols with
  | none => simp [canonical, here]
  | some n => simp [canonical, here, Numeral.canonical]

/-- The printed task denotes the same pattern. -/
theorem pattern_canonical : t.canonical.pattern = t.pattern := by
  unfold pattern
  rw [TaskPattern.mk.injEq]
  refine ⟨t.items_canonical, ?_, ?_, ?_, ?_⟩
  · unfold canonical
    cases t.period with
    | none => rfl
    | some d =>
        dsimp only [Option.bind_some, Option.elim_some]
        cases printed : canonicalPeriod d.milliseconds with
        | none =>
            rw [canonicalPeriod_eq_none.mp printed]
            rfl
        | some shown => rw [Option.elim_some, canonicalPeriod_milliseconds printed]
  · unfold canonical
    cases t.symbols with
    | none => rfl
    | some n => exact congrArg some n.value_canonical
  · unfold canonical
    cases t.regional with
    | none => rfl
    | some r => exact r.value_canonical
  · unfold canonical
    cases t.seed with
    | none => rfl
    | some s => exact congrArg (fun value => some (UInt64.ofNat value)) s.value_canonical

/-- Printing keeps what makes a task well formed, since this is about its numbers only. -/
theorem WellFormed.canonical {t : TaskText} (valid : t.WellFormed) : t.canonical.WellFormed := by
  obtain ⟨items, period, symbols, regional, seed⟩ := valid
  constructor
  · rw [t.items_canonical]
    exact items
  · intro d mem
    obtain ⟨written, here, printed⟩ := Option.bind_eq_some_iff.mp mem
    rw [canonicalPeriod_milliseconds printed]
    exact period written here
  · intro n mem
    obtain ⟨written, here, rfl⟩ := Option.map_eq_some_iff.mp mem
    rw [Numeral.value_canonical, largestQuantity, t.items_canonical]
    exact symbols written here
  · intro r mem
    obtain ⟨written, here, rfl⟩ := Option.map_eq_some_iff.mp mem
    rw [Numeral.value_canonical, t.symbolCount_canonical]
    exact regional written here
  · intro s mem
    obtain ⟨written, here, rfl⟩ := Option.map_eq_some_iff.mp mem
    rw [Numeral.value_canonical]
    exact seed written here

end TaskText

/-! ### The printed text -/

theorem signedDigits_natCast (n : Nat) : signedDigits n = digits n := by
  rw [signedDigits, if_neg (by omega), Int.natAbs_natCast]

theorem itemsString_canonical (first : ItemText) (more : List ItemText) :
    itemsString ((first :: more).map ItemText.item) =
      itemsText first.canonical (more.map ItemText.canonical) := by
  have one : ∀ i : ItemText, i.item.toString = i.canonical.text := fun _ => rfl
  rw [List.map_cons, itemsString, itemsText, List.flatMap_map, List.flatMap_map, one]
  simp only [one]

/-- The period that is printed for a pattern. -/
theorem part_canonicalPeriod (milliseconds : Nat) :
    part '@' ((canonicalPeriod milliseconds).map DurationText.text) =
      if (milliseconds : Int) ≠ 1000 then
        '@' ::
          if (milliseconds : Int).tmod 1000 = 0 then
            signedDigits ((milliseconds : Int).tdiv 1000) ++ ['s']
          else signedDigits milliseconds ++ ['m', 's']
      else [] := by
  have remainder : (milliseconds : Int).tmod 1000 = ((milliseconds % 1000 : Nat) : Int) := rfl
  have quotient : (milliseconds : Int).tdiv 1000 = ((milliseconds / 1000 : Nat) : Int) := rfl
  rw [remainder, quotient, signedDigits_natCast, signedDigits_natCast]
  unfold canonicalPeriod
  by_cases second : milliseconds = 1000
  · rw [if_pos second, if_neg (by simp [second])]
    rfl
  · have other : (milliseconds : Int) ≠ 1000 := by omega
    rw [if_neg second, if_pos other]
    by_cases whole : milliseconds % 1000 = 0
    · have noRest : ((milliseconds % 1000 : Nat) : Int) = 0 := congrArg Nat.cast whole
      rw [if_pos whole, if_pos noRest]
      rfl
    · have rest : ((milliseconds % 1000 : Nat) : Int) ≠ 0 := by omega
      rw [if_neg whole, if_neg rest]
      rfl

/-- `toString` prints the canonical task. -/
theorem TaskText.toString_pattern {t : TaskText} (valid : t.WellFormed) :
    t.pattern.toString = t.canonical.text := by
  obtain ⟨-, -, -, regionalValid, seedValid⟩ := valid
  have period : (if t.pattern.publishPeriod ≠ 1000 then
      '@' ::
        if t.pattern.publishPeriod.tmod 1000 = 0 then
          signedDigits (t.pattern.publishPeriod.tdiv 1000) ++ ['s']
        else signedDigits t.pattern.publishPeriod ++ ['m', 's']
      else []) = part '@' (t.canonical.period.map DurationText.text) := by
    unfold canonical pattern
    cases t.period with
    | none => rfl
    | some d => exact (part_canonicalPeriod d.milliseconds).symm
  have symbols : t.pattern.subscribedSymbolCount.map digits =
      t.canonical.symbols.map Numeral.digits := by
    unfold canonical pattern
    rw [Option.map_map, Option.map_map]
    rfl
  have regional : (if t.pattern.regionalSourceCount ≠ 0 then
      '&' :: digits t.pattern.regionalSourceCount else []) =
        part '&' (t.canonical.regional.map Numeral.digits) := by
    unfold canonical pattern
    cases here : t.regional with
    | none => rfl
    | some r =>
        have positive : r.value ≠ 0 := Nat.one_le_iff_ne_zero.mp (regionalValid r here).1
        exact if_pos positive
  have seed : t.pattern.shuffleSeed.map (fun seed => digits seed.toNat) =
      t.canonical.seed.map Numeral.digits := by
    unfold canonical pattern
    cases here : t.seed with
    | none => rfl
    | some s =>
        have same : (UInt64.ofNat s.value).toNat = s.value :=
          UInt64.toNat_ofNat_of_lt (seedValid s here)
        exact congrArg (fun value => some (digits value)) same
  have items : t.pattern.items = (t.first :: t.more).map ItemText.item := rfl
  unfold TaskPattern.toString
  dsimp only
  rw [period, symbols, regional, seed, items, itemsString_canonical, List.append_assoc,
    List.append_assoc, List.append_assoc, List.append_assoc]
  rfl

/-- A parsed pattern is printed as a text that is parsed to it. -/
theorem parseTask_toString {text : Text} {pattern : TaskPattern}
    (parsed : parseTask text = .ok pattern) : parseTask pattern.toString = .ok pattern := by
  obtain ⟨t, valid, -, rfl⟩ := parseTask_sound parsed
  rw [TaskText.toString_pattern valid, parseTask_complete valid.canonical, t.pattern_canonical]

/-- The text that an accepted text is printed as after parsing. -/
def canonicalTask (text : Text) : Except ParseError Text :=
  (parseTask text).map TaskPattern.toString

/-- The round trip of the task language. A parsed pattern is parsed again from the text
it is printed as. So `toString` is injective on the parsed patterns, and printing after
parsing replaces a text by another one for the same pattern, and the new text by itself. -/
theorem task_round_trip :
    (∀ text pattern, parseTask text = .ok pattern → parseTask pattern.toString = .ok pattern) ∧
    Set.InjOn TaskPattern.toString {pattern | ∃ text, parseTask text = .ok pattern} ∧
    ∀ text, (canonicalTask text >>= parseTask) = parseTask text ∧
      (canonicalTask text >>= canonicalTask) = canonicalTask text := by
  refine ⟨fun text pattern => parseTask_toString, ?_, ?_⟩
  · rintro pattern ⟨text, parsed⟩ other ⟨otherText, otherParsed⟩ same
    have again := parseTask_toString parsed
    rw [same, parseTask_toString otherParsed] at again
    exact (Except.ok.inj again).symm
  · intro text
    unfold canonicalTask
    cases parsed : parseTask text with
    | error error => exact ⟨rfl, rfl⟩
    | ok pattern =>
        have again := parseTask_toString parsed
        constructor
        · exact again
        · change (parseTask pattern.toString).map TaskPattern.toString = _
          rw [again]

end LatencyTest
