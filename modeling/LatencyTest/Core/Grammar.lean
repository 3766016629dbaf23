import LatencyTest.Core.Stages

/-!
The grammar of task texts. `TaskText` is a task as it can be written, `text` writes
it down and `pattern` is what it denotes; the conditions the grammar cannot express
are `WellFormed`. `parseTask` accepts exactly the well-formed texts and returns what
they denote, and every error lies inside the text (`parseTask_grammar`).
-/

namespace LatencyTest

open Lib (Numeral)

/-! ### Tasks -/

/-- A task as it can be written. The optional parts follow the items in this order. -/
structure TaskText where
  first : ItemText
  more : List ItemText
  period : Option DurationText
  symbols : Option Numeral
  regional : Option Numeral
  seed : Option Numeral

namespace TaskText

def parts (t : TaskText) : Parts where
  pattern := itemsText t.first t.more
  period := t.period.map DurationText.text
  symbol := t.symbols.map Numeral.digits
  regional := t.regional.map Numeral.digits
  shuffle := t.seed.map Numeral.digits

def text (t : TaskText) : Text := t.parts.text

def items (t : TaskText) : List PatternItem := (t.first :: t.more).map ItemText.item

/-- The pattern that a task denotes. Without a period it is published each second. -/
def pattern (t : TaskText) : TaskPattern where
  items := t.items
  publishPeriod := t.period.elim 1000 fun d => d.milliseconds
  subscribedSymbolCount := t.symbols.map Numeral.value
  regionalSourceCount := t.regional.elim 0 Numeral.value
  shuffleSeed := t.seed.map fun s => UInt64.ofNat s.value

def largestQuantity (t : TaskText) : Nat := (t.items.map PatternItem.quantity).foldl max 0

/-- The symbol count, or else the largest quantity. -/
def symbolCount (t : TaskText) : Nat := t.symbols.elim t.largestQuantity Numeral.value

/-- What the numbers of a task have to satisfy. The bound on the sum of the quantities
is one on each of them. -/
structure WellFormed (t : TaskText) : Prop where
  items : ItemsAdmissible t.items
  period : ∀ d ∈ t.period, 0 < d.milliseconds ∧ d.milliseconds ≤ int64Max
  symbols : ∀ n ∈ t.symbols, t.largestQuantity ≤ n.value ∧ n.value < sizeLimit
  regional : ∀ r ∈ t.regional,
    1 ≤ r.value ∧ r.value ≤ 26 ∧ t.symbolCount * (r.value + 1) < sizeLimit
  seed : ∀ s ∈ t.seed, s.value < 2 ^ 64

end TaskText

theorem ItemText.notMem_text (i : ItemText) {c : Char} (other : c.isDigit = false)
    (noCode : ∀ kind : EventKind, c ≠ kind.code) : c ∉ i.text := by
  rw [ItemText.text, List.mem_cons]
  rintro (code | digit)
  · exact noCode i.kind code
  · exact i.number.notMem_digits other digit

theorem notMem_itemsText {first : ItemText} {more : List ItemText} {c : Char}
    (other : c.isDigit = false) (noCode : ∀ kind : EventKind, c ≠ kind.code) (noEnd : c ≠ ';') :
    c ∉ itemsText first more := by
  rw [itemsText, List.mem_append, List.mem_flatMap]
  rintro (here | ⟨i, -, here⟩)
  · exact first.notMem_text other noCode here
  · rcases List.mem_cons.mp here with separator | here
    · exact noEnd separator
    · exact i.notMem_text other noCode here

/-- No part of a written task contains a separator. -/
theorem TaskText.plain (t : TaskText) : t.parts.Plain := by
  have noDigit : ∀ c ∈ ['@', '#', '&', '~'], c.isDigit = false := by simp
  have noUnit : ∀ c ∈ ['@', '#', '&', '~'], c ∉ ['m', 's', 'h'] := by simp
  have noEnd : ∀ c ∈ ['@', '#', '&', '~'], c ≠ ';' := by simp
  have noCode : ∀ kind : EventKind, ∀ c ∈ ['@', '#', '&', '~'], c ≠ kind.code := by
    intro kind
    cases kind <;> simp [EventKind.code]
  have numeral : ∀ n : Option Numeral, ∀ content ∈ n.map Numeral.digits,
      Unseparated content := by
    intro n content mem
    obtain ⟨number, -, rfl⟩ := Option.map_eq_some_iff.mp mem
    rw [unseparated_iff]
    intro c separator
    exact number.notMem_digits (noDigit c separator)
  constructor
  · rw [unseparated_iff]
    intro c separator
    exact notMem_itemsText (noDigit c separator) (fun kind => noCode kind c separator)
      (noEnd c separator)
  · intro content mem
    obtain ⟨d, -, rfl⟩ := Option.map_eq_some_iff.mp mem
    rw [unseparated_iff]
    intro c separator
    exact d.notMem_text (noDigit c separator) (noUnit c separator)
  · exact numeral t.symbols
  · exact numeral t.regional
  · exact numeral t.seed

/-! ### The whole text -/

/-- A text is accepted when every stage accepts its part. -/
theorem parseTask_eq_ok {text : Text} {pattern : TaskPattern} :
    parseTask text = .ok pattern ↔
      taskPrefix.isPrefixOf text = true ∧ checkSeparatorOrder (findSeparators text) = .ok () ∧
      taskPrefix.length ≠ patternEnd text (findSeparators text) ∧
      ∃ items afterPeriod afterSymbols afterRegional,
        parseItems taskPrefix.length (partsOf text).pattern [] = .ok items ∧
        parsePeriod text (findSeparators text) { items := items } = .ok afterPeriod ∧
        parseSymbolCount text (findSeparators text) afterPeriod = .ok afterSymbols ∧
        parseRegional text (findSeparators text) afterSymbols = .ok afterRegional ∧
        parseShuffle text (findSeparators text) afterRegional = .ok pattern := by
  constructor
  · intro parsed
    obtain ⟨isTask, items, stages⟩ := parseTask_stages parsed
    refine ⟨isTask, ?_, items, stages⟩
    unfold parseTask at parsed
    rw [if_neg (not_not.mpr isTask)] at parsed
    obtain ⟨⟨⟩, ordered, -⟩ := ok_of_bind parsed
    exact ordered
  · rintro ⟨isTask, ordered, notAtEnd, items, afterPeriod, afterSymbols, afterRegional, parsedItems,
      parsedPeriod, parsedSymbols, parsedRegional, parsedShuffle⟩
    unfold parseTask
    rw [if_neg (not_not.mpr isTask)]
    dsimp only
    rw [ordered]
    simp only [bind, Except.bind]
    rw [if_neg notAtEnd]
    change parseItems taskPrefix.length
      ((text.take (patternEnd text (findSeparators text))).drop taskPrefix.length) [] = _
      at parsedItems
    rw [parsedItems]
    dsimp only
    rw [parsedPeriod]
    dsimp only
    rw [parsedSymbols]
    dsimp only
    rw [parsedRegional]
    exact parsedShuffle

/-- What the stages of the parser make of the numbers of a task. -/
theorem TaskText.pattern_eq (t : TaskText) :
    t.pattern =
      let task : TaskPattern := { items := t.items }
      let task := t.period.elim task fun d => { task with publishPeriod := d.milliseconds }
      let task := t.symbols.elim task fun n => { task with subscribedSymbolCount := some n.value }
      let task := t.regional.elim task fun r => { task with regionalSourceCount := r.value }
      t.seed.elim task fun s => { task with shuffleSeed := some (UInt64.ofNat s.value) } := by
  obtain ⟨first, more, period, symbols, regional, seed⟩ := t
  cases period <;> cases symbols <;> cases regional <;> cases seed <;> rfl

/-- The items of an accepted text are not empty. -/
theorem pattern_ne_nil {text : Text} (isTask : taskPrefix.isPrefixOf text = true)
    (notAtEnd : taskPrefix.length ≠ patternEnd text (findSeparators text)) :
    (partsOf text).pattern ≠ [] := by
  obtain ⟨later, inside⟩ := patternEnd_bounds isTask
  intro empty
  have length := congrArg List.length empty
  simp only [partsOf, List.length_drop, List.length_take, List.length_nil] at length
  omega

/-- Every accepted text is a well-formed task, and is parsed to what it denotes. -/
theorem parseTask_sound {text : Text} {pattern : TaskPattern}
    (parsed : parseTask text = .ok pattern) :
    ∃ t : TaskText, t.WellFormed ∧ t.text = text ∧ t.pattern = pattern := by
  obtain ⟨isTask, ordered, notAtEnd, items, afterPeriod, afterSymbols, afterRegional, parsedItems,
    parsedPeriod, parsedSymbols, parsedRegional, parsedShuffle⟩ := parseTask_eq_ok.mp parsed
  obtain ⟨first, more, itemsPart, rfl, admissible⟩ :=
    (parseItems_iff .nil (pattern_ne_nil isTask notAtEnd)).mp parsedItems
  rw [List.nil_append] at *
  obtain ⟨period, periodPart, periodValid, rfl⟩ := parsePeriod_iff.mp parsedPeriod
  obtain ⟨symbols, symbolPart, symbolsValid, rfl⟩ := parseSymbolCount_iff.mp parsedSymbols
  obtain ⟨regional, regionalPart, regionalValid, rfl⟩ := parseRegional_iff.mp parsedRegional
  obtain ⟨seed, seedPart, seedValid, rfl⟩ := parseShuffle_iff.mp parsedShuffle
  let t : TaskText := ⟨first, more, period, symbols, regional, seed⟩
  have parts : t.parts = partsOf text :=
    Parts.ext itemsPart periodPart symbolPart regionalPart seedPart
  refine ⟨t, ?_, ?_, t.pattern_eq⟩
  · constructor
    · exact admissible
    · exact periodValid
    · intro n mem
      obtain ⟨-, covers, fits⟩ := symbolsValid n mem
      refine ⟨?_, fits⟩
      cases period with
      | none => exact covers
      | some d => exact covers
    · intro r mem
      obtain ⟨positive, small, fits⟩ := regionalValid r mem
      refine ⟨Nat.one_le_iff_ne_zero.mpr positive, small, ?_⟩
      cases symbols with
      | none => cases period <;> exact fits
      | some n => exact fits
    · exact seedValid
  · rw [TaskText.text, parts, text_partsOf isTask ordered]

/-- Every well-formed task is accepted. -/
theorem parseTask_complete {t : TaskText} (valid : t.WellFormed) :
    parseTask t.text = .ok t.pattern := by
  have parts : partsOf t.text = t.parts := Parts.partsOf_text t.plain
  obtain ⟨admissible, periodValid, symbolsValid, regionalValid, seedValid⟩ := valid
  have isTask : taskPrefix.isPrefixOf t.text = true :=
    List.isPrefixOf_iff_prefix.mpr (List.prefix_append _ _)
  have notEmpty : itemsText t.first t.more ≠ [] := by simp [itemsText, ItemText.text]
  have notAtEnd : taskPrefix.length ≠ patternEnd t.text (findSeparators t.text) := by
    have itemsEnd : patternEnd t.text (findSeparators t.text) = t.parts.periodStart :=
      (Parts.ends_text t.plain).2.2.2
    have length := List.length_pos_iff.mpr notEmpty
    rw [itemsEnd, Parts.periodStart]
    change taskPrefix.length ≠ taskPrefix.length + (itemsText t.first t.more).length
    omega
  have items : parseItems taskPrefix.length (partsOf t.text).pattern [] = .ok t.items := by
    rw [parts]
    exact (parseItems_iff .nil notEmpty).mpr ⟨t.first, t.more, rfl, rfl, admissible⟩
  have largest : 0 < t.largestQuantity := by
    have mem : t.first.item ∈ t.items := List.mem_cons_self
    exact (admissible.quantity_pos _ mem).trans_le (quantity_le_largest mem)
  rw [t.pattern_eq, parseTask_eq_ok]
  refine ⟨isTask, Parts.checkSeparatorOrder_text t.plain, notAtEnd, t.items, _, _, _, items,
    parsePeriod_iff.mpr ⟨t.period, by rw [parts]; rfl, periodValid, rfl⟩,
    parseSymbolCount_iff.mpr ⟨t.symbols, by rw [parts]; rfl, ?_, rfl⟩,
    parseRegional_iff.mpr ⟨t.regional, by rw [parts]; rfl, ?_, rfl⟩,
    parseShuffle_iff.mpr ⟨t.seed, by rw [parts]; rfl, seedValid, rfl⟩⟩
  · intro n mem
    obtain ⟨covers, fits⟩ := symbolsValid n mem
    refine ⟨by omega, ?_, fits⟩
    cases t.period with
    | none => exact covers
    | some d => exact covers
  · intro r mem
    obtain ⟨positive, small, fits⟩ := regionalValid r mem
    refine ⟨Nat.one_le_iff_ne_zero.mp positive, small, ?_⟩
    unfold TaskText.symbolCount at fits
    cases symbols : t.symbols with
    | none =>
        rw [symbols] at fits
        cases t.period with
        | none => exact fits
        | some d => exact fits
    | some n =>
        rw [symbols] at fits
        exact fits

/-- An error of the parser lies inside the text, or at its end. -/
theorem parseTask_error {text : Text} {error : ParseError}
    (failed : parseTask text = .error error) :
    error.position ≤ text.length := by
  unfold parseTask at failed
  split at failed
  · cases failed
    exact Nat.zero_le _
  · rename_i isTask
    have task := not_not.mp isTask
    have start := (List.isPrefixOf_iff_prefix.mp task).length_le
    rcases error_of_bind failed with order | ⟨⟨⟩, -, failed⟩
    · exact checkSeparatorOrder_error order
    dsimp only at failed
    split at failed
    · cases failed
      exact start
    rcases error_of_bind failed with items | ⟨items, -, failed⟩
    · have position := parseItems_error items
      have inside := (patternEnd_bounds task).2
      rw [List.length_drop, List.length_take] at position
      omega
    rcases error_of_bind failed with period | ⟨afterPeriod, -, failed⟩
    · exact parsePeriod_error period
    rcases error_of_bind failed with symbols | ⟨afterSymbols, -, failed⟩
    · exact parseSymbolCount_error symbols
    rcases error_of_bind failed with regional | ⟨afterRegional, -, shuffle⟩
    · exact parseRegional_error regional
    · exact parseShuffle_error shuffle

/-- `parseTask` accepts exactly its grammar. A text is accepted when it is a well-formed
task, the result is the pattern that the task denotes, and every error is at a position
of the text or at its end. -/
theorem parseTask_grammar (text : Text) :
    (∀ pattern, parseTask text = .ok pattern ↔
      ∃ t : TaskText, t.WellFormed ∧ t.text = text ∧ t.pattern = pattern) ∧
    ∀ error, parseTask text = .error error → error.position ≤ text.length := by
  constructor
  · intro pattern
    constructor
    · exact parseTask_sound
    · rintro ⟨t, valid, rfl, rfl⟩
      exact parseTask_complete valid
  · intro error failed
    exact parseTask_error failed

end LatencyTest
