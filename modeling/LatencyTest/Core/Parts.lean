import LatencyTest.Core.Accepted

/-!
The parts of a task text. `parseTask` locates the separators before it parses what
lies between them. When they pass the check on their order, the text is the
concatenation of its parts (`text_partsOf`); and a text that is built from parts
without separator characters has these parts (`partsOf_text`).
-/

namespace LatencyTest

/-! ### Finding a separator -/

theorem findFrom_spec {c : Char} {start p : Nat} {text : Text}
    (found : findFrom c start text = some p) :
    start ≤ p ∧ p < text.length ∧ text[p]? = some c ∧ text.drop p = c :: text.drop (p + 1) := by
  obtain ⟨i, search, rfl⟩ := Option.map_eq_some_iff.mp found
  obtain ⟨inside, here, -⟩ := List.findIdx?_eq_some_iff_getElem.mp search
  have same : text[i + start]? = some c := by
    rw [Nat.add_comm, ← List.getElem?_drop, List.getElem?_eq_getElem inside]
    exact congrArg some (LawfulBEq.eq_of_beq here)
  obtain ⟨bound, at_⟩ := List.getElem?_eq_some_iff.mp same
  refine ⟨Nat.le_add_left start i, bound, same, ?_⟩
  rw [← at_]
  exact List.drop_eq_getElem_cons bound

theorem findFrom_zero_eq_none {c : Char} {text : Text} (absent : c ∉ text) :
    findFrom c 0 text = none := by
  rw [findFrom, List.drop_zero, Option.map_eq_none_iff, List.findIdx?_eq_none_iff]
  intro x mem
  exact beq_eq_false_iff_ne.mpr fun same => absent (same ▸ mem)

/-- A separator that must follow another one does not come before it, and is not at
the same position. -/
theorem lt_of_mustFollow {c d : Char} {start p : Nat} {text message : Text} (differ : c ≠ d)
    (earlier : findFrom c start text = some p) {later : Option Nat}
    (found : findFrom d start text = later)
    (ordered : mustFollow (some p) later message = .ok ()) :
    p < separatorPosition text later := by
  obtain ⟨-, inside, here, -⟩ := findFrom_spec earlier
  cases later with
  | none => exact inside
  | some q =>
      obtain ⟨-, -, there, -⟩ := findFrom_spec found
      have apart : p ≠ q := by
        rintro rfl
        rw [here] at there
        exact differ (Option.some.inj there)
      unfold mustFollow at ordered
      dsimp only at ordered
      split at ordered
      · cases ordered
      · rename_i notBefore
        rw [separatorPosition, Option.getD_some]
        omega

/-- The six checks on the order of the separators. -/
theorem checkSeparatorOrder_ok {found : Separators}
    (ordered : checkSeparatorOrder found = .ok ()) :
    (∃ message, mustFollow found.period found.symbol message = .ok ()) ∧
    (∃ message, mustFollow found.period found.shuffle message = .ok ()) ∧
    (∃ message, mustFollow found.symbol found.shuffle message = .ok ()) ∧
    (∃ message, mustFollow found.period found.regional message = .ok ()) ∧
    (∃ message, mustFollow found.symbol found.regional message = .ok ()) ∧
    ∃ message, mustFollow found.regional found.shuffle message = .ok () := by
  unfold checkSeparatorOrder at ordered
  obtain ⟨⟨⟩, first, ordered⟩ := ok_of_bind ordered
  obtain ⟨⟨⟩, second, ordered⟩ := ok_of_bind ordered
  obtain ⟨⟨⟩, third, ordered⟩ := ok_of_bind ordered
  obtain ⟨⟨⟩, fourth, ordered⟩ := ok_of_bind ordered
  obtain ⟨⟨⟩, fifth, ordered⟩ := ok_of_bind ordered
  exact ⟨⟨_, first⟩, ⟨_, second⟩, ⟨_, third⟩, ⟨_, fourth⟩, ⟨_, fifth⟩, ⟨_, ordered⟩⟩

/-! ### Parts -/

/-- An optional part with the separator in front. -/
def part (separator : Char) : Option Text → Text
  | none => []
  | some content => separator :: content

/-- The items and the contents of the optional parts. -/
@[ext]
structure Parts where
  pattern : Text
  period : Option Text
  symbol : Option Text
  regional : Option Text
  shuffle : Option Text

def Parts.text (g : Parts) : Text :=
  taskPrefix ++ (g.pattern ++ (part '@' g.period ++ (part '#' g.symbol ++
    (part '&' g.regional ++ part '~' g.shuffle))))

/-- Where the publish period ends. -/
def periodEnd (text : Text) (found : Separators) : Nat :=
  min (separatorPosition text found.symbol)
    (min (separatorPosition text found.regional) (separatorPosition text found.shuffle))

/-- Where the symbol count ends. -/
def symbolEnd (text : Text) (found : Separators) : Nat :=
  min (separatorPosition text found.regional) (separatorPosition text found.shuffle)

/-- The parts that `parseTask` takes a text apart into. -/
def partsOf (text : Text) : Parts :=
  let found := findSeparators text
  { pattern := (text.take (patternEnd text found)).drop taskPrefix.length
    period := found.period.map fun separator =>
      partText text separator (periodEnd text found)
    symbol := found.symbol.map fun separator => partText text separator (symbolEnd text found)
    regional := found.regional.map fun separator =>
      partText text separator (separatorPosition text found.shuffle)
    shuffle := found.shuffle.map fun separator => text.drop (separator + 1) }

/-- The text from a part on is the part and the text from its end on. -/
theorem drop_part {c : Char} {start stop : Nat} {text : Text} {separator : Option Nat}
    (found : findFrom c start text = separator) (inside : stop ≤ text.length)
    (before : ∀ p ∈ separator, p < stop) :
    text.drop (min (separatorPosition text separator) stop) =
      part c (separator.map fun p => partText text p stop) ++ text.drop stop := by
  cases separator with
  | none =>
      rw [separatorPosition, Option.getD_none, Nat.min_eq_right inside]
      rfl
  | some p =>
      have earlier := before p rfl
      obtain ⟨-, -, -, here⟩ := findFrom_spec found
      have length : stop - p - 1 + (p + 1) = stop := by omega
      have rest : (text.drop (p + 1)).drop (stop - p - 1) = text.drop stop := by
        rw [List.drop_drop, Nat.add_comm, length]
      rw [separatorPosition, Option.getD_some, Nat.min_eq_left earlier.le, here, Option.map_some,
        part, partText, List.cons_append, ← rest, List.take_append_drop]

theorem separatorPosition_le {c : Char} {start : Nat} (text : Text) {separator : Option Nat}
    (found : findFrom c start text = separator) :
    separatorPosition text separator ≤ text.length := by
  cases separator with
  | none => exact le_rfl
  | some p => exact (findFrom_spec found).2.1.le

/-- A text with separators in order is the concatenation of its parts. -/
theorem text_partsOf {text : Text} (isTask : taskPrefix.isPrefixOf text = true)
    (ordered : checkSeparatorOrder (findSeparators text) = .ok ()) :
    (partsOf text).text = text := by
  let found := findSeparators text
  have periodFound : findFrom '@' taskPrefix.length text = found.period := rfl
  have symbolFound : findFrom '#' taskPrefix.length text = found.symbol := rfl
  have regionalFound : findFrom '&' taskPrefix.length text = found.regional := rfl
  have shuffleFound : findFrom '~' taskPrefix.length text = found.shuffle := rfl
  obtain ⟨⟨_, symbolAfterPeriod⟩, ⟨_, shuffleAfterPeriod⟩, ⟨_, shuffleAfterSymbol⟩,
    ⟨_, regionalAfterPeriod⟩, ⟨_, regionalAfterSymbol⟩, _, shuffleAfterRegional⟩ :=
      checkSeparatorOrder_ok ordered
  have shuffleLe := separatorPosition_le text shuffleFound
  have symbolEndLe : symbolEnd text found ≤ text.length := min_le_of_right_le shuffleLe
  have periodEndLe : periodEnd text found ≤ text.length := min_le_of_right_le symbolEndLe
  -- From the last part to the first, each one ends where the next one starts.
  have shuffle : text.drop (separatorPosition text found.shuffle) =
      part '~' (partsOf text).shuffle := by
    cases here : found.shuffle with
    | none =>
        have none : (partsOf text).shuffle = none := congrArg (Option.map _) here
        rw [none, separatorPosition, Option.getD_none, List.drop_length]
        rfl
    | some p =>
        have some : (partsOf text).shuffle = some (text.drop (p + 1)) :=
          congrArg (Option.map _) here
        rw [some, separatorPosition, Option.getD_some]
        exact (findFrom_spec here).2.2.2
  have regional : text.drop (symbolEnd text found) = part '&' (partsOf text).regional ++
      text.drop (separatorPosition text found.shuffle) := by
    apply drop_part regionalFound shuffleLe
    intro p here
    rw [here] at regionalFound shuffleAfterRegional
    exact lt_of_mustFollow (by decide) regionalFound shuffleFound shuffleAfterRegional
  have symbol : text.drop (periodEnd text found) = part '#' (partsOf text).symbol ++
      text.drop (symbolEnd text found) := by
    apply drop_part symbolFound symbolEndLe
    intro p here
    rw [here] at symbolFound shuffleAfterSymbol regionalAfterSymbol
    exact lt_min (lt_of_mustFollow (by decide) symbolFound regionalFound regionalAfterSymbol)
      (lt_of_mustFollow (by decide) symbolFound shuffleFound shuffleAfterSymbol)
  have period : text.drop (patternEnd text found) = part '@' (partsOf text).period ++
      text.drop (periodEnd text found) := by
    apply drop_part periodFound periodEndLe
    intro p here
    rw [here] at periodFound symbolAfterPeriod regionalAfterPeriod shuffleAfterPeriod
    exact lt_min (lt_of_mustFollow (by decide) periodFound symbolFound symbolAfterPeriod)
      (lt_min (lt_of_mustFollow (by decide) periodFound regionalFound regionalAfterPeriod)
        (lt_of_mustFollow (by decide) periodFound shuffleFound shuffleAfterPeriod))
  have start : text.take taskPrefix.length = taskPrefix :=
    (List.prefix_iff_eq_take.mp (List.isPrefixOf_iff_prefix.mp isTask)).symm
  have items : text.take (patternEnd text found) = taskPrefix ++ (partsOf text).pattern := by
    have later := (patternEnd_bounds isTask).1
    have split := List.take_append_drop taskPrefix.length (text.take (patternEnd text found))
    rw [List.take_take, Nat.min_eq_left later, start] at split
    exact split.symm
  have whole := List.take_append_drop (patternEnd text found) text
  rw [period, symbol, regional, shuffle, items, List.append_assoc] at whole
  exact whole

/-! ### Building a text from parts -/

/-- A text without separator characters. -/
def Unseparated (content : Text) : Prop :=
  '@' ∉ content ∧ '#' ∉ content ∧ '&' ∉ content ∧ '~' ∉ content

theorem unseparated_iff {content : Text} :
    Unseparated content ↔ ∀ c ∈ ['@', '#', '&', '~'], c ∉ content := by
  simp [Unseparated]

/-- Parts without separator characters. -/
structure Parts.Plain (g : Parts) : Prop where
  pattern : Unseparated g.pattern
  period : ∀ content ∈ g.period, Unseparated content
  symbol : ∀ content ∈ g.symbol, Unseparated content
  regional : ∀ content ∈ g.regional, Unseparated content
  shuffle : ∀ content ∈ g.shuffle, Unseparated content

theorem notMem_part {c separator : Char} (differ : c ≠ separator) {content : Option Text}
    (absent : ∀ text ∈ content, c ∉ text) : c ∉ part separator content := by
  cases content with
  | none => exact List.not_mem_nil
  | some text =>
      intro mem
      rcases List.mem_cons.mp mem with same | inside
      · exact differ same
      · exact absent text rfl inside

/-- A separator is found in front of its part, when it occurs nowhere else. -/
theorem findFrom_part {c : Char} {before after : Text} {content : Option Text}
    (first : c ∉ before) (only : content = none → c ∉ after) :
    findFrom c taskPrefix.length (taskPrefix ++ (before ++ (part c content ++ after))) =
      content.map fun _ => taskPrefix.length + before.length := by
  have absent : ∀ {text : Text}, c ∉ text → text.findIdx? (· == c) = none := by
    intro text missing
    rw [List.findIdx?_eq_none_iff]
    intro x mem
    exact beq_eq_false_iff_ne.mpr fun same => missing (same ▸ mem)
  rw [findFrom, List.drop_left, List.findIdx?_append, absent first, Option.none_or]
  cases content with
  | none =>
      rw [part, List.nil_append, absent (only rfl)]
      rfl
  | some text =>
      rw [part, List.cons_append, List.findIdx?_cons, beq_self_eq_true, if_pos rfl]
      have position : 0 + before.length + taskPrefix.length =
          taskPrefix.length + before.length := by
        omega
      exact congrArg some position

namespace Parts

variable (g : Parts)

/-! Where the parts start. -/

def periodStart : Nat := taskPrefix.length + g.pattern.length

def symbolStart : Nat := g.periodStart + (part '@' g.period).length

def regionalStart : Nat := g.symbolStart + (part '#' g.symbol).length

def shuffleStart : Nat := g.regionalStart + (part '&' g.regional).length

theorem length_text : g.text.length = g.shuffleStart + (part '~' g.shuffle).length := by
  simp only [text, shuffleStart, regionalStart, symbolStart, periodStart, List.length_append]
  omega

/-- The separators of a text built from parts. -/
theorem findSeparators_text {g : Parts} (plain : g.Plain) :
    findSeparators g.text =
      { period := g.period.map fun _ => g.periodStart
        symbol := g.symbol.map fun _ => g.symbolStart
        regional := g.regional.map fun _ => g.regionalStart
        shuffle := g.shuffle.map fun _ => g.shuffleStart } := by
  obtain ⟨pattern, period, symbol, regional, shuffle⟩ := plain
  have periodFound := @findFrom_part '@' g.pattern
    (part '#' g.symbol ++ (part '&' g.regional ++ part '~' g.shuffle)) g.period pattern.1 (by
      intro _
      rw [List.mem_append, List.mem_append]
      rintro (here | here | here)
      · exact notMem_part (by decide) (fun text mem => (symbol text mem).1) here
      · exact notMem_part (by decide) (fun text mem => (regional text mem).1) here
      · exact notMem_part (by decide) (fun text mem => (shuffle text mem).1) here)
  have symbolFound := @findFrom_part '#' (g.pattern ++ part '@' g.period)
    (part '&' g.regional ++ part '~' g.shuffle) g.symbol (by
      rw [List.mem_append]
      rintro (here | here)
      · exact pattern.2.1 here
      · exact notMem_part (by decide) (fun text mem => (period text mem).2.1) here) (by
      intro _
      rw [List.mem_append]
      rintro (here | here)
      · exact notMem_part (by decide) (fun text mem => (regional text mem).2.1) here
      · exact notMem_part (by decide) (fun text mem => (shuffle text mem).2.1) here)
  have regionalFound := @findFrom_part '&' (g.pattern ++ (part '@' g.period ++ part '#' g.symbol))
    (part '~' g.shuffle) g.regional (by
      rw [List.mem_append, List.mem_append]
      rintro (here | here | here)
      · exact pattern.2.2.1 here
      · exact notMem_part (by decide) (fun text mem => (period text mem).2.2.1) here
      · exact notMem_part (by decide) (fun text mem => (symbol text mem).2.2.1) here)
    fun _ => notMem_part (by decide) fun text mem => (shuffle text mem).2.2.1
  have shuffleFound := @findFrom_part '~'
    (g.pattern ++ (part '@' g.period ++ (part '#' g.symbol ++ part '&' g.regional))) [] g.shuffle
    (by
      rw [List.mem_append, List.mem_append, List.mem_append]
      rintro (here | here | here | here)
      · exact pattern.2.2.2 here
      · exact notMem_part (by decide) (fun text mem => (period text mem).2.2.2) here
      · exact notMem_part (by decide) (fun text mem => (symbol text mem).2.2.2) here
      · exact notMem_part (by decide) (fun text mem => (regional text mem).2.2.2) here)
    fun _ => List.not_mem_nil
  simp only [List.append_assoc, List.append_nil, List.length_append, ← Nat.add_assoc]
    at periodFound symbolFound regionalFound shuffleFound
  unfold findSeparators text
  rw [periodFound, symbolFound, regionalFound, shuffleFound]
  rfl

end Parts

/-- A part ends where the next one starts. -/
theorem min_separatorPosition {text : Text} (c : Char) (content : Option Text) {start : Nat}
    (inside : start + (part c content).length ≤ text.length) :
    min (separatorPosition text (content.map fun _ => start))
      (start + (part c content).length) = start := by
  cases content with
  | none => exact Nat.min_eq_right inside
  | some content => exact Nat.min_eq_left (Nat.le_add_right _ _)

/-- The content of a part is between its separator and its end. -/
theorem partText_append {c : Char} (before content after : Text) :
    partText (before ++ (part c (some content) ++ after)) before.length
      (before.length + (part c (some content)).length) = content := by
  have length : before.length + (content.length + 1) - before.length - 1 = content.length := by
    omega
  rw [partText, part, List.length_cons, length, ← List.drop_drop, List.drop_left, List.cons_append,
    List.drop_succ_cons, List.drop_zero, List.take_left]

/-- A part that starts earlier does not have to follow. -/
theorem mustFollow_map {a b : Nat} (order : a ≤ b) (x y : Option Text) (message : Text) :
    mustFollow (x.map fun _ => a) (y.map fun _ => b) message = .ok () := by
  cases x with
  | none => rfl
  | some _ =>
      cases y with
      | none => rfl
      | some _ => exact if_neg (not_lt.mpr order)

namespace Parts

variable {g : Parts}

/-- The separators of a text built from parts are in order. -/
theorem checkSeparatorOrder_text (plain : g.Plain) :
    checkSeparatorOrder (findSeparators g.text) = .ok () := by
  have symbol : g.periodStart ≤ g.symbolStart := Nat.le_add_right _ _
  have regional : g.symbolStart ≤ g.regionalStart := Nat.le_add_right _ _
  have shuffle : g.regionalStart ≤ g.shuffleStart := Nat.le_add_right _ _
  rw [findSeparators_text plain, checkSeparatorOrder]
  dsimp only
  rw [mustFollow_map symbol, mustFollow_map (symbol.trans (regional.trans shuffle)),
    mustFollow_map (regional.trans shuffle), mustFollow_map (symbol.trans regional),
    mustFollow_map regional, mustFollow_map shuffle]
  rfl

/-- Where the parts end in a text that is built from them. -/
theorem ends_text (plain : g.Plain) :
    separatorPosition g.text (findSeparators g.text).shuffle = g.shuffleStart ∧
      symbolEnd g.text (findSeparators g.text) = g.regionalStart ∧
      periodEnd g.text (findSeparators g.text) = g.symbolStart ∧
      patternEnd g.text (findSeparators g.text) = g.periodStart := by
  have length := g.length_text
  have shuffle : separatorPosition g.text (findSeparators g.text).shuffle = g.shuffleStart := by
    have last := @min_separatorPosition g.text '~' g.shuffle g.shuffleStart length.ge
    rw [← length, Nat.min_eq_left] at last
    · rw [findSeparators_text plain]
      exact last
    · cases g.shuffle with
      | none => exact le_rfl
      | some content =>
          rw [length]
          exact Nat.le_add_right _ _
  have shuffleLe : g.shuffleStart ≤ g.text.length := length ▸ Nat.le_add_right _ _
  have regional : symbolEnd g.text (findSeparators g.text) = g.regionalStart := by
    rw [symbolEnd, shuffle, findSeparators_text plain]
    exact min_separatorPosition '&' g.regional shuffleLe
  have regionalLe : g.regionalStart ≤ g.text.length := (Nat.le_add_right _ _).trans shuffleLe
  have symbol : periodEnd g.text (findSeparators g.text) = g.symbolStart := by
    have here : periodEnd g.text (findSeparators g.text) =
        min (separatorPosition g.text (findSeparators g.text).symbol)
          (symbolEnd g.text (findSeparators g.text)) := rfl
    rw [here, regional, findSeparators_text plain]
    exact min_separatorPosition '#' g.symbol regionalLe
  have symbolLe : g.symbolStart ≤ g.text.length := (Nat.le_add_right _ _).trans regionalLe
  have period : patternEnd g.text (findSeparators g.text) = g.periodStart := by
    have here : patternEnd g.text (findSeparators g.text) =
        min (separatorPosition g.text (findSeparators g.text).period)
          (periodEnd g.text (findSeparators g.text)) := rfl
    rw [here, symbol, findSeparators_text plain]
    exact min_separatorPosition '@' g.period symbolLe
  exact ⟨shuffle, regional, symbol, period⟩

/-- A text built from parts without separator characters has these parts. -/
theorem partsOf_text (plain : g.Plain) : partsOf g.text = g := by
  obtain ⟨shuffleEnd, regionalEnd, symbolEnd, patternEnd⟩ := ends_text plain
  have prefixText : g.text = (taskPrefix ++ g.pattern) ++ (part '@' g.period ++
      (part '#' g.symbol ++ (part '&' g.regional ++ part '~' g.shuffle))) :=
    (List.append_assoc _ _ _).symm
  have periodText : g.text = (taskPrefix ++ g.pattern ++ part '@' g.period) ++
      (part '#' g.symbol ++ (part '&' g.regional ++ part '~' g.shuffle)) := by
    rw [prefixText, List.append_assoc _ (part '@' g.period)]
  have symbolText : g.text = (taskPrefix ++ g.pattern ++ part '@' g.period ++
      part '#' g.symbol) ++ (part '&' g.regional ++ part '~' g.shuffle) := by
    rw [periodText, List.append_assoc _ (part '#' g.symbol)]
  have regionalText : g.text = (taskPrefix ++ g.pattern ++ part '@' g.period ++
      part '#' g.symbol ++ part '&' g.regional) ++ part '~' g.shuffle := by
    rw [symbolText, List.append_assoc _ (part '&' g.regional)]
  have periodLength : g.periodStart = (taskPrefix ++ g.pattern).length := List.length_append.symm
  have symbolLength : g.symbolStart = (taskPrefix ++ g.pattern ++ part '@' g.period).length := by
    rw [symbolStart, periodLength, ← List.length_append]
  have regionalLength : g.regionalStart =
      (taskPrefix ++ g.pattern ++ part '@' g.period ++ part '#' g.symbol).length := by
    rw [regionalStart, symbolLength, ← List.length_append]
  have shuffleLength : g.shuffleStart = (taskPrefix ++ g.pattern ++ part '@' g.period ++
      part '#' g.symbol ++ part '&' g.regional).length := by
    rw [shuffleStart, regionalLength, ← List.length_append]
  unfold partsOf
  dsimp only
  rw [shuffleEnd, regionalEnd, symbolEnd, patternEnd, findSeparators_text plain]
  ext1
  · dsimp only
    rw [periodLength, prefixText, List.take_left, List.drop_left]
  · dsimp only
    cases here : g.period with
    | none => rfl
    | some content =>
        rw [Option.map_some, Option.map_some, symbolStart, here, periodLength, prefixText, here]
        exact congrArg some (partText_append _ _ _)
  · dsimp only
    cases here : g.symbol with
    | none => rfl
    | some content =>
        rw [Option.map_some, Option.map_some, regionalStart, here, symbolLength, periodText, here]
        exact congrArg some (partText_append _ _ _)
  · dsimp only
    cases here : g.regional with
    | none => rfl
    | some content =>
        rw [Option.map_some, Option.map_some, shuffleStart, here, regionalLength, symbolText, here]
        exact congrArg some (partText_append _ _ _)
  · dsimp only
    cases here : g.shuffle with
    | none => rfl
    | some content =>
        rw [Option.map_some, Option.map_some, shuffleLength, regionalText, here, ← List.drop_drop,
          List.drop_left]
        rfl

end Parts

end LatencyTest
