import LatencyTest.Lib.Numeral
import LatencyTest.Core.Parts

/-!
The stages of `parseTask`, each as an equivalence: what is accepted is written as a
value of a syntax type (`DurationText`, `ItemText`, `Numeral`), and the result is what
that value denotes. The other outcome is an error, at a position of the text or at its
end.
-/

namespace LatencyTest

open Lib (Numeral fromCharsNat fromCharsNat_eq_ok fromCharsNat_rest whole_fromCharsNat)

/-! ### Durations -/

/-- The suffix of a duration. -/
inductive DurationUnit where
  | bare
  | milliseconds
  | seconds
  | minutes
  | hours
deriving DecidableEq, Repr

namespace DurationUnit

def suffix : DurationUnit → Text
  | .bare => []
  | .milliseconds => ['m', 's']
  | .seconds => ['s']
  | .minutes => ['m']
  | .hours => ['h']

/-- The unit in milliseconds. A duration without suffix is in seconds. -/
def multiplier : DurationUnit → Nat
  | .milliseconds => 1
  | .bare => 1000
  | .seconds => 1000
  | .minutes => 60000
  | .hours => 3600000

end DurationUnit

/-- A duration as it can be written. -/
structure DurationText where
  number : Numeral
  unit : DurationUnit

namespace DurationText

def text (d : DurationText) : Text := d.number.digits ++ d.unit.suffix

def milliseconds (d : DurationText) : Nat := d.number.value * d.unit.multiplier

end DurationText

/-- The unit that `parseDuration` finds at the end, and what is in front of it. -/
def splitUnit (text : Text) : DurationUnit × Text :=
  if ['m', 's'].isSuffixOf text then (.milliseconds, text.take (text.length - 2))
  else if ['s'].isSuffixOf text then (.seconds, text.take (text.length - 1))
  else if ['m'].isSuffixOf text then (.minutes, text.take (text.length - 1))
  else if ['h'].isSuffixOf text then (.hours, text.take (text.length - 1))
  else (.bare, text)

theorem parseDuration_eq {text : Text} (nonempty : text ≠ []) :
    parseDuration text =
      match (Lib.fromCharsInt int64Max (splitUnit text).2).whole with
      | none => .error ("invalid duration: ".toList ++ text)
      | some value =>
          if value ≤ 0 ∨ value > ((int64Max / (splitUnit text).1.multiplier : Nat) : Int) then
            .error ("invalid duration: ".toList ++ text)
          else .ok (value * (splitUnit text).1.multiplier) := by
  unfold parseDuration splitUnit
  rw [if_neg nonempty]
  split_ifs <;> rfl

theorem splitUnit_append (text : Text) :
    (splitUnit text).2 ++ (splitUnit text).1.suffix = text := by
  have removed : ∀ {suffix : Text}, suffix.isSuffixOf text = true →
      text.take (text.length - suffix.length) ++ suffix = text := by
    intro suffix ends
    obtain ⟨front, rfl⟩ := List.isSuffixOf_iff_suffix.mp ends
    rw [List.length_append, Nat.add_sub_cancel, List.take_left]
  unfold splitUnit
  split_ifs with milliseconds seconds minutes hours
  · exact removed milliseconds
  · exact removed seconds
  · exact removed minutes
  · exact removed hours
  · exact List.append_nil text

/-- The unit of a written duration is found, since a numeral ends with a digit. -/
theorem splitUnit_text (d : DurationText) : splitUnit d.text = (d.unit, d.number.digits) := by
  obtain ⟨number, unit⟩ := d
  unfold DurationText.text
  cases backwards : number.digits.reverse with
  | nil => exact absurd (List.reverse_eq_nil_iff.mp backwards) number.nonempty
  | cons last front =>
      have digit : last.isDigit = true := by
        apply number.decimal
        rw [← List.mem_reverse, backwards]
        exact List.mem_cons_self
      have noLetter : ∀ c : Char, c.isDigit = false → c ≠ last := by
        rintro c letter rfl
        rw [letter] at digit
        cases digit
      have noS := noLetter 's' (by decide)
      have noM := noLetter 'm' (by decide)
      have noH := noLetter 'h' (by decide)
      cases unit with
      | bare =>
          simp [splitUnit, DurationUnit.suffix, List.isSuffixOf, backwards, noS, noM, noH]
      | seconds => simp [splitUnit, DurationUnit.suffix, List.isSuffixOf, backwards, noM]
      | _ => simp [splitUnit, DurationUnit.suffix, List.isSuffixOf, backwards]

/-- `parseDuration` accepts the durations whose milliseconds are positive and fit in 64
signed bits. -/
theorem parseDuration_iff {text : Text} {period : Int} :
    parseDuration text = .ok period ↔ ∃ d : DurationText, d.text = text ∧
      period = d.milliseconds ∧ 0 < d.milliseconds ∧ d.milliseconds ≤ int64Max := by
  have multiplier_pos : ∀ unit : DurationUnit, 0 < unit.multiplier := by
    intro unit
    cases unit <;> decide
  constructor
  · intro parsed
    have nonempty : text ≠ [] := by
      rintro rfl
      cases parsed
    obtain ⟨positive, fits⟩ := parseDuration_ok parsed
    rw [parseDuration_eq nonempty] at parsed
    split at parsed
    · cases parsed
    · rename_i value scan
      split at parsed
      · cases parsed
      · rename_i inside
        cases parsed
        have value_pos : 0 < value := by omega
        obtain ⟨number, digits, same, -⟩ := (Lib.whole_fromCharsInt value_pos).mp scan
        have milliseconds : value * ((splitUnit text).1.multiplier : Int) =
            (⟨number, (splitUnit text).1⟩ : DurationText).milliseconds := by
          rw [DurationText.milliseconds, Nat.cast_mul, same]
        rw [milliseconds] at positive fits
        refine ⟨⟨number, (splitUnit text).1⟩, ?_, milliseconds, by exact_mod_cast positive,
          by exact_mod_cast fits⟩
        rw [DurationText.text, digits, splitUnit_append]
  · rintro ⟨d, rfl, rfl, positive, fits⟩
    have nonempty : d.text ≠ [] :=
      fun empty => d.number.nonempty (List.append_eq_nil_iff.mp empty).1
    have value_pos : 0 < d.number.value := Nat.pos_of_mul_pos_right positive
    have value_le : d.number.value ≤ int64Max / d.unit.multiplier :=
      (Nat.le_div_iff_mul_le (multiplier_pos d.unit)).mpr fits
    have scan : (Lib.fromCharsInt int64Max d.number.digits).whole = some (d.number.value : Int) :=
      (Lib.whole_fromCharsInt (by exact_mod_cast value_pos)).mpr
        ⟨d.number, rfl, rfl, value_le.trans (Nat.div_le_self _ _)⟩
    rw [parseDuration_eq nonempty, splitUnit_text]
    dsimp only
    rw [scan]
    dsimp only
    rw [if_neg]
    · rw [DurationText.milliseconds, Nat.cast_mul]
    · rintro (low | high)
      · omega
      · exact absurd high (not_lt.mpr (by exact_mod_cast value_le))

/-! ### Items -/

theorem parseKind_eq_some {c : Char} {kind : EventKind} :
    parseKind c = some kind ↔ c = kind.code := by
  constructor
  · intro parsed
    unfold parseKind at parsed
    split at parsed <;> cases parsed <;> rfl
  · rintro rfl
    exact parseKind_code kind

/-- An item as it can be written. -/
structure ItemText where
  kind : EventKind
  number : Numeral

namespace ItemText

def text (i : ItemText) : Text := i.kind.code :: i.number.digits

def item (i : ItemText) : PatternItem := ⟨i.kind, i.number.value⟩

end ItemText

/-- Items with semicolons in between. -/
def itemsText (first : ItemText) (more : List ItemText) : Text :=
  first.text ++ more.flatMap fun i => ';' :: i.text

theorem itemsText_cons (first second : ItemText) (more : List ItemText) :
    itemsText first (second :: more) = first.text ++ ';' :: itemsText second more := by
  unfold itemsText
  rw [List.flatMap_cons, List.cons_append]

/-- Items that precede admissible ones are admissible. -/
theorem ItemsAdmissible.of_append {items more : List PatternItem}
    (h : ItemsAdmissible (items ++ more)) : ItemsAdmissible items := by
  obtain ⟨nodup, positive, fits⟩ := h
  rw [List.map_append] at nodup fits
  rw [List.sum_append] at fits
  exact ⟨nodup.of_append_left, fun item mem => positive item (List.mem_append_left more mem),
    by omega⟩

/-- Admissible items have no kind twice. -/
theorem ItemsAdmissible.fresh {items : List PatternItem} {item : PatternItem}
    (h : ItemsAdmissible (items ++ [item])) : items.any (·.kind == item.kind) = false := by
  have nodup := h.kinds_nodup
  rw [List.map_append, List.nodup_append] at nodup
  rw [List.any_eq_false]
  intro earlier mem same
  exact nodup.2.2 _ (List.mem_map_of_mem mem) _ (List.mem_singleton.mpr rfl)
    (LawfulBEq.eq_of_beq same)

/-- One pass of the item loop over an item that keeps the items admissible. -/
theorem parseItems_item {pos : Nat} {items : List PatternItem} {i : ItemText} {tail : Text}
    (h : ItemsAdmissible (items ++ [i.item])) :
    (∀ c ∈ tail.head?, c.isDigit = false) → parseItems pos (i.text ++ tail) items =
      match tail with
      | [] => .ok (items ++ [i.item])
      | separator :: more =>
          if separator ≠ ';' then
            .error ⟨pos + i.text.length, "expected ';' or end of input".toList⟩
          else if more = [] then
            .error ⟨pos + i.text.length + 1, "trailing separator".toList⟩
          else parseItems (pos + i.text.length + 1) more (items ++ [i.item]) := by
  intro ends
  have positive : i.number.value ≠ 0 :=
    (h.quantity_pos i.item (List.mem_append_right items (List.mem_singleton.mpr rfl))).ne'
  have total := @eventCountFrom_total 0 (items ++ [i.item]) (by simpa using h.total_fits)
  have bound : i.number.value ≤ sizeLimit - 1 := by
    have fits := h.total_fits
    rw [List.map_append, List.sum_append] at fits
    have single : ([i.item].map PatternItem.quantity).sum = i.number.value := by
      simp [ItemText.item]
    omega
  have scan : fromCharsNat (sizeLimit - 1) (i.number.digits ++ tail) = .ok i.number.value tail :=
    fromCharsNat_eq_ok.mpr ⟨i.number, rfl, rfl, bound, ends⟩
  have unseen : ¬ (items.any (·.kind == i.kind) = true) := by
    rw [Bool.not_eq_true]
    exact h.fresh
  have consumed : pos + 1 + ((i.number.digits ++ tail).length - tail.length) =
      pos + (i.kind.code :: i.number.digits).length := by
    rw [List.length_append, List.length_cons]
    omega
  rw [ItemText.text, List.cons_append, parseItems, parseKind_code]
  dsimp only
  rw [if_neg unseen]
  split
  · rename_i rest outOfRange
    rw [scan] at outOfRange
    cases outOfRange
  · rename_i invalid
    rw [scan] at invalid
    cases invalid
  · rename_i quantity after read
    rw [scan] at read
    cases read
    rw [if_neg positive, consumed]
    dsimp only [ItemText.item] at total ⊢
    rw [total]
    dsimp only
    cases tail with
    | nil => rfl
    | cons separator more => rfl

/-- From a position after admissible items, the item loop accepts the written items
that keep them admissible. -/
theorem parseItems_iff {pos : Nat} {rest : Text} {items result : List PatternItem}
    (admissible : ItemsAdmissible items) (nonempty : rest ≠ []) :
    parseItems pos rest items = .ok result ↔
      ∃ first more, itemsText first more = rest ∧
        result = items ++ (first :: more).map ItemText.item ∧ ItemsAdmissible result := by
  constructor
  · intro parsed
    have kept := (parseItems_ok admissible parsed).1
    fun_induction parseItems pos rest items with
    | case1 pos items => exact absurd rfl nonempty
    | case8 pos items code number kind isKind fresh quantity positive total sum next scan =>
        cases parsed
        obtain ⟨n, digits, rfl, -⟩ := fromCharsNat_eq_ok.mp scan
        refine ⟨⟨kind, n⟩, [], ?_, rfl, kept⟩
        rw [parseKind_eq_some.mp isKind, ← digits]
        rfl
    | case11 pos items code number kind isKind fresh quantity positive total sum separator more
        scan isSeparator moreItems _ next ih =>
        obtain ⟨n, digits, rfl, -⟩ := fromCharsNat_eq_ok.mp scan
        obtain ⟨second, others, rest, shape, -⟩ :=
          ih (admissible.snoc (by simpa using fresh) positive sum) moreItems parsed
        refine ⟨⟨kind, n⟩, second :: others, ?_, ?_, kept⟩
        · rw [itemsText_cons, rest, parseKind_eq_some.mp isKind, ← digits]
          rw [not_not.mp isSeparator]
          rfl
        · rw [shape, List.append_assoc]
          rfl
    | _ => cases parsed
  · rintro ⟨first, more, rfl, rfl, kept⟩
    clear nonempty
    induction more generalizing pos items first with
    | nil =>
        have last := @parseItems_item pos items first [] kept (by simp)
        rw [List.append_nil] at last
        rw [itemsText, List.flatMap_nil, List.append_nil]
        exact last
    | cons second more ih =>
        have shape : items ++ (first :: second :: more).map ItemText.item =
            (items ++ [first.item]) ++ (second :: more).map ItemText.item := by
          rw [List.append_assoc]
          rfl
        rw [shape] at kept ⊢
        have step := @parseItems_item pos items first (';' :: itemsText second more)
          kept.of_append (by simp)
        rw [itemsText_cons, step]
        dsimp only
        rw [if_neg (not_not.mpr rfl), if_neg (by simp [itemsText, ItemText.text])]
        exact ih kept.of_append second kept

/-! ### The optional parts -/

theorem DurationText.notMem_text (d : DurationText) {c : Char} (other : c.isDigit = false)
    (noUnit : c ∉ ['m', 's', 'h']) : c ∉ d.text := by
  rw [DurationText.text, List.mem_append]
  rintro (digit | letter)
  · exact d.number.notMem_digits other digit
  · apply noUnit
    have known : d.unit.suffix ⊆ ['m', 's', 'h'] := by
      cases d.unit <;> decide
    exact known letter

/-- Without its separator, a stage accepts the absence of its part and nothing else. -/
theorem absent_iff {α : Type} {task result : TaskPattern} {written : α → Text} {valid : α → Prop}
    {update : α → TaskPattern} :
    (Except.ok task : Except ParseError TaskPattern) = .ok result ↔
      ∃ a : Option α, a.map written = none ∧ (∀ x ∈ a, valid x) ∧ result = a.elim task update := by
  constructor
  · intro parsed
    cases parsed
    exact ⟨none, rfl, by simp, rfl⟩
  · rintro ⟨a, absent, -, rfl⟩
    rw [Option.map_eq_none_iff.mp absent]
    rfl

/-- A stage that reads a number accepts a numeral in the range of its type, if what it
does with the number succeeds. -/
theorem numberPart_iff {content : Text} {c : Char} {limit : Nat} {empty invalid : ParseError}
    {again : Nat → ParseError} {body : Nat → Except ParseError TaskPattern} {result : TaskPattern}
    (other : c.isDigit = false) :
    (if content = [] then Except.error empty
      else
        match findFrom c 0 content with
        | some offset => Except.error (again offset)
        | none =>
            match (fromCharsNat limit content).whole with
            | none => Except.error invalid
            | some value => body value) = Except.ok result ↔
      ∃ n : Numeral, n.digits = content ∧ n.value ≤ limit ∧ body n.value = .ok result := by
  constructor
  · intro parsed
    split at parsed
    · cases parsed
    · split at parsed
      · cases parsed
      · split at parsed
        · cases parsed
        · rename_i value scan
          obtain ⟨n, digits, rfl, bound⟩ := whole_fromCharsNat.mp scan
          exact ⟨n, digits, bound, parsed⟩
  · rintro ⟨n, rfl, bound, accepted⟩
    rw [if_neg n.nonempty, findFrom_zero_eq_none (n.notMem_digits other)]
    dsimp only
    rw [whole_fromCharsNat.mpr ⟨n, rfl, rfl, bound⟩]
    exact accepted

/-- How such a stage fails. -/
theorem numberPart_error {content : Text} {c : Char} {limit : Nat}
    {empty invalid error : ParseError} {again : Nat → ParseError}
    {body : Nat → Except ParseError TaskPattern}
    (failed : (if content = [] then Except.error empty
      else
        match findFrom c 0 content with
        | some offset => Except.error (again offset)
        | none =>
            match (fromCharsNat limit content).whole with
            | none => Except.error invalid
            | some value => body value) = Except.error error) :
    error = empty ∨ (∃ offset, findFrom c 0 content = some offset ∧ error = again offset) ∨
      error = invalid ∨ ∃ value, body value = .error error := by
  split at failed
  · cases failed
    exact .inl rfl
  · split at failed
    · rename_i offset here
      cases failed
      exact .inr (.inl ⟨offset, here, rfl⟩)
    · split at failed
      · cases failed
        exact .inr (.inr (.inl rfl))
      · rename_i value scan
        exact .inr (.inr (.inr ⟨value, failed⟩))

/-- The publish period stage accepts the valid durations. -/
theorem parsePeriod_iff {text : Text} {task result : TaskPattern} :
    parsePeriod text (findSeparators text) task = .ok result ↔
      ∃ period : Option DurationText, period.map DurationText.text = (partsOf text).period ∧
        (∀ d ∈ period, 0 < d.milliseconds ∧ d.milliseconds ≤ int64Max) ∧
        result = period.elim task fun d => { task with publishPeriod := d.milliseconds } := by
  have content : (partsOf text).period = (findSeparators text).period.map fun separator =>
      partText text separator (periodEnd text (findSeparators text)) := rfl
  rw [content]
  unfold parsePeriod
  cases (findSeparators text).period with
  | none => exact absent_iff
  | some separator =>
      dsimp only [Option.map_some, periodEnd]
      generalize partText text separator _ = periodText
      constructor
      · intro parsed
        split at parsed
        · cases parsed
        · split at parsed
          · cases parsed
          · split at parsed
            · cases parsed
            · rename_i period accepted
              cases parsed
              obtain ⟨d, here, rfl, positive, fits⟩ := parseDuration_iff.mp accepted
              exact ⟨some d, congrArg some here, by simpa using ⟨positive, fits⟩, rfl⟩
      · rintro ⟨period, shape, valid, rfl⟩
        obtain ⟨d, rfl, here⟩ := Option.map_eq_some_iff.mp shape
        have accepted := parseDuration_iff.mpr ⟨d, here, rfl, valid d rfl⟩
        have nonempty : periodText ≠ [] := by
          rintro rfl
          cases accepted
        have single : '@' ∉ periodText := here ▸ d.notMem_text (by decide) (by decide)
        rw [if_neg nonempty, findFrom_zero_eq_none single]
        dsimp only
        rw [accepted]
        rfl

/-- The symbol count stage accepts the numbers that cover every quantity. -/
theorem parseSymbolCount_iff {text : Text} {task result : TaskPattern} :
    parseSymbolCount text (findSeparators text) task = .ok result ↔
      ∃ symbols : Option Numeral, symbols.map Numeral.digits = (partsOf text).symbol ∧
        (∀ n ∈ symbols, n.value ≠ 0 ∧ task.symbolCount ≤ n.value ∧ n.value < sizeLimit) ∧
        result = symbols.elim task fun n =>
          { task with subscribedSymbolCount := some n.value } := by
  have content : (partsOf text).symbol = (findSeparators text).symbol.map fun separator =>
      partText text separator (symbolEnd text (findSeparators text)) := rfl
  rw [content]
  unfold parseSymbolCount
  cases (findSeparators text).symbol with
  | none => exact absent_iff
  | some separator =>
      refine (numberPart_iff (c := '#') (by decide)).trans ?_
      constructor
      · rintro ⟨n, here, bound, accepted⟩
        split_ifs at accepted with zero small
        cases accepted
        have fits : n.value < sizeLimit := by
          unfold sizeLimit at bound ⊢
          omega
        exact ⟨some n, congrArg some here, by simpa using ⟨zero, not_lt.mp small, fits⟩, rfl⟩
      · rintro ⟨symbols, shape, valid, rfl⟩
        obtain ⟨n, rfl, here⟩ := Option.map_eq_some_iff.mp shape
        obtain ⟨positive, covers, fits⟩ := valid n rfl
        refine ⟨n, here, by omega, ?_⟩
        rw [if_neg positive, if_neg (not_lt.mpr covers)]
        rfl
/-- The regional source stage accepts the counts up to 26 whose market symbols can be
counted. -/
theorem parseRegional_iff {text : Text} {task result : TaskPattern} :
    parseRegional text (findSeparators text) task = .ok result ↔
      ∃ regional : Option Numeral, regional.map Numeral.digits = (partsOf text).regional ∧
        (∀ r ∈ regional, r.value ≠ 0 ∧ r.value ≤ 26 ∧
          task.symbolCount * (r.value + 1) < sizeLimit) ∧
        result = regional.elim task fun r => { task with regionalSourceCount := r.value } := by
  have content : (partsOf text).regional = (findSeparators text).regional.map fun separator =>
      partText text separator (separatorPosition text (findSeparators text).shuffle) := rfl
  rw [content]
  unfold parseRegional
  cases (findSeparators text).regional with
  | none => exact absent_iff
  | some separator =>
      refine (numberPart_iff (c := '&') (by decide)).trans ?_
      constructor
      · rintro ⟨r, here, -, accepted⟩
        split_ifs at accepted with range
        split at accepted
        · cases accepted
        · rename_i total market
          cases accepted
          obtain ⟨rfl, fits⟩ := marketSymbolCount_eq_ok.mp market
          have valid : r.value ≠ 0 ∧ r.value ≤ 26 := by omega
          exact ⟨some r, congrArg some here, by simpa using ⟨valid.1, valid.2, fits⟩, rfl⟩
      · rintro ⟨regional, shape, valid, rfl⟩
        obtain ⟨r, rfl, here⟩ := Option.map_eq_some_iff.mp shape
        obtain ⟨positive, small, fits⟩ := valid r rfl
        have market : { task with regionalSourceCount := r.value }.marketSymbolCount =
            .ok (task.symbolCount * (r.value + 1)) := marketSymbolCount_eq_ok.mpr ⟨rfl, fits⟩
        refine ⟨r, here, by unfold sizeLimit; omega, ?_⟩
        rw [if_neg (by omega), market]
        rfl

/-- The shuffle stage accepts the numbers of 64 bits. -/
theorem parseShuffle_iff {text : Text} {task result : TaskPattern} :
    parseShuffle text (findSeparators text) task = .ok result ↔
      ∃ seed : Option Numeral, seed.map Numeral.digits = (partsOf text).shuffle ∧
        (∀ s ∈ seed, s.value < 2 ^ 64) ∧
        result = seed.elim task fun s =>
          { task with shuffleSeed := some (UInt64.ofNat s.value) } := by
  have content : (partsOf text).shuffle =
      (findSeparators text).shuffle.map fun separator => text.drop (separator + 1) := rfl
  rw [content]
  unfold parseShuffle
  cases (findSeparators text).shuffle with
  | none => exact absent_iff
  | some separator =>
      refine (numberPart_iff (c := '~') (by decide)).trans ?_
      constructor
      · rintro ⟨s, here, bound, accepted⟩
        cases accepted
        have fits : s.value < 2 ^ 64 := by omega
        exact ⟨some s, congrArg some here, by simpa using fits, rfl⟩
      · rintro ⟨seed, shape, valid, rfl⟩
        obtain ⟨s, rfl, here⟩ := Option.map_eq_some_iff.mp shape
        have fits := valid s rfl
        exact ⟨s, here, by omega, rfl⟩

/-! ### Error positions -/

theorem mustFollow_error {c : Char} {start : Nat} {text message : Text}
    {earlier later : Option Nat} {error : ParseError} (found : findFrom c start text = later)
    (failed : mustFollow earlier later message = .error error) :
    error.position ≤ text.length := by
  unfold mustFollow at failed
  split at failed
  · split at failed
    · cases failed
      exact (findFrom_spec found).2.1.le
    · cases failed
  · cases failed

theorem checkSeparatorOrder_error {text : Text} {error : ParseError}
    (failed : checkSeparatorOrder (findSeparators text) = .error error) :
    error.position ≤ text.length := by
  unfold checkSeparatorOrder at failed
  rcases error_of_bind failed with first | ⟨⟨⟩, -, failed⟩
  · exact mustFollow_error rfl first
  rcases error_of_bind failed with second | ⟨⟨⟩, -, failed⟩
  · exact mustFollow_error rfl second
  rcases error_of_bind failed with third | ⟨⟨⟩, -, failed⟩
  · exact mustFollow_error rfl third
  rcases error_of_bind failed with fourth | ⟨⟨⟩, -, failed⟩
  · exact mustFollow_error rfl fourth
  rcases error_of_bind failed with fifth | ⟨⟨⟩, -, failed⟩
  · exact mustFollow_error rfl fifth
  · exact mustFollow_error rfl failed

/-- The item loop fails at a character of the items, or at their end. -/
theorem parseItems_error {pos : Nat} {rest : Text} {items : List PatternItem} {error : ParseError}
    (failed : parseItems pos rest items = .error error) : error.position ≤ pos + rest.length := by
  fun_induction parseItems pos rest items with
  | case1 | case8 => cases failed
  | case9 pos items code number kind _ _ quantity _ total _ separator more scan other _ next =>
      cases failed
      have shorter := (fromCharsNat_rest scan).2
      simp only [next, List.length_cons] at shorter ⊢
      omega
  | case10 pos items code number kind _ _ quantity _ total _ separator isSeparator scan _ next =>
      cases failed
      have shorter := (fromCharsNat_rest scan).2
      simp only [next, List.length_cons, List.length_nil] at shorter ⊢
      omega
  | case11 pos items code number kind _ _ quantity _ total _ separator more scan _ _ _ next ih =>
      have shorter := (fromCharsNat_rest scan).2
      have position := ih failed
      simp only [next, List.length_cons] at shorter position ⊢
      omega
  | _ =>
      -- The position is that of the item, or of its quantity.
      cases failed
      rw [List.length_cons]
      dsimp only
      omega

/-- The positions that a part reports: where it starts, and where its separator is repeated. -/
theorem part_positions {c d : Char} {start separator : Nat} {text content : Text}
    (found : findFrom c start text = some separator)
    (length : content.length ≤ text.length - (separator + 1)) :
    separator + 1 ≤ text.length ∧
      ∀ offset, findFrom d 0 content = some offset → separator + 1 + offset ≤ text.length := by
  have inside := (findFrom_spec found).2.1
  refine ⟨inside, ?_⟩
  intro offset again
  have := (findFrom_spec again).2.1
  omega

theorem length_partText_le (text : Text) (separator stop : Nat) :
    (partText text separator stop).length ≤ text.length - (separator + 1) := by
  rw [partText, List.length_take, List.length_drop]
  exact min_le_right _ _

theorem parsePeriod_error {text : Text} {task : TaskPattern} {error : ParseError}
    (failed : parsePeriod text (findSeparators text) task = .error error) :
    error.position ≤ text.length := by
  unfold parsePeriod at failed
  split at failed
  · cases failed
  · rename_i separator found
    dsimp only at failed
    obtain ⟨inside, again⟩ := @part_positions _ '@' _ _ _ _ found (length_partText_le _ _ _)
    split at failed
    · cases failed
      exact inside
    · split at failed
      · rename_i offset here
        cases failed
        exact again offset here
      · split at failed
        · cases failed
          exact inside
        · cases failed

theorem parseSymbolCount_error {text : Text} {task : TaskPattern} {error : ParseError}
    (failed : parseSymbolCount text (findSeparators text) task = .error error) :
    error.position ≤ text.length := by
  unfold parseSymbolCount at failed
  split at failed
  · cases failed
  · rename_i separator found
    obtain ⟨inside, again⟩ := @part_positions _ '#' _ _ _ _ found (length_partText_le _ _ _)
    rcases numberPart_error failed with rfl | ⟨offset, here, rfl⟩ | rfl | ⟨count, refused⟩
    · exact inside
    · exact again offset here
    · exact inside
    · split_ifs at refused
      · cases refused
        exact inside
      · cases refused
        exact inside

theorem parseRegional_error {text : Text} {task : TaskPattern} {error : ParseError}
    (failed : parseRegional text (findSeparators text) task = .error error) :
    error.position ≤ text.length := by
  unfold parseRegional at failed
  split at failed
  · cases failed
  · rename_i separator found
    obtain ⟨inside, again⟩ := @part_positions _ '&' _ _ _ _ found (length_partText_le _ _ _)
    rcases numberPart_error failed with rfl | ⟨offset, here, rfl⟩ | rfl | ⟨count, refused⟩
    · exact inside
    · exact again offset here
    · exact inside
    · split_ifs at refused
      · cases refused
        exact inside
      · split at refused
        · cases refused
          exact inside
        · cases refused

theorem parseShuffle_error {text : Text} {task : TaskPattern} {error : ParseError}
    (failed : parseShuffle text (findSeparators text) task = .error error) :
    error.position ≤ text.length := by
  unfold parseShuffle at failed
  split at failed
  · cases failed
  · rename_i separator found
    obtain ⟨inside, again⟩ := @part_positions _ '~' _ _ _ (text.drop (separator + 1)) found
      List.length_drop.le
    rcases numberPart_error failed with rfl | ⟨offset, here, rfl⟩ | rfl | ⟨seed, refused⟩
    · exact inside
    · exact again offset here
    · exact inside
    · cases refused

end LatencyTest
