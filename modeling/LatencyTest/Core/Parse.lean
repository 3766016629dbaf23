import LatencyTest.Core.Task

/-!
`parseTask` and `parseDuration` (`src/core.cpp`), stage by stage in source
order: the ordering of the separators, the item loop, the publish period, the
symbol count, the regional sources, the shuffle seed. Each stage reports the
position and the message of the source.
-/

namespace LatencyTest

open Lib (FromChars fromCharsNat fromCharsInt fromCharsNat_le fromCharsNat_rest)

/-- Describes a task-pattern parsing failure. -/
structure ParseError where
  position : Nat
  message : Text
deriving DecidableEq, Repr

/-- The largest `std::int64_t`. -/
def int64Max : Nat := 2 ^ 63 - 1

/-- A positive duration with an optional `ms`, `s`, `m` or `h` suffix, in
milliseconds. -/
def parseDuration (text : Text) : Except Text Int :=
  if text = [] then .error "empty duration".toList
  else
    let (multiplier, number) : Nat × Text :=
      if ['m', 's'].isSuffixOf text then (1, text.take (text.length - 2))
      else if ['s'].isSuffixOf text then (1000, text.take (text.length - 1))
      else if ['m'].isSuffixOf text then (60000, text.take (text.length - 1))
      else if ['h'].isSuffixOf text then (3600000, text.take (text.length - 1))
      else (1000, text)
    match (fromCharsInt int64Max number).whole with
    | none => .error ("invalid duration: ".toList ++ text)
    | some value =>
        if value ≤ 0 ∨ value > ((int64Max / multiplier : Nat) : Int) then
          .error ("invalid duration: ".toList ++ text)
        else .ok (value * multiplier)

/-! ### Separators -/

/-- `std::string_view::find` of one character from a position on. -/
def findFrom (c : Char) (start : Nat) (text : Text) : Option Nat :=
  ((text.drop start).findIdx? (· == c)).map (· + start)

def taskPrefix : Text := "SUB:".toList

/-- First positions of the four optional parts' separators. -/
structure Separators where
  period : Option Nat
  symbol : Option Nat
  regional : Option Nat
  shuffle : Option Nat
deriving DecidableEq, Repr

def findSeparators (text : Text) : Separators where
  period := findFrom '@' taskPrefix.length text
  symbol := findFrom '#' taskPrefix.length text
  regional := findFrom '&' taskPrefix.length text
  shuffle := findFrom '~' taskPrefix.length text

/-- Position of a separator, or the end of the text when it is absent. -/
def separatorPosition (text : Text) (separator : Option Nat) : Nat :=
  separator.getD text.length

/-- Rejects `later` when both parts are present and it comes first. -/
def mustFollow (earlier later : Option Nat) (message : Text) : Except ParseError Unit :=
  match earlier, later with
  | some first, some second => if second < first then .error ⟨second, message⟩ else .ok ()
  | _, _ => .ok ()

def checkSeparatorOrder (found : Separators) : Except ParseError Unit := do
  mustFollow found.period found.symbol "symbol count must follow publish period".toList
  mustFollow found.period found.shuffle "shuffle seed must follow publish period".toList
  mustFollow found.symbol found.shuffle "shuffle seed must follow symbol count".toList
  mustFollow found.period found.regional
    "regional source count must follow publish period".toList
  mustFollow found.symbol found.regional "regional source count must follow symbol count".toList
  mustFollow found.regional found.shuffle "shuffle seed must follow regional source count".toList

/-! ### The item loop -/

/-- The loop over the items. `rest` is the text from `pos` to the end of the
pattern; the kinds of `items` are the set `seen` of the source. -/
def parseItems (pos : Nat) (rest : Text) (items : List PatternItem) :
    Except ParseError (List PatternItem) :=
  match rest with
  | [] => .ok items
  | code :: number =>
      match parseKind code with
      | none => .error ⟨pos, "unknown event type".toList⟩
      | some kind =>
          if items.any (·.kind == kind) then .error ⟨pos, "duplicate event type".toList⟩
          else
            match scan : fromCharsNat (sizeLimit - 1) number with
            | .resultOutOfRange _ => .error ⟨pos + 1, "quantity is too large".toList⟩
            | .invalidArgument => .error ⟨pos + 1, "expected positive quantity".toList⟩
            | .ok quantity after =>
                if quantity = 0 then
                  .error ⟨pos + 1, "quantity must be greater than zero".toList⟩
                else
                  match eventCountFrom 0 (items ++ [⟨kind, quantity⟩]) with
                  | .error _ => .error ⟨pos, "total quantity is too large".toList⟩
                  | .ok _ =>
                      let next := pos + 1 + (number.length - after.length)
                      match after, scan with
                      | [], _ => .ok (items ++ [⟨kind, quantity⟩])
                      | separator :: more, _ =>
                          if separator ≠ ';' then
                            .error ⟨next, "expected ';' or end of input".toList⟩
                          else if more = [] then
                            .error ⟨next + 1, "trailing separator".toList⟩
                          else parseItems (next + 1) more (items ++ [⟨kind, quantity⟩])
termination_by rest.length
decreasing_by
  have := (fromCharsNat_rest (by assumption)).2
  simp only [List.length_cons] at this ⊢
  omega

/-! ### The optional parts -/

/-- The text strictly between a separator and a later position. -/
def partText (text : Text) (separator stop : Nat) : Text :=
  (text.drop (separator + 1)).take (stop - separator - 1)

def parsePeriod (text : Text) (found : Separators) (task : TaskPattern) :
    Except ParseError TaskPattern :=
  match found.period with
  | none => .ok task
  | some separator =>
      let periodEnd := min (separatorPosition text found.symbol)
        (min (separatorPosition text found.regional) (separatorPosition text found.shuffle))
      let periodText := partText text separator periodEnd
      if periodText = [] then .error ⟨separator + 1, "expected publish period".toList⟩
      else
        match findFrom '@' 0 periodText with
        | some offset => .error ⟨separator + 1 + offset, "duplicate publish period".toList⟩
        | none =>
            match parseDuration periodText with
            | .error message => .error ⟨separator + 1, message⟩
            | .ok period => .ok { task with publishPeriod := period }

def parseSymbolCount (text : Text) (found : Separators) (task : TaskPattern) :
    Except ParseError TaskPattern :=
  match found.symbol with
  | none => .ok task
  | some separator =>
      let symbolEnd := min (separatorPosition text found.regional)
        (separatorPosition text found.shuffle)
      let symbolText := partText text separator symbolEnd
      if symbolText = [] then .error ⟨separator + 1, "expected symbol count".toList⟩
      else
        match findFrom '#' 0 symbolText with
        | some offset => .error ⟨separator + 1 + offset, "duplicate symbol count".toList⟩
        | none =>
            match (fromCharsNat (sizeLimit - 1) symbolText).whole with
            | none => .error ⟨separator + 1, "invalid symbol count".toList⟩
            | some count =>
                if count = 0 then .error ⟨separator + 1, "invalid symbol count".toList⟩
                else if count < task.symbolCount then
                  .error ⟨separator + 1,
                    "symbol count must not be smaller than an event quantity".toList⟩
                else .ok { task with subscribedSymbolCount := some count }

def parseRegional (text : Text) (found : Separators) (task : TaskPattern) :
    Except ParseError TaskPattern :=
  match found.regional with
  | none => .ok task
  | some separator =>
      let regionalText := partText text separator (separatorPosition text found.shuffle)
      if regionalText = [] then
        .error ⟨separator + 1, "expected regional source count".toList⟩
      else
        match findFrom '&' 0 regionalText with
        | some offset =>
            .error ⟨separator + 1 + offset, "duplicate regional source count".toList⟩
        | none =>
            match (fromCharsNat (sizeLimit - 1) regionalText).whole with
            | none =>
                .error ⟨separator + 1, "regional source count must be from 1 to 26".toList⟩
            | some count =>
                if count = 0 ∨ count > 26 then
                  .error ⟨separator + 1, "regional source count must be from 1 to 26".toList⟩
                else
                  match { task with regionalSourceCount := count }.marketSymbolCount with
                  | .error _ => .error ⟨separator + 1, "market symbol count is too large".toList⟩
                  | .ok _ => .ok { task with regionalSourceCount := count }

def parseShuffle (text : Text) (found : Separators) (task : TaskPattern) :
    Except ParseError TaskPattern :=
  match found.shuffle with
  | none => .ok task
  | some separator =>
      let seedText := text.drop (separator + 1)
      if seedText = [] then .error ⟨separator + 1, "expected shuffle seed".toList⟩
      else
        match findFrom '~' 0 seedText with
        | some offset => .error ⟨separator + 1 + offset, "duplicate shuffle seed".toList⟩
        | none =>
            match (fromCharsNat (2 ^ 64 - 1) seedText).whole with
            | none => .error ⟨separator + 1, "invalid shuffle seed".toList⟩
            | some seed => .ok { task with shuffleSeed := some (UInt64.ofNat seed) }

/-- Where the items end: at the first separator, or at the end of the text. -/
def patternEnd (text : Text) (found : Separators) : Nat :=
  min (separatorPosition text found.period)
    (min (separatorPosition text found.symbol)
      (min (separatorPosition text found.regional) (separatorPosition text found.shuffle)))

/-- Parses a subscription task. -/
def parseTask (text : Text) : Except ParseError TaskPattern :=
  if ¬ taskPrefix.isPrefixOf text then .error ⟨0, "expected SUB:".toList⟩
  else do
    let found := findSeparators text
    checkSeparatorOrder found
    let pos := taskPrefix.length
    if pos = patternEnd text found then .error ⟨pos, "expected event pattern".toList⟩
    else do
      let items ← parseItems pos ((text.take (patternEnd text found)).drop pos) []
      let task ← parsePeriod text found { items := items }
      let task ← parseSymbolCount text found task
      let task ← parseRegional text found task
      parseShuffle text found task

end LatencyTest
