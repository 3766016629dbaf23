import LatencyTest.Runner.Suite
import LatencyTest.Lib.Fields

/-!
The loop of `split` (`src/runner.cpp`) on the positions of a string: `find` returns `npos`
behind the last separator, the length of a field is a difference of sizes that wraps, and
the position one past the end stops the loop. It ends within one pass more than there are
characters, and returns what the reader of the suite takes for the fields of a line
(`splitLoop_eq_split`).
-/

namespace LatencyTest.Runner

/-- `std::string_view::npos`, the largest `std::size_t`. -/
def npos : Nat := sizeLimit - 1

/-- A string of the source. No string is as long as `npos`. -/
structure StringView where
  text : Text
  length_lt : text.length < npos

/-- The difference of two sizes. -/
def sizeSub (a b : Nat) : Nat := (a + sizeLimit - b) % sizeLimit

/-- `value.find(separator, begin)`. -/
def find (value : Text) (separator : Char) (first : Nat) : Nat :=
  (findFrom separator first value).getD npos

/-- `value.substr(begin, count)`, which throws for a position behind the end. -/
def viewSubstr (value : Text) (first count : Nat) : Option Text :=
  if value.length < first then none else some ((value.drop first).take count)

/-- One pass of the loop: the field that it adds, and where the next one begins. -/
def splitPass (value : Text) (separator : Char) (first : Nat) : Option (Text × Nat) := do
  let stop := find value separator first
  let field ← viewSubstr value first (sizeSub stop first)
  return (field, if stop = npos then sizeAdd value.length 1 else sizeAdd stop 1)

/-- The do-while loop of `split`, with the fields found so far. It has no result if it
throws, or if it does not end within `fuel` passes. -/
def splitLoop (value : Text) (separator : Char) : Nat → Nat → List Text → Option (List Text)
  | 0, _, _ => none
  | fuel + 1, first, result => do
      let (field, next) ← splitPass value separator first
      if next ≤ value.length then splitLoop value separator fuel next (result ++ [field])
      else return result ++ [field]

/-! ### One pass -/

section Pass

variable {separator : Char} {before field : Text}

theorem find_last (absent : separator ∉ field) :
    find (before ++ field) separator before.length = npos := by
  have none : findFrom separator before.length (before ++ field) = none := by
    rw [findFrom, List.drop_left, Option.map_eq_none_iff, List.findIdx?_eq_none_iff]
    intro c mem
    exact beq_eq_false_iff_ne.mpr fun same => absent (same ▸ mem)
  rw [find, none]
  rfl

theorem find_more (absent : separator ∉ field) (rest : Text) :
    find (before ++ (field ++ separator :: rest)) separator before.length =
      before.length + field.length := by
  have here : (field ++ separator :: rest).findIdx? (· == separator) = some field.length := by
    have earlier : field.findIdx? (· == separator) = none := by
      rw [List.findIdx?_eq_none_iff]
      intro c mem
      exact beq_eq_false_iff_ne.mpr fun same => absent (same ▸ mem)
    rw [List.findIdx?_append, earlier, List.findIdx?_cons, beq_self_eq_true]
    simp
  rw [find, findFrom, List.drop_left, here, Nat.add_comm]
  rfl

theorem viewSubstr_append {rest : Text} {count : Nat} :
    viewSubstr (before ++ rest) before.length count = some (rest.take count) := by
  rw [viewSubstr, if_neg (by rw [List.length_append]; omega), List.drop_left]

/-- Behind the last separator the length of the field wraps to more than what is left, and
the next position is one past the end. -/
theorem splitPass_last (fits : (before ++ field).length < npos) (absent : separator ∉ field) :
    splitPass (before ++ field) separator before.length =
      some (field, (before ++ field).length + 1) := by
  have length : (before ++ field).length = before.length + field.length := List.length_append
  have count : sizeSub npos before.length = npos - before.length := by
    simp only [sizeSub, npos, sizeLimit] at *
    omega
  have whole : field.take (npos - before.length) = field := List.take_of_length_le (by omega)
  have next : sizeAdd (before ++ field).length 1 = (before ++ field).length + 1 :=
    sizeAdd_eq (by simp only [npos, sizeLimit] at *; omega)
  rw [splitPass, find_last absent, viewSubstr_append, count, whole, if_pos rfl, next]
  rfl

/-- In front of a separator the pass takes the field and goes on behind the separator. -/
theorem splitPass_more {rest : Text} (fits : (before ++ (field ++ separator :: rest)).length < npos)
    (absent : separator ∉ field) :
    splitPass (before ++ (field ++ separator :: rest)) separator before.length =
      some (field, (before ++ (field ++ [separator])).length) := by
  have length : (before ++ (field ++ separator :: rest)).length =
      before.length + field.length + rest.length + 1 := by
    simp only [List.length_append, List.length_cons]
    omega
  have count : sizeSub (before.length + field.length) before.length = field.length := by
    simp only [sizeSub, npos, sizeLimit] at *
    omega
  have next : sizeAdd (before.length + field.length) 1 = before.length + field.length + 1 :=
    sizeAdd_eq (by simp only [npos, sizeLimit] at *; omega)
  rw [splitPass, find_more absent, viewSubstr_append, count, List.take_left, if_neg (by omega),
    next]
  simp [Nat.add_assoc]

end Pass

/-! ### The whole loop -/

/-- From the position behind `before` the loop adds the fields of what is left. -/
theorem splitLoop_append (separator : Char) (rest before : Text) (fuel : Nat)
    (result : List Text) (fits : (before ++ rest).length < npos) (enough : rest.length < fuel) :
    splitLoop (before ++ rest) separator fuel before.length result =
      some (result ++ rest.splitOn separator) := by
  induction rest using Lib.fields_induction separator generalizing before fuel result with
  | last field absent =>
      obtain ⟨fuel, rfl⟩ := Nat.exists_eq_add_one_of_ne_zero (Nat.ne_zero_of_lt enough)
      rw [splitLoop, splitPass_last fits absent, List.splitOn_eq_singleton absent]
      exact if_neg (by omega)
  | more field rest absent ih =>
      obtain ⟨fuel, rfl⟩ := Nat.exists_eq_add_one_of_ne_zero (Nat.ne_zero_of_lt enough)
      have shorter : rest.length < fuel := by
        rw [List.length_append, List.length_cons] at enough
        omega
      have assoc : before ++ (field ++ separator :: rest) =
          before ++ (field ++ [separator]) ++ rest := by
        simp
      have onward : (before ++ (field ++ [separator])).length ≤
          (before ++ (field ++ [separator]) ++ rest).length :=
        (List.prefix_append _ rest).length_le
      rw [splitLoop, splitPass_more fits absent, List.splitOn_append_cons_self_of_not_mem absent]
      rw [assoc] at fits ⊢
      refine (if_pos onward).trans ?_
      rw [ih _ fuel _ fits shorter, List.append_assoc, List.singleton_append]

theorem modifyHead_nil_append (fields : List Text) : fields.modifyHead ([] ++ ·) = fields :=
  congrFun List.modifyHead_id fields

/-- The reader of the suite goes along the characters; its fields are the same. -/
theorem splitFrom_eq_splitOn (separator : Char) (field text : Text) :
    splitFrom separator field text = (text.splitOn separator).modifyHead (field ++ ·) := by
  induction text generalizing field with
  | nil => simp [splitFrom]
  | cons c text ih =>
      rw [splitFrom, List.splitOn_cons_eq_if_modifyHead]
      by_cases same : c = separator
      · rw [if_pos same, if_pos (beq_iff_eq.mpr same), ih, modifyHead_nil_append,
          List.modifyHead_cons, List.append_nil]
      · rw [if_neg same, if_neg (fun h => same (beq_iff_eq.mp h)), ih, List.modifyHead_modifyHead]
        congr 1
        funext first
        exact List.append_assoc field [c] first

theorem split_eq_splitOn (value : Text) (separator : Char) :
    split value separator = value.splitOn separator := by
  rw [split, splitFrom_eq_splitOn, modifyHead_nil_append]

theorem splitLoop_eq_split (value : StringView) (separator : Char) {fuel : Nat}
    (enough : value.text.length < fuel) :
    splitLoop value.text separator fuel 0 [] = some (split value.text separator) := by
  rw [split_eq_splitOn]
  exact splitLoop_append separator value.text [] fuel [] value.length_lt enough

/-- The loop ends, and loses nothing of the string: there is a part for each separator and
one more, the separators are not in the parts, and they join the parts to the string. -/
theorem splitLoop_lossless (value : StringView) (separator : Char) :
    ∃ parts : List Text,
      (∀ more, splitLoop value.text separator (value.text.length + 1 + more) 0 [] = some parts) ∧
      parts = split value.text separator ∧
      parts.length = value.text.count separator + 1 ∧
      (∀ part ∈ parts, separator ∉ part) ∧
      [separator].intercalate parts = value.text := by
  refine ⟨split value.text separator, fun more => splitLoop_eq_split value separator (by omega),
    rfl, ?_⟩
  rw [split_eq_splitOn]
  exact ⟨Lib.length_splitOn _, fun _ => Lib.notMem_of_mem_splitOn, List.intercalate_splitOn _⟩

/-- Separators at the start, at the end and in a row make empty parts. -/
theorem splitLoop_lossless_empty_parts :
    let value : StringView := ⟨"|a||".toList, by decide⟩
    ∃ parts : List Text, parts = [[], ['a'], [], []] ∧
      (∀ more, splitLoop value.text '|' (value.text.length + 1 + more) 0 [] = some parts) ∧
      parts.length = value.text.count '|' + 1 ∧ (∀ part ∈ parts, '|' ∉ part) ∧
      ['|'].intercalate parts = value.text := by
  intro value
  obtain ⟨parts, ends, rfl, lossless⟩ := splitLoop_lossless value '|'
  exact ⟨_, by decide, ends, lossless⟩

/-- No other parts without the separator are joined to the string. -/
theorem split_unique {value : Text} {separator : Char} {parts : List Text}
    (nonempty : parts ≠ [])
    (apart : ∀ part ∈ parts, separator ∉ part) (joined : [separator].intercalate parts = value) :
    split value separator = parts := by
  rw [split_eq_splitOn, ← joined]
  exact List.splitOn_intercalate separator apart nonempty

/-- An accepted `PROFILE` line has from one to eight separators. -/
theorem count_of_readProfile {rawLine value : Text} {profile : BenchmarkSuiteProfile}
    (accepted : readProfile rawLine value = .ok profile) :
    1 ≤ value.count '|' ∧ value.count '|' ≤ 8 := by
  have parts : (split value '|').length = value.count '|' + 1 := by
    rw [split_eq_splitOn, Lib.length_splitOn]
  unfold readProfile at accepted
  dsimp only at accepted
  split at accepted
  · rename_i name task more fields
    split at accepted
    · cases accepted
    · rw [fields, List.length_cons, List.length_cons] at parts
      rename_i valid
      rw [not_or, fields, List.length_cons, List.length_cons] at valid
      omega
  · cases accepted

end LatencyTest.Runner
