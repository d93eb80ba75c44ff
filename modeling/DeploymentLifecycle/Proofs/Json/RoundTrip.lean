import DeploymentLifecycle.Proofs.Json.Number
import DeploymentLifecycle.Proofs.Json.Quoted

namespace DeploymentLifecycle.Json

/-! The text of a value is read as that value, in either layout. A double may be read as another one;
all else is read as it was written. -/

mutual

/-- What the text of a value is read as. -/
def readBack : Json → Tree
  | .null => .null
  | .bool value => .bool value
  | .number value => value.readBack
  | .string text => .string (some text)
  | .array items => .array (itemsReadBack items)
  | .object fields => .object (fieldsReadBack fields)

def itemsReadBack : List Json → List Tree
  | [] => []
  | item :: rest => readBack item :: itemsReadBack rest

def fieldsReadBack : Fields → List (Option String × Tree)
  | [] => []
  | (key, value) :: rest => (some key, readBack value) :: fieldsReadBack rest

end

mutual

/-- All numbers in the value are whole. -/
def Whole : Json → Prop
  | .number value => value.Whole
  | .array items => ItemsWhole items
  | .object fields => FieldsWhole fields
  | _ => True

def ItemsWhole : List Json → Prop
  | [] => True
  | item :: rest => item.Whole ∧ ItemsWhole rest

def FieldsWhole : Fields → Prop
  | [] => True
  | (_, value) :: rest => value.Whole ∧ FieldsWhole rest

end

section Steps

variable {layout : Layout} {first : Symbol} {input middle rest : List Symbol} {fuel depth : Nat}

@[simp]
theorem skipBlanks_gap :
    skipBlanks ((layout.gap depth).map some ++ input) = skipBlanks input := by
  cases layout with
  | compact => rfl
  | indented =>
      apply List.dropWhile_append_of_pos
      intro symbol member
      simp only [Layout.gap, List.map_cons, List.map_replicate, List.mem_cons,
        List.mem_replicate] at member
      rcases member with rfl | ⟨-, rfl⟩ <;> rfl

@[simp]
theorem readValue?_gap :
    readValue? fuel ((layout.gap depth).map some ++ input) = readValue? fuel input := by
  cases fuel with
  | zero => rfl
  | succ fuel => simp only [readValue?, skipBlanks_gap]

@[simp]
theorem readField?_gap :
    readField? fuel ((layout.gap depth).map some ++ input) = readField? fuel input := by
  cases fuel with
  | zero => rfl
  | succ fuel => simp only [readField?, skipBlanks_gap]

theorem delimited_gap {c : Char} (closing : c = ']' ∨ c = '}') :
    Delimited ((layout.gap depth).map some ++ some c :: rest) := by
  intro symbol found
  cases layout with
  | compact => rcases closing with rfl | rfl <;> simp_all [Layout.gap]
  | indented => simp_all [Layout.gap]

theorem readValue?_string (text : String) :
    readValue? (fuel + 1) ((quoted text).map some ++ rest) = some (.string (some text), rest) := by
  rw [quoted_symbols, readValue?, skipBlanks_cons rfl]
  simp [readString?_escaped]

theorem readItems?_close :
    readItems? (fuel + 1) ((layout.gap depth).map some ++ some ']' :: rest) = some ([], rest) := by
  simp [readItems?, skipBlanks_cons, isBlank]

theorem readFields?_close :
    readFields? (fuel + 1) ((layout.gap depth).map some ++ some '}' :: rest) = some ([], rest) := by
  simp [readFields?, skipBlanks_cons, isBlank]

variable (layout) (depth)

theorem readValue?_array {item : Tree} {items : List Tree} (visible : isBlank first = false)
    (open' : first ≠ some ']') (head : readValue? fuel (first :: input) = some (item, middle))
    (tail : readItems? fuel middle = some (items, rest)) :
    readValue? (fuel + 1) (some '[' :: ((layout.gap depth).map some ++ first :: input)) =
      some (.array (item :: items), rest) := by
  rw [readValue?, skipBlanks_cons rfl]
  simp only [skipBlanks_gap, skipBlanks_cons visible]
  split
  · next same => simp_all
  · simp [head, tail]

theorem readValue?_object {field : Option String × Tree} {fields : List (Option String × Tree)}
    (head : readField? fuel (some '"' :: input) = some (field, middle))
    (tail : readFields? fuel middle = some (fields, rest)) :
    readValue? (fuel + 1) (some '{' :: ((layout.gap depth).map some ++ some '"' :: input)) =
      some (.object (field :: fields), rest) := by
  rw [readValue?, skipBlanks_cons rfl]
  simp [skipBlanks_cons, isBlank, head, tail]

theorem readItems?_item {item : Tree} {items : List Tree}
    (head : readValue? fuel input = some (item, middle))
    (tail : readItems? fuel middle = some (items, rest)) :
    readItems? (fuel + 1) (some ',' :: ((layout.gap depth).map some ++ input)) =
      some (item :: items, rest) := by
  simp [readItems?, skipBlanks_cons, isBlank, head, tail]

theorem readField?_quoted {value : Tree} (key : String)
    (read : readValue? fuel input = some (value, rest)) :
    readField? (fuel + 1) ((quoted key).map some ++ (layout.colon.map some ++ input)) =
      some ((some key, value), rest) := by
  have blank : readValue? fuel (some ' ' :: input) = readValue? fuel input := by
    cases fuel <;> simp [readValue?, skipBlanks, isBlank]
  rw [quoted_symbols, readField?, skipBlanks_cons rfl]
  cases layout <;> simp [readString?_escaped, Layout.colon, skipBlanks_cons, isBlank, blank, read]

theorem readFields?_field {field : Option String × Tree} {fields : List (Option String × Tree)}
    (head : readField? fuel input = some (field, middle))
    (tail : readFields? fuel middle = some (fields, rest)) :
    readFields? (fuel + 1) (some ',' :: ((layout.gap depth).map some ++ input)) =
      some (field :: fields, rest) := by
  simp [readFields?, skipBlanks_cons, isBlank, head, tail]

end Steps

/-- No number starts with a blank or like the end of an array. -/
theorem number_head (number : Number) : ∃ first others,
    number.chars = first :: others ∧ isBlank (some first) = false ∧ first ≠ ']' := by
  have digit : ∀ c : Char, c.isDigit = true → isBlank (some c) = false ∧ c ≠ ']' := by
    intro c digit
    simp only [isBlank, Bool.or_eq_false_iff, beq_eq_false_iff_ne, ne_eq, Option.some.injEq]
    refine ⟨⟨⟨⟨?_, ?_⟩, ?_⟩, ?_⟩, ?_⟩ <;> rintro rfl <;> exact absurd digit (by decide)
  rcases number.chars_cases with null | ⟨negative, spelling, proper, written⟩
  · exact ⟨_, _, null, by decide⟩
  · obtain ⟨first, others, spelled, isDigit⟩ := exists_first proper
    cases negative with
    | true => exact ⟨_, _, written, by decide⟩
    | false => exact ⟨first, others, written.trans spelled, digit first isDigit⟩

/-- No value starts with a blank or like the end of an array. -/
theorem chars_head (value : Json) (layout : Layout) (depth : Nat) :
    ∃ first others, value.chars layout depth = first :: others ∧ isBlank (some first) = false ∧
      first ≠ ']' := by
  fun_cases chars layout depth value
  case case4 number => exact number_head number
  all_goals exact ⟨_, _, rfl, rfl, by decide⟩

theorem delimited_items (layout : Layout) (items : List Json) (depth outer : Nat)
    (rest : List Symbol) : Delimited ((itemsChars layout depth items).map some ++
      ((layout.gap outer).map some ++ some ']' :: rest)) := by
  cases items with
  | nil => exact delimited_gap (.inl rfl)
  | cons item items => simp [itemsChars, Delimited]

theorem delimited_fields (layout : Layout) (fields : Fields) (depth outer : Nat)
    (rest : List Symbol) : Delimited ((fieldsChars layout depth fields).map some ++
      ((layout.gap outer).map some ++ some '}' :: rest)) := by
  cases fields with
  | nil => exact delimited_gap (.inr rfl)
  | cons field fields => simp [fieldsChars, Delimited]

theorem quoted_length (text : String) : 2 ≤ (quoted text).length := by
  simp [quoted]

-- Each call has more fuel than its text has characters, and no character is read twice.
mutual

theorem readValue?_chars (layout : Layout) : (value : Json) → ∀ depth fuel rest,
    (value.chars layout depth).length ≤ fuel + 1 → Delimited rest →
      readValue? (fuel + 1) ((value.chars layout depth).map some ++ rest) =
        some (value.readBack, rest)
  | .null, depth, fuel, rest, _, _ => by
    simp [chars, readValue?, skipBlanks_cons, isBlank, readBack]
  | .bool true, depth, fuel, rest, _, _ => by
    simp [chars, readValue?, skipBlanks_cons, isBlank, readBack]
  | .bool false, depth, fuel, rest, _, _ => by
    simp [chars, readValue?, skipBlanks_cons, isBlank, readBack]
  | .number value, depth, fuel, rest, _, delimited =>
    readValue?_number value delimited fuel
  | .string text, depth, fuel, rest, _, _ => readValue?_string text
  | .array [], depth, fuel, rest, _, _ => by
    simp [chars, readValue?, skipBlanks_cons, isBlank, readBack, itemsReadBack]
  | .array (item :: items), depth, fuel, rest, enough, _ => by
    obtain ⟨first, others, written, visible, open'⟩ := chars_head item layout (depth + 1)
    simp only [chars, List.length_append, List.length_cons] at enough
    obtain ⟨fuel, rfl⟩ : ∃ less, fuel = less + 1 := ⟨fuel - 1, by omega⟩
    have follows := delimited_items layout items (depth + 1) depth rest
    have head := readValue?_chars layout item (depth + 1) fuel _ (by omega) follows
    have tail := readItems?_chars layout items (depth + 1) depth fuel rest (by omega)
    rw [written] at head
    have bracket : some first ≠ some ']' := by simpa using open'
    have read := readValue?_array layout (depth + 1) visible bracket head tail
    simpa [chars, written, readBack, itemsReadBack] using read
  | .object [], depth, fuel, rest, _, _ => by
    simp [chars, readValue?, skipBlanks_cons, isBlank, readBack, fieldsReadBack]
  | .object ((key, value) :: fields), depth, fuel, rest, enough, _ => by
    have quotes := quoted_length key
    simp only [chars, List.length_append, List.length_cons] at enough
    obtain ⟨fuel, rfl⟩ : ∃ less, fuel = less + 2 := ⟨fuel - 2, by omega⟩
    have follows := delimited_fields layout fields (depth + 1) depth rest
    have held := readValue?_chars layout value (depth + 1) fuel _ (by omega) follows
    have head := readField?_quoted layout key held
    have tail :=
      readFields?_chars layout fields (depth + 1) depth (fuel + 1) rest (by omega)
    rw [quoted_symbols] at head
    have read := readValue?_object layout (depth + 1) head tail
    simpa [chars, quoted_symbols, readBack, fieldsReadBack] using read

theorem readItems?_chars (layout : Layout) : (items : List Json) →
    ∀ depth outer fuel rest, (itemsChars layout depth items).length ≤ fuel →
      readItems? (fuel + 1) ((itemsChars layout depth items).map some ++
        ((layout.gap outer).map some ++ some ']' :: rest)) = some (itemsReadBack items, rest)
  | [], depth, outer, fuel, rest, _ => readItems?_close
  | item :: items, depth, outer, fuel, rest, enough => by
    simp only [itemsChars, List.length_append, List.length_cons] at enough
    obtain ⟨fuel, rfl⟩ : ∃ less, fuel = less + 1 := ⟨fuel - 1, by omega⟩
    have follows := delimited_items layout items depth outer rest
    have head := readValue?_chars layout item depth fuel _ (by omega) follows
    have tail := readItems?_chars layout items depth outer fuel rest (by omega)
    have read := readItems?_item layout depth head tail
    simpa [itemsChars, itemsReadBack] using read

theorem readFields?_chars (layout : Layout) : (fields : Fields) →
    ∀ depth outer fuel rest, (fieldsChars layout depth fields).length ≤ fuel →
      readFields? (fuel + 1) ((fieldsChars layout depth fields).map some ++
        ((layout.gap outer).map some ++ some '}' :: rest)) = some (fieldsReadBack fields, rest)
  | [], depth, outer, fuel, rest, _ => readFields?_close
  | (key, value) :: fields, depth, outer, fuel, rest, enough => by
    have quotes := quoted_length key
    simp only [fieldsChars, List.length_append, List.length_cons] at enough
    obtain ⟨fuel, rfl⟩ : ∃ less, fuel = less + 2 := ⟨fuel - 2, by omega⟩
    have follows := delimited_fields layout fields depth outer rest
    have held := readValue?_chars layout value depth fuel _ (by omega) follows
    have head := readField?_quoted layout key held
    have tail := readFields?_chars layout fields depth outer (fuel + 1) rest (by omega)
    have read := readFields?_field layout depth head tail
    simpa [fieldsChars, fieldsReadBack] using read

end

/-- The text of any value is the text of one value, and nothing more. -/
theorem ofText?_readBack (value : Json) (layout : Layout) :
    Tree.ofText? (String.ofList (value.chars layout 0)) = some value.readBack := by
  have read := readValue?_chars layout value 0 (2 * (value.chars layout 0).length + 1) []
    (by omega) (by simp [Delimited])
  rw [List.append_nil] at read
  simp [Tree.ofText?, Tree.ofSymbols?, Symbol.ofText, read, skipBlanks]

mutual

theorem readBack_whole : (value : Json) → value.Whole → value.readBack = value.toTree
  | .null, _ => rfl
  | .bool _, _ => rfl
  | .number _, whole => Number.Whole.readBack whole
  | .string _, _ => rfl
  | .array items, whole => congrArg Tree.array (itemsReadBack_whole items whole)
  | .object fields, whole => congrArg Tree.object (fieldsReadBack_whole fields whole)

theorem itemsReadBack_whole : (items : List Json) → ItemsWhole items →
    itemsReadBack items = itemsToTree items
  | [], _ => rfl
  | item :: rest, whole => by
    rw [itemsReadBack, itemsToTree, readBack_whole item whole.1, itemsReadBack_whole rest whole.2]

theorem fieldsReadBack_whole : (fields : Fields) → FieldsWhole fields →
    fieldsReadBack fields = fieldsToTree fields
  | [], _ => rfl
  | (key, value) :: rest, whole => by
    rw [fieldsReadBack, fieldsToTree, readBack_whole value whole.1,
      fieldsReadBack_whole rest whole.2]

end

section OneLine

theorem no_newline_escaped (c : Char) : '\n' ∉ escaped c := by
  have digit : ∀ value < 16, hexDigit value ≠ '\n' := by decide
  fun_cases escaped c
  case case8 control =>
    have high := digit (c.toNat / 16) (by omega)
    have low := digit (c.toNat % 16) (by omega)
    simp [high.symm, low.symm]
  case case9 newline _ _ _ _ _ => simpa using Ne.symm newline
  all_goals decide

theorem no_newline_quoted (text : String) : '\n' ∉ quoted text := by
  simp [quoted, no_newline_escaped]

theorem no_newline_digits {digits : List Char} (row : Decimal.IsDigits digits) : '\n' ∉ digits :=
  fun member => absurd (row.2 '\n' member) (by decide)

theorem no_newline_number (number : Number) : '\n' ∉ number.chars := by
  rcases number.chars_cases with null | ⟨negative, spelling, proper, written⟩
  · rw [null]
    decide
  · have whole := no_newline_digits proper.whole
    have fraction : '\n' ∉ Decimal.Spelling.fractionChars spelling.fraction := by
      cases digits : spelling.fraction with
      | none => exact List.not_mem_nil
      | some row => simpa [Decimal.Spelling.fractionChars] using
          no_newline_digits (proper.fraction row digits)
    have exponent : '\n' ∉ Decimal.Spelling.exponentChars spelling.exponent := by
      cases digits : spelling.exponent with
      | none => exact List.not_mem_nil
      | some power =>
          obtain ⟨below, row⟩ := power
          have row := no_newline_digits (proper.exponent below row digits)
          cases below <;> simpa [Decimal.Spelling.exponentChars] using row
    rw [written]
    cases negative <;> simp [signChars, Decimal.Spelling.chars, whole, fraction, exponent]

mutual

theorem no_newline_chars : (value : Json) → ∀ depth, '\n' ∉ value.chars .compact depth
  | .null, depth => by simp [chars]
  | .bool true, depth => by simp [chars]
  | .bool false, depth => by simp [chars]
  | .number value, depth => no_newline_number value
  | .string text, depth => no_newline_quoted text
  | .array [], depth => by simp [chars]
  | .array (item :: items), depth => by
    simp [chars, Layout.gap, no_newline_chars item, no_newline_items items]
  | .object [], depth => by simp [chars]
  | .object ((key, value) :: fields), depth => by
    simp [chars, Layout.gap, Layout.colon, no_newline_quoted, no_newline_chars value,
      no_newline_fields fields]

theorem no_newline_items : (items : List Json) → ∀ depth, '\n' ∉ itemsChars .compact depth items
  | [], depth => List.not_mem_nil
  | item :: rest, depth => by
    simp [itemsChars, Layout.gap, no_newline_chars item, no_newline_items rest]

theorem no_newline_fields : (fields : Fields) → ∀ depth, '\n' ∉ fieldsChars .compact depth fields
  | [], depth => List.not_mem_nil
  | (key, value) :: rest, depth => by
    simp [fieldsChars, Layout.gap, Layout.colon, no_newline_quoted, no_newline_chars value,
      no_newline_fields rest]

end

/-- The compact text of a value takes one line, whatever characters its strings have. -/
theorem compact_line (value : Json) :
    '\n' ∉ value.compact.toList ∧ Tree.ofText? value.compact = some value.readBack := by
  refine ⟨?_, ofText?_readBack value .compact⟩
  rw [compact, String.toList_ofList]
  exact no_newline_chars value 0

end OneLine

/-- A text written from a value is read as this value. -/
theorem ofText?_chars {value : Json} (whole : value.Whole) (layout : Layout) :
    Tree.ofText? (String.ofList (value.chars layout 0)) = some value.toTree := by
  rw [ofText?_readBack, readBack_whole value whole]

end DeploymentLifecycle.Json
