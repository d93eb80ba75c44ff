import DeploymentLifecycle.Json.Printer
import DeploymentLifecycle.Json.Reader
import DeploymentLifecycle.Proofs.Decimal.Spelling

namespace DeploymentLifecycle.Json

/-! How numbers are read: every number as what its text stands for, whatever may follow it, and those
that integers are read as just as they were written. -/

open Decimal (IsDigits Spelling)

/-- The numbers that integers are read as: those that are kept as integers, and minus zero. -/
inductive Number.Whole : Number → Prop
  | int {value : Int} (least : leastInt ≤ value) (greatest : value ≤ Text.maxUInt64) :
      Whole (.int value)
  | minusZero : Whole (.double 0x8000000000000000)

/-- What may stand behind a value. No number goes on with it. -/
def Delimited (rest : List Symbol) : Prop :=
  ∀ symbol ∈ rest.head?, symbol ∈ [some ',', some ']', some '}', some '\n']

def digitValue (c : Char) : Nat := c.toNat - '0'.toNat

section Digits

variable {digits : List Char} {rest : List Symbol} {c : Char}

theorem digitValue?_of_isDigit (digit : c.isDigit = true) :
    Text.digitValue? c = some (digitValue c) :=
  Text.digitValue?_eq_some_iff.2 ⟨digit, rfl⟩

theorem eq_zero_of_digitValue (digit : c.isDigit = true) (zero : digitValue c = 0) : c = '0' := by
  simp only [Char.isDigit, Bool.and_eq_true, decide_eq_true_eq, ge_iff_le, UInt32.le_iff_toNat_le]
    at digit
  have within : 48 ≤ c.toNat ∧ c.toNat ≤ 57 := digit
  have code : c.toNat - 48 = 0 := zero
  rw [← Char.toNat_inj]
  change c.toNat = 48
  omega

theorem readDigits_digits (all : ∀ c ∈ digits, c.isDigit = true)
    (ends : readDigits rest = ([], rest)) :
    readDigits (digits.map some ++ rest) = (digits.map digitValue, rest) := by
  induction digits with
  | nil => exact ends
  | cons c digits ih =>
      obtain ⟨digit, others⟩ := List.forall_mem_cons.1 all
      simp [readDigits, digitValue?_of_isDigit digit, ih others]

theorem readSomeDigits?_digits (row : IsDigits digits) (ends : readDigits rest = ([], rest)) :
    readSomeDigits? (digits.map some ++ rest) = some (digits.map digitValue, rest) := by
  rw [readSomeDigits?, readDigits_digits row.2 ends]
  obtain ⟨first, others, rfl⟩ := List.exists_cons_of_ne_nil row.1
  rfl

theorem Delimited.cases (delimited : Delimited rest) : rest = [] ∨ ∃ tail,
    rest = some ',' :: tail ∨ rest = some ']' :: tail ∨ rest = some '}' :: tail ∨
      rest = some '\n' :: tail := by
  cases rest with
  | nil => exact .inl rfl
  | cons symbol tail =>
      have found := delimited symbol rfl
      simp only [List.mem_cons, List.not_mem_nil, or_false] at found
      refine .inr ⟨tail, ?_⟩
      rcases found with rfl | rfl | rfl | rfl <;> simp

theorem readDigits_delimited (delimited : Delimited rest) : readDigits rest = ([], rest) := by
  rcases delimited.cases with rfl | ⟨_, rfl | rfl | rfl | rfl⟩ <;> rfl

theorem readFraction?_delimited (delimited : Delimited rest) :
    readFraction? rest = some (none, rest) := by
  rcases delimited.cases with rfl | ⟨_, rfl | rfl | rfl | rfl⟩ <;> rfl

theorem readExponent?_delimited (delimited : Delimited rest) :
    readExponent? rest = some (none, rest) := by
  rcases delimited.cases with rfl | ⟨_, rfl | rfl | rfl | rfl⟩ <;> rfl

end Digits

section Spelled

variable {spelling : Spelling} {rest : List Symbol}

/-- The parts of a number as they are read. -/
def numeralOf (negative : Bool) (spelling : Spelling) : Numeral where
  negative
  whole := spelling.whole.map digitValue
  fraction := spelling.fraction.map (·.map digitValue)
  exponent := spelling.exponent.map fun (below, digits) => (below, digits.map digitValue)

theorem readExponent?_spelled (proper : spelling.Proper) (delimited : Delimited rest) :
    readExponent? ((Spelling.exponentChars spelling.exponent).map some ++ rest) =
      some ((numeralOf true spelling).exponent, rest) := by
  have digits := proper.exponent
  rw [numeralOf]
  cases written : spelling.exponent with
  | none => exact readExponent?_delimited delimited
  | some exponent =>
      obtain ⟨below, row⟩ := exponent
      have read := readSomeDigits?_digits (digits below row written) (readDigits_delimited delimited)
      cases below <;> simp [Spelling.exponentChars, readExponent?, readSign, read]

theorem readDigits_exponent (delimited : Delimited rest) :
    readDigits ((Spelling.exponentChars spelling.exponent).map some ++ rest) =
      ([], (Spelling.exponentChars spelling.exponent).map some ++ rest) := by
  cases spelling.exponent with
  | none => exact readDigits_delimited delimited
  | some _ => rfl

theorem readFraction?_spelled (proper : spelling.Proper) (delimited : Delimited rest) :
    readFraction? ((Spelling.fractionChars spelling.fraction).map some ++
        ((Spelling.exponentChars spelling.exponent).map some ++ rest)) =
      some ((numeralOf true spelling).fraction,
        (Spelling.exponentChars spelling.exponent).map some ++ rest) := by
  have digits := proper.fraction
  rw [numeralOf]
  cases written : spelling.fraction with
  | none =>
      cases spelling.exponent with
      | none => exact readFraction?_delimited delimited
      | some _ => rfl
  | some row =>
      have ends := @readDigits_exponent spelling rest delimited
      have read := readSomeDigits?_digits (digits row written) ends
      simp [Spelling.fractionChars, readFraction?, read]

theorem readDigits_fraction (delimited : Delimited rest) :
    readDigits ((Spelling.fractionChars spelling.fraction).map some ++
        ((Spelling.exponentChars spelling.exponent).map some ++ rest)) =
      ([], (Spelling.fractionChars spelling.fraction).map some ++
        ((Spelling.exponentChars spelling.exponent).map some ++ rest)) := by
  cases spelling.fraction with
  | none => exact readDigits_exponent delimited
  | some _ => rfl

theorem no_leading_zero (proper : spelling.Proper) :
    ¬ ((spelling.whole.map digitValue).head? = some 0 ∧
      (spelling.whole.map digitValue).length ≠ 1) := by
  rintro ⟨zero, long⟩
  rw [List.head?_map, Option.map_eq_some_iff] at zero
  obtain ⟨c, first, zero⟩ := zero
  have digit := proper.whole.2 c (List.mem_of_mem_head? first)
  rw [eq_zero_of_digitValue digit zero] at first
  exact long (by rw [List.length_map, proper.lone first])

/-- A number is read up to its end. -/
theorem readNumeral?_spelled (proper : spelling.Proper) (negative : Bool)
    (delimited : Delimited rest) :
    readNumeral? negative (spelling.chars.map some ++ rest) =
      some (numeralOf negative spelling, rest) := by
  have parts : spelling.chars.map some ++ rest = spelling.whole.map some ++
      ((Spelling.fractionChars spelling.fraction).map some ++
        ((Spelling.exponentChars spelling.exponent).map some ++ rest)) := by
    simp [Spelling.chars]
  rw [parts, readNumeral?, readSomeDigits?_digits proper.whole (readDigits_fraction delimited)]
  simp only [Option.bind_eq_bind, Option.bind_some, if_neg (no_leading_zero proper),
    readFraction?_spelled proper delimited, readExponent?_spelled proper delimited]
  rfl

/-- A number starts with a digit. -/
theorem exists_first (proper : spelling.Proper) : ∃ first others,
    spelling.chars = first :: others ∧ first.isDigit = true := by
  obtain ⟨first, digits, written⟩ := List.exists_cons_of_ne_nil proper.whole.1
  have digit := proper.whole.2 first (written ▸ List.mem_cons_self)
  have chars : spelling.chars = first :: (digits ++ (Spelling.fractionChars spelling.fraction ++
      Spelling.exponentChars spelling.exponent)) := by
    rw [Spelling.chars, written, List.append_assoc, List.cons_append]
  exact ⟨first, _, chars, digit⟩

end Spelled

section Values

variable {spelling : Spelling} {rest : List Symbol} {number : Number}

def signChars (negative : Bool) : List Char := if negative then ['-'] else []

theorem skipBlanks_cons {symbol : Symbol} {input : List Symbol} (visible : isBlank symbol = false) :
    skipBlanks (symbol :: input) = symbol :: input := by
  simp [skipBlanks, visible]

theorem readValue?_minus {input : List Symbol} (fuel : Nat) :
    readValue? (fuel + 1) (some '-' :: input) = (readNumeral? true input).map
      fun (numeral, rest) => (.number numeral.value?, rest) := by
  rw [readValue?, skipBlanks_cons rfl]
  split
  case h_7 same =>
    cases same
    cases readNumeral? true input <;> rfl
  case h_8 other => exact absurd rfl (other input)
  all_goals
    next same => simp at same

/-- A text that starts with a digit is read as a number. -/
theorem readValue?_digit {first : Char} {input : List Symbol} (fuel : Nat)
    (digit : first.isDigit = true) :
    readValue? (fuel + 1) (some first :: input) = (readNumeral? false (some first :: input)).map
      fun (numeral, rest) => (.number numeral.value?, rest) := by
  have visible : isBlank (some first) = false := by
    rw [Bool.eq_false_iff]
    intro blank
    simp only [isBlank, Bool.or_eq_true, beq_iff_eq, Option.some.injEq] at blank
    rcases blank with ((rfl | rfl) | rfl) | rfl <;> exact absurd digit (by decide)
  have other : ∀ {c : Char} {rest : List Symbol}, some first :: input = some c :: rest →
      c.isDigit = true := by
    intro c rest same
    cases same
    exact digit
  rw [readValue?, skipBlanks_cons visible]
  split
  case h_8 => cases readNumeral? false (some first :: input) <;> rfl
  all_goals
    next same => exact absurd (other same) (by decide)

theorem readValue?_spelled (proper : spelling.Proper) (negative : Bool) (delimited : Delimited rest)
    (fuel : Nat) :
    readValue? (fuel + 1) ((signChars negative ++ spelling.chars).map some ++ rest) =
      some (.number (numeralOf negative spelling).value?, rest) := by
  have read := readNumeral?_spelled proper negative delimited
  cases negative with
  | true => simp [signChars, readValue?_minus, read]
  | false =>
      obtain ⟨first, others, written, digit⟩ := exists_first proper
      rw [written] at read
      simp only [signChars, Bool.false_eq_true, if_false, List.nil_append, written, List.map_cons,
        List.cons_append] at read ⊢
      rw [readValue?_digit fuel digit, read, Option.map_some]

theorem natural_chars (count : Nat) : (Number.int (count : Int)).chars = Nat.toDigits 10 count :=
  Nat.toList_repr

theorem negative_chars (count : Nat) : (Number.int (-((count + 1 : Nat) : Int))).chars =
    '-' :: Nat.toDigits 10 (count + 1) := by
  change ("-" ++ Nat.repr (count + 1)).toList = _
  rw [String.toList_append, Nat.toList_repr]
  rfl

theorem natural_spelling (count : Nat) :
    (Spelling.mk (Nat.toDigits 10 count) none none).chars = Nat.toDigits 10 count := by
  simp [Spelling.chars, Spelling.fractionChars, Spelling.exponentChars]

/-- A number is written as null, or as one. -/
theorem Number.chars_cases (number : Number) : number.chars = ['n', 'u', 'l', 'l'] ∨
    ∃ negative, ∃ spelling : Spelling, spelling.Proper ∧
      number.chars = signChars negative ++ spelling.chars := by
  cases number with
  | int value =>
      refine .inr ?_
      cases value with
      | ofNat count =>
          refine ⟨false, _, Decimal.natural_proper count, ?_⟩
          rw [Int.ofNat_eq_natCast, natural_chars, natural_spelling]
          rfl
      | negSucc count =>
          refine ⟨true, _, Decimal.natural_proper (count + 1), ?_⟩
          rw [Int.negSucc_eq, ← Int.natCast_succ, negative_chars, natural_spelling]
          rfl
  | double bits =>
      rw [Number.chars]
      cases finite : Decimal.text? bits with
      | none => exact .inl rfl
      | some chars =>
          obtain ⟨sign, spelling, rfl | rfl, proper, rfl⟩ := Decimal.text?_spelled finite
          · exact .inr ⟨false, spelling, proper, rfl⟩
          · exact .inr ⟨true, spelling, proper, rfl⟩

/-- What the text of a number is read as: a number, or null for a double that is none. -/
def Number.readBack (number : Number) : Tree :=
  match readValue? 1 (number.chars.map some) with
  | some (tree, _) => tree
  | none => .null

theorem readBack_of_spelled {negative : Bool} (proper : spelling.Proper)
    (written : number.chars = signChars negative ++ spelling.chars) :
    number.readBack = .number (numeralOf negative spelling).value? := by
  have read := @readValue?_spelled _ [] proper negative nofun 0
  rw [List.append_nil] at read
  rw [Number.readBack, written, read]

/-- A number is read as the same whatever follows it. -/
theorem readValue?_number (number : Number) (delimited : Delimited rest) (fuel : Nat) :
    readValue? (fuel + 1) (number.chars.map some ++ rest) = some (number.readBack, rest) := by
  rcases number.chars_cases with null | ⟨negative, spelling, proper, written⟩
  · simp [Number.readBack, null, readValue?, skipBlanks_cons, isBlank]
  · rw [readBack_of_spelled proper written, written, readValue?_spelled proper negative delimited]

end Values

section Whole

variable {digits : List Nat} {rest : List Symbol} {count : Nat}

theorem le_foldl_digits (digits : List Nat) (start : Nat) :
    start ≤ digits.foldl (fun value digit => value * 10 + digit) start := by
  induction digits generalizing start with
  | nil => exact Nat.le.refl
  | cons digit digits ih =>
      have later := ih (start * 10 + digit)
      simp only [List.foldl_cons]
      omega

/-- Digits that all fit are gathered without a loss. -/
theorem foldl_push {start taken : Nat}
    (fits : digits.foldl (fun value digit => value * 10 + digit) start ≤ Text.maxUInt64) :
    digits.foldl Significand.push ⟨start, taken, 0⟩ =
      ⟨digits.foldl (fun value digit => value * 10 + digit) start, taken + digits.length, 0⟩ := by
  induction digits generalizing start taken with
  | nil => rfl
  | cons digit digits ih =>
      simp only [List.foldl_cons] at fits ⊢
      have next : start * 10 + digit ≤ Text.maxUInt64 :=
        Nat.le_trans (le_foldl_digits digits _) fits
      have pushed : Significand.push ⟨start, taken, 0⟩ digit =
          ⟨start * 10 + digit, taken + 1, 0⟩ := by simp [Significand.push, next]
      rw [pushed, ih fits, List.length_cons]
      congr 1
      omega

theorem foldl_digitValue : ((Nat.toDigits 10 count).map digitValue).foldl
    (fun value digit => value * 10 + digit) 0 = count := by
  have whole : Nat.ofDigitChars 10 (Nat.toDigits 10 count) 0 = count :=
    Nat.ofDigitChars_ten_toDigits
  simpa only [Nat.ofDigitChars_eq_foldl, List.foldl_map, digitValue, Nat.mul_comm 10] using whole

theorem gather_toDigits (fits : count ≤ Text.maxUInt64) : ∃ taken,
    Significand.gather 0 ((Nat.toDigits 10 count).map digitValue) = ⟨count, taken, 0⟩ := by
  rw [Significand.gather, foldl_push (by rwa [foldl_digitValue]), foldl_digitValue]
  exact ⟨_, rfl⟩

theorem value?_natural (fits : count ≤ Text.maxUInt64) :
    (Numeral.mk false ((Nat.toDigits 10 count).map digitValue) none none).value? =
      some (.int count) := by
  obtain ⟨taken, gathered⟩ := gather_toDigits fits
  simp [Numeral.value?, gathered]

theorem value?_negative (positive : 0 < count) (least : Number.leastInt ≤ -(count : Int)) :
    (Numeral.mk true ((Nat.toDigits 10 count).map digitValue) none none).value? =
      some (.int (-count)) := by
  have fits : count ≤ Text.maxUInt64 := by
    simp only [Number.leastInt, Text.maxUInt64] at least ⊢
    omega
  obtain ⟨taken, gathered⟩ := gather_toDigits fits
  simp [Numeral.value?, gathered, Nat.ne_of_gt positive, least]

theorem minusZero_value :
    (Numeral.mk true [0] (some [0]) none).value? = some (.double 0x8000000000000000) := by decide

theorem minusZero_chars : (Number.double 0x8000000000000000).chars = ['-', '0', '.', '0'] := by
  decide

theorem Number.Whole.readBack {number : Number} (whole : number.Whole) :
    number.readBack = .number (some number) := by
  cases whole with
  | minusZero =>
      rw [@readBack_of_spelled _ _ true Decimal.zero_proper minusZero_chars]
      exact congrArg Tree.number minusZero_value
  | @int value least greatest =>
      cases value with
      | ofNat count =>
          have written := (natural_chars count).trans (natural_spelling count).symm
          have value := value?_natural (Int.ofNat_le.1 greatest)
          rw [Int.ofNat_eq_natCast,
            @readBack_of_spelled _ _ false (Decimal.natural_proper count) written]
          exact congrArg Tree.number value
      | negSucc count =>
          have value := value?_negative (Nat.succ_pos count) least
          have written := negative_chars count
          rw [← natural_spelling] at written
          rw [Int.negSucc_eq, ← Int.natCast_succ,
            @readBack_of_spelled _ _ true (Decimal.natural_proper (count + 1)) written]
          exact congrArg Tree.number value

end Whole

end DeploymentLifecycle.Json
