import DeploymentLifecycle.Text.Basic

namespace DeploymentLifecycle.Text

/-! Numbers in decimal digits: which texts are read as which number. -/

/-- One or more decimal digits and the number that they stand for, leading zeros allowed. -/
structure Decimal (digits : List Char) (value : Nat) : Prop where
  some : digits ≠ []
  all : ∀ c ∈ digits, c.isDigit = true
  value : Nat.ofDigitChars 10 digits 0 = value

variable {c : Char} {digit start value limit : Nat} {digits text : List Char}

/-- All characters of a text that is known can be looked at. -/
theorem forall_of_all {kind : Char → Bool} {known : Bool}
    (looked : (text.all fun c => kind c == known) = true) : ∀ c ∈ text, kind c = known :=
  fun c member => eq_of_beq (List.all_eq_true.1 looked c member)

theorem digitValue?_eq_some_iff :
    digitValue? c = some digit ↔ c.isDigit = true ∧ digit = c.toNat - '0'.toNat := by
  have inRange : c.isDigit = true ↔ '0' ≤ c ∧ c ≤ '9' := by
    simp only [Char.isDigit, Bool.and_eq_true, decide_eq_true_eq]
    exact Iff.rfl
  rw [digitValue?, inRange]
  split
  · next within => simp [within, eq_comm]
  · next outside => simp [outside]

theorem digitValue?_eq_none_iff : digitValue? c = none ↔ c.isDigit = false := by
  rw [Option.eq_none_iff_forall_ne_some]
  constructor
  · intro none
    cases isDigit : c.isDigit with
    | false => rfl
    | true => exact absurd (digitValue?_eq_some_iff.2 ⟨isDigit, rfl⟩) (none _)
  · intro other digit found
    rw [(digitValue?_eq_some_iff.1 found).1] at other
    cases other

theorem ofDigitChars_cons :
    Nat.ofDigitChars 10 (c :: digits) start =
      Nat.ofDigitChars 10 digits (start * 10 + (c.toNat - '0'.toNat)) := by
  rw [Nat.ofDigitChars_eq_foldl, Nat.ofDigitChars_eq_foldl, List.foldl_cons, Nat.mul_comm]

/-- A step of the reading: the number so far gets another digit. -/
private def append (value : Option Nat) (c : Char) : Option Nat := do
  return (← value) * 10 + (← digitValue? c)

theorem foldl_append_none : digits.foldl append none = none := by
  induction digits with
  | nil => rfl
  | cons c digits ih => exact ih

theorem foldl_append_eq_some_iff : digits.foldl append (some start) = some value ↔
    (∀ c ∈ digits, c.isDigit = true) ∧ Nat.ofDigitChars 10 digits start = value := by
  induction digits generalizing start with
  | nil => simp
  | cons c digits ih =>
      rw [List.foldl_cons, List.forall_mem_cons, ofDigitChars_cons]
      cases found : digitValue? c with
      | none =>
          have other := digitValue?_eq_none_iff.1 found
          have stuck : append (some start) c = none := by simp [append, found]
          simp [stuck, foldl_append_none, other]
      | some digit =>
          obtain ⟨isDigit, rfl⟩ := digitValue?_eq_some_iff.1 found
          have step : append (some start) c = some (start * 10 + (c.toNat - '0'.toNat)) := by
            simp [append, found]
          rw [step, ih, and_assoc]
          simp [isDigit]

theorem digitsValue?_eq_some_iff : digitsValue? digits = some value ↔
    (∀ c ∈ digits, c.isDigit = true) ∧ Nat.ofDigitChars 10 digits 0 = value :=
  foldl_append_eq_some_iff

theorem Decimal.no_plus (decimal : Decimal ('+' :: digits) value) : False :=
  absurd (decimal.all '+' List.mem_cons_self) (by decide)

/-- What is read as a number up to a limit: digits, behind one plus sign at most. -/
theorem natural?_eq_some_iff : natural? limit text = some value ↔
    ∃ sign digits, text = sign ++ digits ∧ (sign = [] ∨ sign = ['+']) ∧ Decimal digits value ∧
      value ≤ limit := by
  have unsigned : ∀ digits : List Char,
      (if digits.isEmpty then none else (digitsValue? digits).filter (· ≤ limit)) = some value ↔
        Decimal digits value ∧ value ≤ limit := by
    intro digits
    cases digits with
    | nil => simpa using fun decimal : Decimal [] value => absurd rfl decimal.some
    | cons c digits =>
        simp only [List.isEmpty_cons, Bool.false_eq_true, if_false, Option.filter_eq_some_iff,
          digitsValue?_eq_some_iff, decide_eq_true_eq]
        exact and_congr_left fun _ => ⟨fun ⟨all, same⟩ => ⟨nofun, all, same⟩,
          fun decimal => ⟨decimal.all, decimal.value⟩⟩
  have signed : ∀ rest, natural? limit ('+' :: rest) = some value ↔
      Decimal rest value ∧ value ≤ limit := unsigned
  by_cases plus : ∃ rest, text = '+' :: rest
  · obtain ⟨rest, rfl⟩ := plus
    rw [signed]
    constructor
    · exact fun read => ⟨['+'], rest, rfl, .inr rfl, read⟩
    · rintro ⟨_, digits, same, rfl | rfl, read⟩
      · obtain rfl : '+' :: rest = digits := same
        exact read.1.no_plus.elim
      · exact List.tail_eq_of_cons_eq same ▸ read
  · have plain : ∀ rest, text = '+' :: rest → False := fun rest same => plus ⟨rest, same⟩
    rw [natural?.eq_2 _ _ plain, unsigned]
    constructor
    · exact fun read => ⟨[], text, rfl, .inl rfl, read⟩
    · rintro ⟨_, digits, rfl, rfl | rfl, read⟩
      · exact read
      · exact absurd ⟨digits, rfl⟩ plus

theorem decimal_toDigits : Decimal (Nat.toDigits 10 value) value where
  some := Nat.toDigits_ne_nil
  all _ := Nat.isDigit_of_mem_toDigits (by decide) (by decide)
  value := Nat.ofDigitChars_ten_toDigits

theorem toDigits_injective : Function.Injective (Nat.toDigits 10) := by
  intro one other same
  have read := congrArg (fun digits => Nat.ofDigitChars 10 digits 0) same
  simpa only [Nat.ofDigitChars_ten_toDigits] using read

/-- Only zero itself is written with a zero in front. -/
theorem head?_toDigits (positive : 0 < value) : (Nat.toDigits 10 value).head? ≠ some '0' := by
  induction value using Nat.strongRecOn with
  | ind value ih =>
      rw [Nat.toDigits_eq_if (by decide)]
      split
      · next small =>
        have digit : ∀ value < 10, 0 < value → value.digitChar ≠ '0' := by decide
        simpa using digit value small positive
      · next large =>
        have fewer := ih (value / 10) (by omega) (by omega)
        have some' : Nat.toDigits 10 (value / 10) ≠ [] := Nat.toDigits_ne_nil
        obtain ⟨first, others, written⟩ := List.exists_cons_of_ne_nil some'
        rw [written] at fewer ⊢
        exact fewer

end DeploymentLifecycle.Text
