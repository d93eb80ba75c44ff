import DeploymentLifecycle.Decimal.Shortest
import DeploymentLifecycle.Proofs.Text.Natural

namespace DeploymentLifecycle.Decimal

/-! How doubles are spelled. Whatever the digits and the exponent are, there is a digit in front of the
point and one behind it, and no zero in front of other digits. -/

/-- One or more digits. -/
def IsDigits (digits : List Char) : Prop := digits ≠ [] ∧ ∀ c ∈ digits, c.isDigit = true

/-- The parts of a number without its sign: an exponent says whether it is below zero. -/
structure Spelling where
  whole : List Char
  fraction : Option (List Char)
  exponent : Option (Bool × List Char)

namespace Spelling

def fractionChars : Option (List Char) → List Char
  | some digits => '.' :: digits
  | none => []

def exponentChars : Option (Bool × List Char) → List Char
  | some (below, digits) => 'e' :: (if below then '-' else '+') :: digits
  | none => []

def chars (spelling : Spelling) : List Char :=
  spelling.whole ++ fractionChars spelling.fraction ++ exponentChars spelling.exponent

structure Proper (spelling : Spelling) : Prop where
  whole : IsDigits spelling.whole
  lone : spelling.whole.head? = some '0' → spelling.whole.length = 1
  fraction : ∀ digits, spelling.fraction = some digits → IsDigits digits
  exponent : ∀ below digits, spelling.exponent = some (below, digits) → IsDigits digits

end Spelling

theorem isDigits_toDigits (value : Nat) : IsDigits (Nat.toDigits 10 value) :=
  ⟨Text.decimal_toDigits.some, Text.decimal_toDigits.all⟩

theorem isDigits_zero : IsDigits ['0'] := ⟨List.cons_ne_nil _ _, Text.forall_of_all rfl⟩

theorem isDigits_zeros (count : Nat) : ∀ c ∈ List.replicate count '0', c.isDigit = true := by
  intro c member
  rw [List.eq_of_mem_replicate member]
  rfl

/-- The digits without the zeros at their end begin with one that is not zero. -/
theorem exists_kept {value : Nat} (positive : 0 < value) : ∃ first others,
    ((Nat.toDigits 10 value).reverse.dropWhile (· == '0')).reverse = first :: others ∧
      first ≠ '0' ∧ ∀ c ∈ first :: others, c.isDigit = true := by
  obtain ⟨some', all⟩ := isDigits_toDigits value
  have head := Text.head?_toDigits positive
  obtain ⟨first, rest, written⟩ := List.exists_cons_of_ne_nil some'
  rw [written] at head all ⊢
  have visible : first ≠ '0' := fun zero => head (congrArg some zero)
  have stops : [first].dropWhile (· == '0') = [first] := by simp [visible]
  refine ⟨first, (rest.reverse.dropWhile (· == '0')).reverse, ?_, visible, fun c member => ?_⟩
  · rw [List.reverse_cons, List.dropWhile_append, stops]
    split
    · next none => simp [List.isEmpty_iff.1 none]
    · rw [List.reverse_append, List.reverse_singleton, List.singleton_append]
  · rcases List.mem_cons.1 member with rfl | later
    · exact all c List.mem_cons_self
    · have kept := (List.dropWhile_suffix _).subset (List.mem_reverse.1 later)
      exact all c (List.mem_cons_of_mem _ (List.mem_reverse.1 kept))

section Text

variable {first : Char} {others : List Char} {fraction : Option (List Char)}
  {exponent : Option (Bool × List Char)}

theorem proper_of_visible (visible : first ≠ '0') (whole : IsDigits (first :: others))
    (digits : ∀ digits, fraction = some digits → IsDigits digits)
    (power : ∀ below digits, exponent = some (below, digits) → IsDigits digits) :
    Spelling.Proper ⟨first :: others, fraction, exponent⟩ where
  whole := whole
  lone zero := absurd (Option.some.inj zero) visible
  fraction := digits
  exponent := power

theorem zero_proper : Spelling.Proper ⟨['0'], some ['0'], none⟩ :=
  ⟨isDigits_zero, fun _ => rfl, fun _ same => Option.some.inj same ▸ isDigits_zero, nofun⟩

theorem IsDigits.append {digits more : List Char} (row : IsDigits digits)
    (all : ∀ c ∈ more, c.isDigit = true) : IsDigits (digits ++ more) :=
  ⟨List.append_ne_nil_of_left_ne_nil row.1 _, List.forall_mem_append.2 ⟨row.2, all⟩⟩

/-- A text that spells a number. -/
def Spelled (chars : List Char) : Prop :=
  ∃ spelling : Spelling, spelling.Proper ∧ chars = spelling.chars

section Forms

variable {count : Nat} (visible : first ≠ '0')
  (all : ∀ c ∈ first :: others, c.isDigit = true)

include visible all

/-- Zeros stand between the digits and the point. -/
theorem spelled_whole :
    Spelled (first :: others ++ List.replicate count '0' ++ ['.', '0']) := by
  have kept : IsDigits (first :: others) := ⟨List.cons_ne_nil _ _, all⟩
  have zero : ∀ digits, some ['0'] = some digits → IsDigits digits :=
    fun _ same => Option.some.inj same ▸ isDigits_zero
  have whole := kept.append (isDigits_zeros count)
  refine ⟨⟨_, some ['0'], none⟩, proper_of_visible visible whole zero nofun, ?_⟩
  simp [Spelling.chars, Spelling.fractionChars, Spelling.exponentChars]

/-- The point stands between the digits. -/
theorem spelled_inside (front : 0 < count) (short : count < (first :: others).length) :
    Spelled ((first :: others).take count ++ '.' :: (first :: others).drop count) := by
  obtain ⟨count, rfl⟩ := Nat.exists_eq_add_one.2 front
  have whole : IsDigits (first :: others.take count) :=
    ⟨List.cons_ne_nil _ _, fun c member => all c (List.take_subset (count + 1) _ member)⟩
  have back : IsDigits (others.drop count) :=
    ⟨by simpa using short, fun c member => all c (List.drop_subset (count + 1) _ member)⟩
  refine ⟨⟨first :: others.take count, some (others.drop count), none⟩,
    proper_of_visible visible whole (fun _ same => Option.some.inj same ▸ back) nofun, ?_⟩
  simp [Spelling.chars, Spelling.fractionChars, Spelling.exponentChars]

omit visible in
/-- Zeros stand between the point and the digits. -/
theorem spelled_below :
    Spelled ('0' :: '.' :: List.replicate count '0' ++ first :: others) := by
  have digits : IsDigits (List.replicate count '0' ++ first :: others) :=
    ⟨by simp, List.forall_mem_append.2 ⟨isDigits_zeros count, all⟩⟩
  refine ⟨⟨['0'], some (List.replicate count '0' ++ first :: others), none⟩,
    ⟨isDigits_zero, fun _ => rfl, fun _ same => Option.some.inj same ▸ digits, nofun⟩, ?_⟩
  simp [Spelling.chars, Spelling.fractionChars, Spelling.exponentChars]

/-- One digit stands in front of the point, and the others behind it, if there are any. -/
theorem spelled_power (below : Bool) {power : List Char} (row : IsDigits power) :
    Spelled (first :: (if others = [] then [] else '.' :: others) ++
      'e' :: (if below then '-' else '+') :: power) := by
  have digits : ∀ sign digits, some (below, power) = some (sign, digits) → IsDigits digits := by
    intro sign digits same
    obtain ⟨-, rfl⟩ := Prod.mk.inj (Option.some.inj same)
    exact row
  have one : IsDigits [first] :=
    ⟨List.cons_ne_nil _ _, List.forall_mem_singleton.2 (all first List.mem_cons_self)⟩
  cases others with
  | nil =>
      refine ⟨⟨[first], none, some (below, power)⟩,
        proper_of_visible visible one nofun digits, ?_⟩
      simp [Spelling.chars, Spelling.fractionChars, Spelling.exponentChars]
  | cons second others =>
      have more : IsDigits (second :: others) :=
        ⟨List.cons_ne_nil _ _, (List.forall_mem_cons.1 all).2⟩
      refine ⟨⟨[first], some (second :: others), some (below, power)⟩,
        proper_of_visible visible one (fun _ same => Option.some.inj same ▸ more) digits, ?_⟩
      simp [Spelling.chars, Spelling.fractionChars, Spelling.exponentChars]

end Forms

theorem text_spelled {d : Digits} (positive : 0 < d.digits) : Spelled d.text := by
  obtain ⟨first, others, written, visible, all⟩ := exists_kept positive
  simp only [Digits.text, Nat.toList_repr, written]
  generalize d.exponent + _ = exponent
  split
  · exact spelled_whole visible all
  · split
    · next outside inside =>
      exact spelled_inside visible all (by omega) (by omega)
    · split
      · exact spelled_below all
      · have row := isDigits_toDigits (((first :: others).length : Int) + exponent - 1).natAbs
        have spelled := spelled_power visible all
          (decide (((first :: others).length : Int) + exponent < 1)) row
        cases others with
        | nil => simpa using spelled
        | cons second others => simpa using spelled

theorem natural_proper (value : Nat) : Spelling.Proper ⟨Nat.toDigits 10 value, none, none⟩ where
  whole := isDigits_toDigits value
  lone zero := by
    rcases Nat.eq_zero_or_pos value with rfl | positive
    · rfl
    · exact absurd zero (Text.head?_toDigits positive)
  fraction := nofun
  exponent := nofun

end Text

section Double

variable {s : Scaled} {closed : Bool} {exponent : Int} {d : Digits} {b : Binary} {bits : UInt64}
  {chars : List Char}

/-- Zero lies outside of the interval of a positive number. -/
theorem digits_pos_of_onGrid? (positive : 0 < s.low) (found : s.onGrid? closed exponent = some d) :
    0 < d.digits := by
  unfold Scaled.onGrid? at found
  extract_lets up down unit value inside below above toBelow toAbove belowFirst first second at found
  have bound : 0 < s.low * down := Nat.mul_pos positive (Nat.pow_pos (by decide))
  have pos_of_inside : ∀ count, inside count = true → 0 < count := by
    rintro (_ | count) within
    · simp only [inside, Nat.zero_mul] at within
      split at within <;> simp only [Bool.and_eq_true, decide_eq_true_eq] at within <;> omega
    · exact Nat.succ_pos count
  split at found
  · next within =>
    obtain rfl := Option.some.inj found
    exact pos_of_inside first within
  · split at found
    · next within =>
      obtain rfl := Option.some.inj found
      exact pos_of_inside second within
    · cases found

theorem low_pos (positive : 0 < b.mantissa) : 0 < b.scaled.low := by
  rw [Binary.scaled]
  refine Nat.mul_pos ?_ (Nat.pow_pos (by decide))
  split <;> omega

theorem shortest_spelled (positive : 0 < b.mantissa) : Spelled b.shortest.text := by
  simp only [Binary.shortest]
  cases found : (List.range 17).findSome? _ with
  | some d =>
      obtain ⟨fewer, -, onGrid⟩ := List.exists_of_findSome?_eq_some found
      exact text_spelled (digits_pos_of_onGrid? (low_pos positive) onGrid)
  | none =>
      rw [Option.getD_none]
      rcases Nat.eq_zero_or_pos (b.scaled.value / b.scaled.denominator) with zero | more
      · rw [zero]
        exact ⟨_, zero_proper, by decide⟩
      · exact text_spelled more

/-- A double that is finite is spelled as a number. -/
theorem text?_spelled (finite : text? bits = some chars) : ∃ sign, ∃ spelling : Spelling,
    (sign = [] ∨ sign = ['-']) ∧ spelling.Proper ∧ chars = sign ++ spelling.chars := by
  obtain ⟨b, -, written⟩ := Option.bind_eq_some_iff.1 finite
  have same := Option.some.inj written
  have signs : (if isNegative bits then ['-'] else []) = [] ∨
      (if isNegative bits then ['-'] else []) = ['-'] := by
    split
    · exact .inr rfl
    · exact .inl rfl
  generalize (if isNegative bits then ['-'] else []) = sign at same signs
  split at same
  · exact ⟨sign, ⟨['0'], some ['0'], none⟩, signs, zero_proper, same.symm⟩
  · next some' =>
    obtain ⟨spelling, proper, spelled⟩ := shortest_spelled (Nat.pos_of_ne_zero some')
    rw [spelled] at same
    exact ⟨sign, spelling, signs, proper, same.symm⟩

end Double

end DeploymentLifecycle.Decimal
