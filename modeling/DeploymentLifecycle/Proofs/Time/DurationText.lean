import DeploymentLifecycle.Proofs.Text.Blank
import DeploymentLifecycle.Proofs.Text.Natural
import DeploymentLifecycle.Time.DurationText
import Mathlib.Data.List.Basic
import Mathlib.Tactic.Ring

namespace DeploymentLifecycle.DurationText

/-! A duration is read as it was printed. Its text is a row of parts, each of which is read whatever
comes behind it, and adds what it is worth to the amount of the parts before. -/

/-- What a unit is worth in nanoseconds. -/
def TimeUnit.nanos (unit : TimeUnit) : Nat :=
  unit.worth.1 * if unit.worth.2 then 1_000_000_000 else 1

/-- A count of one unit, and the name by which the unit goes. -/
structure Part where
  count : Nat
  unit : TimeUnit
  name : String

namespace Part

def text (part : Part) : String := toString part.count ++ part.name

def nanos (part : Part) : Nat := part.count * part.unit.nanos

/-- A name of a unit, in letters that such names are made of. -/
structure Names (unit : TimeUnit) (name : String) : Prop where
  named : TimeUnit.ofName? name = some unit
  letters : ∀ c ∈ name.toList, isUnitLetter c = true
  some : name.toList ≠ []

/-- The unit goes by the name, and units below a second do not come to one. -/
structure Sound (part : Part) : Prop extends Names part.unit part.name where
  small : part.unit.worth.2 = false → part.count * part.unit.worth.1 < 1_000_000_000

end Part

/-- No unit is worth less than a nanosecond. -/
theorem Part.Sound.count_lt {part : Part} (sound : part.Sound)
    (fits : part.nanos < 2 ^ 64 * 1_000_000_000) : part.count < 2 ^ 64 := by
  have small := sound.small
  simp only [Part.nanos, TimeUnit.nanos] at fits
  cases unit : part.unit <;> simp [unit, TimeUnit.worth] at small fits <;> omega

namespace Amount

/-- The fraction is one of a second, and the seconds fit a word. -/
structure Normal (amount : Amount) : Prop where
  nanos : amount.nanos < 1_000_000_000
  seconds : amount.seconds < 2 ^ 64

def total (amount : Amount) : Nat := amount.seconds * 1_000_000_000 + amount.nanos

variable {amount : Amount}

theorem word?_of_lt {value : Nat} (fits : value < 2 ^ 64) : word? value = some value :=
  if_pos (Nat.le_of_lt_succ fits)

/-- A part is added without a loss as long as the seconds fit a word. -/
theorem exists_addItem? {part : Part} (sound : part.Sound) (normal : amount.Normal)
    (fits : amount.total + part.nanos < 2 ^ 64 * 1_000_000_000) :
    ∃ after, amount.addItem? part.count none part.unit = some after ∧ after.Normal ∧
      after.total = amount.total + part.nanos := by
  rcases worth : part.unit.worth with ⟨factor, inSeconds⟩
  have small := sound.small
  have fraction := normal.nanos
  have held := normal.seconds
  simp only [Part.nanos, TimeUnit.nanos, total, worth] at fits small ⊢
  rw [← Nat.mul_assoc] at fits ⊢
  -- All that matters from here on is the product of the count and the factor.
  simp only [addItem?, worth]
  generalize part.count * factor = product at *
  cases inSeconds with
  | true =>
      simp only [if_true] at fits ⊢
      have more : amount.seconds + product < 2 ^ 64 := by omega
      have whole : product < 2 ^ 64 := by omega
      refine ⟨⟨amount.seconds + product, amount.nanos⟩, ?_, ⟨fraction, more⟩, ?_⟩
      · simp [word?_of_lt whole, add?, word?_of_lt more]
      · simp only
        omega
  | false =>
      have below := small rfl
      simp only [Bool.false_eq_true, if_false, Nat.mul_one] at fits ⊢
      have whole : product < 2 ^ 64 := by omega
      have nanos : amount.nanos + product < 2 ^ 64 := by omega
      have more : amount.seconds + (amount.nanos + product) / 1_000_000_000 < 2 ^ 64 := by omega
      refine ⟨⟨amount.seconds + (amount.nanos + product) / 1_000_000_000,
        (amount.nanos + product) % 1_000_000_000⟩, ?_, ⟨Nat.mod_lt _ (by decide), more⟩, ?_⟩
      · simp [word?_of_lt whole, add?, word?_of_lt nanos, word?_of_lt more]
      · simp only
        omega

variable {after : Amount} {count whole : Nat} {inSeconds : Bool} {fraction : Option Fraction}
  {unit : TimeUnit}

theorem lt_of_word?_eq_some {value word : Nat} (fits : word? value = some word) :
    word < 2 ^ 64 := by
  simp only [word?, Option.ite_none_right_eq_some, Option.some.injEq] at fits
  exact fits.2 ▸ Nat.lt_succ_of_le fits.1

theorem normal_of_add? (normal : amount.Normal) (added : amount.add? count inSeconds = some after) :
    after.Normal := by
  rw [add?] at added
  split at added
  · obtain ⟨seconds, fits, same⟩ := Option.bind_eq_some_iff.1 added
    obtain rfl := Option.some.inj same
    exact ⟨normal.nanos, lt_of_word?_eq_some fits⟩
  · obtain ⟨nanos, -, rest⟩ := Option.bind_eq_some_iff.1 added
    obtain ⟨seconds, fits, same⟩ := Option.bind_eq_some_iff.1 rest
    obtain rfl := Option.some.inj same
    exact ⟨Nat.mod_lt _ (by decide), lt_of_word?_eq_some fits⟩

theorem normal_of_addItem? (normal : amount.Normal)
    (added : amount.addItem? whole fraction unit = some after) : after.Normal := by
  rw [addItem?] at added
  obtain ⟨product, -, rest⟩ := Option.bind_eq_some_iff.1 added
  obtain ⟨middle, wholes, rest⟩ := Option.bind_eq_some_iff.1 rest
  have middle := normal_of_add? normal wholes
  cases fraction with
  | none => exact Option.some.inj rest ▸ middle
  | some fraction =>
      obtain ⟨worth, -, rest⟩ := Option.bind_eq_some_iff.1 rest
      obtain ⟨product, -, rest⟩ := Option.bind_eq_some_iff.1 rest
      simp only [Option.ite_none_right_eq_some] at rest
      exact normal_of_add? middle rest.2

end Amount

section Reading

variable {amount : Amount} {part : Part} {c : Char} {rest digits letters name : List Char}
  {value whole : Nat} {fraction : Option Fraction}

/-- However a text is written, with fractions or without, no word overflows. -/
theorem normal_of_readFrom? {position : Position} {text : List Char} {after : Amount}
    (normal : amount.Normal) (read : readFrom? position amount text = some after) :
    after.Normal := by
  fun_induction readFrom? position amount text
  case case1 => exact Option.some.inj read ▸ normal
  -- Nothing that the reader may be in the middle of goes on so.
  case case2 | case3 | case7 | case12 | case16 | case20 => cases read
  case case4 =>
    obtain ⟨unit, -, added⟩ := Option.bind_eq_some_iff.1 read
    exact Amount.normal_of_addItem? normal added
  case case8 | case13 =>
    rename_i ih
    obtain ⟨digits, -, later⟩ := Option.bind_eq_some_iff.1 read
    exact ih digits normal later
  case case17 | case18 =>
    rename_i ih
    obtain ⟨unit, -, rest⟩ := Option.bind_eq_some_iff.1 read
    obtain ⟨middle, added, later⟩ := Option.bind_eq_some_iff.1 rest
    exact ih middle (Amount.normal_of_addItem? normal added) later
  all_goals
    rename_i ih
    exact ih normal read

theorem toNat_of_isUnitLetter (letter : isUnitLetter c = true) :
    0x61 ≤ c.toNat ∧ c.toNat ≤ 0x7A ∨ 0x41 ≤ c.toNat ∧ c.toNat ≤ 0x5A ∨ c.toNat = 0xB5 := by
  simp only [isUnitLetter, Bool.or_eq_true, Bool.and_eq_true, decide_eq_true_eq, beq_iff_eq,
    Char.le_def, UInt32.le_iff_toNat_le, ← Char.toNat_inj] at letter
  rcases letter with (lower | upper) | micro
  · exact .inl lower
  · exact .inr (.inl upper)
  · exact .inr (.inr micro)

theorem digitValue?_of_isUnitLetter (letter : isUnitLetter c = true) :
    Text.digitValue? c = none := by
  rw [Text.digitValue?_eq_none_iff]
  have code := toNat_of_isUnitLetter letter
  simp only [Char.isDigit, Bool.and_eq_false_iff, decide_eq_false_iff_not, ge_iff_le,
    UInt32.le_iff_toNat_le]
  change ¬ 48 ≤ c.toNat ∨ ¬ c.toNat ≤ 57
  omega

theorem isBlank_of_isUnitLetter (letter : isUnitLetter c = true) : Text.isBlank c = false := by
  have code := toNat_of_isUnitLetter letter
  simp [Text.isBlank, Text.blankRanges]
  omega

theorem le_ofDigitChars (digits : List Char) (start : Nat) :
    start ≤ Nat.ofDigitChars 10 digits start := by
  induction digits generalizing start with
  | nil => exact Nat.le.refl
  | cons c digits ih =>
      have later := ih (start * 10 + (c.toNat - '0'.toNat))
      rw [Text.ofDigitChars_cons]
      omega

theorem readFrom?_digits (all : ∀ c ∈ digits, c.isDigit = true)
    (fits : Nat.ofDigitChars 10 digits value < 2 ^ 64) :
    readFrom? (.whole value) amount (digits ++ rest) =
      readFrom? (.whole (Nat.ofDigitChars 10 digits value)) amount rest := by
  induction digits generalizing value with
  | nil => rfl
  | cons c digits ih =>
      obtain ⟨digit, others⟩ := List.forall_mem_cons.1 all
      rw [Text.ofDigitChars_cons] at fits ⊢
      have next := Amount.word?_of_lt (Nat.lt_of_le_of_lt (le_ofDigitChars digits _) fits)
      rw [List.cons_append, readFrom?, Text.digitValue?_eq_some_iff.2 ⟨digit, rfl⟩]
      simp only [next, Option.bind_eq_bind, Option.bind_some]
      exact ih others fits

theorem readFrom?_letters (all : ∀ c ∈ letters, isUnitLetter c = true) :
    readFrom? (.unit whole fraction name) amount (letters ++ rest) =
      readFrom? (.unit whole fraction (letters.reverse ++ name)) amount rest := by
  induction letters generalizing name with
  | nil => rfl
  | cons c letters ih =>
      obtain ⟨letter, others⟩ := List.forall_mem_cons.1 all
      rw [List.cons_append, readFrom?, digitValue?_of_isUnitLetter letter]
      simp [isBlank_of_isUnitLetter letter, letter, ih others]

/-- A part is read up to the end of its name. -/
theorem readFrom?_text (sound : part.Sound) (fits : part.count < 2 ^ 64) :
    readFrom? .item amount (part.text.toList ++ rest) =
      readFrom? (.unit part.count none part.name.toList.reverse) amount rest := by
  have decimal : Text.Decimal (Nat.toDigits 10 part.count) part.count := Text.decimal_toDigits
  obtain ⟨first, digits, written⟩ := List.exists_cons_of_ne_nil decimal.some
  obtain ⟨initial, letters, spelled⟩ := List.exists_cons_of_ne_nil sound.some
  have chars : part.text.toList = Nat.toDigits 10 part.count ++ part.name.toList := by
    simp [Part.text]
  have letter := sound.letters
  rw [written] at decimal chars
  rw [spelled] at letter chars ⊢
  obtain ⟨digit, others⟩ := List.forall_mem_cons.1 decimal.all
  have value := decimal.value
  rw [Text.ofDigitChars_cons, Nat.zero_mul, Nat.zero_add] at value
  rw [chars, List.append_assoc, List.cons_append, readFrom?,
    Text.digitValue?_eq_some_iff.2 ⟨digit, rfl⟩]
  simp only
  rw [readFrom?_digits others (by rwa [value]), value, List.cons_append, readFrom?,
    digitValue?_of_isUnitLetter (letter initial List.mem_cons_self)]
  simp only [isBlank_of_isUnitLetter (letter initial List.mem_cons_self),
    letter initial List.mem_cons_self, Bool.false_eq_true, if_false, if_true]
  rw [readFrom?_letters (List.forall_mem_cons.1 letter).2, List.reverse_cons]

/-- What a row of parts is worth is added up. -/
theorem exists_readFrom? {row : List Part} (sound : ∀ part ∈ row, part.Sound)
    (normal : amount.Normal)
    (fits : amount.total + (row.map Part.nanos).sum < 2 ^ 64 * 1_000_000_000) :
    ∃ after, readFrom? .item amount ([' '].intercalate (row.map (·.text.toList))) = some after ∧
      after.total = amount.total + (row.map Part.nanos).sum := by
  induction row generalizing amount with
  | nil => exact ⟨amount, rfl, (Nat.add_zero _).symm⟩
  | cons part row ih =>
      obtain ⟨here, others⟩ := List.forall_mem_cons.1 sound
      simp only [List.map_cons, List.sum_cons, ← Nat.add_assoc] at fits ⊢
      have upTo : amount.total + part.nanos < 2 ^ 64 * 1_000_000_000 := by omega
      obtain ⟨middle, added, normal', total⟩ := Amount.exists_addItem? here normal upTo
      obtain ⟨after, read, sum⟩ := ih others normal' (by omega)
      have known : TimeUnit.ofName? (String.ofList part.name.toList.reverse.reverse) =
          some part.unit := by
        rw [List.reverse_reverse, String.ofList_toList, here.named]
      have alone : part.nanos < 2 ^ 64 * 1_000_000_000 := by omega
      have count := here.count_lt alone
      refine ⟨after, ?_, by rw [sum, total]⟩
      cases row with
      | nil =>
          have text := @readFrom?_text amount part [] here count
          rw [List.append_nil] at text
          rw [List.map_nil, List.intercalate_singleton, text, readFrom?, known]
          exact added.trans read
      | cons next row =>
          rw [List.map_cons, List.intercalate_cons_cons, List.append_assoc,
            readFrom?_text here count, List.singleton_append, readFrom?]
          simp only [show Text.digitValue? ' ' = none from rfl, show Text.isBlank ' ' = true from rfl,
            if_true, known, added, Option.bind_eq_bind, Option.bind_some]
          exact read

end Reading

section Printing

variable {d : Duration}

/-- Years, months and days are named in the plural where there are several. -/
def plural (count : Nat) (name : String) : String := name ++ if count > 1 then "s" else ""

/-- The parts of a duration, those of which there are none among them. -/
def allParts (d : Duration) : List Part :=
  let inYear := d.seconds % 31_557_600
  let inMonth := inYear % 2_630_016
  let inDay := inMonth % 86_400
  [⟨d.seconds / 31_557_600, .year, plural (d.seconds / 31_557_600) "year"⟩,
    ⟨inYear / 2_630_016, .month, plural (inYear / 2_630_016) "month"⟩,
    ⟨inMonth / 86_400, .day, plural (inMonth / 86_400) "day"⟩,
    ⟨inDay / 3_600, .hour, "h"⟩,
    ⟨inDay % 3_600 / 60, .minute, "m"⟩,
    ⟨inDay % 60, .second, "s"⟩,
    ⟨d.subsecondNanos / 1_000_000, .millisecond, "ms"⟩,
    ⟨d.subsecondNanos / 1_000 % 1_000, .microsecond, "us"⟩,
    ⟨d.subsecondNanos % 1_000, .nanosecond, "ns"⟩]

/-- The parts that are printed. -/
def printedParts (d : Duration) : List Part := (allParts d).filter fun part => part.count != 0

theorem part_plural (unit : TimeUnit) (name : String) {count : Nat} :
    part count name true = ([⟨count, unit, plural count name⟩].filter fun part : Part =>
      part.count != 0).map Part.text := by
  cases count with
  | zero => rfl
  | succ count => simp [part, Part.text, plural, String.append_assoc]

theorem part_single (unit : TimeUnit) (name : String) {count : Nat} :
    part count name false = ([⟨count, unit, name⟩].filter fun part : Part =>
      part.count != 0).map Part.text := by
  cases count with
  | zero => rfl
  | succ count => simp [part, Part.text]

theorem parts_eq : parts d = (printedParts d).map Part.text := by
  simp only [parts, part_plural .year "year", part_plural .month "month", part_plural .day "day",
    part_single .hour "h", part_single .minute "m", part_single .second "s",
    part_single .millisecond "ms", part_single .microsecond "us", part_single .nanosecond "ns",
    ← List.map_append, ← List.filter_append]
  rfl

theorem sum_seconds (seconds : Nat) :
    seconds / 31_557_600 * 31_557_600 + (seconds % 31_557_600 / 2_630_016 * 2_630_016 +
      (seconds % 31_557_600 % 2_630_016 / 86_400 * 86_400 +
      (seconds % 31_557_600 % 2_630_016 % 86_400 / 3_600 * 3_600 +
      (seconds % 31_557_600 % 2_630_016 % 86_400 % 3_600 / 60 * 60 +
      seconds % 31_557_600 % 2_630_016 % 86_400 % 60)))) = seconds := by
  omega

theorem sum_nanos (nanos : Nat) :
    nanos / 1_000_000 * 1_000_000 + (nanos / 1_000 % 1_000 * 1_000 + nanos % 1_000) = nanos := by
  omega

theorem sum_scaled (years months days hours minutes seconds rest scale : Nat) :
    years * (31_557_600 * scale) + (months * (2_630_016 * scale) + (days * (86_400 * scale) +
      (hours * (3_600 * scale) + (minutes * (60 * scale) + (seconds * scale + rest))))) =
    (years * 31_557_600 + (months * 2_630_016 + (days * 86_400 +
      (hours * 3_600 + (minutes * 60 + seconds))))) * scale + rest := by
  ring

-- Rewriting by this lemma keeps the products closed, so that no count of nanoseconds is unfolded.
theorem sum_cons {part : Part} {row : List Part} : ((part :: row).map Part.nanos).sum =
    part.count * part.unit.nanos + (row.map Part.nanos).sum := by
  rw [List.map_cons, List.sum_cons, Part.nanos]

theorem sum_allParts : ((allParts d).map Part.nanos).sum = d.nanos := by
  obtain ⟨second, worth⟩ : ∃ second, second = 1_000_000_000 := ⟨_, rfl⟩
  have units : TimeUnit.year.nanos = 31_557_600 * second ∧
      TimeUnit.month.nanos = 2_630_016 * second ∧ TimeUnit.day.nanos = 86_400 * second ∧
      TimeUnit.hour.nanos = 3_600 * second ∧ TimeUnit.minute.nanos = 60 * second ∧
      TimeUnit.second.nanos = second ∧ TimeUnit.millisecond.nanos = 1_000_000 ∧
      TimeUnit.microsecond.nanos = 1_000 ∧ TimeUnit.nanosecond.nanos = 1 := by
    subst worth
    decide
  have below : d.seconds * second + d.subsecondNanos = d.nanos := by
    subst worth
    exact Nat.div_add_mod' _ _
  rw [allParts]
  simp only [sum_cons, units, List.map_nil, List.sum_nil, Nat.mul_one, Nat.add_zero]
  rw [sum_scaled, sum_seconds, sum_nanos, below]

theorem sum_printedParts : ((printedParts d).map Part.nanos).sum = d.nanos := by
  have without : ∀ row : List Part,
      ((row.filter fun part => part.count != 0).map Part.nanos).sum = (row.map Part.nanos).sum := by
    intro row
    induction row with
    | nil => rfl
    | cons part row ih =>
        by_cases none : part.count = 0
        · simp [none, ih, Part.nanos]
        · simp [none, ih]
  rw [printedParts, without, sum_allParts]

theorem names_plural {unit : TimeUnit} {name : String} {count : Nat} (one : Part.Names unit name)
    (several : Part.Names unit (name ++ "s")) : Part.Names unit (plural count name) := by
  rw [plural]
  split
  · exact several
  · rwa [String.append_empty]

theorem Part.Names.sound {count : Nat} {unit : TimeUnit} {name : String}
    (names : Part.Names unit name)
    (small : unit.worth.2 = false → count * unit.worth.1 < 1_000_000_000) :
    Part.Sound ⟨count, unit, name⟩ :=
  ⟨names, small⟩

theorem sound_of_mem_allParts {part : Part} (member : part ∈ allParts d) : part.Sound := by
  have fraction : d.subsecondNanos < 1_000_000_000 := Nat.mod_lt _ (by decide)
  simp only [allParts, List.mem_cons, List.not_mem_nil, or_false] at member
  rcases member with rfl | rfl | rfl | rfl | rfl | rfl | rfl | rfl | rfl
  case' inl | inr.inl | inr.inr.inl =>
    refine (names_plural ?_ ?_).sound nofun <;>
      exact ⟨by decide, Text.forall_of_all rfl, by decide⟩
  case' inr.inr.inr.inl | inr.inr.inr.inr.inl | inr.inr.inr.inr.inr.inl =>
    exact Part.Names.sound ⟨by decide, Text.forall_of_all rfl, by decide⟩ nofun
  -- Only the units below a second have a bound to keep.
  all_goals
    refine Part.Names.sound ⟨by decide, Text.forall_of_all rfl, by decide⟩ fun _ => ?_
    simp only [TimeUnit.worth]
    omega

/-- A row of parts is read as what its parts are worth together. -/
theorem read?_row {row : List Part} (sound : ∀ part ∈ row, part.Sound) (some : row ≠ [])
    (fits : (row.map Part.nanos).sum < 2 ^ 64 * 1_000_000_000) :
    read? (" ".intercalate (row.map Part.text)) = .some ⟨(row.map Part.nanos).sum⟩ := by
  have start : Amount.Normal ⟨0, 0⟩ := ⟨by decide, by decide⟩
  have nothing : Amount.total ⟨0, 0⟩ = 0 := rfl
  obtain ⟨after, read, total⟩ := exists_readFrom? sound start (by omega)
  rw [nothing, Nat.zero_add] at total
  have chars : (" ".intercalate (row.map Part.text)).toList =
      [' '].intercalate (row.map (·.text.toList)) := by
    rw [String.toList_intercalate, List.map_map]
    rfl
  rw [← chars] at read
  have notZero : " ".intercalate (row.map Part.text) ≠ "0" := fun zero => by
    rw [zero] at read
    cases read
  have written : (" ".intercalate (row.map Part.text)).toList.all Text.isBlank = false := by
    obtain ⟨part, row, rfl⟩ := List.exists_cons_of_ne_nil some
    obtain ⟨first, digits, decimal⟩ := List.exists_cons_of_ne_nil
      (@Text.decimal_toDigits part.count).some
    have digit : first.isDigit = true :=
      Text.decimal_toDigits.all first (decimal ▸ List.mem_cons_self)
    have starts : part.text.toList = first :: (digits ++ part.name.toList) := by
      simp [Part.text, decimal]
    have bare := Text.isBlank_of_isDigit digit
    cases row <;> simp [starts, bare]
  rw [read?, if_neg notZero, written, if_neg Bool.false_ne_true, read, Option.map_some]
  exact congrArg (fun nanos => Option.some (Duration.mk nanos)) total

/-- A duration of less than `2^64` seconds is read as it was printed. -/
theorem read?_print (fits : d.seconds < 2 ^ 64) : read? (print d) = some d := by
  rw [print]
  split
  · next zero =>
      have nothing : d = ⟨0⟩ := congrArg Duration.mk (beq_iff_eq.1 zero)
      have sound : ∀ part ∈ [Part.mk 0 .second "s"], part.Sound := by
        rw [List.forall_mem_singleton]
        exact Part.Names.sound ⟨by decide, Text.forall_of_all rfl, by decide⟩ nofun
      rw [nothing]
      exact read?_row sound (List.cons_ne_nil _ _) (by decide)
  · next more =>
      have all := @sum_printedParts d
      have printed : printedParts d ≠ [] := fun none => by
        rw [none] at all
        exact more (beq_iff_eq.2 all.symm)
      have bound : d.nanos < 2 ^ 64 * 1_000_000_000 := by
        rw [Duration.seconds] at fits
        omega
      have sound : ∀ part ∈ printedParts d, part.Sound := fun part member =>
        sound_of_mem_allParts (List.mem_filter.1 member).1
      rw [parts_eq, read?_row sound printed (by omega), all]

end Printing

/-- A duration that a text stands for has less than `2^64` seconds. -/
theorem seconds_lt_of_read? {text : String} {d : Duration} (read : read? text = some d) :
    d.seconds < 2 ^ 64 := by
  rw [read?] at read
  split at read
  · obtain rfl := Option.some.inj read
    decide
  · split at read
    · cases read
    · obtain ⟨amount, amounts, same⟩ := Option.map_eq_some_iff.1 read
      have normal := normal_of_readFrom? ⟨by decide, by decide⟩ amounts
      have fraction := normal.nanos
      rw [← same, Duration.seconds]
      have seconds : (amount.seconds * 1_000_000_000 + amount.nanos) / 1_000_000_000 =
          amount.seconds := by
        omega
      rw [seconds]
      exact normal.seconds

end DeploymentLifecycle.DurationText
