import DeploymentLifecycle.Policy.WatchTime
import DeploymentLifecycle.Proofs.Text.Blank
import DeploymentLifecycle.Proofs.Text.Cut
import DeploymentLifecycle.Proofs.Text.Natural
import Mathlib.Tactic.Ring

namespace DeploymentLifecycle.WatchTime

/-! Which texts are watch times, and that a watch time is read as it was written. -/

/-- A number of milliseconds as it may be written: decimal digits that come to less than `2^64`,
behind at most one plus sign, with blanks around. -/
def IsCount (part : List Char) (count : Nat) : Prop :=
  ∃ before sign digits after, part = before ++ (sign ++ digits) ++ after ∧
    (∀ c ∈ before ++ after, Text.isBlank c = true) ∧ (sign = [] ∨ sign = ['+']) ∧
    Text.Decimal digits count ∧ count < 2 ^ 64

/-- On either side of its first dash the text has a number of milliseconds. -/
def Names (text : String) (start stop : Nat) : Prop :=
  ∃ left right, text.toList = left ++ '-' :: right ∧ '-' ∉ left ∧ IsCount left start ∧
    IsCount right stop

/-- The watch between two counts of milliseconds. -/
def ofCounts (start stop : Nat) : WatchTime := ⟨.ofMillis start, .ofMillis stop⟩

variable {text : String} {part left right : List Char} {count start stop : Nat} {watch : WatchTime}

theorem natural?_trim_eq_some_iff :
    Text.natural? Text.maxUInt64 (Text.trim part) = some count ↔ IsCount part count := by
  have limit : ∀ count, count ≤ Text.maxUInt64 ↔ count < 2 ^ 64 := by
    simp only [Text.maxUInt64]
    omega
  rw [Text.natural?_eq_some_iff]
  constructor
  · rintro ⟨sign, digits, trimmed, signs, decimal, fits⟩
    obtain ⟨before, after, split, blank⟩ := Text.exists_trim part
    rw [trimmed] at split
    exact ⟨before, sign, digits, after, split, blank, signs, decimal, (limit count).1 fits⟩
  · rintro ⟨before, sign, digits, after, rfl, blank, signs, decimal, fits⟩
    have bare : ∀ c ∈ sign ++ digits, Text.isBlank c = false := by
      refine List.forall_mem_append.2
        ⟨?_, fun c member => Text.isBlank_of_isDigit (decimal.all c member)⟩
      rcases signs with rfl | rfl <;> exact Text.forall_of_all rfl
    exact ⟨sign, digits, Text.trim_surrounded blank bare, signs, decimal, (limit count).2 fits⟩

theorem splitAtDash?_eq_some_iff {text : List Char} :
    splitAtDash? text = some (left, right) ↔ text = left ++ '-' :: right ∧ '-' ∉ left := by
  rw [splitAtDash?]
  by_cases dash : '-' ∈ text
  · obtain ⟨before, after, rfl, absent⟩ := List.eq_append_cons_of_mem dash
    simp only [Text.dropWhile_cut absent, Text.takeWhile_cut absent, Option.some.injEq,
      Prod.mk.injEq]
    constructor
    · rintro ⟨rfl, rfl⟩
      exact ⟨rfl, absent⟩
    · rintro ⟨same, absent'⟩
      exact Text.append_cons_inj absent absent' same
  · simp only [Text.dropWhile_of_not_mem dash, reduceCtorEq, false_iff]
    rintro ⟨rfl, -⟩
    exact dash (by simp)

theorem bounds?_eq_some_iff : bounds? text = some (start, stop) ↔ Names text start stop := by
  simp only [bounds?, Option.bind_eq_bind, Option.bind_eq_some_iff, Option.pure_def,
    Option.some.injEq, Prod.mk.injEq, Prod.exists, natural?_trim_eq_some_iff,
    splitAtDash?_eq_some_iff]
  constructor
  · rintro ⟨left, right, ⟨split, absent⟩, start, one, stop, other, rfl, rfl⟩
    exact ⟨left, right, split, absent, one, other⟩
  · rintro ⟨left, right, split, absent, one, other⟩
    exact ⟨left, right, ⟨split, absent⟩, start, one, stop, other, rfl, rfl⟩

theorem millis_ofMillis : (Duration.ofMillis count).millis = count :=
  Nat.mul_div_cancel count (by decide)

theorem ofText_of_names (names : Names text start stop) : ofText text =
    if stop < start then .error (.endBeforeStart start stop) else .ok (ofCounts start stop) := by
  have order : (Duration.ofMillis stop < Duration.ofMillis start) ↔ stop < start :=
    Nat.mul_lt_mul_right (by decide)
  simp only [ofText, bounds?_eq_some_iff.2 names, between, order, millis_ofMillis, ofCounts]

theorem ofText_of_not_names (unnamed : ¬ ∃ start stop, Names text start stop) :
    ofText text = .error (.format text) := by
  have unbound : bounds? text = none := by
    refine Option.eq_none_iff_forall_ne_some.2 fun (start, stop) found => ?_
    exact unnamed ⟨start, stop, bounds?_eq_some_iff.1 found⟩
  rw [ofText, unbound]

/-- Two numbers in order, two numbers out of order, or something else. -/
theorem ofText_cases (text : String) :
    (∃ start stop, Names text start stop ∧ start ≤ stop ∧
      ofText text = .ok (ofCounts start stop)) ∨
    (∃ start stop, Names text start stop ∧ stop < start ∧
      ofText text = .error (.endBeforeStart start stop)) ∨
    (¬ ∃ start stop, Names text start stop) ∧ ofText text = .error (.format text) := by
  by_cases named : ∃ start stop, Names text start stop
  · obtain ⟨start, stop, names⟩ := named
    have read := ofText_of_names names
    split at read
    · next before => exact .inr (.inl ⟨start, stop, names, before, read⟩)
    · next ordered => exact .inl ⟨start, stop, names, Nat.le_of_not_lt ordered, read⟩
  · exact .inr (.inr ⟨named, ofText_of_not_names named⟩)

theorem isCount_toDigits (fits : count < 2 ^ 64) : IsCount (Nat.toDigits 10 count) count :=
  ⟨[], [], _, [], by simp, by simp, .inl rfl, Text.decimal_toDigits, fits⟩

theorem names_toText (startFits : start < 2 ^ 64) (stopFits : stop < 2 ^ 64) :
    Names (ofCounts start stop).toText start stop := by
  refine ⟨Nat.toDigits 10 start, Nat.toDigits 10 stop, ?_, fun dash => ?_,
    isCount_toDigits startFits, isCount_toDigits stopFits⟩
  · simp [toText, ofCounts, millis_ofMillis]
  · exact absurd (Text.decimal_toDigits.all '-' dash) (by decide)

theorem ofText_eq_ok_iff : ofText text = .ok watch ↔
    ∃ start stop, Names text start stop ∧ start ≤ stop ∧ watch = ofCounts start stop := by
  constructor
  · intro read
    rcases ofText_cases text with ⟨start, stop, names, ordered, same⟩ | ⟨_, _, _, _, same⟩ |
      ⟨_, same⟩ <;> cases same.symm.trans read
    exact ⟨start, stop, names, ordered, rfl⟩
  · rintro ⟨start, stop, names, ordered, rfl⟩
    rw [ofText_of_names names, if_neg (Nat.not_lt.2 ordered)]

theorem ofText_eq_endBeforeStart_iff : ofText text = .error (.endBeforeStart start stop) ↔
    Names text start stop ∧ stop < start := by
  constructor
  · intro read
    rcases ofText_cases text with ⟨_, _, _, _, same⟩ | ⟨one, other, names, before, same⟩ |
      ⟨_, same⟩ <;> cases same.symm.trans read
    exact ⟨names, before⟩
  · rintro ⟨names, before⟩
    rw [ofText_of_names names, if_pos before]

theorem ofText_eq_format_iff {carried : String} : ofText text = .error (.format carried) ↔
    carried = text ∧ ¬ ∃ start stop, Names text start stop := by
  constructor
  · intro read
    rcases ofText_cases text with ⟨_, _, _, _, same⟩ | ⟨_, _, _, _, same⟩ |
      ⟨unnamed, same⟩ <;> cases same.symm.trans read
    exact ⟨rfl, unnamed⟩
  · rintro ⟨rfl, unnamed⟩
    exact ofText_of_not_names unnamed

theorem ofText_toText (ordered : start ≤ stop) (fits : stop < 2 ^ 64) :
    ofText (ofCounts start stop).toText = .ok (ofCounts start stop) :=
  ofText_eq_ok_iff.2
    ⟨start, stop, names_toText (Nat.lt_of_le_of_lt ordered fits) fits, ordered, rfl⟩

theorem IsCount.lt (counts : IsCount part count) : count < 2 ^ 64 := by
  obtain ⟨_, _, _, _, _, _, _, _, fits⟩ := counts
  exact fits

theorem Names.stop_lt (names : Names text start stop) : stop < 2 ^ 64 := by
  obtain ⟨_, _, _, _, _, counts⟩ := names
  exact counts.lt

theorem opens_add_window (ordered : start ≤ stop) :
    (ofCounts start stop).opens + (ofCounts start stop).window = (ofCounts start stop).closes := by
  have inOrder : start * 1_000_000 ≤ stop * 1_000_000 := Nat.mul_le_mul_right _ ordered
  exact congrArg Duration.mk (Nat.add_sub_of_le inOrder)

/-- A text is a watch time when it has a number of milliseconds on either side of its first dash, the
second of which is not the smaller one; if it is, the error has both numbers, and any other text is
handed back in an error. What was read is written in a way that is read as the same again, as is
every watch between whole milliseconds. -/
theorem watch_texts_exact (text : String) :
    (∀ watch, ofText text = .ok watch ↔
      ∃ start stop, Names text start stop ∧ start ≤ stop ∧ watch = ofCounts start stop) ∧
    (∀ start stop, ofText text = .error (.endBeforeStart start stop) ↔
      Names text start stop ∧ stop < start) ∧
    (∀ carried, ofText text = .error (.format carried) ↔
      carried = text ∧ ¬ ∃ start stop, Names text start stop) ∧
    (∀ watch, ofText text = .ok watch →
      watch.opens + watch.window = watch.closes ∧ ofText watch.toText = .ok watch) ∧
    ∀ start stop, start ≤ stop → stop < 2 ^ 64 →
      ofText (ofCounts start stop).toText = .ok (ofCounts start stop) := by
  refine ⟨fun _ => ofText_eq_ok_iff, fun _ _ => ofText_eq_endBeforeStart_iff,
    fun _ => ofText_eq_format_iff, fun watch read => ?_, fun _ _ => ofText_toText⟩
  obtain ⟨start, stop, names, ordered, rfl⟩ := ofText_eq_ok_iff.1 read
  exact ⟨opens_add_window ordered, ofText_toText ordered names.stop_lt⟩

theorem padded_text_read_back :
    let watch := ofCounts 1000 30000
    ofText " +1000\t- 0030000 " = .ok watch ∧ watch.opens + watch.window = watch.closes ∧
      ofText watch.toText = .ok watch := by
  intro watch
  have read : ofText " +1000\t- 0030000 " = .ok watch := rfl
  exact ⟨read, (watch_texts_exact " +1000\t- 0030000 ").2.2.2.1 watch read⟩

/-- A second dash belongs to the second number, which has no sign of this kind. -/
example : ofText "1-2-3" = .error (.format "1-2-3") := rfl

end DeploymentLifecycle.WatchTime
