import DeploymentLifecycle.Proofs.Yaml.Extent

namespace DeploymentLifecycle.Yaml

/-! How much text a quoted scalar comes to: less than is written on its line, unless it goes on in
the next one; and what is known of it then. -/

section Quoted

variable {tail next rest text result : List Char} {count fuel : Nat} {p : Position} {single : Bool}
  {kept c : Char} {cursor after : Cursor} {step : QuotedStep}

/-- A line break in the text, or at its end. -/
theorem lineBreak?_cases (broke : (Cursor.mk (rest ++ '\n' :: tail) p).lineBreak? = some (kept, after)) :
    after.position = p.down ∧
      ((∃ first left, rest = first ++ left ∧ first ≠ [] ∧ after.rest = left ++ '\n' :: tail) ∨
        after.rest = tail) := by
  rcases feed_cases rest tail with rfl | rfl | ⟨more, rfl⟩ | ⟨c, more, rfl, noReturn⟩
  · cases broke
    exact ⟨rfl, .inr rfl⟩
  · cases broke
    exact ⟨rfl, .inr rfl⟩
  · cases broke
    exact ⟨rfl, .inl ⟨['\r', '\n'], more, rfl, by simp, rfl⟩⟩
  · rw [List.cons_append, Cursor.lineBreak?] at broke
    split at broke
    · next same =>
      obtain ⟨rfl, both⟩ := List.cons.inj same
      rcases noReturn with other | none
      · exact absurd rfl other
      · exact absurd both (none _)
    · next same =>
      obtain ⟨rfl, rfl⟩ := List.cons.inj same
      split at broke
      · cases broke
        exact ⟨rfl, .inl ⟨[c], more, rfl, by simp, rfl⟩⟩
      · cases broke
    · cases broke

theorem lineBreak?_isSome (broken : atBreak cursor.rest = true) (nonempty : cursor.rest ≠ []) :
    ∃ kept after, cursor.lineBreak? = some (kept, after) := by
  rw [Cursor.lineBreak?]
  split
  · exact ⟨_, _, rfl⟩
  · next c _ _ same =>
    rw [same] at broken
    exact ⟨_, _, if_pos broken⟩
  · next none => exact absurd none nonempty

/-- One step through a quoted scalar with either quotes. -/
def quotedStep? (single : Bool) (chars : List Char) : Option QuotedStep :=
  if single then some (singleQuotedStep chars) else doubleQuotedStep? chars

/-- What is read of a quoted scalar from one step on. -/
def QuotedStep.goOn? (single : Bool) (fuel : Nat) (text : List Char) (cursor : Cursor) :
    QuotedStep → Option (List Char × Cursor)
  | .unclosed => none
  | .close => some (text, cursor.skip 1)
  | .char c width => quotedFrom? single fuel (text ++ [c]) (cursor.skip width)
  | .escapedBreak => do
    let (joint, reached) ← ({ first := some [] } : Gap).read? 0 (cursor.skip 1).skipBreak
    quotedFrom? single fuel (text ++ joint.text) reached
  | .gap => do
    let (joint, reached) ← ({} : Gap).read? 0 cursor
    quotedFrom? single fuel (text ++ joint.text) reached

theorem exists_quotedStep (read : quotedFrom? single (fuel + 1) text cursor = some (result, after)) :
    ∃ step, quotedStep? single cursor.rest = some step ∧
      step.goOn? single fuel text cursor = some (result, after) := by
  rw [quotedFrom?] at read
  split at read
  · cases read
  · cases single <;> exact Option.bind_eq_some_iff.1 read

theorem quotedFrom?_cases (read : quotedFrom? single (fuel + 1) text cursor = some (result, after)) :
    quotedStep? single cursor.rest = some .close ∧ result = text ∨
    (∃ c width, quotedStep? single cursor.rest = some (.char c width) ∧
      quotedFrom? single fuel (text ++ [c]) (cursor.skip width) = some (result, after)) ∨
    (quotedStep? single cursor.rest = some .escapedBreak ∧ ∃ gap reached,
      ({ first := some [] } : Gap).read? 0 (cursor.skip 1).skipBreak = some (gap, reached) ∧
        quotedFrom? single fuel (text ++ gap.text) reached = some (result, after)) ∨
    quotedStep? single cursor.rest = some .gap ∧ ∃ gap reached,
      ({} : Gap).read? 0 cursor = some (gap, reached) ∧
        quotedFrom? single fuel (text ++ gap.text) reached = some (result, after) := by
  obtain ⟨step, here, goes⟩ := exists_quotedStep read
  cases step with
  | unclosed => cases goes
  | close =>
      cases goes
      exact .inl ⟨here, rfl⟩
  | char c width => exact .inr (.inl ⟨c, width, here, goes⟩)
  | escapedBreak =>
      obtain ⟨⟨gap, reached⟩, read, goes⟩ := Option.bind_eq_some_iff.1 goes
      exact .inr (.inr (.inl ⟨here, gap, reached, read, goes⟩))
  | gap =>
      obtain ⟨⟨gap, reached⟩, read, goes⟩ := Option.bind_eq_some_iff.1 goes
      exact .inr (.inr (.inr ⟨here, gap, reached, read, goes⟩))

theorem hexNumber?_within {digits value : Nat}
    (read : hexNumber? digits (rest ++ '\n' :: tail) = some value) : digits ≤ rest.length := by
  have stuck : ∀ chars : List Char,
      chars.foldl (fun value c => do return (← value) * 16 + (← Text.hexValue? c)) none =
        (none : Option Nat) := by
    intro chars
    induction chars with
    | nil => rfl
    | cons c chars ih => exact ih
  refine Nat.le_of_not_lt fun beyond => ?_
  rw [hexNumber?] at read
  split at read
  · cases read
  · obtain ⟨more, rfl⟩ := Nat.exists_eq_add_of_lt beyond
    have taken : (rest ++ '\n' :: tail).take (rest.length + more + 1) =
        rest ++ '\n' :: tail.take more := by
      rw [Nat.add_assoc, List.take_length_add_append, List.take_succ_cons]
    have none : ∀ value : Option Nat,
        (do return (← value) * 16 + (← Text.hexValue? '\n')) = (none : Option Nat) := by
      rintro (_ | value) <;> rfl
    rw [taken, List.foldl_append, List.foldl_cons, none, stuck] at read
    cases read

theorem escape?_within {width : Nat} {value : Char} (noBreak : atBreak (rest ++ '\n' :: tail) = false)
    (read : escape? (rest ++ '\n' :: tail) = some (value, width)) : width ≤ rest.length := by
  cases rest with
  | nil => cases noBreak
  | cons c rest =>
    rw [List.cons_append, escape?] at read
    split at read
    · cases read
      exact Nat.succ_pos _
    · obtain ⟨code, hex, read⟩ := Option.bind_eq_some_iff.1 read
      split at read
      · cases read
      · cases read
        exact Nat.succ_le_succ (hexNumber?_within hex)
    · cases read

/-- What a step stands on, as far as it does not go beyond the line. -/
def QuotedStep.Within (rest tail : List Char) : QuotedStep → Prop
  | .close => 0 < rest.length
  | .char _ width => 0 < width ∧ width ≤ rest.length
  | .escapedBreak => ∃ more, rest = '\\' :: more ∧ atBreak (more ++ '\n' :: tail) = true
  | .gap | .unclosed => True

theorem within_plain {c : Char} :
    (if isGap c then QuotedStep.gap else .char c 1).Within (c :: rest) tail := by
  split
  · trivial
  · exact ⟨Nat.one_pos, Nat.succ_pos _⟩

theorem singleQuotedStep_within {c : Char} :
    (singleQuotedStep (c :: rest ++ '\n' :: tail)).Within (c :: rest) tail := by
  rw [List.cons_append, singleQuotedStep.eq_def]
  split
  · trivial
  · next both =>
    obtain ⟨rfl, both⟩ := List.cons.inj both
    cases rest with
    | nil => cases both
    | cons d rest => exact ⟨Nat.two_pos, Nat.le_add_left 2 _⟩
  · exact Nat.succ_pos _
  · next same =>
    obtain ⟨rfl, rfl⟩ := List.cons.inj same
    exact within_plain

theorem doubleQuotedStep?_within {c : Char}
    (here : doubleQuotedStep? (c :: rest ++ '\n' :: tail) = some step) :
    step.Within (c :: rest) tail := by
  rw [List.cons_append, doubleQuotedStep?.eq_def] at here
  split at here
  · cases here
    trivial
  · cases here
    exact Nat.succ_pos _
  · next same =>
    obtain ⟨rfl, rfl⟩ := List.cons.inj same
    split at here
    · cases here
    · split at here
      · next broken =>
        cases here
        exact ⟨rest, rfl, broken⟩
      · next noBreak =>
        obtain ⟨⟨value, width⟩, escaped, rfl⟩ := Option.map_eq_some_iff.1 here
        have within := escape?_within (Bool.eq_false_iff.2 noBreak) escaped
        exact ⟨Nat.succ_pos _, Nat.succ_le_succ within⟩
  · next same =>
    obtain ⟨rfl, rfl⟩ := List.cons.inj same
    cases here
    exact within_plain

theorem quotedStep?_within (here : quotedStep? single (rest ++ '\n' :: tail) = some step) :
    step.Within rest tail := by
  cases rest with
  | nil => cases single <;> cases here <;> trivial
  | cons c rest =>
    cases single with
    | true =>
        cases here
        exact singleQuotedStep_within
    | false => exact doubleQuotedStep?_within here

/-- A quoted scalar is closed in the line and comes to less than is written there, or goes on in the
next line. -/
theorem quotedFrom?_bound (following : NextLine tail next count)
    (read : quotedFrom? single fuel text ⟨rest ++ '\n' :: tail, p⟩ = some (result, after)) :
    result.length + 1 ≤ text.length + rest.length ∨
      ∃ fuel text q, quotedFrom? single fuel text ⟨next, q⟩ = some (result, after) := by
  induction fuel generalizing rest text p with
  | zero => cases read
  | succ fuel ih =>
    -- After a gap in the line, the scalar goes on with what is left of the line.
    have further : ∀ {gap : Gap} {reached : Cursor} {width : Nat} {left : List Char},
        quotedFrom? single fuel (text ++ gap.text) reached = some (result, after) →
        reached.rest = left ++ '\n' :: tail → width + left.length ≤ rest.length →
        gap.text.length ≤ width →
        result.length + 1 ≤ text.length + rest.length ∨
          ∃ fuel text q, quotedFrom? single fuel text ⟨next, q⟩ = some (result, after) := by
      rintro gap ⟨chars, q⟩ width left read rfl split less
      refine (ih read).imp_left fun shorter => ?_
      rw [List.length_append] at shorter
      omega
    rcases quotedFrom?_cases read with ⟨here, rfl⟩ | ⟨c, width, here, goes⟩ |
      ⟨here, gap, reached, readGap, goes⟩ | ⟨here, gap, reached, readGap, goes⟩
    · exact .inl (Nat.add_le_add_left (quotedStep?_within here) _)
    · obtain ⟨pos, width_le⟩ := quotedStep?_within here
      simp only [Cursor.skip, List.drop_append_of_le_length width_le] at goes
      refine (ih goes).imp_left fun shorter => ?_
      rw [List.length_append, List.length_singleton, List.length_drop] at shorter
      omega
    · obtain ⟨more, rfl, broken⟩ := quotedStep?_within here
      obtain ⟨kept, ⟨chars, q⟩, broke⟩ := @lineBreak?_isSome ⟨more ++ '\n' :: tail, p.after '\\'⟩ broken (by simp)
      have skipped : ((Cursor.mk ('\\' :: more ++ '\n' :: tail) p).skip 1).skipBreak = ⟨chars, q⟩ := by
        have one : (Cursor.mk ('\\' :: more ++ '\n' :: tail) p).skip 1 =
          ⟨more ++ '\n' :: tail, p.after '\\'⟩ := rfl
        rw [one, Cursor.skipBreak, broke]
      rw [skipped] at readGap
      obtain ⟨rfl, ⟨first, left, rfl, _, rfl⟩ | rfl⟩ := lineBreak?_cases broke
      · rcases go_broken following rfl readGap with ⟨run, left, rfl, _, at', less⟩ | ⟨at', _⟩
        · refine @further _ _ run.length _ goes at' (by simp; omega) ?_
          simp [Gap.text, Position.down] at less ⊢
          omega
        · exact .inr ⟨_, _, _, by rwa [← at']⟩
      · have moved := readGap.symm.trans (go_next following rfl)
        cases moved
        exact .inr ⟨_, _, _, goes⟩
    · rcases go_unbroken following readGap with ⟨run, left, split, _, at', kind⟩ | ⟨at', _⟩
      · refine @further _ _ run.length _ goes at' (by simp [split]) ?_
        rcases kind with ⟨_, rfl⟩ | broken
        · exact Nat.le_refl _
        · omega
      · exact .inr ⟨_, _, _, by rwa [← at']⟩

end Quoted

section Unclosed

variable {rest more word text result : List Char} {indent fuel : Nat} {p : Position} {single : Bool}
  {gap after : Gap} {c : Char} {cursor reached : Cursor}

/-- A gap that starts with a folded line break comes to nothing but breaks behind it. -/
def Gap.Folds (gap : Gap) : Prop :=
  gap.first = some ['\n'] ∧ ∀ c ∈ gap.later, isBreak c = true

theorem Gap.Folds.push {kept : Char} (folds : gap.Folds) (broken : isBreak kept = true) :
    (gap.push kept).Folds := by
  obtain ⟨first, breaks⟩ := folds
  have same : gap.push kept = { gap with later := gap.later ++ [kept] } := by rw [Gap.push, first]
  rw [same]
  refine ⟨first, fun c member => ?_⟩
  rcases List.mem_append.1 member with before | last
  · exact breaks c before
  · rw [List.mem_singleton.1 last]
    exact broken

theorem go_folds (folds : gap.Folds)
    (read : Gap.read?.go indent gap p rest = some (after, reached)) : after.Folds := by
  fun_induction Gap.read?.go indent gap p rest with
  | case1 =>
      cases read
      exact folds
  | case2 gap p rest ih => exact ih (folds.push rfl) read
  | case3 => cases read
  | case4 gap p c rest _ _ _ _ ih => exact ih folds read
  | case5 gap p c rest _ _ none ih =>
      rw [folds.1] at none
      exact absurd rfl none
  | case6 gap p c rest _ _ broken kept ih =>
      refine ih (folds.push ?_) read
      simp only [kept]
      split
      · exact broken
      · rfl
  | case7 =>
      cases read
      exact folds

theorem Gap.Folds.exists_gap (folds : gap.Folds) : ∃ c ∈ gap.text, isGap c = true := by
  obtain ⟨first, breaks⟩ := folds
  have text : gap.text = if gap.later.isEmpty then [' '] else gap.later := by
    rw [Gap.text, first]
    rfl
  rw [text]
  cases later : gap.later with
  | nil => exact ⟨' ', by simp, rfl⟩
  | cons c more =>
      exact ⟨c, by simp, by rw [isGap, breaks c (by simp [later]), Bool.or_true]⟩

theorem go_suffix (read : Gap.read?.go indent gap p rest = some (after, reached)) :
    reached.rest <:+ rest := by
  fun_induction Gap.read?.go indent gap p rest with
  | case1 =>
      cases read
      exact List.suffix_rfl
  | case2 gap p rest ih => exact (ih read).trans ⟨['\r', '\n'], rfl⟩
  | case3 => cases read
  | case4 gap p c rest _ _ _ _ ih => exact (ih read).trans (List.suffix_cons c rest)
  | case5 gap p c rest _ _ _ ih => exact (ih read).trans (List.suffix_cons c rest)
  | case6 gap p c rest _ _ _ _ ih => exact (ih read).trans (List.suffix_cons c rest)
  | case7 =>
      cases read
      exact List.suffix_rfl

theorem skipBreak_suffix : cursor.skipBreak.rest <:+ cursor.rest := by
  rw [Cursor.skipBreak]
  split
  · next kept after broke =>
    rw [Cursor.lineBreak?] at broke
    split at broke
    · next both =>
      cases broke
      rw [both]
      exact ⟨['\r', '\n'], rfl⟩
    · next one =>
      split at broke <;> cases broke
      rw [one]
      exact List.suffix_cons _ _
    · cases broke
  · exact List.suffix_rfl

/-- What a quoted scalar has come to stays in front. -/
theorem quotedFrom?_extends {after : Cursor}
    (read : quotedFrom? single fuel text cursor = some (result, after)) : text <+: result := by
  induction fuel generalizing text cursor with
  | zero => cases read
  | succ fuel ih =>
    rcases quotedFrom?_cases read with ⟨_, rfl⟩ | ⟨c, width, _, goes⟩ | ⟨_, gap, reached, _, goes⟩ |
      ⟨_, gap, reached, _, goes⟩
    · exact List.prefix_rfl
    all_goals exact (List.prefix_append _ _).trans (ih goes)

theorem quotedStep?_char (visible : isGap c = false) (noSingle : c ≠ '\'') (noDouble : c ≠ '"')
    (noSlash : c ≠ '\\') : quotedStep? single (c :: rest) = some (.char c 1) := by
  have one : (if isGap c then QuotedStep.gap else .char c 1) = .char c 1 := if_neg (by simp [visible])
  cases single with
  | true =>
      rw [quotedStep?, if_pos rfl, singleQuotedStep, one]
      · rintro others rfl
        exact absurd rfl noSingle
      · exact noSingle
  | false =>
      rw [quotedStep?, if_neg Bool.false_ne_true, doubleQuotedStep?, one]
      · exact noDouble
      · exact noSlash

theorem quotedStep?_close (here : quotedStep? single rest = some .close) :
    ∃ c ∈ rest, c = '\'' ∨ c = '"' := by
  cases single with
  | true =>
      rw [quotedStep?, if_pos rfl, Option.some.injEq, singleQuotedStep.eq_def] at here
      split at here
      · cases here
      · cases here
      · exact ⟨'\'', by simp, .inl rfl⟩
      · split at here <;> cases here
  | false =>
      rw [quotedStep?, if_neg Bool.false_ne_true, doubleQuotedStep?.eq_def] at here
      split at here
      · cases here
      · exact ⟨'"', by simp, .inr rfl⟩
      · split at here
        · cases here
        · split at here
          · cases here
          · obtain ⟨_, _, same⟩ := Option.map_eq_some_iff.1 here
            cases same
      · split at here <;> cases here

/-- A quoted scalar that takes in the end of a line has a gap in it. -/
theorem quotedFrom?_gap {after : Cursor}
    (plain : ∀ c ∈ word, isGap c = false ∧ c ≠ '\'' ∧ c ≠ '"' ∧ c ≠ '\\')
    (read : quotedFrom? single fuel text ⟨word ++ '\n' :: more, p⟩ = some (result, after)) :
    ∃ c ∈ result, isGap c = true := by
  induction fuel generalizing word text p with
  | zero => cases read
  | succ fuel ih =>
    cases word with
    | nil =>
        have step : quotedStep? single ('\n' :: more) = some .gap := by cases single <;> rfl
        rcases quotedFrom?_cases read with ⟨here, _⟩ | ⟨c, width, here, _⟩ | ⟨here, _⟩ |
          ⟨_, gap, reached, readGap, goes⟩
        · cases step.symm.trans here
        · cases step.symm.trans here
        · cases step.symm.trans here
        · have folds : gap.Folds := go_folds ⟨rfl, by simp [Gap.push]⟩
            (gap_break.symm.trans (show Gap.read?.go 0 {} p ('\n' :: more) = _ from readGap))
          obtain ⟨c, member, isGap⟩ := folds.exists_gap
          exact ⟨c, (quotedFrom?_extends goes).subset (List.mem_append_right _ member), isGap⟩
    | cons c word =>
        obtain ⟨⟨visible, noSingle, noDouble, noSlash⟩, plain⟩ := List.forall_mem_cons.1 plain
        have step : quotedStep? single (c :: (word ++ '\n' :: more)) = some (.char c 1) := by
          exact quotedStep?_char visible noSingle noDouble noSlash
        rcases quotedFrom?_cases read with ⟨here, _⟩ | ⟨d, width, here, goes⟩ | ⟨here, _⟩ | ⟨here, _⟩
        · cases step.symm.trans here
        · cases step.symm.trans here
          exact ih plain goes
        · cases step.symm.trans here
        · cases step.symm.trans here

/-- A quoted scalar is not closed where no quotes come. -/
theorem quotedFrom?_none (plain : ∀ c ∈ cursor.rest, c ≠ '\'' ∧ c ≠ '"') :
    quotedFrom? single fuel text cursor = none := by
  induction fuel generalizing text cursor with
  | zero => rfl
  | succ fuel ih =>
    cases read : quotedFrom? single (fuel + 1) text cursor with
    | none => rfl
    | some found =>
        obtain ⟨result, after⟩ := found
        have behind : ∀ {text : List Char} {reached : Cursor}, reached.rest <:+ cursor.rest →
            quotedFrom? single fuel text reached ≠ some (result, after) := by
          intro text reached suffix goes
          rw [ih fun c member => plain c (suffix.subset member)] at goes
          cases goes
        rcases quotedFrom?_cases read with ⟨here, _⟩ | ⟨c, width, _, goes⟩ |
          ⟨_, gap, reached, readGap, goes⟩ | ⟨_, gap, reached, readGap, goes⟩
        · obtain ⟨c, member, quote⟩ := quotedStep?_close here
          exact absurd quote (not_or.2 (plain c member))
        · exact absurd goes (behind (List.drop_suffix _ _))
        · exact absurd goes (behind ((go_suffix readGap).trans
            (skipBreak_suffix.trans (List.drop_suffix _ _))))
        · exact absurd goes (behind (go_suffix readGap))

end Unclosed

end DeploymentLifecycle.Yaml
