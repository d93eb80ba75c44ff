import DeploymentLifecycle.Yaml.Lexing

namespace DeploymentLifecycle.Yaml

/-! Texts that are read back as they are written: as the value of a key, on the line of the key, and
without quotes. -/

/-- Whether a text can go on after a character, up to the end of its line. -/
def goesOn (previous : Char) : List Char → Bool
  | [] => !isBlank previous && previous != ':'
  | c :: rest => !isBreak c && !(c == '#' && isBlank previous) && !(previous == ':' && isGap c)
      && goesOn c rest

/-- Whether a text may start with a character that something comes after. -/
def canStart (c : Char) (rest : List Char) : Bool :=
  (!isGap c && !Lexing.indicators.contains c) || (['-', '?', ':'].contains c && !atGap rest)

/-- A text that stands for itself on one line. -/
def isPlainLine : List Char → Bool
  | [] => false
  | c :: rest => canStart c rest && goesOn c rest

/-- A key that is a word, and not too long for one. -/
def isKeyWord (key : List Char) : Bool :=
  !key.isEmpty && key.length ≤ 256 && key.all fun c => c.isAlphanum || c == '_'

section Positions

variable {p : Position} {chars : List Char}

theorem after_line : (chars.foldl Position.after p).line = p.line := by
  induction chars generalizing p with
  | nil => rfl
  | cons c chars ih => exact ih

theorem after_column : (chars.foldl Position.after p).column = p.column + chars.length := by
  induction chars generalizing p with
  | nil => rfl
  | cons c chars ih =>
      rw [List.foldl_cons, ih, List.length_cons]
      exact Nat.succ_add_eq_add_succ p.column chars.length

theorem after_bytes : (chars.foldl Position.after p).bytes ≤ p.bytes + 4 * chars.length := by
  induction chars generalizing p with
  | nil => simp
  | cons c chars ih =>
      have step := @ih (p.after c)
      have wide := c.utf8Size_le_four
      simp only [List.foldl_cons, List.length_cons, Position.after] at step ⊢
      omega

/-- Spaces take one byte each. -/
theorem after_spaces {count : Nat} : (List.replicate count ' ').foldl Position.after p =
    ⟨p.line, p.column + count, p.bytes + count⟩ := by
  induction count generalizing p with
  | zero => rfl
  | succ count ih =>
      rw [List.replicate_succ, List.foldl_cons, ih]
      simp only [Position.after, Position.mk.injEq, true_and]
      exact ⟨by omega, by rw [show ' '.utf8Size = 1 from rfl]; omega⟩

end Positions

section Gaps

variable {c : Char} {rest chars blanks : List Char} {p : Position} {gap : Gap} {indent count : Nat}

theorem isGap_of_isBlank (blank : isBlank c = true) : isGap c = true := by
  simp [isGap, blank]

theorem isBlank_ne_return (blank : isBlank c = true) : c ≠ '\r' := by
  rintro rfl
  cases blank

theorem gap_stops (visible : atGap rest = false ∨ rest = []) :
    Gap.read?.go indent gap p rest = some (gap, ⟨rest, p⟩) := by
  cases rest with
  | nil => rfl
  | cons c rest =>
      have plain : isGap c = false := by simpa [atGap] using visible
      simp only [isGap, Bool.or_eq_false_iff] at plain
      have noReturn : c ≠ '\r' := by
        rintro rfl
        exact absurd plain.2 (by decide)
      rw [Gap.read?.go, plain.1, plain.2]
      · simp
      · exact fun _ same _ => noReturn same

theorem gap_break : Gap.read?.go indent gap p ('\n' :: rest) =
    Gap.read?.go indent (gap.push '\n') p.down rest := by
  rw [Gap.read?.go]
  · simp [isBlank, isBreak]
  · exact fun _ same _ => absurd same (by decide)

theorem gap_blanks (first : gap.first = none) (blank : ∀ c ∈ blanks, isBlank c = true) :
    Gap.read?.go indent gap p (blanks ++ rest) =
      Gap.read?.go indent { gap with blanks := gap.blanks ++ blanks }
        (blanks.foldl Position.after p) rest := by
  induction blanks generalizing gap p with
  | nil => simp
  | cons c blanks ih =>
      have here := blank c (by simp)
      rw [List.cons_append, Gap.read?.go]
      · rw [if_pos here, if_neg (by simp [first])]
        have rest := @ih (p.after c) { gap with blanks := gap.blanks ++ [c] } first
          fun c member => blank c (by simp [member])
        simp [rest]
      · exact fun _ same _ => isBlank_ne_return here same

theorem gap_indent (first : gap.first.isSome = true) :
    Gap.read?.go indent gap p (List.replicate count ' ' ++ rest) =
      Gap.read?.go indent gap ⟨p.line, p.column + count, p.bytes + count⟩ rest := by
  rw [← after_spaces]
  induction count generalizing p with
  | zero => rfl
  | succ count ih =>
      rw [List.replicate_succ, List.cons_append, Gap.read?.go, List.foldl_cons]
      · simp only [show isBlank ' ' = true from rfl, first, if_true]
        rw [if_neg (by simp), ih]
      · exact fun _ same _ => absurd same (by decide)

end Gaps

section Runs

variable {c : Char} {rest chars word tail : List Char}

/-- No gap comes, and no colon before one. -/
def isWordOn (tail : List Char) : List Char → Bool
  | [] => true
  | c :: rest => !isGap c && !(c == ':' && atGap (rest ++ tail)) && isWordOn tail rest

theorem plainRun?_word (clear : isWordOn tail word = true)
    (ends : atGap tail = true ∨ ∃ rest, tail = ':' :: rest ∧ atGap rest = true) :
    plainRun? false (word ++ tail) = some word := by
  induction word with
  | nil =>
      cases tail with
      | nil => rfl
      | cons c rest =>
          rw [List.nil_append, plainRun?]
          rcases ends with gap | ⟨_, same, gap⟩
          · simp [show isGap c = true from gap]
          · obtain ⟨rfl, rfl⟩ := List.cons.inj same
            simp [gap, show isGap ':' = false from rfl]
  | cons c word ih =>
      simp only [isWordOn, Bool.and_eq_true, Bool.not_eq_true'] at clear
      obtain ⟨⟨visible, noColon⟩, clear⟩ := clear
      rw [List.cons_append, plainRun?, ih clear]
      simp [visible, noColon]

end Runs

section Values

variable {c previous : Char} {rest value next text : List Char} {p : Position} {gap : Gap}
  {indent count fuel : Nat}

theorem skip_word {word rest : List Char} :
    (Cursor.mk (word ++ rest) p).skip word.length = ⟨rest, word.foldl Position.after p⟩ := by
  simp [Cursor.skip]

/-- After a blank, the text goes on with something visible. -/
theorem exists_visible (blank : isBlank previous = true) (goes : goesOn previous rest = true) :
    ∃ blanks d more, rest = blanks ++ d :: more ∧ (∀ c ∈ blanks, isBlank c = true) ∧
      isGap d = false ∧ d ≠ '#' ∧ goesOn d more = true := by
  induction rest generalizing previous with
  | nil => simp [goesOn, blank] at goes
  | cons c rest ih =>
      simp only [goesOn, Bool.and_eq_true, Bool.not_eq_true', Bool.and_eq_false_iff] at goes
      obtain ⟨⟨⟨oneLine, noComment⟩, _⟩, goes⟩ := goes
      cases again : isBlank c with
      | true =>
          obtain ⟨blanks, d, more, rfl, allBlank, visible⟩ := ih again goes
          exact ⟨c :: blanks, d, more, rfl, List.forall_mem_cons.2 ⟨again, allBlank⟩, visible⟩
      | false =>
          refine ⟨[], c, rest, rfl, by simp, by simp [isGap, again, oneLine], ?_, goes⟩
          rintro rfl
          simp [blank] at noComment

/-- A text that goes on is a word, and possibly blanks with more behind them. -/
theorem exists_word (tail : List Char) (visible : isGap c = false) (goes : goesOn c rest = true) :
    ∃ word blanks more, rest = word ++ blanks ++ more ∧
      isWordOn (blanks ++ more ++ '\n' :: tail) (c :: word) = true ∧
      (∀ b ∈ blanks, isBlank b = true) ∧
      (blanks = [] ∧ more = [] ∨ blanks ≠ [] ∧ ∃ d others, more = d :: others ∧ isGap d = false ∧
        d ≠ '#' ∧ goesOn d others = true) := by
  induction rest generalizing c with
  | nil =>
      simp only [goesOn, Bool.and_eq_true, Bool.not_eq_true', bne_iff_ne, ne_eq] at goes
      exact ⟨[], [], [], rfl, by simp [isWordOn, visible, goes], by simp, .inl ⟨rfl, rfl⟩⟩
  | cons d rest ih =>
      simp only [goesOn, Bool.and_eq_true, Bool.not_eq_true', Bool.and_eq_false_iff] at goes
      obtain ⟨⟨⟨oneLine, _⟩, noColon⟩, goes⟩ := goes
      cases blank : isBlank d with
      | true =>
          obtain ⟨blanks, e, more, rfl, allBlank, found⟩ := exists_visible blank goes
          refine ⟨[], d :: blanks, e :: more, by simp, ?_,
            List.forall_mem_cons.2 ⟨blank, allBlank⟩, .inr ⟨by simp, e, more, rfl, found⟩⟩
          have gap := isGap_of_isBlank blank
          have other : (c == ':') = false := by simpa [gap] using noColon
          simp [isWordOn, visible, other]
      | false =>
          have shown : isGap d = false := by simp [isGap, blank, oneLine]
          obtain ⟨word, blanks, more, rfl, clear, allBlank, ends⟩ := ih shown goes
          refine ⟨d :: word, blanks, more, by simp, ?_, allBlank, ends⟩
          rw [isWordOn, clear]
          simp [visible, atGap, shown]

theorem not_atDocumentMark (inside : 0 < p.column) :
    (Cursor.mk rest p).atDocumentMark = false := by
  have column : (p.column == 0) = false := by simpa using Nat.ne_of_gt inside
  simp [Cursor.atDocumentMark, Cursor.atMark, Cursor.column, column]

/-- One round reads a word and the gap after it. -/
theorem plainFrom?_round {word tail : List Char} {after : Gap} {reached : Cursor}
    (inside : 0 < p.column) (noComment : startsWithOneOf ['#'] (word ++ tail) = false)
    (run : plainRun? false (word ++ tail) = some word) (nonempty : word ≠ [])
    (more : tail ≠ []) (ends : atGap tail = true)
    (read : Gap.read? {} indent ⟨tail, word.foldl Position.after p⟩ = some (after, reached)) :
    plainFrom? false indent (fuel + 1) text gap ⟨word ++ tail, p⟩ =
      if reached.column < indent then
        some ⟨text ++ gap.text ++ word, reached, after.first.isSome⟩
      else plainFrom? false indent fuel (text ++ gap.text ++ word) after reached := by
  have filled : word.isEmpty = false := by simpa using nonempty
  have left : tail.isEmpty = false := by simpa using more
  rw [plainFrom?, not_atDocumentMark inside]
  simp only [noComment, run, skip_word, filled, left, ends, bind, Option.bind, Bool.or_self,
    Bool.not_true, Bool.false_eq_true, if_false, read, Bool.not_false, Bool.true_and,
    decide_eq_true_eq]
  rfl

/-- The value is read up to the end of its line, and what follows up to the first thing in the next
one, which has to be less indented. -/
theorem plainFrom?_value (visible : isGap c = false) (noComment : c ≠ '#')
    (goes : goesOn c rest = true) (enough : rest.length < fuel) (first : gap.first = none)
    (inside : indent ≤ p.column) (less : count < indent) (shown : atGap next = false ∨ next = []) :
    plainFrom? false indent fuel text gap
        ⟨c :: rest ++ '\n' :: (List.replicate count ' ' ++ next), p⟩ =
      some ⟨text ++ gap.blanks ++ c :: rest, ⟨next, ⟨p.line + 1, count, count⟩⟩, true⟩ := by
  induction fuel generalizing c rest text gap p with
  | zero => omega
  | succ fuel ih =>
      obtain ⟨word, blanks, more, rfl, clear, allBlank, ends⟩ :=
        exists_word (List.replicate count ' ' ++ next) visible goes
      have whole : c :: (word ++ blanks ++ more) ++ '\n' :: (List.replicate count ' ' ++ next) =
          c :: word ++ (blanks ++ more ++ '\n' :: (List.replicate count ' ' ++ next)) := by simp
      have gapText : gap.text = gap.blanks := by rw [Gap.text, first]
      have noHash : startsWithOneOf ['#']
          (c :: word ++ (blanks ++ more ++ '\n' :: (List.replicate count ' ' ++ next))) = false := by
        simpa [startsWithOneOf] using noComment
      have line := @after_line p (c :: word)
      have column := @after_column p (c :: word)
      rw [whole]
      rcases ends with ⟨rfl, rfl⟩ | ⟨some, d, others, rfl, shownNext, noHashNext, onwards⟩
      · -- The line ends here, and the next one starts too early for the value.
        have read : Gap.read? {} indent ⟨'\n' :: (List.replicate count ' ' ++ next),
            (c :: word).foldl Position.after p⟩ =
              some (({} : Gap).push '\n', ⟨next, ⟨p.line + 1, count, count⟩⟩) := by
          rw [Gap.read?, gap_break, gap_indent rfl, gap_stops shown, Position.down, line]
          simp
        rw [plainFrom?_round (by omega) noHash (plainRun?_word clear (.inl rfl)) (by simp) (by simp)
          rfl read]
        simp [Cursor.column, less, gapText, Gap.push]
      · have begins : atGap (blanks ++ d :: others ++
            '\n' :: (List.replicate count ' ' ++ next)) = true := by
          obtain ⟨b, blanks, rfl⟩ := List.exists_cons_of_ne_nil some
          exact isGap_of_isBlank (allBlank b (by simp))
        have read : Gap.read? {} indent ⟨blanks ++ d :: others ++
            '\n' :: (List.replicate count ' ' ++ next), (c :: word).foldl Position.after p⟩ =
              .some ({ blanks }, ⟨d :: others ++ '\n' :: (List.replicate count ' ' ++ next),
                blanks.foldl Position.after ((c :: word).foldl Position.after p)⟩) := by
          have visibleNext : atGap (d :: others ++
              '\n' :: (List.replicate count ' ' ++ next)) = false := shownNext
          rw [Gap.read?, List.append_assoc, gap_blanks rfl allBlank, gap_stops (.inl visibleNext)]
          rfl
        have reached := @after_column ((c :: word).foldl Position.after p) blanks
        have lines := @after_line ((c :: word).foldl Position.after p) blanks
        simp only [List.length_append, List.length_cons] at enough column
        rw [plainFrom?_round (by omega) noHash (plainRun?_word clear (.inl begins)) (by simp) (by simp)
          begins read, if_neg (by simp only [Cursor.column]; omega),
          ih shownNext noHashNext onwards (by omega) rfl (by omega), lines, line, gapText]
        simp

theorem visible_of_canStart (starts : canStart c rest = true) : isGap c = false ∧ c ≠ '#' := by
  rw [canStart, Bool.or_eq_true, Bool.and_eq_true, Bool.and_eq_true, Bool.not_eq_true',
    Bool.not_eq_true'] at starts
  rcases starts with ⟨visible, plain⟩ | ⟨mark, _⟩
  · exact ⟨visible, fun hash => by rw [hash] at plain; cases plain⟩
  · simp only [List.contains_cons, List.contains_nil, Bool.or_false, Bool.or_eq_true,
      beq_iff_eq] at mark
    rcases mark with rfl | rfl | rfl <;> decide

theorem plain?_value (line : isPlainLine value = true) (inside : indent ≤ p.column)
    (less : count < indent) (shown : atGap next = false ∨ next = []) :
    plain? false indent ⟨value ++ '\n' :: (List.replicate count ' ' ++ next), p⟩ =
      some ⟨value, ⟨next, ⟨p.line + 1, count, count⟩⟩, true⟩ := by
  cases value with
  | nil => cases line
  | cons c rest =>
      obtain ⟨starts, goes⟩ := Bool.and_eq_true_iff.1 line
      obtain ⟨visible, noComment⟩ := visible_of_canStart starts
      rw [plain?]
      refine (plainFrom?_value visible noComment goes ?_ rfl inside less shown).trans rfl
      simp only [List.length_append, List.length_cons]
      omega

theorem isKeyChar_visible (word : (c.isAlphanum || c == '_') = true) :
    isGap c = false ∧ c ≠ ':' ∧ Lexing.indicators.contains c = false ∧ c ≠ '.' ∧
      c ≠ byteOrderMark := by
  have apart : ∀ other : Char, (other.isAlphanum || other == '_') = false → c ≠ other := by
    rintro other not rfl
    rw [word] at not
    cases not
  have visible : isGap c = false := by
    simp only [isGap, isBlank, isBreak, Bool.or_eq_false_iff, beq_eq_false_iff_ne]
    exact ⟨⟨apart _ rfl, apart _ rfl⟩, ⟨⟨⟨apart _ rfl, apart _ rfl⟩, apart _ rfl⟩, apart _ rfl⟩,
      apart _ rfl⟩
  refine ⟨visible, apart _ rfl, ?_, apart _ rfl, apart _ rfl⟩
  have none : (Lexing.indicators.any fun other => other.isAlphanum || other == '_') = false := rfl
  rw [List.contains_eq_mem, decide_eq_false_iff_not]
  exact fun member => apart _ (Bool.eq_false_iff.2 (List.any_eq_false.1 none _ member)) rfl

variable {key : List Char}

theorem exists_keyChar (word : isKeyWord key = true) : ∃ c more, key = c :: more ∧
    (∀ d ∈ key, isGap d = false ∧ d ≠ ':') ∧ Lexing.indicators.contains c = false ∧ c ≠ '.' ∧
      c ≠ byteOrderMark ∧ key.length ≤ 256 := by
  simp only [isKeyWord, Bool.and_eq_true, Bool.not_eq_true', decide_eq_true_eq,
    List.all_eq_true] at word
  obtain ⟨⟨nonempty, short⟩, each⟩ := word
  obtain ⟨c, more, rfl⟩ := List.exists_cons_of_ne_nil (List.isEmpty_eq_false_iff.1 nonempty)
  obtain ⟨_, _, plain, noDot, noMark⟩ := isKeyChar_visible (each c (by simp))
  refine ⟨c, more, rfl, fun d member => ?_, plain, noDot, noMark, short⟩
  obtain ⟨visible, noColon, _⟩ := isKeyChar_visible (each d member)
  exact ⟨visible, noColon⟩

theorem atMark_of_head {c : Char} {mark : List Char} (other : mark.head? ≠ some c) :
    (Cursor.mk (c :: rest) p).atMark mark = false := by
  rw [Cursor.atMark, Bool.and_eq_false_iff, Bool.and_eq_false_iff]
  refine .inl (.inr ?_)
  rw [beq_eq_false_iff_ne]
  rintro rfl
  simp at other

theorem isWordOn_of_visible {word tail : List Char} (each : ∀ d ∈ word, isGap d = false ∧ d ≠ ':') :
    isWordOn tail word = true := by
  induction word with
  | nil => rfl
  | cons d word ih =>
      obtain ⟨visible, noColon⟩ := each d (by simp)
      simp [isWordOn, visible, noColon, ih fun e member => each e (by simp [member])]

theorem plain?_key (word : isKeyWord key = true) (gap : atGap rest = true) :
    plain? false indent ⟨key ++ ':' :: rest, p⟩ =
      some ⟨key, ⟨':' :: rest, key.foldl Position.after p⟩, false⟩ := by
  obtain ⟨c, more, rfl, each, plain, noDot, _, _⟩ := exists_keyChar word
  have noMark : (Cursor.mk (c :: more ++ ':' :: rest) p).atDocumentMark = false := by
    have noDash : c ≠ '-' := by
      rintro rfl
      cases plain
    rw [Cursor.atDocumentMark, Bool.or_eq_false_iff]
    exact ⟨atMark_of_head (by simpa [Cursor.documentStart] using noDash.symm),
      atMark_of_head (by simpa [Cursor.documentEnd] using noDot.symm)⟩
  have noHash : startsWithOneOf ['#'] (c :: more ++ ':' :: rest) = false := by
    have other : c ≠ '#' := by
      rintro rfl
      cases plain
    simpa [startsWithOneOf] using other
  have run := @plainRun?_word (c :: more) (':' :: rest) (isWordOn_of_visible each)
    (.inr ⟨rest, rfl, gap⟩)
  have colon : atGap (':' :: rest) = false := rfl
  rw [plain?, plainFrom?]
  simp only [noMark, noHash, run, bind, Option.bind, skip_word, colon]
  rfl

end Values

end DeploymentLifecycle.Yaml
