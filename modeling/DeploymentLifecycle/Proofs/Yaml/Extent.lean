import DeploymentLifecycle.Proofs.Yaml.PlainLine

namespace DeploymentLifecycle.Yaml

/-! How much text a scalar comes to that starts on the line of a key: never more than is written
there, and all of it only for a plain one that goes on to the end of the line. -/

/-- After the end of a line, the next one starts with spaces and something visible. -/
structure NextLine (tail next : List Char) (count : Nat) : Prop where
  whole : tail = List.replicate count ' ' ++ next
  shown : atGap next = false

theorem NextLine.ne_nil {tail next : List Char} {count : Nat} (following : NextLine tail next count) :
    next ≠ [] := by
  rintro rfl
  cases following.shown

section Gaps

variable {tail next rest : List Char} {count indent : Nat} {gap after : Gap} {p : Position}
  {cursor : Cursor} {c : Char}

theorem go_return : Gap.read?.go indent gap p ('\r' :: '\n' :: rest) =
    Gap.read?.go indent (gap.push '\n') p.down rest := rfl

theorem go_cons (noReturn : c ≠ '\r' ∨ ∀ others, rest ≠ '\n' :: others) :
    Gap.read?.go indent gap p (c :: rest) =
      if isBlank c then
        if gap.first.isSome then
          if c == '\t' && p.column < indent then none
          else Gap.read?.go indent gap (p.after c) rest
        else Gap.read?.go indent { gap with blanks := gap.blanks ++ [c] } (p.after c) rest
      else if isBreak c then
        Gap.read?.go indent
          (gap.push (if c == '\u2028' || c == '\u2029' then c else '\n')) p.down rest
      else some (gap, ⟨c :: rest, p⟩) := by
  rw [Gap.read?.go]
  intro others isReturn isFeed
  rcases noReturn with other | none
  · exact other isReturn
  · exact none others isFeed

theorem push_isSome (kept : Char) : (gap.push kept).first.isSome = true := by
  cases first : gap.first <;> simp [Gap.push, first]

/-- Spaces at the start of a line do not count. -/
theorem go_next (following : NextLine tail next count) (first : gap.first.isSome = true) :
    Gap.read?.go indent gap p tail =
      some (gap, ⟨next, ⟨p.line, p.column + count, p.bytes + count⟩⟩) := by
  rw [following.whole, gap_indent first, gap_stops (.inl following.shown)]

theorem length_push (first : gap.first.isSome = true) (kept : Char) :
    (gap.push kept).text.length ≤ gap.text.length + 1 := by
  obtain ⟨blanks, _ | _ | ⟨c, _ | ⟨d, more⟩⟩, later⟩ := gap
  · cases first
  · simp [Gap.push, Gap.text]
  · by_cases feed : c = '\n'
    · cases later <;> simp [Gap.push, Gap.text, feed]
    · simp [Gap.push, Gap.text, feed]
  · simp [Gap.push, Gap.text]
    omega

/-- A carriage return and a line feed are one line break, also where only the first is in the text. -/
theorem feed_cases (rest tail : List Char) : rest = [] ∨ rest = ['\r'] ∨
    (∃ more, rest = '\r' :: '\n' :: more) ∨
    ∃ c more, rest = c :: more ∧ (c ≠ '\r' ∨ ∀ others, more ++ '\n' :: tail ≠ '\n' :: others) := by
  rcases rest with _ | ⟨c, more⟩
  · exact .inl rfl
  · by_cases isReturn : c = '\r'
    · subst isReturn
      rcases more with _ | ⟨d, more⟩
      · exact .inr (.inl rfl)
      · by_cases feed : d = '\n'
        · exact .inr (.inr (.inl ⟨more, by rw [feed]⟩))
        · exact .inr (.inr (.inr ⟨_, _, rfl, .inr (by simp [feed])⟩))
    · exact .inr (.inr (.inr ⟨_, _, rfl, .inl isReturn⟩))

/-- After a line break, the blanks up to where the gap ends do not count. -/
theorem go_broken (following : NextLine tail next count) (first : gap.first.isSome = true)
    (read : Gap.read?.go indent gap p (rest ++ '\n' :: tail) = some (after, cursor)) :
    (∃ run left, rest = run ++ left ∧ atGap left = false ∧ cursor.rest = left ++ '\n' :: tail ∧
      after.text.length + cursor.column ≤ gap.text.length + run.length + p.column) ∨
    cursor.rest = next ∧ cursor.column = count := by
  obtain ⟨bound, shorter⟩ : ∃ bound, rest.length < bound := ⟨_, Nat.lt_succ_self _⟩
  induction bound generalizing rest gap p with
  | zero => omega
  | succ bound ih =>
    rcases feed_cases rest tail with rfl | rfl | ⟨more, rfl⟩ | ⟨c, more, rfl, noReturn⟩
    · rw [List.nil_append, gap_break, go_next following (push_isSome _)] at read
      cases read
      exact .inr ⟨rfl, Nat.zero_add count⟩
    · rw [List.cons_append, List.nil_append, go_return, go_next following (push_isSome _)] at read
      cases read
      exact .inr ⟨rfl, Nat.zero_add count⟩
    · rw [List.cons_append, List.cons_append, go_return] at read
      rw [List.length_cons, List.length_cons] at shorter
      refine (ih (push_isSome _) read (by omega)).imp_left ?_
      rintro ⟨run, left, rfl, shown, here, length⟩
      have longer := length_push first '\n'
      refine ⟨'\r' :: '\n' :: run, left, rfl, shown, here, ?_⟩
      simp only [Position.down, List.length_cons] at length ⊢
      omega
    · rw [List.cons_append, go_cons noReturn] at read
      rw [List.length_cons] at shorter
      split at read
      · -- A blank.
        split at read
        · cases read
        · refine (ih first read (by omega)).imp_left ?_
          rintro ⟨run, left, rfl, shown, here, length⟩
          refine ⟨c :: run, left, rfl, shown, here, ?_⟩
          simp only [Position.after, List.length_cons] at length ⊢
          omega
      · split at read
        · refine (ih (push_isSome _) read (by omega)).imp_left ?_
          rintro ⟨run, left, rfl, shown, here, length⟩
          have longer := length_push first (if c == '\u2028' || c == '\u2029' then c else '\n')
          refine ⟨c :: run, left, rfl, shown, here, ?_⟩
          simp only [Position.down, List.length_cons] at length ⊢
          omega
        · next blank visible =>
          cases read
          refine .inl ⟨[], c :: more, rfl, ?_, rfl, by simp [Cursor.column]⟩
          simp [atGap, isGap, blank, visible]

theorem length_first_push (kept : Char) (blanks : List Char) :
    (({ blanks } : Gap).push kept).text.length = 1 := by
  by_cases feed : kept = '\n' <;> simp [Gap.push, Gap.text, feed]

theorem go_first_break {first blanks : List Char} {kept : Char}
    (following : NextLine tail next count) (nonempty : first ≠ [])
    (read : Gap.read?.go indent (({ blanks } : Gap).push kept) p.down (rest ++ '\n' :: tail) =
      some (after, cursor)) :
    (∃ run left, first ++ rest = run ++ left ∧ atGap left = false ∧
      cursor.rest = left ++ '\n' :: tail ∧ after.text.length + cursor.column ≤ run.length) ∨
    cursor.rest = next ∧ cursor.column = count := by
  refine (go_broken following (push_isSome _) read).imp_left ?_
  rintro ⟨run, left, rfl, shown, here, length⟩
  have some := List.length_pos_iff.2 nonempty
  simp only [length_first_push, Position.down] at length
  refine ⟨first ++ run, left, by simp, shown, here, ?_⟩
  rw [List.length_append]
  omega

/-- A gap in the line counts as it is written; one with a line break counts less, and less still for
the indentation after it. -/
theorem go_unbroken {blanks : List Char} (following : NextLine tail next count)
    (read : Gap.read?.go indent { blanks } p (rest ++ '\n' :: tail) = some (after, cursor)) :
    (∃ run left, rest = run ++ left ∧ atGap left = false ∧ cursor.rest = left ++ '\n' :: tail ∧
      ((∀ c ∈ run, isBlank c = true) ∧ after = { blanks := blanks ++ run } ∨
        after.text.length + cursor.column ≤ run.length)) ∨
    cursor.rest = next ∧ cursor.column = count := by
  induction rest generalizing blanks p with
  | nil =>
      rw [List.nil_append, gap_break, go_next following (push_isSome _)] at read
      cases read
      exact .inr ⟨rfl, Nat.zero_add count⟩
  | cons c rest ih =>
    rcases feed_cases (c :: rest) tail with none | single | ⟨more, whole⟩ | ⟨c', more, whole, noReturn⟩
    · cases none
    · cases single
      rw [List.cons_append, List.nil_append, go_return, go_next following (push_isSome _)] at read
      cases read
      exact .inr ⟨rfl, Nat.zero_add count⟩
    · rw [whole, List.cons_append, List.cons_append, go_return] at read
      rw [whole]
      refine (@go_first_break _ _ _ _ _ _ _ _ ['\r', '\n'] _ _ following (by simp) read).imp_left ?_
      rintro ⟨run, left, split, shown, here, length⟩
      exact ⟨run, left, split, shown, here, .inr length⟩
    · cases whole
      rw [List.cons_append, go_cons noReturn] at read
      split at read
      · next blank =>
        refine (ih read).imp_left ?_
        rintro ⟨run, left, rfl, shown, here, ends⟩
        refine ⟨c :: run, left, rfl, shown, here, ends.imp ?_ ?_⟩
        · rintro ⟨blanks, rfl⟩
          exact ⟨List.forall_mem_cons.2 ⟨blank, blanks⟩, by simp⟩
        · intro length
          rw [List.length_cons]
          omega
      · split at read
        · refine (@go_first_break _ _ _ _ _ _ _ _ [c] _ _ following (by simp) read).imp_left ?_
          rintro ⟨run, left, split, shown, here, length⟩
          exact ⟨run, left, split, shown, here, .inr length⟩
        · next blank visible =>
          cases read
          refine .inl ⟨[], c :: rest, rfl, ?_, rfl, .inl ⟨by simp, by simp⟩⟩
          simp [atGap, isGap, blank, visible]

end Gaps

section Plain

variable {tail next rest run more word blanks text : List Char} {count indent fuel : Nat} {gap : Gap}
  {p : Position} {c : Char} {scalar : PlainScalar}

theorem plainRun?_split (read : plainRun? false (rest ++ '\n' :: tail) = some run) :
    ∃ left, rest = run ++ left ∧ isWordOn (left ++ '\n' :: tail) run = true ∧
      (atGap (left ++ '\n' :: tail) = true ∨
        ∃ more, left = ':' :: more ∧ atGap (more ++ '\n' :: tail) = true) := by
  induction rest generalizing run with
  | nil =>
      cases read
      exact ⟨[], rfl, rfl, .inl rfl⟩
  | cons c rest ih =>
      rw [List.cons_append, plainRun?] at read
      split at read
      · next gap =>
        cases read
        exact ⟨c :: rest, rfl, rfl, .inl gap⟩
      · next visible =>
        simp only [Bool.false_and, Bool.false_eq_true, if_false] at read
        split at read
        · next colon =>
          cases read
          obtain ⟨same, gap⟩ := Bool.and_eq_true_iff.1 colon
          exact ⟨c :: rest, rfl, rfl, .inr ⟨rest, by rw [eq_of_beq same], gap⟩⟩
        · next noColon =>
          obtain ⟨others, further, rfl⟩ := Option.map_eq_some_iff.1 read
          obtain ⟨left, rfl, clear, ends⟩ := ih further
          refine ⟨left, rfl, ?_, ends⟩
          rw [List.append_assoc] at noColon
          simp only [isWordOn, clear, Bool.and_true, Bool.and_eq_true, Bool.not_eq_true',
            Bool.eq_false_iff.2 visible, Bool.eq_false_iff.2 noColon, and_self]

theorem goesOn_blanks {d : Char} {others : List Char} (noColon : c ≠ ':') (some : blanks ≠ [])
    (allBlank : ∀ b ∈ blanks, isBlank b = true) (visible : isGap d = false) (noComment : d ≠ '#')
    (goes : goesOn d others = true) : goesOn c (blanks ++ d :: others) = true := by
  have noBreak : isBreak d = false := (Bool.or_eq_false_iff.1 visible).2
  induction blanks generalizing c with
  | nil => exact absurd rfl some
  | cons b blanks ih =>
      obtain ⟨blank, allBlank⟩ := List.forall_mem_cons.1 allBlank
      have plain : isBreak b = false ∧ b ≠ '#' ∧ b ≠ ':' := by
        simp only [isBlank, Bool.or_eq_true, beq_iff_eq] at blank
        rcases blank with rfl | rfl <;> decide
      have rest : goesOn b (blanks ++ d :: others) = true := by
        by_cases last : blanks = []
        · simp [last, goesOn, noBreak, noComment, visible, goes]
        · exact ih plain.2.2 last allBlank
      rw [List.cons_append, goesOn, rest]
      simp [plain, noColon]

/-- A word goes on, with blanks and more behind it or to the end of the line. -/
theorem goesOn_word (clear : isWordOn (blanks ++ more ++ '\n' :: tail) (c :: word) = true)
    (allBlank : ∀ b ∈ blanks, isBlank b = true)
    (ends : blanks = [] ∧ more = [] ∨ blanks ≠ [] ∧ ∃ d others, more = d :: others ∧
      isGap d = false ∧ d ≠ '#' ∧ goesOn d others = true) :
    goesOn c (word ++ blanks ++ more) = true := by
  induction word generalizing c with
  | nil =>
      simp only [isWordOn, Bool.and_true, Bool.and_eq_true, Bool.not_eq_true',
        List.nil_append] at clear
      obtain ⟨visible, colon⟩ := clear
      have noBlank : isBlank c = false := (Bool.or_eq_false_iff.1 visible).1
      rcases ends with ⟨rfl, rfl⟩ | ⟨some, d, others, rfl, shown, noComment, goes⟩
      · have noColon : c ≠ ':' := by
          rintro rfl
          cases colon
        simp [goesOn, noBlank, noColon]
      · have noColon : c ≠ ':' := by
          rintro rfl
          obtain ⟨b, blanks, rfl⟩ := List.exists_cons_of_ne_nil some
          have gap := isGap_of_isBlank (allBlank b (by simp))
          simp [atGap, gap] at colon
        exact goesOn_blanks noColon some allBlank shown noComment goes
  | cons d word ih =>
      rw [isWordOn, Bool.and_eq_true, Bool.and_eq_true, Bool.not_eq_true', Bool.not_eq_true'] at clear
      obtain ⟨⟨visible, _⟩, clear⟩ := clear
      have shown : isGap d = false := by
        rw [isWordOn, Bool.and_eq_true, Bool.and_eq_true, Bool.not_eq_true'] at clear
        exact clear.1.1
      have noBreak : isBreak d = false := (Bool.or_eq_false_iff.1 shown).2
      have noBlank : isBlank c = false := (Bool.or_eq_false_iff.1 visible).1
      rw [List.cons_append, List.cons_append, goesOn, ih clear]
      simp [noBreak, noBlank, shown]

/-- A scalar goes on, behind a gap, with what is written in the line or with less, and with all of it
only where that is plain to its end. -/
def StaysWithin (space : List Char) (c : Char) (rest text whole : List Char) : Prop :=
  ∃ more, whole = text ++ more ∧ more.length ≤ space.length + (c :: rest).length ∧
    (more = space ++ c :: rest → c ≠ '#' ∧ goesOn c rest = true)

section Within

variable {space inner left whole : List Char}

theorem staysWithin_nothing : StaysWithin space c rest text text :=
  ⟨[], (List.append_nil text).symm, Nat.zero_le _, fun same => by simp at same⟩

/-- A scalar that ends with a word has all that is written only if the line ends there, too. -/
theorem staysWithin_word (noComment : c ≠ '#') (same : whole = text ++ space ++ c :: word)
    (last : left = [] → goesOn c word = true) :
    StaysWithin space c (word ++ left) text whole := by
  refine ⟨space ++ c :: word, by rw [same, List.append_assoc], ?_, fun all => ?_⟩
  · simp only [List.length_append, List.length_cons]
    omega
  · obtain rfl : left = [] := by simpa using all
    rw [List.append_nil]
    exact ⟨noComment, last rfl⟩

/-- A word is followed by blanks, which count as they are written, or by a line break and what
surrounds it, which counts for less. -/
theorem StaysWithin.behind {d : Char} {others : List Char}
    (within : StaysWithin inner d others (text ++ space ++ c :: word) whole)
    (noComment : c ≠ '#') (clear : isWordOn (run ++ d :: others ++ '\n' :: tail) (c :: word) = true)
    (some : run ≠ []) (shown : isGap d = false)
    (kind : (∀ b ∈ run, isBlank b = true) ∧ inner = run ∨ inner.length < run.length) :
    StaysWithin space c (word ++ (run ++ d :: others)) text whole := by
  obtain ⟨more, same, length, all⟩ := within
  have shorter : inner.length ≤ run.length := by
    rcases kind with ⟨_, rfl⟩ | less
    · exact Nat.le_refl _
    · exact Nat.le_of_lt less
  refine ⟨space ++ c :: word ++ more, by simp [same], ?_, fun equal => ⟨noComment, ?_⟩⟩
  · simp only [List.length_append, List.length_cons] at length ⊢
    omega
  · obtain rfl : more = run ++ d :: others := by simpa using equal
    rcases kind with ⟨blanks, rfl⟩ | less
    · obtain ⟨noHash, goes⟩ := all rfl
      rw [← List.append_assoc]
      exact goesOn_word clear blanks (.inr ⟨some, d, others, rfl, shown, noHash, goes⟩)
    · simp only [List.length_append] at length
      omega

end Within

/-- A round that goes on reads a word, and the scalar ends with it, or goes on behind a gap. -/
theorem plainFrom?_cases {cursor : Cursor} (visible : atGap cursor.rest = false)
    (read : plainFrom? false indent (fuel + 1) text gap cursor = some scalar) :
    scalar.text = text ∨
    startsWithOneOf ['#'] cursor.rest = false ∧ ∃ run, plainRun? false cursor.rest = some run ∧
      run ≠ [] ∧
      (((cursor.skip run.length).rest = [] ∨ atGap (cursor.skip run.length).rest = false) ∧
          scalar.text = text ++ gap.text ++ run ∨
        atGap (cursor.skip run.length).rest = true ∧ ∃ after reached,
          Gap.read? {} indent (cursor.skip run.length) = some (after, reached) ∧
          (reached.column < indent ∧ scalar.text = text ++ gap.text ++ run ∨
            indent ≤ reached.column ∧
              plainFrom? false indent fuel (text ++ gap.text ++ run) after reached = some scalar)) := by
  rw [plainFrom?] at read
  split at read
  · cases read
    exact .inl rfl
  · next unmarked =>
    have noComment : startsWithOneOf ['#'] cursor.rest = false :=
      (Bool.or_eq_false_iff.1 (Bool.eq_false_iff.2 unmarked)).2
    obtain ⟨run, reads, read⟩ := Option.bind_eq_some_iff.1 read
    by_cases nonempty : run = []
    · -- Nothing is read at a colon that ends the scalar.
      subst nonempty
      have still : cursor.skip 0 = cursor := by simp [Cursor.skip]
      simp only [List.length_nil, still, visible, List.isEmpty_nil, Bool.not_false, Bool.or_true,
        if_true] at read
      cases read
      exact .inl rfl
    · refine .inr ⟨noComment, run, reads, nonempty, ?_⟩
      have filled : run.isEmpty = false := by simpa using nonempty
      simp only [filled, Bool.false_eq_true, if_false] at read
      split at read
      · next ends =>
        cases read
        exact .inl ⟨by simpa using ends, rfl⟩
      · next more =>
        have gap : atGap (cursor.skip run.length).rest = true := by
          rw [Bool.not_eq_true, Bool.or_eq_false_iff, Bool.not_eq_false'] at more
          exact more.2
        obtain ⟨⟨after, reached⟩, readGap, read⟩ := Option.bind_eq_some_iff.1 read
        refine .inr ⟨gap, after, reached, readGap, ?_⟩
        simp only [Bool.not_false, Bool.true_and, decide_eq_true_eq] at read
        split at read
        · next early =>
          cases read
          exact .inl ⟨early, rfl⟩
        · next inside => exact .inr ⟨Nat.le_of_not_lt inside, read⟩

/-- What a plain scalar comes to is what is written in the line, or less. -/
theorem plainFrom?_bound {d : Char} (following : NextLine tail next count) (less : count < indent)
    (visible : isGap d = false)
    (read : plainFrom? false indent fuel text gap ⟨d :: rest ++ '\n' :: tail, p⟩ = some scalar) :
    StaysWithin gap.text d rest text scalar.text := by
  induction fuel generalizing d rest text gap p with
  | zero => cases read
  | succ fuel ih =>
    rcases plainFrom?_cases (by exact visible) read with same | ⟨noHash, run, reads, nonempty, goes⟩
    · rw [same]
      exact staysWithin_nothing
    · have noComment : d ≠ '#' := by simpa [startsWithOneOf] using noHash
      obtain ⟨left, whole, clear, ends⟩ := plainRun?_split reads
      obtain ⟨c, word, rfl⟩ := List.exists_cons_of_ne_nil nonempty
      rw [List.cons_append, List.cons.injEq] at whole
      obtain ⟨rfl, rfl⟩ := whole
      have skipped : (Cursor.mk (d :: (word ++ left) ++ '\n' :: tail) p).skip (d :: word).length =
          ⟨left ++ '\n' :: tail, (d :: word).foldl Position.after p⟩ := by
        rw [← List.cons_append, List.append_assoc, skip_word]
      rw [skipped] at goes
      rcases goes with ⟨stops, same⟩ | ⟨gapped, after, reached, readGap, goes⟩
      · -- A colon comes right behind the word.
        refine staysWithin_word noComment same fun none => ?_
        subst none
        simp [atGap, isGap, isBreak] at stops
      · rcases go_unbroken following readGap with ⟨run, further, rfl, shown, here, kind⟩ | ⟨here, column⟩
        · obtain ⟨e, others, rfl⟩ : ∃ e others, further = e :: others :=
            List.exists_cons_of_ne_nil (by rintro rfl; cases shown)
          rcases goes with ⟨_, same⟩ | ⟨inside, goes⟩
          · exact staysWithin_word noComment same fun none => by simp at none
          · obtain ⟨chars, q⟩ := reached
            obtain rfl : chars = e :: others ++ '\n' :: tail := here
            have some' : run ≠ [] := by
              rintro rfl
              rw [List.nil_append, List.cons_append, atGap, show isGap e = false from shown] at gapped
              cases gapped
            refine (ih (by exact shown) goes).behind noComment clear some' shown ?_
            rcases kind with ⟨blanks, rfl⟩ | broken
            · exact .inl ⟨blanks, rfl⟩
            · exact .inr (by omega)
        · -- The line ends here, and the next one starts too early to go on.
          rcases goes with ⟨_, same⟩ | ⟨inside, _⟩
          · refine staysWithin_word noComment same fun none => ?_
            subst none
            have goes := @goesOn_word tail [] word [] d (by simpa using clear) (by simp) (.inl ⟨rfl, rfl⟩)
            simpa using goes
          · omega

theorem plain?_bound {d : Char} (following : NextLine tail next count) (less : count < indent)
    (visible : isGap d = false)
    (read : plain? false indent ⟨d :: rest ++ '\n' :: tail, p⟩ = some scalar) :
    scalar.text.length ≤ (d :: rest).length ∧ (scalar.text = d :: rest → goesOn d rest = true) := by
  obtain ⟨more, same, length, all⟩ := plainFrom?_bound following less visible read
  rw [List.nil_append] at same
  rw [same]
  exact ⟨by simpa [Gap.text] using length, fun equal => (all equal).2⟩

end Plain

end DeploymentLifecycle.Yaml
