import DeploymentLifecycle.Proofs.Yaml.PlainLine

namespace DeploymentLifecycle.Yaml

/-! The tokens of a text that is laid out in lines: keys with plain values, keys with a block below
them, and comments. -/

namespace Cursor

variable {cursor next : Cursor} {kept : Char} {rest : List Char} {p : Position} {count : Nat}

theorem length_skip : (cursor.skip count).rest.length ≤ cursor.rest.length := by
  simp [skip]

theorem length_skipMark : cursor.skipMark.rest.length ≤ cursor.rest.length := by
  rw [skipMark]
  split
  · exact length_skip
  · exact Nat.le_refl _

theorem length_skipComment : cursor.skipComment.rest.length ≤ cursor.rest.length := by
  rw [skipComment]
  split
  · exact length_skip
  · exact Nat.le_refl _

theorem length_lineBreak? (broke : cursor.lineBreak? = some (kept, next)) :
    next.rest.length < cursor.rest.length := by
  rw [lineBreak?] at broke
  split at broke
  · next whole =>
    cases broke
    rw [whole]
    exact Nat.lt_succ_of_lt (Nat.lt_succ_self _)
  · next whole =>
    split at broke
    · cases broke
      rw [whole]
      exact Nat.lt_succ_self _
    · cases broke
  · cases broke

end Cursor

namespace Lexing

/-- What is skipped within a line, before a token or the end of the line. -/
def skipped (tabs : Bool) (cursor : Cursor) : Cursor :=
  (cursor.skipMark.skipWhile fun c => c == ' ' || (tabs && c == '\t')).skipComment

theorem toNextToken_succ {inFlow keyAllowed : Bool} {fuel : Nat} {cursor : Cursor} :
    toNextToken inFlow (fuel + 1) keyAllowed cursor =
      match (skipped (inFlow || !keyAllowed) cursor).lineBreak? with
      | some (_, next) => toNextToken inFlow fuel (keyAllowed || !inFlow) next
      | none => (keyAllowed, skipped (inFlow || !keyAllowed) cursor) := rfl

theorem length_skipped {tabs : Bool} {cursor : Cursor} :
    (skipped tabs cursor).rest.length ≤ cursor.rest.length :=
  Nat.le_trans Cursor.length_skipComment (Nat.le_trans Cursor.length_skip Cursor.length_skipMark)

/-- More rounds than characters make no difference. -/
theorem toNextToken_fuel {inFlow keyAllowed : Bool} {fuel other : Nat} {cursor : Cursor}
    (enough : cursor.rest.length < fuel) (also : cursor.rest.length < other) :
    toNextToken inFlow fuel keyAllowed cursor = toNextToken inFlow other keyAllowed cursor := by
  induction fuel generalizing other keyAllowed cursor with
  | zero => omega
  | succ fuel ih =>
      obtain ⟨other, rfl⟩ := Nat.exists_eq_add_one_of_ne_zero (Nat.ne_zero_of_lt also)
      rw [toNextToken_succ, toNextToken_succ]
      cases broke : (skipped (inFlow || !keyAllowed) cursor).lineBreak? with
      | none => rfl
      | some found =>
          have shorter := Cursor.length_lineBreak? broke
          have within := @length_skipped (inFlow || !keyAllowed) cursor
          exact ih (by omega) (by omega)

variable {s t : Lexing} {fuel line column count : Nat} {rest : List Char} {c : Char} {p : Position}

/-- What is skipped makes no difference. -/
theorem run?_congr (same : s.skipToNextToken = t.skipToNextToken) : run? fuel s = run? fuel t := by
  cases fuel with
  | zero => rfl
  | succ fuel => rw [run?, run?, same]

theorem run?_step {u v : Lexing} (skipped : s.skipToNextToken = t)
    (refreshed : t.refreshKeyStarts? = some u) (more : u.cursor.rest ≠ [])
    (read : (u.closeBlocks u.cursor.column).token? = some v) :
    run? (fuel + 1) s = run? fuel v := by
  rw [run?, skipped, refreshed]
  simp [more, read]

/-- The blocks that are open, and the tokens up to here, the last one first. -/
structure Blocks where
  tokens : List Token := []
  indents : List Nat := []

/-- Outside of flow collections, and with no key under way. -/
def outside (rest : List Char) (p : Position) (blocks : Blocks) (keyAllowed : Bool) : Lexing :=
  { cursor := ⟨rest, p⟩, tokens := blocks.tokens, indents := blocks.indents, keyAllowed }

/-- At the start of a line. -/
def lineStart (line : Nat) (rest : List Char) (blocks : Blocks) : Lexing :=
  outside rest ⟨line, 0, 0⟩ blocks true

variable {blocks : Blocks} {keyAllowed : Bool} {fuel : Nat}

theorem skipToNextToken_outside (enough : rest.length < fuel) :
    (outside rest p blocks keyAllowed).skipToNextToken =
      let (keyAllowed, cursor) := toNextToken false fuel keyAllowed ⟨rest, p⟩
      { outside rest p blocks keyAllowed with cursor } := by
  have same := @toNextToken_fuel false keyAllowed (rest.length + 1) fuel ⟨rest, p⟩
    (Nat.lt_succ_self _) enough
  change _ = (fun found : Bool × Cursor =>
    { outside rest p blocks found.1 with cursor := found.2 }) (toNextToken false fuel keyAllowed ⟨rest, p⟩)
  rw [← same]
  rfl

theorem skipMark_eq {cursor : Cursor}
    (noMark : startsWithOneOf [byteOrderMark] cursor.rest = false ∨ 0 < cursor.column) :
    cursor.skipMark = cursor := by
  rw [Cursor.skipMark, if_neg]
  rcases noMark with head | column
  · simp [head]
  · simp [Nat.ne_of_gt column]

theorem skip_add {cursor : Cursor} {first second : Nat} :
    cursor.skip (first + second) = (cursor.skip first).skip second := by
  simp [Cursor.skip, List.take_add, List.drop_drop]

theorem skipWhile_append {first : List Char} {member : Char → Bool}
    (all : ∀ c ∈ first, member c = true) :
    (Cursor.mk (first ++ rest) p).skipWhile member =
      (Cursor.mk rest (first.foldl Position.after p)).skipWhile member := by
  rw [Cursor.skipWhile, Cursor.skipWhile, List.takeWhile_append_of_pos all, List.length_append,
    skip_add, skip_word]

theorem skipWhile_stops {member : Char → Bool} (stops : member c = false) :
    (Cursor.mk (c :: rest) p).skipWhile member = ⟨c :: rest, p⟩ := by
  simp [Cursor.skipWhile, Cursor.skip, stops]

/-- Spaces at the start of a line are skipped. -/
theorem skipped_spaces {tabs : Bool} :
    skipped tabs ⟨List.replicate count ' ' ++ rest, ⟨line, 0, 0⟩⟩ =
      skipped tabs ⟨rest, ⟨line, count, count⟩⟩ := by
  cases count with
  | zero => rfl
  | succ count =>
      have head : startsWithOneOf [byteOrderMark] (List.replicate (count + 1) ' ' ++ rest) = false :=
        rfl
      have inside : 0 < (Cursor.mk rest ⟨line, count + 1, count + 1⟩).column := Nat.succ_pos count
      rw [skipped, skipped, skipMark_eq (.inl head), skipMark_eq (.inr inside), skipWhile_append,
        after_spaces]
      · simp
      · intro c member
        rw [List.eq_of_mem_replicate member]
        rfl

theorem skipped_visible {tabs : Bool} (visible : isBlank c = false) (noComment : c ≠ '#')
    (noMark : c ≠ byteOrderMark ∨ 0 < p.column) :
    skipped tabs ⟨c :: rest, p⟩ = ⟨c :: rest, p⟩ := by
  have head : startsWithOneOf [byteOrderMark] (Cursor.mk (c :: rest) p).rest = false ∨
      0 < (Cursor.mk (c :: rest) p).column := noMark.imp_left fun other => by
    simpa [startsWithOneOf] using other
  simp only [isBlank, Bool.or_eq_false_iff, beq_eq_false_iff_ne] at visible
  rw [skipped, skipMark_eq head, skipWhile_stops (by simp [visible]), Cursor.skipComment, if_neg]
  simpa [startsWithOneOf] using noComment

theorem lineBreak?_visible (visible : isBreak c = false) :
    (Cursor.mk (c :: rest) p).lineBreak? = none := by
  rw [Cursor.lineBreak?]
  split
  · next same =>
    cases same
    cases visible
  · next same =>
    cases same
    simp [visible]
  · rfl

theorem lineBreak?_feed :
    (Cursor.mk ('\n' :: rest) p).lineBreak? = some ('\n', ⟨rest, p.down⟩) := rfl

/-- A visible character is where a token starts. -/
theorem skipToNextToken_visible (here : s.cursor = ⟨c :: rest, p⟩) (visible : isGap c = false)
    (noComment : c ≠ '#') (noMark : c ≠ byteOrderMark ∨ 0 < p.column) : s.skipToNextToken = s := by
  obtain ⟨cursor, tokens, indents, keyAllowed, keyStart, outer⟩ := s
  obtain rfl : cursor = ⟨c :: rest, p⟩ := here
  obtain ⟨noBlank, noBreak⟩ := Bool.or_eq_false_iff.1 visible
  rw [skipToNextToken, toNextToken_succ, skipped_visible noBlank noComment noMark,
    lineBreak?_visible noBreak]

theorem skipToNextToken_break :
    (outside ('\n' :: rest) p blocks keyAllowed).skipToNextToken =
      (lineStart (p.line + 1) rest blocks).skipToNextToken := by
  have enough : ('\n' :: rest).length < rest.length + 1 + 1 := by simp
  rw [skipToNextToken_outside enough, lineStart, skipToNextToken_outside (Nat.lt_succ_self _),
    toNextToken_succ, skipped_visible rfl (by decide) (.inl (by decide)), lineBreak?_feed,
    Position.down]
  simp [outside]

theorem skipToNextToken_spaces :
    (lineStart line (List.replicate count ' ' ++ rest) blocks).skipToNextToken =
      (outside rest ⟨line, count, count⟩ blocks true).skipToNextToken := by
  have enough : (List.replicate count ' ' ++ rest).length < (count + rest.length) + 1 := by simp
  have also : rest.length < (count + rest.length) + 1 := by omega
  rw [lineStart, skipToNextToken_outside enough, skipToNextToken_outside also, toNextToken_succ,
    toNextToken_succ, skipped_spaces]
  rfl

theorem skipped_comment {tabs : Bool} {comment : List Char}
    (oneLine : ∀ c ∈ comment, isBreak c = false) :
    skipped tabs ⟨'#' :: comment ++ '\n' :: rest, p⟩ =
      ⟨'\n' :: rest, ('#' :: comment).foldl Position.after p⟩ := by
  have head : startsWithOneOf [byteOrderMark] ('#' :: comment ++ '\n' :: rest) = false := rfl
  have hash : startsWithOneOf ['#'] ('#' :: comment ++ '\n' :: rest) = true := rfl
  have all : ∀ c ∈ '#' :: comment, (!isBreak c) = true :=
    List.forall_mem_cons.2 ⟨rfl, fun c member => by simp [oneLine c member]⟩
  rw [skipped, skipMark_eq (.inl head), List.cons_append, skipWhile_stops (by simp),
    ← List.cons_append, Cursor.skipComment, if_pos hash, skipWhile_append all,
    skipWhile_stops (by simp [isBreak])]

theorem skipToNextToken_comment {comment : List Char} (oneLine : ∀ c ∈ comment, isBreak c = false) :
    (lineStart line (List.replicate count ' ' ++ ('#' :: comment ++ '\n' :: rest))
        blocks).skipToNextToken =
      (lineStart (line + 1) rest blocks).skipToNextToken := by
  have enough : ('#' :: comment ++ '\n' :: rest).length <
      (comment.length + 1 + rest.length) + 1 + 1 := by
    simp
    omega
  have also : rest.length < (comment.length + 1 + rest.length) + 1 := by omega
  rw [skipToNextToken_spaces, skipToNextToken_outside enough, lineStart,
    skipToNextToken_outside also, toNextToken_succ, skipped_comment oneLine, lineBreak?_feed,
    Position.down, after_line]
  rfl

theorem skipped_space {tabs : Bool} (visible : isBlank c = false) (noComment : c ≠ '#')
    (inside : 0 < p.column) :
    skipped tabs ⟨' ' :: c :: rest, p⟩ = ⟨c :: rest, p.after ' '⟩ := by
  have stops : (c == ' ' || (tabs && c == '\t')) = false := by
    simp only [isBlank, Bool.or_eq_false_iff] at visible
    simp [visible]
  have head : startsWithOneOf ['#'] (c :: rest) = false := by simpa [startsWithOneOf] using noComment
  have space : ∀ d ∈ [' '], (d == ' ' || (tabs && d == '\t')) = true := by simp
  have noMark : 0 < (Cursor.mk (' ' :: c :: rest) p).column := inside
  rw [skipped, skipMark_eq (.inr noMark), show ' ' :: c :: rest = [' '] ++ c :: rest from rfl,
    skipWhile_append space, skipWhile_stops stops, Cursor.skipComment, if_neg (by simp [head])]
  rfl

/-- The space before a value is skipped. -/
theorem skipToNextToken_space (visible : isGap c = false) (noComment : c ≠ '#')
    (inside : 0 < p.column) :
    (outside (' ' :: c :: rest) p blocks keyAllowed).skipToNextToken =
      outside (c :: rest) (p.after ' ') blocks keyAllowed := by
  obtain ⟨noBlank, noBreak⟩ := Bool.or_eq_false_iff.1 visible
  rw [skipToNextToken_outside (Nat.lt_succ_self _), toNextToken_succ,
    skipped_space noBlank noComment inside, lineBreak?_visible noBreak]
  rfl

/-- The blocks that are still open in a line that starts at a column. -/
def Blocks.closed (blocks : Blocks) (column : Nat) : Blocks where
  tokens := (blocks.indents.takeWhile (column < ·)).map (fun _ => .blockEnd) ++ blocks.tokens
  indents := blocks.indents.dropWhile (column < ·)

/-- The blocks that are open behind a key that starts at a column. -/
def Blocks.opened (blocks : Blocks) (column : Nat) : Blocks :=
  let left := blocks.closed column
  if left.indents.head?.all (· < column) then
    ⟨.mappingStart :: left.tokens, column :: left.indents⟩
  else left

def Blocks.push (blocks : Blocks) (tokens : List Token) : Blocks :=
  { blocks with tokens := tokens ++ blocks.tokens }

/-- What a key adds, the last token first. -/
def Blocks.key (blocks : Blocks) (column : Nat) (key : List Char) : Blocks :=
  (blocks.opened column).push [.value, .scalar .plain (String.ofList key), .key]

theorem refreshKeyStarts?_outside : (outside rest p blocks keyAllowed).refreshKeyStarts? =
    some (outside rest p blocks keyAllowed) := rfl

theorem atMark_of_inside {cursor : Cursor} {mark : List Char} (inside : 0 < cursor.column) :
    cursor.atMark mark = false := by
  simp [Cursor.atMark, Nat.ne_of_gt inside]

/-- A plain scalar is read where one can start. -/
theorem token?_plain (here : s.cursor = ⟨c :: rest, p⟩) (block : s.inFlow = false)
    (starts : canStart c rest = true)
    (inside : 0 < p.column ∨ Lexing.indicators.contains c = false ∧ c ≠ '.') :
    s.token? = s.plainScalar? := by
  have noMark : ∀ mark, mark = Cursor.documentStart ∨ mark = Cursor.documentEnd →
      s.cursor.atMark mark = false := by
    intro mark either
    rcases inside with inside | ⟨plain, noDot⟩
    · exact atMark_of_inside (by rw [here]; exact inside)
    · rw [here]
      have noDash : c ≠ '-' := by
        rintro rfl
        cases plain
      rcases either with rfl | rfl
      · exact atMark_of_head (by simpa [Cursor.documentStart] using noDash.symm)
      · exact atMark_of_head (by simpa [Cursor.documentEnd] using noDot.symm)
  rw [token?, here]
  rw [here] at noMark
  simp only [noMark _ (.inl rfl), noMark _ (.inr rfl), block, startsPlain, Bool.false_eq_true,
    if_false, false_or, and_true, Bool.not_false, Bool.true_and]
  rw [canStart, Bool.or_eq_true] at starts
  rcases starts with visible | marked
  · -- No indicator: none of the tests before the last one holds.
    have plain := (Bool.and_eq_true_iff.1 visible).2
    simp only [indicators, List.contains_cons, List.contains_nil, Bool.or_false, Bool.not_eq_true',
      Bool.or_eq_false_iff, beq_eq_false_iff_ne] at plain
    rw [visible]
    simp [plain]
  · obtain ⟨mark, more⟩ := Bool.and_eq_true_iff.1 marked
    simp only [List.contains_cons, List.contains_nil, Bool.or_false, Bool.or_eq_true,
      beq_iff_eq] at mark
    rw [Bool.not_eq_true'] at more
    have noBlank : startsWithOneOf [' ', '\t'] rest = false := by
      cases rest with
      | nil => rfl
      | cons d rest =>
          have visible : isGap d = false := more
          simp only [isGap, isBlank, Bool.or_eq_false_iff, beq_eq_false_iff_ne] at visible
          simp [startsWithOneOf, visible.1]
    rcases mark with rfl | rfl | rfl <;> simp [more, noBlank]

/-- A key is read, which shows to be one only at the colon after it. -/
def Blocks.underKey (blocks : Blocks) (key rest : List Char) (p : Position) : Lexing where
  cursor := ⟨':' :: rest, key.foldl Position.after p⟩
  tokens := .scalar .plain (String.ofList key) :: blocks.tokens
  indents := blocks.indents
  keyAllowed := false
  keyStart := some ⟨blocks.indents.head? == some p.column, blocks.tokens.length, p⟩

variable {key : List Char}

theorem plainScalar?_key (word : isKeyWord key = true) (gap : atGap rest = true) :
    (outside (key ++ ':' :: rest) p blocks true).plainScalar? = some (blocks.underKey key rest p) := by
  obtain ⟨tokens, indents⟩ := blocks
  cases indents with
  | nil =>
      change (plain? false 0 ⟨key ++ ':' :: rest, p⟩).bind _ = _
      rw [plain?_key word gap]
      rfl
  | cons innermost _ =>
      change (plain? false (innermost + 1) ⟨key ++ ':' :: rest, p⟩).bind _ = _
      rw [plain?_key word gap]
      rfl

/-- Nothing is closed where the innermost block starts no further on. -/
theorem closeBlocks_of_within (within : ∀ innermost ∈ s.indents.head?, innermost ≤ column) :
    s.closeBlocks column = s := by
  obtain ⟨cursor, tokens, indents, keyAllowed, keyStart, outer⟩ := s
  rw [closeBlocks]
  split
  · rfl
  · cases indents with
    | nil => rfl
    | cons innermost indents =>
        have shallow : ¬ column < innermost := Nat.not_lt.2 (within innermost rfl)
        simp [shallow]

theorem closed_within {innermost : Nat} (head : innermost ∈ (blocks.closed column).indents.head?) :
    innermost ≤ column := by
  have stops := List.head?_dropWhile_not (column < ·) blocks.indents
  rw [show (blocks.indents.dropWhile (column < ·)).head? = some innermost from head] at stops
  simpa using stops

theorem insertIdx_behind {later earlier : List Token} {token : Token} :
    (later ++ earlier).insertIdx later.length token = later ++ token :: earlier := by
  induction later with
  | nil => rfl
  | cons first later ih => exact congrArg (first :: ·) ih

theorem emitAt_behind {later earlier : List Token} {token : Token}
    (split : s.tokens = later ++ earlier) :
    s.emitAt earlier.length token = { s with tokens := later ++ token :: earlier } := by
  rw [emitAt, split, List.length_append, Nat.add_sub_cancel, insertIdx_behind]

theorem isDeeper_eq : s.isDeeper column = s.indents.head?.all (· < column) := by
  rw [isDeeper]
  cases s.indents <;> rfl

/-- The colon shows that the tokens since a place are a key, and that a block starts there. -/
theorem value?_since {start : KeyStart} {later earlier : List Token}
    (held : s.keyStart = some start) (number : start.number = earlier.length)
    (split : s.tokens = later ++ earlier) :
    let opens := !s.inFlow && s.isDeeper start.position.column
    s.value? = some { s with
      tokens := .value :: (later ++ .key :: if opens then .mappingStart :: earlier else earlier)
      indents := if opens then start.position.column :: s.indents else s.indents
      keyStart := none
      keyAllowed := false
      cursor := s.cursor.skip 1 } := by
  intro opens
  have between : later ++ Token.key :: earlier = (later ++ [.key]) ++ earlier := by simp
  have same : ({ s with tokens := later ++ .key :: earlier } : Lexing).openBlock
      start.position.column earlier.length .mappingStart =
        if opens then
          { ({ s with tokens := later ++ .key :: earlier } : Lexing).emitAt earlier.length
              .mappingStart with indents := start.position.column :: s.indents }
        else { s with tokens := later ++ .key :: earlier } := rfl
  rw [value?, held]
  simp only [number, emitAt_behind split, same]
  cases opens with
  | false => rfl
  | true =>
      simp only [if_true]
      rw [emitAt_behind between, List.append_assoc]
      rfl

theorem value?_underKey :
    ((blocks.closed column).underKey key rest ⟨line, column, column⟩).value? =
      some (outside rest ((key.foldl Position.after ⟨line, column, column⟩).after ':')
        (blocks.key column key) false) := by
  have deeper : ((blocks.closed column).underKey key rest ⟨line, column, column⟩).isDeeper column =
      (blocks.closed column).indents.head?.all (· < column) := isDeeper_eq
  have block : ((blocks.closed column).underKey key rest ⟨line, column, column⟩).inFlow = false := rfl
  rw [value?_since rfl rfl (@rfl _ ([_] ++ _)), Blocks.key, Blocks.opened]
  simp only [block, deeper, Bool.not_false, Bool.true_and]
  cases (blocks.closed column).indents.head?.all (· < column) <;> rfl

/-- The colon after a key is reached in the line of the key, and soon enough. -/
theorem refreshKeyStarts?_underKey (short : key.length ≤ 256) :
    (blocks.underKey key rest p).refreshKeyStarts? = some (blocks.underKey key rest p) := by
  have bytes := @after_bytes p key
  have fresh : isStale ⟨blocks.indents.head? == some p.column, blocks.tokens.length, p⟩
      (key.foldl Position.after p) = false := by
    rw [isStale, after_line, longestKey, Bool.or_eq_false_iff, decide_eq_false_iff_not,
      decide_eq_false_iff_not]
    exact ⟨Nat.lt_irrefl _, Nat.not_lt.2 (Nat.le_trans bytes (by simp only; omega))⟩
  have kept : (blocks.underKey key rest p).refresh? (blocks.underKey key rest p).keyStart =
      some (blocks.underKey key rest p).keyStart := if_neg (Bool.not_eq_true _ ▸ fresh)
  rw [refreshKeyStarts?, kept]
  rfl

theorem token?_colon (here : s.cursor = ⟨':' :: rest, p⟩) (gap : atGap rest = true) :
    s.token? = s.value? := by
  have noStart : (Cursor.mk (':' :: rest) p).atMark Cursor.documentStart = false :=
    atMark_of_head (by decide)
  have noEnd : (Cursor.mk (':' :: rest) p).atMark Cursor.documentEnd = false :=
    atMark_of_head (by decide)
  rw [token?, here]
  simp [noStart, noEnd, gap]

/-- One round reads the key, still as a scalar. -/
theorem run?_scalarOfKey (word : isKeyWord key = true) (gap : atGap rest = true) :
    run? (fuel + 1) (lineStart line (List.replicate column ' ' ++ (key ++ ':' :: rest)) blocks) =
      run? fuel ((blocks.closed column).underKey key rest ⟨line, column, column⟩) := by
  obtain ⟨c, more, rfl, each, plain, noDot, noMark, _⟩ := exists_keyChar word
  have visible : isGap c = false := (each c (by simp)).1
  have noHash : c ≠ '#' := by
    rintro rfl
    cases plain
  have starts : canStart c (more ++ ':' :: rest) = true := by
    rw [canStart, visible, plain]
    rfl
  have skipped : (outside (c :: more ++ ':' :: rest) ⟨line, column, column⟩ blocks
      true).skipToNextToken = outside (c :: more ++ ':' :: rest) ⟨line, column, column⟩ blocks true :=
    skipToNextToken_visible rfl visible noHash (.inl noMark)
  have read : (outside (c :: more ++ ':' :: rest) ⟨line, column, column⟩ (blocks.closed column)
      true).token? = some ((blocks.closed column).underKey (c :: more) rest ⟨line, column, column⟩) :=
    (token?_plain rfl rfl starts (.inr ⟨plain, noDot⟩)).trans (plainScalar?_key word gap)
  exact run?_step (skipToNextToken_spaces.trans skipped) refreshKeyStarts?_outside
    (by simp [outside]) read

/-- The next round reads the colon. -/
theorem run?_colon (short : key.length ≤ 256) (gap : atGap rest = true) :
    run? (fuel + 1) ((blocks.closed column).underKey key rest ⟨line, column, column⟩) =
      run? fuel (outside rest ((key.foldl Position.after ⟨line, column, column⟩).after ':')
        (blocks.key column key) false) := by
  have skipped : ((blocks.closed column).underKey key rest ⟨line, column, column⟩).skipToNextToken =
      (blocks.closed column).underKey key rest ⟨line, column, column⟩ :=
    skipToNextToken_visible rfl rfl (by decide) (.inl (by decide))
  have within : ∀ innermost ∈ (blocks.closed column).indents.head?,
      innermost ≤ (key.foldl Position.after ⟨line, column, column⟩).column := by
    intro innermost head
    rw [after_column]
    exact Nat.le_trans (closed_within head) (Nat.le_add_right _ _)
  have same := closeBlocks_of_within
    (s := (blocks.closed column).underKey key rest ⟨line, column, column⟩) within
  exact run?_step skipped (refreshKeyStarts?_underKey short) (by simp [Blocks.underKey])
    ((congrArg token? same).trans ((token?_colon rfl gap).trans value?_underKey))

/-- A key in a line of its own, up to behind its colon. -/
theorem run?_key (word : isKeyWord key = true) (gap : atGap rest = true) :
    ∃ reached : Position, reached.line = line ∧ column < reached.column ∧ ∀ fuel,
      run? (fuel + 2) (lineStart line (List.replicate column ' ' ++ (key ++ ':' :: rest)) blocks) =
        run? fuel (outside rest reached (blocks.key column key) false) := by
  obtain ⟨_, _, _, _, _, _, _, short⟩ := exists_keyChar word
  refine ⟨(key.foldl Position.after ⟨line, column, column⟩).after ':', after_line, ?_, ?_⟩
  · have width := @after_column ⟨line, column, column⟩ key
    simp only [Position.after] at width ⊢
    omega
  · intro fuel
    exact (run?_scalarOfKey word gap).trans (run?_colon short gap)

theorem canStart_append (starts : canStart c rest = true) (tail : List Char) :
    canStart c (rest ++ tail) = true := by
  cases rest with
  | nil =>
      have shown : (!isGap c && !indicators.contains c) = true := by
        simpa [canStart, atGap] using starts
      rw [canStart, shown, Bool.true_or]
  | cons => exact starts

variable {value next : List Char} {outer : List Nat}

theorem plainScalar?_value (plain : isPlainLine value = true) (opened : blocks.indents = column :: outer)
    (inside : column < p.column) (shallow : count ≤ column) (shown : atGap next = false ∨ next = []) :
    (outside (value ++ '\n' :: (List.replicate count ' ' ++ next)) p blocks false).plainScalar? =
      some (outside next ⟨p.line + 1, count, count⟩
        (blocks.push [.scalar .plain (String.ofList value)]) true) := by
  obtain ⟨tokens, indents⟩ := blocks
  obtain rfl : indents = column :: outer := opened
  change (plain? false (column + 1) ⟨value ++ '\n' :: (List.replicate count ' ' ++ next), p⟩).bind _ =
    _
  rw [plain?_value plain inside (Nat.lt_succ_of_le shallow) shown]
  rfl

/-- A plain value on the line of its key, up to the start of the next line. -/
theorem run?_value (plain : isPlainLine value = true) (opened : blocks.indents = column :: outer)
    (inside : column < p.column) (shallow : count ≤ column) (shown : atGap next = false ∨ next = []) :
    run? (fuel + 1) (outside (' ' :: value ++ '\n' :: (List.replicate count ' ' ++ next)) p blocks
        false) =
      run? fuel (lineStart (p.line + 1) (List.replicate count ' ' ++ next)
        (blocks.push [.scalar .plain (String.ofList value)])) := by
  cases value with
  | nil => cases plain
  | cons c rest =>
      obtain ⟨starts, goes⟩ := Bool.and_eq_true_iff.1 plain
      obtain ⟨visible, noComment⟩ := visible_of_canStart starts
      have inBlock : 0 < p.column := Nat.lt_of_le_of_lt (Nat.zero_le _) inside
      have starts := canStart_append starts ('\n' :: (List.replicate count ' ' ++ next))
      have within : ∀ innermost ∈ blocks.indents.head?, innermost ≤ (p.after ' ').column := by
        rw [opened]
        rintro _ ⟨⟩
        exact Nat.le_succ_of_le (Nat.le_of_lt inside)
      have further : column < (p.after ' ').column := Nat.lt_succ_of_lt inside
      have read := plainScalar?_value plain opened further shallow shown
      have first := token?_plain
        (s := outside (c :: rest ++ '\n' :: (List.replicate count ' ' ++ next)) (p.after ' ') blocks
          false) rfl rfl starts (.inl (Nat.succ_pos _))
      have same := closeBlocks_of_within
        (s := outside (c :: rest ++ '\n' :: (List.replicate count ' ' ++ next)) (p.after ' ') blocks
          false) within
      exact (run?_step (skipToNextToken_space visible noComment inBlock) refreshKeyStarts?_outside
        (by simp [outside]) ((congrArg token? same).trans (first.trans read))).trans
        (run?_congr skipToNextToken_spaces.symm)

end Lexing

end DeploymentLifecycle.Yaml
