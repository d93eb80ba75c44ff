import DeploymentLifecycle.Proofs.Yaml.Lines
import DeploymentLifecycle.Proofs.Yaml.Quoted

namespace DeploymentLifecycle.Yaml

/-! What stays on the line of a key: anchors and tags do, and the text of a block scalar that starts
there comes to less than what is written on that line. -/

section Lines

variable {tail : List Char} {size : Nat} {c : Char} {cursor : Cursor}

/-- Fewer than so many characters are left of the line, its end not counted. -/
def Cursor.InLine (tail : List Char) (size : Nat) (cursor : Cursor) : Prop :=
  ∃ left, cursor.rest = left ++ '\n' :: tail ∧ left.length < size

theorem Cursor.InLine.mono {more : Nat} (inside : cursor.InLine tail size) (le : size ≤ more) :
    cursor.InLine tail more := by
  obtain ⟨left, here, less⟩ := inside
  exact ⟨left, here, Nat.lt_of_lt_of_le less le⟩

theorem Cursor.InLine.span {member : Char → Bool} (inside : cursor.InLine tail size)
    (stops : member '\n' = false) :
    ∃ more, (cursor.span member).2.InLine tail more ∧
      (cursor.span member).1.length + more = size := by
  obtain ⟨left, here, less⟩ := inside
  have taken : cursor.rest.takeWhile member = left.takeWhile member := by
    rw [here, List.takeWhile_append]
    split
    · next all =>
      rw [(List.takeWhile_prefix member).eq_of_length all]
      simp [stops]
    · rfl
  have split := List.takeWhile_append_dropWhile (p := member) (l := left)
  have length := congrArg List.length split
  rw [List.length_append] at length
  refine ⟨size - (left.takeWhile member).length, ⟨left.dropWhile member, ?_, by omega⟩, ?_⟩
  · change cursor.rest.drop (cursor.rest.takeWhile member).length = _
    rw [taken, here]
    conv => lhs; rw [← split, List.append_assoc]
    simp
  · change (cursor.rest.takeWhile member).length + _ = _
    rw [taken]
    omega

theorem Cursor.InLine.skipWhile {member : Char → Bool} (inside : cursor.InLine tail size)
    (stops : member '\n' = false) :
    (cursor.skipWhile member).InLine tail size := by
  obtain ⟨more, inside, total⟩ := inside.span stops
  exact inside.mono (by omega)

theorem Cursor.InLine.skipComment (inside : cursor.InLine tail size) :
    cursor.skipComment.InLine tail size := by
  rw [Cursor.skipComment]
  split
  · exact inside.skipWhile rfl
  · exact inside

theorem Cursor.InLine.skip_one {rest : List Char} (inside : cursor.InLine tail (size + 1))
    (head : cursor.rest = c :: rest) (noBreak : c ≠ '\n') : (cursor.skip 1).InLine tail size := by
  obtain ⟨left, here, less⟩ := inside
  rw [here] at head
  rcases left with _ | ⟨d, left⟩
  · exact absurd (List.cons.inj head).1.symm noBreak
  · exact ⟨left, by simp [Cursor.skip, here], Nat.lt_of_succ_lt_succ less⟩

theorem Cursor.InLine.skip_of {chars : List Char} (inside : cursor.InLine tail size)
    (head : startsWithOneOf chars cursor.rest = true) (noBreak : chars.contains '\n' = false) :
    (cursor.skip 1).InLine tail size := by
  obtain ⟨_ | ⟨d, left⟩, here, less⟩ := inside
  · rw [here] at head
    exact absurd (noBreak.symm.trans head) Bool.false_ne_true
  · exact ⟨left, by simp [Cursor.skip, here], Nat.lt_of_succ_lt less⟩

end Lines

section Properties

variable {tail rest : List Char} {size : Nat} {c : Char} {cursor after : Cursor} {token : Token}

theorem anchorName?_inLine {name : String} (inside : cursor.InLine tail (size + 1))
    (head : cursor.rest = c :: rest) (noBreak : c ≠ '\n')
    (read : anchorName? cursor = some (name, after)) : after.InLine tail size := by
  obtain ⟨more, behind, total⟩ := (inside.skip_one head noBreak).span (show isWordChar '\n' = false from rfl)
  rw [anchorName?] at read
  dsimp only at read
  split at read
  · cases read
  · split at read
    · cases read
      exact behind.mono (by omega)
    · cases read

theorem uri?_inLine {verbatim : Bool} {uri : Tag} (inside : cursor.InLine tail size)
    (read : uri? verbatim cursor = some (uri, after)) : after.InLine tail size := by
  obtain ⟨more, behind, total⟩ := inside.span (show isUriChar verbatim '\n' = false by cases verbatim <;> rfl)
  obtain ⟨_, _, read⟩ := Option.bind_eq_some_iff.1 read
  cases read
  exact behind.mono (by omega)

theorem handle?_inLine {handle : String} (inside : cursor.InLine tail (size + 1))
    (head : cursor.rest = '!' :: rest) (read : handle? cursor = some (handle, after)) :
    after.InLine tail size := by
  obtain ⟨more, behind, total⟩ :=
    (inside.skip_one head (by decide)).span (show isWordChar '\n' = false from rfl)
  have behind := behind.mono (show more ≤ size by omega)
  rw [handle?] at read
  split at read
  · dsimp only at read
    split at read
    · next second =>
      cases read
      exact behind.skip_of second rfl
    · cases read
      exact behind
  · cases read

theorem tagParts?_inLine {parts : String × Tag} (inside : cursor.InLine tail (size + 1))
    (head : cursor.rest = '!' :: rest) (read : tagParts? cursor = some (parts, after)) :
    after.InLine tail size := by
  rw [tagParts?] at read
  split at read
  · next bracket =>
    have moved := inside.skip_one head (by decide)
    have second : startsWithOneOf ['<'] (cursor.skip 1).rest = true := by
      obtain ⟨more, same⟩ := List.head?_eq_some_iff.1 bracket
      simp [Cursor.skip, same, startsWithOneOf]
    have opened := moved.skip_of second rfl
    rw [← Lexing.skip_add] at opened
    obtain ⟨⟨uri, reached⟩, address, read⟩ := Option.bind_eq_some_iff.1 read
    have behind := uri?_inLine opened address
    dsimp only at read
    split at read
    · cases read
    · next closes =>
      cases read
      simp only [Bool.or_eq_true, Bool.not_eq_true', not_or, Bool.not_eq_false] at closes
      exact behind.skip_of closes.2 rfl
  · obtain ⟨⟨handle, reached⟩, first, read⟩ := Option.bind_eq_some_iff.1 read
    obtain ⟨⟨uri, last⟩, second, read⟩ := Option.bind_eq_some_iff.1 read
    have behind := uri?_inLine (handle?_inLine inside head first) second
    dsimp only at read
    split at read
    · split at read <;> cases read
      exact behind
    · split at read <;> cases read <;> exact behind

theorem tag?_inLine {inFlow : Bool} (inside : cursor.InLine tail (size + 1))
    (head : cursor.rest = '!' :: rest) (read : tag? inFlow cursor = some (token, after)) :
    after.InLine tail size := by
  obtain ⟨⟨_, reached⟩, parts, read⟩ := Option.bind_eq_some_iff.1 read
  dsimp only at read
  split at read
  · cases read
    exact tagParts?_inLine inside head parts
  · cases read

end Properties

section Blocks

variable {tail next text breaks : List Char} {count size fuel indent widest : Nat} {p : Position}
  {kept c : Char} {cursor after : Cursor}

/-- The cursor is still in the line, or in front of what comes first in the next one. -/
def Cursor.Leaves (tail next : List Char) (count size : Nat) (cursor : Cursor) : Prop :=
  cursor.InLine tail size ∨
    ∃ spaces, cursor.rest = List.replicate spaces ' ' ++ next ∧ cursor.column + spaces = count

theorem Cursor.Leaves.lineBreak (leaves : cursor.Leaves tail next count size)
    (following : NextLine tail next count) (broke : cursor.lineBreak? = some (kept, after)) :
    ∃ less, after.Leaves tail next count less ∧ less + 1 ≤ size := by
  obtain ⟨chars, p⟩ := cursor
  rcases leaves with ⟨left, rfl, less⟩ | ⟨spaces, rfl, _⟩
  · obtain ⟨down, ⟨first, left, rfl, nonempty, here⟩ | here⟩ := lineBreak?_cases broke
    · have pos := List.length_pos_iff.2 nonempty
      rw [List.length_append] at less
      exact ⟨left.length + 1, .inl ⟨left, here, Nat.lt_succ_self _⟩, by omega⟩
    · refine ⟨0, .inr ⟨count, by rw [here, following.whole], ?_⟩, Nat.succ_le_of_lt (Nat.zero_lt_of_lt less)⟩
      rw [Cursor.column, down, Position.down, Nat.zero_add]
  · -- A space or something visible is no line break.
    have unbroken : (Cursor.mk (List.replicate spaces ' ' ++ next) p).lineBreak? = none := by
      cases spaces with
      | succ spaces => rfl
      | zero =>
          obtain ⟨c, rest, rfl⟩ := List.exists_cons_of_ne_nil following.ne_nil
          exact Lexing.lineBreak?_visible (Bool.or_eq_false_iff.1 following.shown).2
    rw [unbroken] at broke
    cases broke

theorem Cursor.Leaves.skip_spaces {taken : Nat} (leaves : cursor.Leaves tail next count size)
    (following : NextLine tail next count)
    (spaces : taken ≤ (cursor.rest.takeWhile (· == ' ')).length) :
    (cursor.skip taken).Leaves tail next count size := by
  obtain ⟨chars, p⟩ := cursor
  have column : ((Cursor.mk chars p).skip taken).column = p.column + taken := by
    have within := Nat.le_trans spaces (List.takeWhile_prefix _).length_le
    rw [Cursor.column, Cursor.skip, after_column, List.length_take, Nat.min_eq_left within]
  rcases leaves with ⟨left, rfl, less⟩ | ⟨blanks, rfl, whole⟩
  · have within : taken ≤ left.length := by
      rw [List.takeWhile_append] at spaces
      split at spaces
      · simpa using spaces
      · exact Nat.le_trans spaces (List.takeWhile_prefix _).length_le
    refine .inl ⟨left.drop taken, by simp [Cursor.skip, List.drop_append_of_le_length within], ?_⟩
    rw [List.length_drop]
    omega
  · obtain ⟨c, rest, rfl⟩ := List.exists_cons_of_ne_nil following.ne_nil
    have stops : (c == ' ') = false :=
      (Bool.or_eq_false_iff.1 (Bool.or_eq_false_iff.1 following.shown).1).1
    have all : ∀ d ∈ List.replicate blanks ' ', (d == ' ') = true := by simp
    rw [List.takeWhile_append_of_pos all, List.takeWhile_cons_of_neg (by simp [stops])] at spaces
    have within : taken ≤ blanks := by simpa using spaces
    refine .inr ⟨blanks - taken, ?_, ?_⟩
    · simp [Cursor.skip, List.drop_append_of_le_length, within]
    · change p.column + blanks = count at whole
      rw [column]
      omega

theorem emptyLines?_bound {found : Nat} (following : NextLine tail next count)
    (leaves : cursor.Leaves tail next count size)
    (read : emptyLines? indent fuel breaks widest cursor = some (text, found, after)) :
    ∃ less, after.Leaves tail next count less ∧ text.length + less ≤ breaks.length + size := by
  induction fuel generalizing breaks widest cursor size with
  | zero => cases read
  | succ fuel ih =>
    rw [emptyLines?] at read
    obtain ⟨taken, same⟩ : ∃ taken, taken = if indent = 0 then
        (cursor.rest.takeWhile (· == ' ')).length
      else min (cursor.rest.takeWhile (· == ' ')).length (indent - cursor.column) := ⟨_, rfl⟩
    have within : taken ≤ (cursor.rest.takeWhile (· == ' ')).length := by
      rw [same]
      split
      · exact Nat.le_refl _
      · exact Nat.min_le_left _ _
    have skipped := leaves.skip_spaces following within
    simp only [← same] at read
    split at read
    · cases read
    · split at read
      · next kept reached broke =>
        obtain ⟨less, leaves, shorter⟩ := skipped.lineBreak following broke
        obtain ⟨least, ends, total⟩ := ih leaves read
        rw [List.length_append, List.length_singleton] at total
        exact ⟨least, ends, by omega⟩
      · cases read
        exact ⟨size, skipped, Nat.le_refl _⟩

/-- Where lines are folded, a line break becomes a space at most. -/
theorem length_joint {lineBreak empty : List Char} {folded before after : Bool} :
    (if folded && lineBreak == ['\n'] && before && after then
      if empty.isEmpty then [' '] else [] else lineBreak).length ≤ lineBreak.length := by
  split
  · next folds =>
    simp only [Bool.and_eq_true, beq_iff_eq] at folds
    rw [folds.1.1.2]
    split <;> simp
  · exact Nat.le_refl _

/-- How much a block may come to, with all the breaks behind its text. -/
def Block.extent (block : Block) : Nat :=
  block.text.length + block.lineBreak.length + block.empty.length

theorem Block.length_joined {block : Block} {joint line : List Char}
    (short : joint.length ≤ block.lineBreak.length) :
    (block.text ++ joint ++ block.empty ++ line).length ≤ block.extent + line.length := by
  simp only [Block.extent, List.length_append]
  omega

theorem blockLines?_bound {folded : Bool} {block found : Block} (following : NextLine tail next count)
    (less : count < indent) (leaves : cursor.Leaves tail next count size)
    (read : blockLines? folded indent fuel block cursor = some (found, after)) :
    found.extent ≤ block.extent + size := by
  induction fuel generalizing block cursor size with
  | zero => cases read
  | succ fuel ih =>
    rw [blockLines?] at read
    split at read
    · cases read
      exact Nat.le_add_right _ _
    · next goesOn =>
      have inside : cursor.InLine tail size := by
        refine leaves.resolve_right ?_
        rintro ⟨spaces, _, column⟩
        omega
      obtain ⟨more, ends, length⟩ := @Cursor.InLine.span _ _ _ (fun c => !isBreak c) inside rfl
      -- The break after the line, and the empty lines behind it, are in the line as well.
      have further : ∀ {text lineBreak : List Char} {blank : Bool} {reached : Cursor} {left fuel' : Nat},
          (emptyLines? indent fuel' [] 0 reached).bind (fun lines =>
            blockLines? folded indent fuel ⟨text, lineBreak, lines.1, blank⟩ lines.2.2) =
              some (found, after) →
          reached.Leaves tail next count left → lineBreak.length + left ≤ more →
          text.length ≤ block.extent + (cursor.span fun c => !isBreak c).1.length →
          found.extent ≤ block.extent + size := by
        intro text lineBreak blank reached left fuel' read leaves shorter bound
        obtain ⟨⟨empty, widest, cursor⟩, blanks, read⟩ := Option.bind_eq_some_iff.1 read
        obtain ⟨least, leaves, few⟩ := emptyLines?_bound following leaves blanks
        have total : found.extent ≤ text.length + lineBreak.length + empty.length + least :=
          ih leaves read
        rw [List.length_nil] at few
        omega
      cases broke : (cursor.span fun c => !isBreak c).2.lineBreak? with
      | none =>
          simp only [broke] at read
          exact further read (.inl ends) (Nat.le_of_eq (Nat.zero_add _))
            (Block.length_joined length_joint)
      | some broken =>
          simp only [broke] at read
          obtain ⟨left, leaves, shorter⟩ := Cursor.Leaves.lineBreak (.inl ends) following broke
          refine further read leaves ?_ (Block.length_joined length_joint)
          rw [List.length_singleton]
          omega

/-- The chomping that a header's next character names. -/
def chompingMark? : List Char → Option Chomping
  | '+' :: _ => some .keep
  | '-' :: _ => some .strip
  | _ => none

/-- The indentation that a header's next character names. -/
def widthMark? : List Char → Option Nat
  | c :: _ => if c.isDigit then some (c.toNat - '0'.toNat) else none
  | [] => none

theorem Cursor.InLine.skip_mark (inside : cursor.InLine tail size)
    (mark : chompingMark? cursor.rest ≠ none ∨ widthMark? cursor.rest ≠ none) :
    (cursor.skip 1).InLine tail size := by
  obtain ⟨_ | ⟨c, left⟩, here, less⟩ := inside
  · rw [here] at mark
    rcases mark with chomping | width
    · exact absurd rfl chomping
    · exact absurd rfl width
  · exact ⟨left, by simp [Cursor.skip, here], Nat.lt_of_succ_lt less⟩

/-- The marks that stand at the cursor, in either order, and where they end. -/
def headerMarks (cursor : Cursor) : Chomping × Option Nat × Cursor :=
  match chompingMark? cursor.rest with
  | some chomping =>
    match widthMark? (cursor.skip 1).rest with
    | some width => (chomping, some width, cursor.skip 2)
    | none => (chomping, none, cursor.skip 1)
  | none =>
    match widthMark? cursor.rest with
    | some width =>
      match chompingMark? (cursor.skip 1).rest with
      | some chomping => (chomping, some width, cursor.skip 2)
      | none => (.clip, some width, cursor.skip 1)
    | none => (.clip, none, cursor)

theorem blockHeader?_eq : blockHeader? cursor =
    if (headerMarks cursor).2.1 = some 0 then none else some (headerMarks cursor) :=
  rfl

theorem headerMarks_inLine (inside : cursor.InLine tail size) :
    (headerMarks cursor).2.2.InLine tail size := by
  have two : cursor.skip 2 = (cursor.skip 1).skip 1 := @Lexing.skip_add cursor 1 1
  rw [headerMarks]
  cases first : chompingMark? cursor.rest with
  | some chomping =>
      have moved := inside.skip_mark (.inl (by simp [first]))
      cases second : widthMark? (cursor.skip 1).rest with
      | some width =>
          dsimp only
          rw [two]
          exact moved.skip_mark (.inr (by simp [second]))
      | none => exact moved
  | none =>
      cases second : widthMark? cursor.rest with
      | some width =>
          have moved := inside.skip_mark (.inr (by simp [second]))
          cases third : chompingMark? (cursor.skip 1).rest with
          | some chomping =>
              dsimp only
              rw [two]
              exact moved.skip_mark (.inl (by simp [third]))
          | none => exact moved
      | none => exact inside

theorem blockHeader?_inLine {chomping : Chomping} {width : Option Nat}
    (inside : cursor.InLine tail size)
    (read : blockHeader? cursor = some (chomping, width, after)) :
    after.InLine tail size ∧ width ≠ some 0 := by
  rw [blockHeader?_eq] at read
  have moved := headerMarks_inLine inside
  split at read
  · cases read
  · next nonzero =>
    obtain same := Option.some.inj read
    rw [same] at moved nonzero
    exact ⟨moved, nonzero⟩

/-- A block scalar comes to less than is written in the line. -/
theorem block?_bound {folded : Bool} {column : Nat} {rest : List Char}
    (following : NextLine tail next count) (shallow : count ≤ column) (noBreak : c ≠ '\n')
    (read : block? folded (some column) ⟨c :: rest ++ '\n' :: tail, p⟩ = some (text, after)) :
    text.length ≤ rest.length := by
  have inside : (Cursor.mk (c :: rest ++ '\n' :: tail) p).InLine tail (rest.length + 2) :=
    ⟨c :: rest, rfl, Nat.lt_succ_self _⟩
  obtain ⟨⟨chomping, width, cursor⟩, header, read⟩ := Option.bind_eq_some_iff.1 read
  obtain ⟨inside, nonzero⟩ := blockHeader?_inLine (inside.skip_one rfl noBreak) header
  have blanks := (inside.skipWhile (show isBlank '\n' = false from rfl)).skipComment
  dsimp only at read
  split at read
  · cases read
  · next broken =>
    have nonempty : (cursor.skipWhile isBlank).skipComment.rest ≠ [] := by
      obtain ⟨left, here, _⟩ := blanks
      simp [here]
    obtain ⟨kept, reached, broke⟩ := lineBreak?_isSome (by simpa using broken) nonempty
    obtain ⟨less, leaves, shorter⟩ := Cursor.Leaves.lineBreak (.inl blanks) following broke
    rw [Cursor.skipBreak, broke] at read
    obtain ⟨⟨empty, widest, cursor⟩, blanks, read⟩ := Option.bind_eq_some_iff.1 read
    obtain ⟨least, leaves, few⟩ := emptyLines?_bound following leaves blanks
    obtain ⟨⟨block, cursor⟩, lines, read⟩ := Option.bind_eq_some_iff.1 read
    cases read
    have total := blockLines?_bound following (by
      -- The lines of the block are further indented than the key.
      cases width with
      | none => simp only [if_true]; omega
      | some width =>
          have pos : width ≠ 0 := fun zero => nonzero (by rw [zero])
          simp only [Option.getD_some]
          split <;> omega) leaves lines
    have stripped : (if chomping = .strip then [] else block.lineBreak).length ≤
        block.lineBreak.length := by split <;> simp
    have kept : (if chomping = .keep then block.empty else []).length ≤ block.empty.length := by
      split <;> simp
    simp only [Block.extent, List.length_append, List.length_nil] at total few ⊢
    omega

end Blocks

end DeploymentLifecycle.Yaml
