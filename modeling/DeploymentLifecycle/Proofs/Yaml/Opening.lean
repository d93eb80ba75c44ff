import DeploymentLifecycle.Proofs.Yaml.Layout
import DeploymentLifecycle.Proofs.Yaml.Within
import Mathlib.Logic.Basic

namespace DeploymentLifecycle.Yaml

/-! Which text the value of a key comes to. It is decided by the first token behind the key that is
no anchor and no tag, and what is read later does not come before that token. -/

/-- Anchors and tags stand in front of what they belong to. -/
def Token.isProperty : Token → Bool
  | .anchor _ | .tag .. => true
  | _ => false

/-- Tokens that are neither properties nor scalars. -/
def Token.isMark : Token → Bool
  | .anchor _ | .tag .. | .scalar .. => false
  | _ => true

/-- Whether tokens start, behind properties, with something else than a scalar of this text. -/
def isOther (x : String) : List Token → Bool
  | [] => false
  | .anchor _ :: rest | .tag .. :: rest => isOther x rest
  | .scalar _ text :: _ => text != x
  | _ :: _ => true

/-- Whether tokens may still turn out to start with something else. -/
def mayBeOther (x : String) (tokens : List Token) : Bool :=
  tokens.all Token.isProperty || isOther x tokens

section Tokens

variable {x : String} {token : Token} {before after : List Token}

theorem isOther_append (other : isOther x before = true) : isOther x (before ++ after) = true := by
  induction before with
  | nil => cases other
  | cons token before ih => cases token <;> first | exact ih other | exact other

theorem isOther_properties (properties : before.all Token.isProperty = true) :
    isOther x (before ++ after) = isOther x after := by
  induction before with
  | nil => rfl
  | cons token before ih =>
      obtain ⟨here, properties⟩ := Bool.and_eq_true_iff.1 properties
      cases token <;> first | exact ih properties | cases here

theorem isOther_mark (mark : token.isMark = true) : isOther x (token :: after) = true := by
  cases token <;> first | rfl | cases mark

/-- A mark decides where nothing did before. -/
theorem isOther_insert (other : mayBeOther x (before ++ after) = true) (mark : token.isMark = true) :
    isOther x (before ++ token :: after) = true := by
  induction before with
  | nil => exact isOther_mark mark
  | cons first before ih =>
      cases first with
      | anchor | tag => exact ih other
      | scalar => simpa [mayBeOther, isOther, Token.isProperty] using other
      | _ => rfl

theorem isMark_blockEnds {columns : List Nat} :
    ∀ token ∈ columns.map fun _ => Token.blockEnd, token.isMark = true :=
  List.forall_mem_map.2 fun _ _ => rfl

/-- A property that marks do no harm to. -/
def AllowsMarks (holds : List Token → Prop) : Prop :=
  ∀ before token after, token.isMark = true → holds (before ++ after) → holds (before ++ token :: after)

theorem allowsMarks_isOther : AllowsMarks fun tokens => isOther x tokens = true := by
  intro before token after mark other
  refine isOther_insert ?_ mark
  rw [mayBeOther, other, Bool.or_true]

theorem allowsMarks_mayBeOther : AllowsMarks fun tokens => mayBeOther x tokens = true := by
  intro before token after mark other
  rw [mayBeOther, isOther_insert other mark, Bool.or_true]

/-- What comes next decides, unless it is another property or a scalar of the text. -/
theorem isOther_next (other : mayBeOther x before = true)
    (next : isOther x (token :: after) = true) : isOther x (before ++ token :: after) = true := by
  rcases Bool.or_eq_true_iff.1 other with properties | other
  · rw [isOther_properties properties, next]
  · exact isOther_append other

theorem mayBeOther_property (other : mayBeOther x before = true)
    (property : token.isProperty = true) : mayBeOther x (before ++ [token]) = true := by
  rcases Bool.or_eq_true_iff.1 other with properties | other
  · rw [mayBeOther, List.all_append, properties, List.all_cons, property]
    rfl
  · rw [mayBeOther, isOther_append other, Bool.or_true]

end Tokens

namespace Lexing

/-- What holds of the tokens behind some early ones, in the order they are read in. No key can start
among the early ones any more. -/
structure Since (early : List Token) (holds : List Token → Prop) (s : Lexing) : Prop where
  tokens : ∃ later, s.tokens = later ++ early ∧ holds later.reverse
  starts : ∀ start, s.keyStart = some start ∨ some start ∈ s.outerKeyStarts →
    early.length ≤ start.number

/-- The last token is the one that was read, and what held before holds of the ones before it. -/
structure Emitted (early : List Token) (holds : List Token → Prop) (token : Token) (s : Lexing) :
    Prop where
  tokens : ∃ later, s.tokens = token :: (later ++ early) ∧ holds later.reverse
  starts : ∀ start, s.keyStart = some start ∨ some start ∈ s.outerKeyStarts →
    early.length ≤ start.number

section Marks

variable {early : List Token} {holds : List Token → Prop} {s t : Lexing} {token : Token}
  {before : List Token} {number column : Nat}

theorem Since.length_le (since : s.Since early holds) : early.length ≤ s.tokens.length := by
  obtain ⟨later, split, _⟩ := since.tokens
  rw [split, List.length_append]
  exact Nat.le_add_left _ _

theorem Since.congr (since : s.Since early holds) (tokens : t.tokens = s.tokens)
    (starts : ∀ start, t.keyStart = some start ∨ some start ∈ t.outerKeyStarts →
      s.keyStart = some start ∨ some start ∈ s.outerKeyStarts ∨ start.number = s.tokens.length) :
    t.Since early holds := by
  refine ⟨by rw [tokens]; exact since.tokens, fun start held => ?_⟩
  rcases starts start held with here | outer | last
  · exact since.starts start (.inl here)
  · exact since.starts start (.inr outer)
  · rw [last]
    exact since.length_le

theorem Since.emitAt (since : s.Since early holds) (allows : AllowsMarks holds)
    (mark : token.isMark = true) (behind : early.length ≤ number) :
    (s.emitAt number token).Since early holds := by
  obtain ⟨later, split, held⟩ := since.tokens
  have within : s.tokens.length - number ≤ later.length := by
    rw [split, List.length_append]
    omega
  obtain ⟨last, first, rfl, length⟩ : ∃ last first, later = last ++ first ∧
      last.length = s.tokens.length - number :=
    ⟨_, _, (List.take_append_drop _ _).symm, List.length_take_of_le within⟩
  refine ⟨⟨last ++ token :: first, ?_, ?_⟩, since.starts⟩
  · rw [Lexing.emitAt, ← length, split, List.append_assoc, insertIdx_behind]
    simp
  · rw [List.reverse_append, List.reverse_cons, List.append_assoc]
    exact allows _ _ _ mark (by rwa [List.reverse_append] at held)

theorem Since.push (since : s.Since early holds) (allows : AllowsMarks holds)
    (marks : ∀ token ∈ before, token.isMark = true) :
    ({ s with tokens := before ++ s.tokens } : Lexing).Since early holds := by
  obtain ⟨later, split, held⟩ := since.tokens
  refine ⟨⟨before ++ later, by rw [split, List.append_assoc], ?_⟩, since.starts⟩
  induction before with
  | nil => exact held
  | cons token before ih =>
      obtain ⟨mark, marks⟩ := List.forall_mem_cons.1 marks
      rw [List.cons_append, List.reverse_cons]
      exact allows _ _ [] mark (by rw [List.append_nil]; exact ih marks)

theorem Since.openBlock (since : s.Since early holds) (allows : AllowsMarks holds)
    (mark : token.isMark = true) (behind : early.length ≤ number) :
    (s.openBlock column number token).Since early holds := by
  rw [Lexing.openBlock]
  split
  · exact (since.emitAt allows mark behind).congr rfl fun _ held => held.imp_right .inl
  · exact since

theorem Since.closeBlocks (since : s.Since early holds) (allows : AllowsMarks holds) :
    (s.closeBlocks column).Since early holds := by
  rw [Lexing.closeBlocks]
  split
  · exact since
  · exact (since.push allows isMark_blockEnds).congr rfl fun _ held => held.imp_right .inl

theorem Since.closeAllBlocks (since : s.Since early holds) (allows : AllowsMarks holds) :
    s.closeAllBlocks.Since early holds := by
  rw [Lexing.closeAllBlocks]
  split
  · exact since
  · exact (since.push allows isMark_blockEnds).congr rfl fun _ held => held.imp_right .inl

theorem dropKeyStart?_eq (read : s.dropKeyStart? = some t) : t = { s with keyStart := none } := by
  rw [dropKeyStart?] at read
  split at read
  · split at read
    · cases read
    · exact (Option.some.inj read).symm
  · next none =>
    rw [← Option.some.inj read, ← none]

theorem Since.dropKeyStart? (since : s.Since early holds) (read : s.dropKeyStart? = some t) :
    t.Since early holds := by
  obtain rfl := dropKeyStart?_eq read
  exact since.congr rfl fun _ held => .inr (.inl (held.resolve_left nofun))

theorem saveKeyStart?_eq (read : s.saveKeyStart? = some t) :
    t = { s with keyStart := t.keyStart } ∧
      ∀ start, t.keyStart = some start → s.keyStart = some start ∨ start.number = s.tokens.length := by
  rw [saveKeyStart?] at read
  split at read
  · obtain ⟨u, dropped, read⟩ := Option.bind_eq_some_iff.1 read
    obtain rfl := dropKeyStart?_eq dropped
    cases read
    exact ⟨rfl, fun _ same => .inr (by cases same; rfl)⟩
  · cases read
    exact ⟨rfl, fun _ same => .inl same⟩

theorem Since.saveKeyStart? (since : s.Since early holds) (read : s.saveKeyStart? = some t) :
    t.Since early holds := by
  obtain ⟨same, starts⟩ := saveKeyStart?_eq read
  refine since.congr (by rw [same]) fun start held => ?_
  rcases held with here | outer
  · exact (starts start here).imp_right .inr
  · rw [same] at outer
    exact .inr (.inl outer)

theorem Since.startHere? (since : s.Since early holds) (allows : AllowsMarks holds)
    (mark : token.isMark = true) (read : s.startHere? token = some t) : t.Since early holds := by
  rw [Lexing.startHere?] at read
  split at read
  · cases read
    exact since
  · split at read
    · cases read
      exact since.openBlock allows mark since.length_le
    · cases read

theorem eq_of_refresh? {start : Option KeyStart} {held : KeyStart}
    (read : s.refresh? start = some (some held)) : start = some held := by
  rw [refresh?.eq_def] at read
  split at read
  · split at read
    · split at read <;> cases read
    · cases read
      rfl
  · cases read

theorem mem_of_refresh? {starts refreshed : List (Option KeyStart)} {held : KeyStart}
    (read : starts.mapM s.refresh? = some refreshed) (member : some held ∈ refreshed) :
    some held ∈ starts := by
  induction starts generalizing refreshed with
  | nil =>
      cases read
      cases member
  | cons start starts ih =>
      rw [List.mapM_cons] at read
      obtain ⟨first, here, read⟩ := Option.bind_eq_some_iff.1 read
      obtain ⟨rest, later, read⟩ := Option.bind_eq_some_iff.1 read
      cases read
      rcases List.mem_cons.1 member with rfl | member
      · rw [eq_of_refresh? here]
        exact List.mem_cons_self
      · exact List.mem_cons_of_mem _ (ih later member)

theorem refreshKeyStarts?_eq (read : s.refreshKeyStarts? = some t) :
    t = { s with keyStart := t.keyStart, outerKeyStarts := t.outerKeyStarts } ∧
      (∀ start, t.keyStart = some start → s.keyStart = some start) ∧
      ∀ start, some start ∈ t.outerKeyStarts → some start ∈ s.outerKeyStarts := by
  obtain ⟨keyStart, here, read⟩ := Option.bind_eq_some_iff.1 read
  obtain ⟨outer, others, read⟩ := Option.bind_eq_some_iff.1 read
  cases read
  refine ⟨rfl, fun start same => ?_, fun start member => mem_of_refresh? others member⟩
  obtain rfl : keyStart = some start := same
  exact eq_of_refresh? here

theorem refreshKeyStarts?_outer (block : s.outerKeyStarts = [])
    (read : s.refreshKeyStarts? = some t) : t.outerKeyStarts = [] := by
  obtain ⟨keyStart, _, read⟩ := Option.bind_eq_some_iff.1 read
  obtain ⟨outer, others, read⟩ := Option.bind_eq_some_iff.1 read
  cases read
  rw [block] at others
  exact (Option.some.inj others).symm

theorem Since.refreshKeyStarts? (since : s.Since early holds) (read : s.refreshKeyStarts? = some t) :
    t.Since early holds := by
  obtain ⟨same, here, outer⟩ := refreshKeyStarts?_eq read
  exact since.congr (by rw [same]) fun start held =>
    held.imp (here start) fun member => .inl (outer start member)

theorem Since.emitted (since : s.Since early holds) (tokens : t.tokens = token :: s.tokens)
    (starts : ∀ start, t.keyStart = some start ∨ some start ∈ t.outerKeyStarts →
      s.keyStart = some start ∨ some start ∈ s.outerKeyStarts) : t.Emitted early holds token := by
  obtain ⟨later, split, held⟩ := since.tokens
  exact ⟨⟨later, by rw [tokens, split], held⟩, fun start held => since.starts start (starts start held)⟩

end Marks

section Reading

variable {early : List Token} {holds : List Token → Prop} {s t u : Lexing} {token : Token}
  {c : Char} {rest : List Char}

/-- Where plain scalars end that stand inside of the open blocks. -/
def plainIndent (s : Lexing) : Nat :=
  match s.indents with
  | innermost :: _ => innermost + 1
  | [] => 0

/-- What a token was read from. Nothing is said about marks. -/
inductive Source (s t : Lexing) : Token → Prop
  | mark {token : Token} : token.isMark = true → Source s t token
  | property {token : Token} : token.isProperty = true →
      (∀ tail size, s.cursor.InLine tail (size + 1) → t.cursor.InLine tail size) →
      t.indents = s.indents → t.outerKeyStarts = s.outerKeyStarts → Source s t token
  | block {c : Char} {rest text : List Char} {after : Cursor} {style : Style} (folded : Bool) :
      s.cursor.rest = c :: rest → c ≠ '\n' →
      block? folded s.indents.head? s.cursor = some (text, after) →
      Source s t (.scalar style (String.ofList text))
  | quoted {c : Char} {rest text : List Char} {after : Cursor} {style : Style} (single : Bool) :
      s.cursor.rest = c :: rest → c ≠ '\n' →
      quoted? single s.cursor = some (text, after) → Source s t (.scalar style (String.ofList text))
  | plain {c : Char} {rest : List Char} {scalar : PlainScalar} :
      s.cursor.rest = c :: rest → startsPlain s.inFlow c rest = true → ¬ (c = '-' ∧ atGap rest) →
      plain? s.inFlow s.plainIndent s.cursor = some scalar →
      Source s t (.scalar .plain (String.ofList scalar.text))

/-- A token was read, and what held of the tokens before it still does. -/
def Reads (early : List Token) (holds : List Token → Prop) (s t : Lexing) : Prop :=
  ∃ token, t.Emitted early holds token ∧ s.Source t token

theorem Since.reads_mark (since : u.Since early holds) (mark : token.isMark = true)
    (tokens : t.tokens = token :: u.tokens)
    (starts : ∀ start, t.keyStart = some start ∨ some start ∈ t.outerKeyStarts →
      u.keyStart = some start ∨ some start ∈ u.outerKeyStarts) : Reads early holds s t :=
  ⟨token, since.emitted tokens starts, .mark mark⟩

theorem tag?_property {inFlow : Bool} {cursor after : Cursor}
    (read : Yaml.tag? inFlow cursor = some (token, after)) : token.isProperty = true := by
  obtain ⟨⟨_, _⟩, _, read⟩ := Option.bind_eq_some_iff.1 read
  dsimp only at read
  split at read <;> cases read
  rfl

theorem directiveValue?_mark {name : String} {cursor after : Cursor}
    (read : directiveValue? name cursor = some (token, after)) : token.isMark = true := by
  rw [directiveValue?] at read
  dsimp only at read
  split at read
  · obtain ⟨_, _, read⟩ := Option.bind_eq_some_iff.1 read
    split at read
    · cases read
    · obtain ⟨_, _, read⟩ := Option.bind_eq_some_iff.1 read
      cases read
      rfl
  · split at read
    · obtain ⟨_, _, read⟩ := Option.bind_eq_some_iff.1 read
      split at read
      · cases read
      · split at read
        · cases read
        · obtain ⟨_, _, read⟩ := Option.bind_eq_some_iff.1 read
          split at read <;> cases read
          rfl
    · cases read

theorem directive?_mark {cursor after : Cursor} (read : Yaml.directive? cursor = some (token, after)) :
    token.isMark = true := by
  rw [Yaml.directive?.eq_def] at read
  dsimp only at read
  split at read
  · cases read
  · obtain ⟨_, found, read⟩ := Option.bind_eq_some_iff.1 read
    split at read <;> cases read
    exact directiveValue?_mark found

variable (since : s.Since early holds) (allows : AllowsMarks holds)

include since allows

theorem directive?_reads (read : s.directive? = some t) : Reads early holds s t := by
  obtain ⟨u, dropped, read⟩ := Option.bind_eq_some_iff.1 read
  obtain ⟨⟨token, after⟩, found, read⟩ := Option.bind_eq_some_iff.1 read
  have mark := directive?_mark found
  cases read
  exact ((since.closeAllBlocks allows).dropKeyStart? dropped).reads_mark mark rfl fun _ held => held

theorem documentMark?_reads (mark : token.isMark = true) (read : s.documentMark? token = some t) :
    Reads early holds s t := by
  obtain ⟨u, dropped, read⟩ := Option.bind_eq_some_iff.1 read
  cases read
  exact ((since.closeAllBlocks allows).dropKeyStart? dropped).reads_mark mark rfl fun _ held => held

omit allows in
theorem openFlow?_reads (mark : token.isMark = true) (read : s.openFlow? token = some t) :
    Reads early holds s t := by
  obtain ⟨u, saved, read⟩ := Option.bind_eq_some_iff.1 read
  cases read
  refine (since.saveKeyStart? saved).reads_mark mark rfl fun start held => ?_
  rcases held with none | outer
  · cases none
  · exact (List.mem_cons.1 outer).imp_left Eq.symm

omit allows in
theorem closeFlow?_reads (mark : token.isMark = true) (read : s.closeFlow? token = some t) :
    Reads early holds s t := by
  obtain ⟨u, dropped, read⟩ := Option.bind_eq_some_iff.1 read
  have since := since.dropKeyStart? dropped
  cases outer : u.outerKeyStarts with
  | nil =>
      simp only [outer] at read
      cases read
      refine since.reads_mark mark rfl fun start held => held.imp_right nofun
  | cons start starts =>
      simp only [outer] at read
      cases read
      refine since.reads_mark mark rfl fun other held => .inr ?_
      rw [outer]
      exact List.mem_cons.2 (held.imp_left Eq.symm)

omit allows in
theorem flowEntry?_reads (read : s.flowEntry? = some t) : Reads early holds s t := by
  obtain ⟨u, dropped, read⟩ := Option.bind_eq_some_iff.1 read
  cases read
  have mark : Token.flowEntry.isMark = true := rfl
  exact (since.dropKeyStart? dropped).reads_mark mark rfl fun _ held => held

theorem blockEntry?_reads (read : s.blockEntry? = some t) : Reads early holds s t := by
  obtain ⟨u, started, read⟩ := Option.bind_eq_some_iff.1 read
  obtain ⟨v, dropped, read⟩ := Option.bind_eq_some_iff.1 read
  cases read
  have mark : Token.entry.isMark = true := rfl
  have began := since.startHere? allows rfl started
  exact (began.dropKeyStart? dropped).reads_mark mark rfl fun _ held => held

theorem key?_reads (read : s.key? = some t) : Reads early holds s t := by
  obtain ⟨u, started, read⟩ := Option.bind_eq_some_iff.1 read
  obtain ⟨v, dropped, read⟩ := Option.bind_eq_some_iff.1 read
  cases read
  have mark : Token.key.isMark = true := rfl
  have began := since.startHere? allows rfl started
  exact (began.dropKeyStart? dropped).reads_mark mark rfl fun _ held => held

theorem value?_reads (read : s.value? = some t) : Reads early holds s t := by
  rw [value?] at read
  split at read
  · next start held =>
    have behind := since.starts start (.inl held)
    have opened : ((s.emitAt start.number .key).openBlock start.position.column start.number
        .mappingStart).Since early holds :=
      (since.emitAt allows rfl behind).openBlock allows rfl behind
    cases read
    have mark : Token.value.isMark = true := rfl
    exact opened.reads_mark mark rfl fun start held =>
      .inr (held.resolve_left (Option.some_ne_none start).symm)
  · obtain ⟨u, started, read⟩ := Option.bind_eq_some_iff.1 read
    cases read
    have mark : Token.value.isMark = true := rfl
    exact (since.startHere? allows rfl started).reads_mark mark rfl fun _ held => held

omit allows in
theorem alias?_reads (read : s.alias? = some t) : Reads early holds s t := by
  obtain ⟨u, saved, read⟩ := Option.bind_eq_some_iff.1 read
  obtain ⟨⟨name, after⟩, _, read⟩ := Option.bind_eq_some_iff.1 read
  cases read
  exact (since.saveKeyStart? saved).reads_mark (show (Token.alias name).isMark = true from rfl) rfl
    fun _ held => held

omit allows in
theorem anchor?_reads (here : s.cursor.rest = '&' :: rest) (read : s.anchor? = some t) :
    Reads early holds s t := by
  obtain ⟨u, saved, read⟩ := Option.bind_eq_some_iff.1 read
  obtain ⟨⟨name, after⟩, found, read⟩ := Option.bind_eq_some_iff.1 read
  have since := since.saveKeyStart? saved
  rw [(saveKeyStart?_eq saved).1] at read found since
  cases read
  exact ⟨_, since.emitted rfl fun _ held => held,
    .property rfl (fun _ _ inside => anchorName?_inLine inside here (by decide) found) rfl rfl⟩

omit allows in
theorem tag?_reads (here : s.cursor.rest = '!' :: rest) (read : s.tag? = some t) :
    Reads early holds s t := by
  obtain ⟨u, saved, read⟩ := Option.bind_eq_some_iff.1 read
  obtain ⟨⟨token, after⟩, found, read⟩ := Option.bind_eq_some_iff.1 read
  have since := since.saveKeyStart? saved
  rw [(saveKeyStart?_eq saved).1] at read found since
  cases read
  exact ⟨_, since.emitted rfl fun _ held => held,
    .property (tag?_property found) (fun _ _ inside => tag?_inLine inside here found) rfl rfl⟩

omit allows in
theorem blockScalar?_reads {folded : Bool} (here : s.cursor.rest = c :: rest) (noBreak : c ≠ '\n')
    (read : s.blockScalar? folded = some t) : Reads early holds s t := by
  obtain ⟨u, dropped, read⟩ := Option.bind_eq_some_iff.1 read
  obtain ⟨⟨text, after⟩, found, read⟩ := Option.bind_eq_some_iff.1 read
  have since := since.dropKeyStart? dropped
  obtain rfl := dropKeyStart?_eq dropped
  cases read
  exact ⟨_, since.emitted rfl fun _ held => held, .block folded here noBreak found⟩

omit allows in
theorem quotedScalar?_reads {single : Bool} (here : s.cursor.rest = c :: rest) (noBreak : c ≠ '\n')
    (read : s.quotedScalar? single = some t) :
    Reads early holds s t := by
  obtain ⟨u, saved, read⟩ := Option.bind_eq_some_iff.1 read
  obtain ⟨⟨text, after⟩, found, read⟩ := Option.bind_eq_some_iff.1 read
  have since := since.saveKeyStart? saved
  rw [(saveKeyStart?_eq saved).1] at read found since
  cases read
  exact ⟨_, since.emitted rfl fun _ held => held, .quoted single here noBreak found⟩

omit allows in
theorem plainScalar?_emitted (read : s.plainScalar? = some t) : ∃ scalar,
    plain? s.inFlow s.plainIndent s.cursor = some scalar ∧
      t.Emitted early holds (.scalar .plain (String.ofList scalar.text)) := by
  obtain ⟨u, saved, read⟩ := Option.bind_eq_some_iff.1 read
  obtain ⟨scalar, found, read⟩ := Option.bind_eq_some_iff.1 read
  have since := since.saveKeyStart? saved
  rw [(saveKeyStart?_eq saved).1] at read found since
  cases read
  exact ⟨scalar, found, since.emitted rfl fun _ held => held⟩

/-- Whatever is read, it is one token more. -/
theorem token?_reads (read : s.token? = some t) : Reads early holds s t := by
  rw [token?] at read
  split at read
  · cases read
  · next c rest here =>
    rcases ite_eq_iff.1 read with ⟨_, read⟩ | ⟨_, read⟩
    · exact directive?_reads since allows read
    rcases ite_eq_iff.1 read with ⟨_, read⟩ | ⟨_, read⟩
    · exact documentMark?_reads since allows rfl read
    rcases ite_eq_iff.1 read with ⟨_, read⟩ | ⟨_, read⟩
    · exact documentMark?_reads since allows rfl read
    rcases ite_eq_iff.1 read with ⟨_, read⟩ | ⟨_, read⟩
    · exact openFlow?_reads since rfl read
    rcases ite_eq_iff.1 read with ⟨_, read⟩ | ⟨_, read⟩
    · exact openFlow?_reads since rfl read
    rcases ite_eq_iff.1 read with ⟨_, read⟩ | ⟨_, read⟩
    · exact closeFlow?_reads since rfl read
    rcases ite_eq_iff.1 read with ⟨_, read⟩ | ⟨_, read⟩
    · exact closeFlow?_reads since rfl read
    rcases ite_eq_iff.1 read with ⟨_, read⟩ | ⟨_, read⟩
    · exact flowEntry?_reads since read
    rcases ite_eq_iff.1 read with ⟨_, read⟩ | ⟨noDash, read⟩
    · exact blockEntry?_reads since allows read
    rcases ite_eq_iff.1 read with ⟨_, read⟩ | ⟨_, read⟩
    · exact key?_reads since allows read
    rcases ite_eq_iff.1 read with ⟨_, read⟩ | ⟨_, read⟩
    · exact value?_reads since allows read
    rcases ite_eq_iff.1 read with ⟨_, read⟩ | ⟨_, read⟩
    · exact alias?_reads since read
    rcases ite_eq_iff.1 read with ⟨rfl, read⟩ | ⟨_, read⟩
    · exact anchor?_reads since here read
    rcases ite_eq_iff.1 read with ⟨rfl, read⟩ | ⟨_, read⟩
    · exact tag?_reads since here read
    rcases ite_eq_iff.1 read with ⟨⟨rfl, _⟩, found⟩ | ⟨_, read⟩
    · exact blockScalar?_reads since here (by decide) found
    rcases ite_eq_iff.1 read with ⟨⟨rfl, _⟩, found⟩ | ⟨_, read⟩
    · exact blockScalar?_reads since here (by decide) found
    rcases ite_eq_iff.1 read with ⟨rfl, found⟩ | ⟨_, read⟩
    · exact quotedScalar?_reads since here (by decide) found
    rcases ite_eq_iff.1 read with ⟨rfl, found⟩ | ⟨_, read⟩
    · exact quotedScalar?_reads since here (by decide) found
    rcases ite_eq_iff.1 read with ⟨starts, read⟩ | ⟨_, read⟩
    · obtain ⟨scalar, found, emitted⟩ := plainScalar?_emitted since read
      exact ⟨_, emitted, .plain here starts noDash found⟩
    · cases read

end Reading

section Skipping

variable {x tail key : List Char} {size fuel : Nat} {cursor : Cursor} {tabs allowed : Bool}

/-- Nothing but comments comes before the key of a line. -/
def Lands (tail key : List Char) : Prop :=
  ∀ fuel line, tail.length < fuel → ∃ rest q, atGap rest = true ∧
    toNextToken false fuel true ⟨tail, ⟨line, 0, 0⟩⟩ = (true, ⟨key ++ ':' :: rest, q⟩)

theorem lands_block {column : Nat} {name : String} {rest : List Char}
    (proper : (Line.block column name).isProper = true) :
    Lands ((Line.block column name).text.toList ++ rest) name.toList := by
  have whole : (Line.block column name).text.toList ++ rest =
      List.replicate column ' ' ++ (name.toList ++ ':' :: '\n' :: rest) := by
    simp [Line.toList_text, Line.body, Line.column]
  obtain ⟨c, more, key, each, plain, _, noMark, _⟩ := exists_keyChar proper
  have visible : isGap c = false := (each c (by rw [key]; exact List.mem_cons_self)).1
  obtain ⟨noBlank, noBreak⟩ := Bool.or_eq_false_iff.1 visible
  have noHash : c ≠ '#' := by
    rintro rfl
    cases plain
  intro fuel line enough
  obtain ⟨fuel, rfl⟩ := Nat.exists_eq_add_one_of_ne_zero (Nat.ne_zero_of_lt enough)
  refine ⟨'\n' :: rest, ⟨line, column, column⟩, rfl, ?_⟩
  rw [toNextToken_succ, whole, skipped_spaces, key, List.cons_append,
    skipped_visible noBlank noHash (.inl noMark), lineBreak?_visible noBreak]

theorem lands_comment {column : Nat} {text : String} (lands : Lands tail key)
    (proper : (Line.comment column text).isProper = true) :
    Lands ((Line.comment column text).text.toList ++ tail) key := by
  have whole : (Line.comment column text).text.toList ++ tail =
      List.replicate column ' ' ++ ('#' :: text.toList ++ '\n' :: tail) := by
    simp [Line.toList_text, Line.body, Line.column]
  have oneLine : ∀ c ∈ text.toList, isBreak c = false :=
    fun c member => by simpa using List.all_eq_true.1 proper c member
  intro fuel line enough
  obtain ⟨fuel, rfl⟩ := Nat.exists_eq_add_one_of_ne_zero (Nat.ne_zero_of_lt enough)
  rw [whole] at enough ⊢
  simp only [List.length_append, List.length_cons] at enough
  obtain ⟨rest, q, gap, found⟩ := lands fuel (line + 1) (by omega)
  refine ⟨rest, q, gap, ?_⟩
  rw [toNextToken_succ, skipped_spaces, skipped_comment oneLine, lineBreak?_feed, Position.down,
    after_line, ← found]
  rfl

theorem inLine_skipped (inside : cursor.InLine tail size) :
    (skipped tabs cursor).InLine tail size := by
  refine Cursor.InLine.skipComment (Cursor.InLine.skipWhile ?_ (by simp))
  rw [Cursor.skipMark]
  split
  · next mark => exact inside.skip_of (Bool.and_eq_true_iff.1 mark).2 rfl
  · exact inside

/-- The value comes next, unless some of it is skipped. -/
theorem skipped_value (nonempty : x ≠ []) (here : cursor.rest = ' ' :: x ++ '\n' :: tail) :
    (skipped tabs cursor).rest = x ++ '\n' :: tail ∨ (skipped tabs cursor).InLine tail x.length := by
  obtain ⟨_, p⟩ := cursor
  obtain rfl := here
  obtain ⟨c, rest, rfl⟩ := List.exists_cons_of_ne_nil nonempty
  have later : ∀ {member : Char → Bool} {q : Position}, member c = true → member '\n' = false →
      ((Cursor.mk (c :: rest ++ '\n' :: tail) q).skipWhile member).InLine tail (c :: rest).length := by
    intro member q here stops
    have moved := @skipWhile_append (rest ++ '\n' :: tail) q [c] member (by simpa using here)
    rw [List.cons_append, show c :: (rest ++ '\n' :: tail) = [c] ++ (rest ++ '\n' :: tail) from rfl,
      moved]
    exact Cursor.InLine.skipWhile ⟨rest, rfl, Nat.lt_succ_self _⟩ stops
  have moved := @skipWhile_append (c :: rest ++ '\n' :: tail) p [' ']
    (fun c => c == ' ' || (tabs && c == '\t')) (by simp)
  rw [skipped, skipMark_eq (.inl rfl), List.cons_append,
    show ' ' :: (c :: rest ++ '\n' :: tail) = [' '] ++ (c :: rest ++ '\n' :: tail) from rfl, moved]
  cases blank : c == ' ' || (tabs && c == '\t') with
  | true => exact .inr (later blank (by simp)).skipComment
  | false =>
      rw [List.cons_append, skipWhile_stops blank, Cursor.skipComment]
      split
      · next comment =>
        obtain rfl : c = '#' := by simpa [startsWithOneOf] using comment
        exact .inr (later rfl rfl)
      · exact .inl rfl

theorem lineBreak?_inLine {left : List Char} {kept : Char} {after : Cursor}
    (here : cursor.rest = left ++ '\n' :: tail) (broke : cursor.lineBreak? = some (kept, after)) :
    after.InLine tail left.length ∨ ∃ line, after = ⟨tail, ⟨line, 0, 0⟩⟩ := by
  obtain ⟨_, p⟩ := cursor
  obtain rfl := here
  obtain ⟨down, ⟨first, left, rfl, nonempty, rest⟩ | rest⟩ := lineBreak?_cases broke
  · have pos := List.length_pos_iff.2 nonempty
    exact .inl ⟨left, rest, by rw [List.length_append]; omega⟩
  · obtain ⟨_, _⟩ := after
    obtain rfl := down
    obtain rfl := rest
    exact .inr ⟨_, rfl⟩

/-- The next token is in the line, or a key below it. -/
theorem toNextToken_inLine (lands : Lands tail key) (enough : cursor.rest.length < fuel)
    (inside : cursor.InLine tail size ∨ (∃ line, cursor = ⟨tail, ⟨line, 0, 0⟩⟩) ∧ allowed = true) :
    (toNextToken false fuel allowed cursor).2.InLine tail size ∨
      ∃ rest, atGap rest = true ∧
        (toNextToken false fuel allowed cursor).2.rest = key ++ ':' :: rest := by
  induction fuel generalizing cursor allowed with
  | zero => omega
  | succ fuel ih =>
    rcases inside with inside | ⟨⟨line, rfl⟩, rfl⟩
    · have skips := @inLine_skipped _ _ _ (false || !allowed) inside
      have shorter := @length_skipped (false || !allowed) cursor
      rw [toNextToken_succ]
      cases broke : (skipped (false || !allowed) cursor).lineBreak? with
      | none => exact .inl skips
      | some found =>
          have fewer := Cursor.length_lineBreak? broke
          obtain ⟨left, here, less⟩ := skips
          refine ih (by omega) ((lineBreak?_inLine here broke).imp ?_ ?_)
          · exact fun inside => inside.mono (Nat.le_of_lt less)
          · exact fun below => ⟨below, by simp⟩
    · obtain ⟨rest, q, gap, found⟩ := lands (fuel + 1) line enough
      rw [found]
      exact .inr ⟨rest, gap, rfl⟩

theorem toNextToken_value (lands : Lands tail key) (nonempty : x ≠ [])
    (enough : cursor.rest.length < fuel) (here : cursor.rest = ' ' :: x ++ '\n' :: tail) :
    (toNextToken false fuel allowed cursor).2.rest = x ++ '\n' :: tail ∨
    (toNextToken false fuel allowed cursor).2.InLine tail x.length ∨
      ∃ rest, atGap rest = true ∧
        (toNextToken false fuel allowed cursor).2.rest = key ++ ':' :: rest := by
  obtain ⟨fuel, rfl⟩ := Nat.exists_eq_add_one_of_ne_zero (Nat.ne_zero_of_lt enough)
  have shorter := @length_skipped (false || !allowed) cursor
  have skips := @skipped_value _ _ _ (false || !allowed) nonempty here
  rw [toNextToken_succ]
  cases broke : (skipped (false || !allowed) cursor).lineBreak? with
  | none => exact skips.imp_right .inl
  | some found =>
      have fewer := Cursor.length_lineBreak? broke
      obtain ⟨left, rest, le⟩ : ∃ left, (skipped (false || !allowed) cursor).rest =
          left ++ '\n' :: tail ∧ left.length ≤ x.length := by
        rcases skips with whole | ⟨left, rest, less⟩
        · exact ⟨x, whole, Nat.le_refl _⟩
        · exact ⟨left, rest, Nat.le_of_lt less⟩
      refine .inr (toNextToken_inLine lands (by omega) ((lineBreak?_inLine rest broke).imp ?_ ?_))
      · exact fun inside => inside.mono le
      · exact fun below => ⟨below, by simp⟩

end Skipping

section Runs

variable {early tokens : List Token} {x tail next key : List Char} {column count fuel : Nat}
  {outer : List Nat} {s t : Lexing}

theorem Since.skipToNextToken {holds : List Token → Prop} (since : s.Since early holds) :
    s.skipToNextToken.Since early holds :=
  since.congr rfl fun _ held => held.imp_right .inl

theorem Emitted.since {holds goal : List Token → Prop} {token : Token}
    (emitted : t.Emitted early holds token)
    (next : ∀ before, holds before → goal (before ++ [token])) : t.Since early goal := by
  obtain ⟨later, split, held⟩ := emitted.tokens
  exact ⟨⟨token :: later, split, by rw [List.reverse_cons]; exact next _ held⟩, emitted.starts⟩

/-- What has been decided stays so up to the end of the text. -/
theorem run?_decided (since : s.Since early fun later => isOther (String.ofList x) later = true)
    (read : run? fuel s = some tokens) :
    ∃ later, tokens = early.reverse ++ later ∧ isOther (String.ofList x) later = true := by
  induction fuel generalizing s with
  | zero => cases read
  | succ fuel ih =>
    obtain ⟨u, refreshed, read⟩ := Option.bind_eq_some_iff.1 read
    have since := since.skipToNextToken.refreshKeyStarts? refreshed
    split at read
    · obtain ⟨v, dropped, read⟩ := Option.bind_eq_some_iff.1 read
      obtain ⟨later, split, decided⟩ :=
        ((since.closeAllBlocks allowsMarks_isOther).dropKeyStart? dropped).tokens
      cases read
      exact ⟨later.reverse, by rw [split, List.reverse_append], decided⟩
    · obtain ⟨t, taken, read⟩ := Option.bind_eq_some_iff.1 read
      obtain ⟨token, emitted, _⟩ :=
        token?_reads (since.closeBlocks allowsMarks_isOther) allowsMarks_isOther taken
      exact ih (emitted.since fun _ other => isOther_append other) read

/-- What follows the line of a value: first a key, and no scalar that is still open ends there with
the text of the value. -/
structure Below (x tail next key : List Char) (column count : Nat) : Prop where
  following : NextLine tail next count
  shallow : count ≤ column
  unclosed : ∀ single fuel text q found,
    quotedFrom? single fuel text ⟨next, q⟩ = some found → found.1 ≠ x
  lands : Lands tail key
  word : isKeyWord key = true
  other : key ≠ x

/-- The value of a key is still open: nothing but properties has been read, all of it in the line. -/
structure Open (early : List Token) (x tail : List Char) (column : Nat) (s : Lexing) : Prop where
  since : s.Since early fun later => mayBeOther (String.ofList x) later = true
  outside : s.outerKeyStarts = []
  indents : s.indents.head? = some column
  value : s.cursor.rest = ' ' :: x ++ '\n' :: tail ∨ s.cursor.InLine tail x.length

theorem isOther_scalar {text : List Char} {style : Style} (ne : text ≠ x) :
    isOther (String.ofList x) [.scalar style (String.ofList text)] = true := by
  have ne : String.ofList text ≠ String.ofList x := fun same => ne (String.ofList_injective same)
  simpa [isOther] using ne

theorem isOther_shorter {text : List Char} {style : Style} (less : text.length < x.length) :
    isOther (String.ofList x) [.scalar style (String.ofList text)] = true := by
  refine isOther_scalar ?_
  rintro rfl
  exact Nat.lt_irrefl _ less

theorem visible_of_startsPlain {c : Char} {rest : List Char}
    (starts : startsPlain false c rest = true) : isGap c = false := by
  simp only [startsPlain, Bool.or_eq_true, Bool.and_eq_true, Bool.not_eq_true', beq_iff_eq] at starts
  rcases starts with (⟨visible, _⟩ | ⟨rfl, _⟩) | ⟨⟨_, rfl | rfl⟩, _⟩
  · exact visible
  all_goals rfl

theorem canStart_of_startsPlain {c : Char} {rest : List Char}
    (starts : startsPlain false c (rest ++ '\n' :: tail) = true)
    (noDash : ¬ (c = '-' ∧ atGap (rest ++ '\n' :: tail))) : canStart c rest = true := by
  have same : atGap (rest ++ '\n' :: tail) = atGap rest := by cases rest <;> rfl
  rw [same] at noDash
  simp only [startsPlain, Bool.or_eq_true, Bool.and_eq_true, Bool.not_eq_true', beq_iff_eq,
    same] at starts
  rw [canStart, Bool.or_eq_true, Bool.and_eq_true, Bool.and_eq_true, Bool.not_eq_true',
    Bool.not_eq_true', Bool.not_eq_true']
  rcases starts with (plain | ⟨rfl, _⟩) | ⟨⟨_, mark⟩, goesOn⟩
  · exact .inl plain
  · exact .inr ⟨rfl, by simpa using noDash⟩
  · exact .inr ⟨by rcases mark with rfl | rfl <;> rfl, goesOn⟩

section Line

variable {c : Char} {rest left others : List Char} {p : Position}

theorem exists_in_line (whole : left ++ '\n' :: tail = c :: rest) (noBreak : c ≠ '\n') :
    ∃ others, left = c :: others ∧ rest = others ++ '\n' :: tail := by
  cases left with
  | nil => exact absurd (List.cons.inj whole).1.symm noBreak
  | cons d others =>
      obtain ⟨rfl, rfl⟩ := List.cons.inj whole
      exact ⟨others, rfl, rfl⟩

/-- A quoted scalar that starts in the line of a value has less text than the value, or ends behind
the line. -/
theorem quoted?_other {single : Bool} {text : List Char} {after : Cursor} {style : Style}
    (below : Below x tail next key column count) (le : (c :: others).length ≤ x.length)
    (read : quoted? single ⟨c :: others ++ '\n' :: tail, p⟩ = some (text, after)) :
    isOther (String.ofList x) [.scalar style (String.ofList text)] = true := by
  rw [quoted?] at read
  rcases quotedFrom?_bound below.following (by exact read) with less | ⟨_, _, _, further⟩
  · refine isOther_shorter (Nat.lt_of_lt_of_le ?_ le)
    simp only [List.length_nil] at less
    rw [List.length_cons]
    omega
  · exact isOther_scalar (below.unclosed _ _ _ _ _ further)

/-- A plain scalar that starts in the line of a value is the value only if it is all of the line. -/
theorem plain?_cases {scalar : PlainScalar} (below : Below x tail next key column count)
    (kind : c :: others = x ∨ (c :: others).length < x.length)
    (starts : startsPlain false c (others ++ '\n' :: tail) = true)
    (noDash : ¬ (c = '-' ∧ atGap (others ++ '\n' :: tail)))
    (read : plain? false (column + 1) ⟨c :: others ++ '\n' :: tail, p⟩ = some scalar) :
    isPlainLine x = true ∨
      isOther (String.ofList x) [.scalar .plain (String.ofList scalar.text)] = true := by
  obtain ⟨length, all⟩ := plain?_bound below.following (Nat.lt_succ_of_le below.shallow)
    (visible_of_startsPlain starts) read
  rcases kind with rfl | less
  · by_cases same : scalar.text = c :: others
    · rw [isPlainLine, canStart_of_startsPlain starts noDash, all same]
      exact .inl rfl
    · exact .inr (isOther_scalar same)
  · exact .inr (isOther_shorter (Nat.lt_of_le_of_lt length less))

end Line

/-- A token that is read from the line of a value either decides that the value is something else,
or is a property, or is a plain scalar that is all of the line. -/
theorem source_cases {token : Token} (below : Below x tail next key column count)
    (block : s.inFlow = false) (indents : s.indents.head? = some column)
    (here : s.cursor.rest = x ++ '\n' :: tail ∨ s.cursor.InLine tail x.length)
    (source : s.Source t token) :
    isPlainLine x = true ∨ isOther (String.ofList x) [token] = true ∨
      token.isProperty = true ∧ t.cursor.InLine tail x.length ∧ t.indents = s.indents ∧
        t.outerKeyStarts = s.outerKeyStarts := by
  obtain ⟨left, whole, kind⟩ : ∃ left, s.cursor.rest = left ++ '\n' :: tail ∧
      (left = x ∨ left.length < x.length) := by
    rcases here with all | ⟨left, whole, less⟩
    · exact ⟨x, all, .inl rfl⟩
    · exact ⟨left, whole, .inr less⟩
  have le : left.length ≤ x.length := by
    rcases kind with rfl | less
    · exact Nat.le_refl _
    · exact Nat.le_of_lt less
  have cursor : s.cursor = ⟨left ++ '\n' :: tail, s.cursor.position⟩ := by rw [← whole]
  cases source with
  | mark mark => exact .inr (.inl (isOther_mark mark))
  | property property behind sameIndents outer =>
      exact .inr (.inr ⟨property, behind tail x.length ⟨left, whole, Nat.lt_succ_of_le le⟩,
        sameIndents, outer⟩)
  | block folded head noBreak read =>
      obtain ⟨others, rfl, rfl⟩ := exists_in_line (whole.symm.trans head) noBreak
      rw [indents, cursor] at read
      have bound := block?_bound below.following below.shallow noBreak read
      exact .inr (.inl (isOther_shorter (Nat.lt_of_le_of_lt bound le)))
  | quoted single head noBreak read =>
      obtain ⟨others, rfl, rfl⟩ := exists_in_line (whole.symm.trans head) noBreak
      rw [cursor] at read
      exact .inr (.inl (quoted?_other below le read))
  | @plain c _ _ head starts noDash read =>
      rw [block] at starts read
      have noBreak : c ≠ '\n' := by
        rintro rfl
        exact absurd (visible_of_startsPlain starts) (by decide)
      obtain ⟨others, rfl, rfl⟩ := exists_in_line (whole.symm.trans head) noBreak
      have indent : s.plainIndent = column + 1 := by
        obtain ⟨outer, same⟩ := List.head?_eq_some_iff.1 indents
        rw [plainIndent, same]
      rw [indent, cursor] at read
      exact (plain?_cases below kind starts noDash read).imp_right .inl

theorem token?_key {rest : List Char} (word : isKeyWord key = true)
    (here : s.cursor.rest = key ++ ':' :: rest) (block : s.inFlow = false) :
    s.token? = s.plainScalar? := by
  obtain ⟨c, more, rfl, each, plain, noDot, _⟩ := exists_keyChar word
  have starts : canStart c (more ++ ':' :: rest) = true := by
    rw [canStart, (each c (by simp)).1, plain]
    rfl
  exact token?_plain (p := s.cursor.position) (by rw [← List.cons_append, ← here]) block starts
    (.inr ⟨plain, noDot⟩)

/-- A block that ends decides that the value has been left out. -/
theorem Since.decided_of_closed {innermost : Nat}
    (since : s.Since early fun later => mayBeOther (String.ofList x) later = true)
    (block : s.inFlow = false) (head : s.indents.head? = some innermost) (before : column < innermost) :
    (s.closeBlocks column).Since early fun later => isOther (String.ofList x) later = true := by
  obtain ⟨outer, indents⟩ := List.head?_eq_some_iff.1 head
  have closed : (s.closeBlocks column).tokens =
      .blockEnd :: ((outer.takeWhile (column < ·)).map (fun _ => .blockEnd) ++ s.tokens) := by
    rw [Lexing.closeBlocks, block, indents, List.takeWhile_cons_of_pos (by simpa using before)]
    rfl
  have pushed := @Since.push _ _ _ ((outer.takeWhile (column < ·)).map fun _ => .blockEnd) since
    allowsMarks_mayBeOther isMark_blockEnds
  have emitted : (s.closeBlocks column).Emitted early _ .blockEnd :=
    pushed.emitted closed (by
      rw [Lexing.closeBlocks, block]
      exact fun _ held => held)
  exact emitted.since fun _ other => isOther_next other rfl

/-- What comes next is in the line of the value, or else it is the key that follows. -/
theorem Open.next_token (opened : Open early x tail column s) (lands : Lands tail key)
    (nonempty : x ≠ []) {u : Lexing} (refreshed : s.skipToNextToken.refreshKeyStarts? = some u) :
    (u.cursor.rest = x ++ '\n' :: tail ∨ u.cursor.InLine tail x.length) ∨
      ∃ rest, atGap rest = true ∧ u.cursor.rest = key ++ ':' :: rest := by
  have block : s.inFlow = false := by rw [inFlow, opened.outside]; rfl
  have moved :
      u.cursor = (toNextToken false (s.cursor.rest.length + 1) s.keyAllowed s.cursor).2 := by
    rw [(refreshKeyStarts?_eq refreshed).1, ← block]
    rfl
  rw [moved, or_assoc]
  rcases opened.value with whole | inside
  · exact toNextToken_value lands nonempty (Nat.lt_succ_self _) whole
  · exact .inr (toNextToken_inLine lands (Nat.lt_succ_self _) (.inl inside))

/-- The key that follows decides that the value is something else. -/
theorem run?_other_at_key {rest : List Char} (below : Below x tail next key column count)
    (since : s.Since early fun later => mayBeOther (String.ofList x) later = true)
    (block : s.inFlow = false) (gap : atGap rest = true)
    (here : s.cursor.rest = key ++ ':' :: rest) (taken : s.token? = some t)
    (read : run? fuel t = some tokens) :
    ∃ later, tokens = early.reverse ++ later ∧ isOther (String.ofList x) later = true := by
  rw [token?_key below.word here block] at taken
  obtain ⟨scalar, found, emitted⟩ := plainScalar?_emitted since taken
  have cursor : s.cursor = ⟨key ++ ':' :: rest, s.cursor.position⟩ := by rw [← here]
  rw [block, cursor, plain?_key below.word gap] at found
  cases found
  exact run?_decided (emitted.since fun _ before =>
    isOther_next before (isOther_scalar below.other)) read

/-- As long as the value is open, it may turn out to be plain, and all of its line. -/
theorem run?_open (below : Below x tail next key column count) (nonempty : x ≠ [])
    (opened : Open early x tail column s) (read : run? fuel s = some tokens) :
    isPlainLine x = true ∨
      ∃ later, tokens = early.reverse ++ later ∧ isOther (String.ofList x) later = true := by
  induction fuel generalizing s with
  | zero => cases read
  | succ fuel ih =>
    obtain ⟨u, refreshed, read⟩ := Option.bind_eq_some_iff.1 read
    have since := opened.since.skipToNextToken.refreshKeyStarts? refreshed
    obtain ⟨same, -, -⟩ := refreshKeyStarts?_eq refreshed
    have outside := refreshKeyStarts?_outer (by exact opened.outside) refreshed
    have block : u.inFlow = false := by rw [inFlow, outside]; rfl
    have indents : u.indents.head? = some column := by
      rw [same]
      exact opened.indents
    have here := opened.next_token below.lands nonempty refreshed
    split at read
    · next ends =>
      have none := List.isEmpty_iff.1 ends
      rcases here with (here | ⟨left, here, _⟩) | ⟨rest, _, here⟩ <;> rw [here] at none <;> cases
        (List.append_eq_nil_iff.1 none).2
    · obtain ⟨t, taken, read⟩ := Option.bind_eq_some_iff.1 read
      by_cases closes : u.cursor.column < column
      · have decided := since.decided_of_closed block indents closes
        obtain ⟨token, emitted, _⟩ := token?_reads decided allowsMarks_isOther taken
        exact .inr (run?_decided (emitted.since fun _ other => isOther_append other) read)
      · have within : ∀ innermost ∈ u.indents.head?, innermost ≤ u.cursor.column := by
          rw [indents]
          rintro _ ⟨⟩
          exact Nat.le_of_not_lt closes
        rw [closeBlocks_of_within within] at taken
        rcases here with here | ⟨rest, gap, here⟩
        · obtain ⟨token, emitted, source⟩ := token?_reads since allowsMarks_mayBeOther taken
          rcases source_cases below block indents here source with
            plain | other | ⟨property, inside, blocks, outer⟩
          · exact .inl plain
          · exact .inr (run?_decided (emitted.since fun _ before => isOther_next before other) read)
          · exact ih ⟨emitted.since fun _ before => mayBeOther_property before property,
              outer.trans outside, by rw [blocks, indents], .inr inside⟩ read
        · exact .inr (run?_other_at_key below since block gap here taken read)

/-- The value of a key, on the line of the key, is all of a plain line, or it is something else. -/
theorem run?_value_other {blocks : Blocks} {p : Position} (below : Below x tail next key column count)
    (nonempty : x ≠ []) (opened : blocks.indents.head? = some column)
    (read : run? fuel (outside (' ' :: x ++ '\n' :: tail) p blocks false) = some tokens) :
    isPlainLine x = true ∨ ∃ later, tokens = blocks.tokens.reverse ++ later ∧
      isOther (String.ofList x) later = true := by
  refine run?_open below nonempty ⟨⟨⟨[], rfl, rfl⟩, ?_⟩, rfl, opened, .inl rfl⟩ read
  rintro start (held | held) <;> cases held

theorem nextLine_line {line : Line} {rest : List Char} (proper : line.isProper = true) :
    NextLine (line.text.toList ++ rest) (line.body.toList ++ '\n' :: rest) line.column :=
  ⟨by simp [Line.toList_text], shown_body proper⟩

/-- The value of the first key that comes after some lines is all of a plain line, or it is something
else. -/
theorem tokens?_value_other {lines after : List Line} {name value : String}
    (below : Below value.toList (after.flatMap (·.text.toList)) next key column count)
    (nonempty : value ≠ "") (laid : areLines lines = true) (word : isKeyWord name.toList = true)
    (ends : ∀ line ∈ lines.getLast?, Ends line
      ((Line.field column name value).text.toList ++ after.flatMap (·.text.toList)))
    (read : tokens? (textOf (lines ++ .field column name value :: after)) = some tokens) :
    isPlainLine value.toList = true ∨ ∃ later,
      tokens = ((({} : Blocks).lines lines).key column name.toList).tokens.reverse ++ later ∧
        isOther value later = true := by
  have whole : (textOf (lines ++ .field column name value :: after)).toList =
      lines.flatMap (·.text.toList) ++
        ((Line.field column name value).text.toList ++ after.flatMap (·.text.toList)) := by
    rw [toList_textOf, List.flatMap_append, List.flatMap_cons]
  have field : (Line.field column name value).text.toList ++ after.flatMap (·.text.toList) =
      List.replicate column ' ' ++ (name.toList ++ ':' ::
        (' ' :: value.toList ++ '\n' :: after.flatMap (·.text.toList))) := by
    simp [Line.toList_text, Line.body, Line.column]
  have long : roundsOf lines + 2 ≤
      (textOf (lines ++ .field column name value :: after)).toList.length + 1 := by
    have lines := roundsOf_le_length laid
    rw [whole, field]
    simp only [List.length_append, List.length_cons]
    omega
  obtain ⟨spare, fuel⟩ := Nat.exists_eq_add_of_le long
  obtain ⟨reached, _, _, keyRead⟩ := @run?_key (0 + lines.length) column
    (' ' :: value.toList ++ '\n' :: after.flatMap (·.text.toList)) (({} : Blocks).lines lines)
    name.toList word rfl
  obtain ⟨outer, opened⟩ := @exists_key_indents (({} : Blocks).lines lines) column name.toList
  rw [tokens?] at read
  split at read
  · rw [fuel, show roundsOf lines + 2 + spare = spare + 2 + roundsOf lines by omega, whole] at read
    have read := (@run?_lines lines {} _ 0 (spare + 2) laid ends).symm.trans read
    rw [field, keyRead] at read
    have found := run?_value_other below (by simpa using nonempty) (by rw [opened]; rfl) read
    rwa [String.ofList_toList] at found
  · cases read

end Runs

end Lexing

end DeploymentLifecycle.Yaml
