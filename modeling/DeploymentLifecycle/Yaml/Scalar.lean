import DeploymentLifecycle.Text.Hex
import DeploymentLifecycle.Yaml.Cursor
import DeploymentLifecycle.Yaml.Token

namespace DeploymentLifecycle.Yaml

/-! The text of scalars: plain ones, quoted ones, and literal and folded blocks. -/

/-- Blanks and line breaks between two runs of text. `first` is the first line break, if there is
one; a break that was escaped away counts as the empty one. -/
structure Gap where
  blanks : List Char := []
  first : Option (List Char) := none
  later : List Char := []

/-- What a gap stands for: its blanks, or one space for a single line break, or the breaks after the
first. A first break that is a separator of its own is kept. -/
def Gap.text (gap : Gap) : List Char :=
  match gap.first with
  | none => gap.blanks
  | some ['\n'] => if gap.later.isEmpty then [' '] else gap.later
  | some first => first ++ gap.later

def Gap.push (gap : Gap) (lineBreak : Char) : Gap :=
  match gap.first with
  | none => { gap with first := some [lineBreak] }
  | some _ => { gap with later := gap.later ++ [lineBreak] }

/-- Reads blanks and line breaks. A tab at the start of a line is refused in a column before
`indent`. -/
def Gap.read? (gap : Gap) (indent : Nat) (cursor : Cursor) : Option (Gap × Cursor) :=
  go gap cursor.position cursor.rest
where
  go (gap : Gap) (position : Position) : List Char → Option (Gap × Cursor)
    | [] => some (gap, ⟨[], position⟩)
    | '\r' :: '\n' :: rest => go (gap.push '\n') position.down rest
    | c :: rest =>
      if isBlank c then
        if gap.first.isSome then
          if c == '\t' && position.column < indent then none
          else go gap (position.after c) rest
        else go { gap with blanks := gap.blanks ++ [c] } (position.after c) rest
      else if isBreak c then
        let kept := if c == '\u2028' || c == '\u2029' then c else '\n'
        go (gap.push kept) position.down rest
      else some (gap, ⟨c :: rest, position⟩)

/-- The characters of a plain scalar up to the next gap. In a flow collection the scalar ends at an
indicator of the collection; a colon right before one is refused. -/
def plainRun? (inFlow : Bool) : List Char → Option (List Char)
  | [] => some []
  | c :: rest =>
    if isGap c then some []
    else if inFlow && c == ':' && startsWithOneOf [',', '?', '[', ']', '{', '}'] rest then none
    else if c == ':' && atGap rest then some []
    else if inFlow && [',', '[', ']', '{', '}'].contains c then some []
    else (plainRun? inFlow rest).map (c :: ·)

/-- A scalar's text, where it ends, and whether a line break was read after it. -/
structure PlainScalar where
  text : List Char
  cursor : Cursor
  brokeLine : Bool

/-- Goes on with a plain scalar after a gap. Outside flow collections the scalar ends at a line that
is indented by fewer than `indent` columns. -/
def plainFrom? (inFlow : Bool) (indent : Nat) :
    Nat → List Char → Gap → Cursor → Option PlainScalar
  | 0, _, _, _ => none
  | fuel + 1, text, gap, cursor =>
    if cursor.atDocumentMark || startsWithOneOf ['#'] cursor.rest then
      some ⟨text, cursor, gap.first.isSome⟩
    else do
      let run ← plainRun? inFlow cursor.rest
      let after := cursor.skip run.length
      let text := if run.isEmpty then text else text ++ gap.text ++ run
      let gap := if run.isEmpty then gap else {}
      if after.rest.isEmpty || !atGap after.rest then return ⟨text, after, gap.first.isSome⟩
      else
        let (gap, next) ← gap.read? indent after
        if !inFlow && next.column < indent then return ⟨text, next, gap.first.isSome⟩
        else plainFrom? inFlow indent fuel text gap next

/-- Reads a plain scalar; every round but the last one consumes a character. -/
def plain? (inFlow : Bool) (indent : Nat) (cursor : Cursor) : Option PlainScalar :=
  plainFrom? inFlow indent (cursor.rest.length + 1) [] {} cursor

/-- The value of exactly `count` hexadecimal digits. -/
def hexNumber? (count : Nat) (digits : List Char) : Option Nat :=
  if digits.length < count then none
  else (digits.take count).foldl (fun value c => do return (← value) * 16 + (← Text.hexValue? c)) (some 0)

/-- The escapes of double quotes that stand for one character. -/
def simpleEscape? (c : Char) : Option Char :=
  match c with
  | '0' => some '\x00'
  | 'a' => some '\x07'
  | 'b' => some '\x08'
  | 't' => some '\t'
  | '\t' => some '\t'
  | 'n' => some '\n'
  | 'v' => some '\x0b'
  | 'f' => some '\x0c'
  | 'r' => some '\r'
  | 'e' => some '\x1b'
  | ' ' => some ' '
  | '"' => some '"'
  | '/' => some '/'
  | '\\' => some '\\'
  | 'N' => some '\u0085'
  | '_' => some '\u00a0'
  | 'L' => some '\u2028'
  | 'P' => some '\u2029'
  | _ => none

/-- How many hexadecimal digits follow an escape that names a code point. -/
def codeLength? (c : Char) : Option Nat :=
  match c with
  | 'x' => some 2
  | 'u' => some 4
  | 'U' => some 8
  | _ => none

/-- The character after a backslash, and how many characters were read for it. -/
def escape? : List Char → Option (Char × Nat)
  | [] => none
  | c :: rest =>
    match simpleEscape? c, codeLength? c with
    | some value, _ => some (value, 1)
    | none, some count => do
      let code ← hexNumber? count rest
      if (0xD800 ≤ code ∧ code ≤ 0xDFFF) ∨ 0x10FFFF < code then none
      else return (Char.ofNat code, count + 1)
    | none, none => none

/-- One step through a quoted scalar. -/
inductive QuotedStep where
  | char (c : Char) (width : Nat)
  | escapedBreak
  | gap
  | close
  | unclosed

def singleQuotedStep : List Char → QuotedStep
  | [] => .unclosed
  | '\'' :: '\'' :: _ => .char '\'' 2
  | '\'' :: _ => .close
  | c :: _ => if isGap c then .gap else .char c 1

def doubleQuotedStep? : List Char → Option QuotedStep
  | [] => some .unclosed
  | '"' :: _ => some .close
  | '\\' :: rest =>
    if rest.isEmpty then none
    else if atBreak rest then some .escapedBreak
    else (escape? rest).map fun (c, width) => .char c (width + 1)
  | c :: _ => some (if isGap c then .gap else .char c 1)

/-- Goes on with a quoted scalar after its opening quote. No line of it may start with the mark of a
document. -/
def quotedFrom? (single : Bool) : Nat → List Char → Cursor → Option (List Char × Cursor)
  | 0, _, _ => none
  | fuel + 1, text, cursor =>
    if cursor.atDocumentMark then none
    else do
      let step ← if single then some (singleQuotedStep cursor.rest) else doubleQuotedStep? cursor.rest
      match step with
      | .unclosed => none
      | .close => return (text, cursor.skip 1)
      | .char c width => quotedFrom? single fuel (text ++ [c]) (cursor.skip width)
      | .escapedBreak =>
        let (gap, next) ← ({ first := some [] } : Gap).read? 0 (cursor.skip 1).skipBreak
        quotedFrom? single fuel (text ++ gap.text) next
      | .gap =>
        let (gap, next) ← ({} : Gap).read? 0 cursor
        quotedFrom? single fuel (text ++ gap.text) next

/-- Reads a quoted scalar from its opening quote on. -/
def quoted? (single : Bool) (cursor : Cursor) : Option (List Char × Cursor) :=
  quotedFrom? single cursor.rest.length [] (cursor.skip 1)

/-- What happens to the line breaks at the end of a block. -/
inductive Chomping where
  | strip | clip | keep
deriving DecidableEq

/-- The line breaks of empty lines, with the greatest indentation seen. While the indentation of the
block is not known, `indent` is zero and all leading spaces are skipped. -/
def emptyLines? (indent : Nat) : Nat → List Char → Nat → Cursor → Option (List Char × Nat × Cursor)
  | 0, _, _, _ => none
  | fuel + 1, breaks, widest, cursor =>
    let spaces := (cursor.rest.takeWhile (· == ' ')).length
    let cursor := cursor.skip (if indent = 0 then spaces else min spaces (indent - cursor.column))
    let widest := max widest cursor.column
    if (indent = 0 ∨ cursor.column < indent) ∧ startsWithOneOf ['\t'] cursor.rest then none
    else
      match cursor.lineBreak? with
      | some (kept, next) => emptyLines? indent fuel (breaks ++ [kept]) widest next
      | none => some (breaks, widest, cursor)

/-- What a block scalar was gathered from so far: its text, the last line break of it, and the empty
lines after that break. -/
structure Block where
  text : List Char
  lineBreak : List Char
  empty : List Char
  leadingBlank : Bool

/-- Reads the lines of a block of known indentation. When lines are folded, a single break between
two lines that start with no blank becomes a space. -/
def blockLines? (folded : Bool) (indent : Nat) : Nat → Block → Cursor → Option (Block × Cursor)
  | 0, _, _ => none
  | fuel + 1, block, cursor =>
    if cursor.column ≠ indent ∨ cursor.rest.isEmpty then some (block, cursor)
    else do
      let blank := startsWithOneOf [' ', '\t'] cursor.rest
      let joint :=
        if folded && block.lineBreak == ['\n'] && !block.leadingBlank && !blank then
          if block.empty.isEmpty then [' '] else []
        else block.lineBreak
      let (line, cursor) := cursor.span fun c => !isBreak c
      let text := block.text ++ joint ++ block.empty ++ line
      let (lineBreak, cursor) := match cursor.lineBreak? with
        | some (kept, next) => ([kept], next)
        | none => ([], cursor)
      let (empty, _, cursor) ← emptyLines? indent (cursor.rest.length + 1) [] 0 cursor
      blockLines? folded indent fuel ⟨text, lineBreak, empty, blank⟩ cursor

/-- The chomping and the indentation that a block's header names, in either order. -/
def blockHeader? (cursor : Cursor) : Option (Chomping × Option Nat × Cursor) :=
  let chomping? : List Char → Option Chomping
    | '+' :: _ => some .keep
    | '-' :: _ => some .strip
    | _ => none
  let width? : List Char → Option Nat
    | c :: _ => if c.isDigit then some (c.toNat - '0'.toNat) else none
    | [] => none
  let (chomping, width, after) :=
    match chomping? cursor.rest with
    | some chomping =>
      match width? (cursor.skip 1).rest with
      | some width => (chomping, some width, cursor.skip 2)
      | none => (chomping, none, cursor.skip 1)
    | none =>
      match width? cursor.rest with
      | some width =>
        match chomping? (cursor.skip 1).rest with
        | some chomping => (chomping, some width, cursor.skip 2)
        | none => (.clip, some width, cursor.skip 1)
      | none => (.clip, none, cursor)
  if width = some 0 then none else some (chomping, width, after)

/-- Reads a block scalar from its indicator on, inside a block at column `parent`, if there is one. -/
def block? (folded : Bool) (parent : Option Nat) (cursor : Cursor) : Option (List Char × Cursor) := do
  let (chomping, width, cursor) ← blockHeader? (cursor.skip 1)
  let cursor := (cursor.skipWhile isBlank).skipComment
  if !atBreak cursor.rest then none
  else
    let cursor := cursor.skipBreak
    let fuel := cursor.rest.length + 1
    let given := match width with
      | some width => parent.getD 0 + width
      | none => 0
    let (empty, widest, cursor) ← emptyLines? given fuel [] 0 cursor
    let least := match parent with
      | some column => column + 1
      | none => 1
    let indent := if given = 0 then max widest least else given
    let (block, cursor) ← blockLines? folded indent fuel ⟨[], [], empty, false⟩ cursor
    let text := block.text
      ++ (if chomping = .strip then [] else block.lineBreak)
      ++ (if chomping = .keep then block.empty else [])
    return (text, cursor)

end DeploymentLifecycle.Yaml
