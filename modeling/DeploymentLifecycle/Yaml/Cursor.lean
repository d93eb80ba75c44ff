namespace DeploymentLifecycle.Yaml

/-! A place in a YAML text, and the classes of characters that the notation tells apart. -/

/-- The line breaks: carriage return, line feed, and the next-line, line and paragraph separators. -/
def isBreak (c : Char) : Bool :=
  c == '\r' || c == '\n' || c == '\u0085' || c == '\u2028' || c == '\u2029'

/-- Space and tab. -/
def isBlank (c : Char) : Bool :=
  c == ' ' || c == '\t'

def isGap (c : Char) : Bool :=
  isBlank c || isBreak c

/-- The characters of anchors, directive names and tag handles. -/
def isWordChar (c : Char) : Bool :=
  c.isAlphanum || c == '_' || c == '-'

/-- The mark that may stand at the start of a line. -/
def byteOrderMark : Char := '\uFEFF'

/-- What a text may hold at all: no controls but tab and line breaks. -/
def isPermitted (c : Char) : Bool :=
  let code := c.toNat
  c == '\t' || c == '\n' || c == '\r' || (0x20 ≤ code && code ≤ 0x7E) || code == 0x85
    || (0xA0 ≤ code && code ≤ 0xFFFD) || 0x10000 ≤ code

/-- Whether the text is at an end, a blank or a line break. -/
def atGap : List Char → Bool
  | [] => true
  | c :: _ => isGap c

def atBreak : List Char → Bool
  | [] => true
  | c :: _ => isBreak c

def startsWithOneOf (chars : List Char) : List Char → Bool
  | c :: _ => chars.contains c
  | [] => false

/-- Where a character stands: its line and column, and how many bytes of its line are before it. -/
structure Position where
  line : Nat := 0
  column : Nat := 0
  bytes : Nat := 0
deriving DecidableEq, Repr, Inhabited

/-- The position after a character that breaks no line. -/
def Position.after (p : Position) (c : Char) : Position :=
  ⟨p.line, p.column + 1, p.bytes + c.utf8Size⟩

/-- The start of the next line. -/
def Position.down (p : Position) : Position :=
  ⟨p.line + 1, 0, 0⟩

/-- The text that is still to be read, and where it starts. -/
structure Cursor where
  rest : List Char
  position : Position := {}
deriving Repr

namespace Cursor

def column (cursor : Cursor) : Nat := cursor.position.column

/-- Skips characters of the current line. -/
def skip (cursor : Cursor) (count : Nat) : Cursor :=
  ⟨cursor.rest.drop count, (cursor.rest.take count).foldl Position.after cursor.position⟩

def skipWhile (cursor : Cursor) (member : Char → Bool) : Cursor :=
  cursor.skip (cursor.rest.takeWhile member).length

/-- The characters of a class that come next, and the place after them. -/
def span (cursor : Cursor) (member : Char → Bool) : List Char × Cursor :=
  let run := cursor.rest.takeWhile member
  (run, cursor.skip run.length)

/-- A line break as it counts in a text: line and paragraph separators are kept, any other break is a
line feed. The place after it follows. -/
def lineBreak? (cursor : Cursor) : Option (Char × Cursor) :=
  match cursor.rest with
  | '\r' :: '\n' :: rest => some ('\n', ⟨rest, cursor.position.down⟩)
  | c :: rest =>
    if isBreak c then
      let kept := if c == '\u2028' || c == '\u2029' then c else '\n'
      some (kept, ⟨rest, cursor.position.down⟩)
    else none
  | [] => none

/-- The place after a line break, if one comes next. -/
def skipBreak (cursor : Cursor) : Cursor :=
  match cursor.lineBreak? with
  | some (_, after) => after
  | none => cursor

/-- Skips a byte order mark at the start of a line, which counts as a column. -/
def skipMark (cursor : Cursor) : Cursor :=
  if cursor.column == 0 && startsWithOneOf [byteOrderMark] cursor.rest then cursor.skip 1 else cursor

/-- Skips a comment up to the end of its line. -/
def skipComment (cursor : Cursor) : Cursor :=
  if startsWithOneOf ['#'] cursor.rest then cursor.skipWhile fun c => !isBreak c else cursor

/-- Whether three characters that mark the start or end of a document come next. -/
def atMark (mark : List Char) (cursor : Cursor) : Bool :=
  cursor.column == 0 && cursor.rest.take 3 == mark && atGap (cursor.rest.drop 3)

def documentStart : List Char := ['-', '-', '-']
def documentEnd : List Char := ['.', '.', '.']

def atDocumentMark (cursor : Cursor) : Bool :=
  cursor.atMark documentStart || cursor.atMark documentEnd

end Cursor

end DeploymentLifecycle.Yaml
