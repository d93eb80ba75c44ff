import DeploymentLifecycle.Yaml.Tag

namespace DeploymentLifecycle.Yaml

/-! The tokens of a text. What makes this more than a walk over the characters is that a mapping
shows only at the colon after its first key: every token that may turn out to be a key is remembered
until the colon comes or its line ends. -/

/-- A place where a key may have started, before the token with the given number. Where the
indentation leaves no other reading, the key is required to be one. -/
structure KeyStart where
  required : Bool
  number : Nat
  position : Position

/-- The state of reading. `tokens` holds the last token first; `indents` are the columns of the open
blocks, the innermost first; `keyStarts` has one place for each open flow collection and one for the
blocks around them. -/
structure Lexing where
  cursor : Cursor
  tokens : List Token := []
  indents : List Nat := []
  keyAllowed : Bool := true
  keyStart : Option KeyStart := none
  outerKeyStarts : List (Option KeyStart) := []

namespace Lexing

def inFlow (s : Lexing) : Bool := !s.outerKeyStarts.isEmpty

def emit (s : Lexing) (token : Token) : Lexing :=
  { s with tokens := token :: s.tokens }

/-- Puts a token before the one with the given number. -/
def emitAt (s : Lexing) (number : Nat) (token : Token) : Lexing :=
  { s with tokens := s.tokens.insertIdx (s.tokens.length - number) token }

/-- A block is open at a column only if the innermost one starts before it. -/
def isDeeper (s : Lexing) (column : Nat) : Bool :=
  match s.indents with
  | [] => true
  | innermost :: _ => innermost < column

/-- Opens a block at a column, unless one is open there already. Its start goes before the token
with the given number. -/
def openBlock (s : Lexing) (column number : Nat) (token : Token) : Lexing :=
  if !s.inFlow && s.isDeeper column then
    { s.emitAt number token with indents := column :: s.indents }
  else s

/-- Closes the blocks that start after a column. -/
def closeBlocks (s : Lexing) (column : Nat) : Lexing :=
  if s.inFlow then s
  else
    let closed := s.indents.takeWhile (column < ·)
    { s with
      indents := s.indents.dropWhile (column < ·)
      tokens := closed.map (fun _ => .blockEnd) ++ s.tokens }

def closeAllBlocks (s : Lexing) : Lexing :=
  if s.inFlow then s
  else { s with indents := [], tokens := s.indents.map (fun _ => .blockEnd) ++ s.tokens }

/-- Gives up the possibility of a key, which fails if the key was required. -/
def dropKeyStart? (s : Lexing) : Option Lexing :=
  match s.keyStart with
  | some start => if start.required then none else some { s with keyStart := none }
  | none => some s

/-- Remembers that a key may start here. -/
def saveKeyStart? (s : Lexing) : Option Lexing :=
  if s.keyAllowed then do
    let s ← s.dropKeyStart?
    let required := !s.inFlow && s.indents.head? == some s.cursor.column
    return { s with keyStart := some ⟨required, s.tokens.length, s.cursor.position⟩ }
  else some s

/-- The longest key that needs no question mark, in bytes. -/
def longestKey : Nat := 1024

def isStale (start : KeyStart) (now : Position) : Bool :=
  start.position.line < now.line || start.position.bytes + longestKey < now.bytes

/-- Forgets key starts that lie in an earlier line or too far back. -/
def refresh? (s : Lexing) (start : Option KeyStart) : Option (Option KeyStart) :=
  match start with
  | some held =>
    if isStale held s.cursor.position then
      if held.required then none else some none
    else some start
  | none => some none

def refreshKeyStarts? (s : Lexing) : Option Lexing := do
  return { s with
    keyStart := ← s.refresh? s.keyStart
    outerKeyStarts := ← s.outerKeyStarts.mapM s.refresh? }

/-- Skips byte order marks, blanks, comments and line breaks up to the next token. A tab may not stand
where it could be taken for indentation. A line break makes a key possible. -/
def toNextToken (inFlow : Bool) : Nat → Bool → Cursor → Bool × Cursor
  | 0, keyAllowed, cursor => (keyAllowed, cursor)
  | fuel + 1, keyAllowed, cursor =>
    let tabs := inFlow || !keyAllowed
    let cursor :=
      (cursor.skipMark.skipWhile fun c => c == ' ' || (tabs && c == '\t')).skipComment
    match cursor.lineBreak? with
    | some (_, next) => toNextToken inFlow fuel (keyAllowed || !inFlow) next
    | none => (keyAllowed, cursor)

def skipToNextToken (s : Lexing) : Lexing :=
  let (keyAllowed, cursor) :=
    toNextToken s.inFlow (s.cursor.rest.length + 1) s.keyAllowed s.cursor
  { s with cursor, keyAllowed }

def directive? (s : Lexing) : Option Lexing := do
  let s ← s.closeAllBlocks.dropKeyStart?
  let (token, after) ← Yaml.directive? s.cursor
  return { s.emit token with keyAllowed := false, cursor := after }

def documentMark? (s : Lexing) (token : Token) : Option Lexing := do
  let s ← s.closeAllBlocks.dropKeyStart?
  return { s.emit token with keyAllowed := false, cursor := s.cursor.skip 3 }

def openFlow? (s : Lexing) (token : Token) : Option Lexing := do
  let s ← s.saveKeyStart?
  return { s.emit token with
    keyAllowed := true
    keyStart := none
    outerKeyStarts := s.keyStart :: s.outerKeyStarts
    cursor := s.cursor.skip 1 }

def closeFlow? (s : Lexing) (token : Token) : Option Lexing := do
  let s ← s.dropKeyStart?
  let (keyStart, outer) := match s.outerKeyStarts with
    | start :: outer => (start, outer)
    | [] => (s.keyStart, [])
  return { s.emit token with
    keyAllowed := false, keyStart, outerKeyStarts := outer, cursor := s.cursor.skip 1 }

def flowEntry? (s : Lexing) : Option Lexing := do
  let s ← s.dropKeyStart?
  return { s.emit .flowEntry with keyAllowed := true, cursor := s.cursor.skip 1 }

/-- What starts a block here is allowed only where a key may start, and opens the block. -/
def startHere? (s : Lexing) (token : Token) : Option Lexing :=
  if s.inFlow then some s
  else if s.keyAllowed then some (s.openBlock s.cursor.column s.tokens.length token)
  else none

def blockEntry? (s : Lexing) : Option Lexing := do
  let s ← (← s.startHere? .sequenceStart).dropKeyStart?
  return { s.emit .entry with keyAllowed := true, cursor := s.cursor.skip 1 }

def key? (s : Lexing) : Option Lexing := do
  let s ← (← s.startHere? .mappingStart).dropKeyStart?
  return { s.emit .key with keyAllowed := !s.inFlow, cursor := s.cursor.skip 1 }

def value? (s : Lexing) : Option Lexing := do
  match s.keyStart with
  | some start =>
    let s := (s.emitAt start.number .key).openBlock start.position.column start.number .mappingStart
    return { s.emit .value with keyStart := none, keyAllowed := false, cursor := s.cursor.skip 1 }
  | none =>
    let s ← s.startHere? .mappingStart
    return { s.emit .value with keyAllowed := !s.inFlow, cursor := s.cursor.skip 1 }

def alias? (s : Lexing) : Option Lexing := do
  let s ← s.saveKeyStart?
  let (name, after) ← anchorName? s.cursor
  return { s.emit (.alias name) with keyAllowed := false, cursor := after }

def anchor? (s : Lexing) : Option Lexing := do
  let s ← s.saveKeyStart?
  let (name, after) ← anchorName? s.cursor
  return { s.emit (.anchor name) with keyAllowed := false, cursor := after }

def tag? (s : Lexing) : Option Lexing := do
  let s ← s.saveKeyStart?
  let (token, after) ← Yaml.tag? s.inFlow s.cursor
  return { s.emit token with keyAllowed := false, cursor := after }

def blockScalar? (s : Lexing) (folded : Bool) : Option Lexing := do
  let s ← s.dropKeyStart?
  let (text, after) ← block? folded s.indents.head? s.cursor
  let token := .scalar (if folded then .folded else .literal) (String.ofList text)
  return { s.emit token with keyAllowed := true, cursor := after }

def quotedScalar? (s : Lexing) (single : Bool) : Option Lexing := do
  let s ← s.saveKeyStart?
  let (text, after) ← quoted? single s.cursor
  let token := .scalar (if single then .singleQuoted else .doubleQuoted) (String.ofList text)
  return { s.emit token with keyAllowed := false, cursor := after }

def plainScalar? (s : Lexing) : Option Lexing := do
  let s ← s.saveKeyStart?
  let indent := match s.indents with
    | innermost :: _ => innermost + 1
    | [] => 0
  let scalar ← plain? s.inFlow indent s.cursor
  return { s.emit (.scalar .plain (String.ofList scalar.text)) with
    keyAllowed := scalar.brokeLine, cursor := scalar.cursor }

/-- The characters that no plain scalar starts with. -/
def indicators : List Char :=
  ['-', '?', ':', ',', '[', ']', '{', '}', '#', '&', '*', '!', '|', '>', '\'', '"', '%', '@', '`']

/-- Whether a plain scalar starts here. A dash, a question mark or a colon starts one when no gap
follows, the latter two only outside flow collections. -/
def startsPlain (inFlow : Bool) (c : Char) (rest : List Char) : Bool :=
  (!isGap c && !indicators.contains c)
    || (c == '-' && !startsWithOneOf [' ', '\t'] rest)
    || (!inFlow && (c == '?' || c == ':') && !atGap rest)

/-- Reads the token that starts here; none is left at the end of the text. -/
def token? (s : Lexing) : Option Lexing :=
  match s.cursor.rest with
  | [] => none
  | c :: rest =>
    if s.cursor.column = 0 ∧ c = '%' then s.directive?
    else if s.cursor.atMark Cursor.documentStart then s.documentMark? .documentStart
    else if s.cursor.atMark Cursor.documentEnd then s.documentMark? .documentEnd
    else if c = '[' then s.openFlow? .flowSequenceStart
    else if c = '{' then s.openFlow? .flowMappingStart
    else if c = ']' then s.closeFlow? .flowSequenceEnd
    else if c = '}' then s.closeFlow? .flowMappingEnd
    else if c = ',' then s.flowEntry?
    else if c = '-' ∧ atGap rest then s.blockEntry?
    else if c = '?' ∧ (s.inFlow ∨ atGap rest) then s.key?
    else if c = ':' ∧ (s.inFlow ∨ atGap rest) then s.value?
    else if c = '*' then s.alias?
    else if c = '&' then s.anchor?
    else if c = '!' then s.tag?
    else if c = '|' ∧ !s.inFlow then s.blockScalar? false
    else if c = '>' ∧ !s.inFlow then s.blockScalar? true
    else if c = '\'' then s.quotedScalar? true
    else if c = '"' then s.quotedScalar? false
    else if startsPlain s.inFlow c rest then s.plainScalar?
    else none

/-- Reads tokens up to the end of the text. Each round but the last one consumes a character. -/
def run? : Nat → Lexing → Option (List Token)
  | 0, _ => none
  | fuel + 1, s => do
    let s ← s.skipToNextToken.refreshKeyStarts?
    if s.cursor.rest.isEmpty then
      let s ← s.closeAllBlocks.dropKeyStart?
      return s.tokens.reverse
    else
      run? fuel (← (s.closeBlocks s.cursor.column).token?)

end Lexing

/-- The tokens of a text; `none` if it holds a character that is not permitted, or no token can be
read somewhere. -/
def tokens? (text : String) : Option (List Token) :=
  let chars := text.toList
  if chars.all isPermitted then Lexing.run? (chars.length + 1) { cursor := ⟨chars, {}⟩ }
  else none

end DeploymentLifecycle.Yaml
