import DeploymentLifecycle.Text.Utf8
import DeploymentLifecycle.Yaml.Cursor
import DeploymentLifecycle.Yaml.Scalar
import DeploymentLifecycle.Yaml.Token

namespace DeploymentLifecycle.Yaml

/-! Anchors, tags and directives. -/

/-- The name of an anchor or alias, from its indicator on. -/
def anchorName? (cursor : Cursor) : Option (String × Cursor) :=
  let (name, after) := (cursor.skip 1).span isWordChar
  if name.isEmpty then none
  else if atGap after.rest || startsWithOneOf ['?', ':', ',', ']', '}', '%', '@', '`'] after.rest then
    some (String.ofList name, after)
  else none

/-- The characters of a tag's address; within angle brackets there are some more. -/
def isUriChar (verbatim : Bool) (c : Char) : Bool :=
  isWordChar c || [';', '/', '?', ':', '@', '&', '=', '+', '$', '.', '%', '!', '~', '*', '\'', '(', ')'].contains c
    || (verbatim && [',', '[', ']'].contains c)

/-- How many escaped bytes have to follow one: as many as if it started the encoding of a
character. -/
def followers? (byte : UInt8) : Option Nat :=
  if byte < 0x80 then some 0
  else if byte < 0xC0 then none
  else if byte < 0xE0 then some 1
  else if byte < 0xF0 then some 2
  else if byte < 0xF8 then some 3
  else none

/-- The bytes of an address, of which `due` escaped ones have to come first. An escaped byte is written
as `%41`. -/
def uriBytes? : Nat → List Char → Option Tag
  | 0, [] => some []
  | _ + 1, [] => none
  | due, '%' :: high :: low :: rest => do
    let byte := ((← Text.hexValue? high) * 16 + (← Text.hexValue? low)).toUInt8
    let due ←
      if due = 0 then followers? byte
      else if Text.isContinuation byte then some (due - 1)
      else none
    return byte :: (← uriBytes? due rest)
  | due, c :: rest => do
    if due ≠ 0 || c == '%' then none
    return c.toNat.toUInt8 :: (← uriBytes? 0 rest)

/-- The address of a tag, its escaped bytes decoded. -/
def uri? (verbatim : Bool) (cursor : Cursor) : Option (Tag × Cursor) := do
  let (written, after) := cursor.span (isUriChar verbatim)
  return (← uriBytes? 0 written, after)

/-- A tag ends before its first null byte. -/
def cut (tag : Tag) : Tag :=
  tag.takeWhile (· != 0)

/-- A tag's handle: an exclamation mark, and possibly a word and a second mark. -/
def handle? (cursor : Cursor) : Option (String × Cursor) :=
  if startsWithOneOf ['!'] cursor.rest then
    let (word, after) := (cursor.skip 1).span isWordChar
    if startsWithOneOf ['!'] after.rest then
      some (String.ofList ('!' :: word ++ ['!']), after.skip 1)
    else some (String.ofList ('!' :: word), after)
  else none

/-- A tag as a handle and the rest of its name. The lone exclamation mark has the empty handle. -/
def tagParts? (cursor : Cursor) : Option ((String × Tag) × Cursor) := do
  if (cursor.rest.drop 1).head? = some '<' then
    let (uri, after) ← uri? true (cursor.skip 2)
    if uri.isEmpty || !startsWithOneOf ['>'] after.rest then none
    return (("", cut uri), after.skip 1)
  else
    let (handle, after) ← handle? cursor
    let (rest, last) ← uri? false after
    if handle.length > 1 && handle.endsWith "!" then
      if rest.isEmpty then none
      return ((handle, cut rest), last)
    else
      let suffix := cut (Text.encode (handle.drop 1).toString ++ rest)
      if suffix.isEmpty then return (("", Text.encode "!"), last)
      return (("!", suffix), last)

/-- Reads a tag from its exclamation mark on; a gap has to follow, or a comma in a flow collection. -/
def tag? (inFlow : Bool) (cursor : Cursor) : Option (Token × Cursor) := do
  let ((handle, suffix), after) ← tagParts? cursor
  if atGap after.rest || (inFlow && startsWithOneOf [','] after.rest) then
    return (.tag handle suffix, after)
  else none

/-- A part of a version number, of at most nine digits. -/
def versionNumber? (cursor : Cursor) : Option (Nat × Cursor) := do
  let (digits, after) := cursor.span Char.isDigit
  if digits.isEmpty || digits.length > 9 then none
  return (digits.foldl (fun value c => value * 10 + (c.toNat - '0'.toNat)) 0, after)

def directiveValue? (name : String) (cursor : Cursor) : Option (Token × Cursor) := do
  let cursor := cursor.skipWhile isBlank
  if name = "YAML" then
    let (major, cursor) ← versionNumber? cursor
    if !startsWithOneOf ['.'] cursor.rest then none
    let (minor, cursor) ← versionNumber? (cursor.skip 1)
    return (.version major minor, cursor)
  else if name = "TAG" then
    let (handle, cursor) ← handle? cursor
    if handle.length > 1 && !handle.endsWith "!" then none
    if !startsWithOneOf [' ', '\t'] cursor.rest then none
    let (uri, cursor) ← uri? true (cursor.skipWhile isBlank)
    if uri.isEmpty || !atGap cursor.rest then none
    return (.tagHandle handle (cut uri), cursor)
  else none

/-- Reads a directive from its percent sign on, and the rest of its line. -/
def directive? (cursor : Cursor) : Option (Token × Cursor) := do
  let (name, cursor) := (cursor.skip 1).span isWordChar
  if name.isEmpty || !atGap cursor.rest then none
  let (token, cursor) ← directiveValue? (String.ofList name) cursor
  let cursor := (cursor.skipWhile isBlank).skipComment
  if !atBreak cursor.rest then none
  return (token, cursor.skipBreak)

end DeploymentLifecycle.Yaml
