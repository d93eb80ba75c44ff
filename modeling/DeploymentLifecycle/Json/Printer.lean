import DeploymentLifecycle.Decimal.Shortest
import DeploymentLifecycle.Json.Value

namespace DeploymentLifecycle.Json

/-! JSON as text, on one line or with a line for each item and field. -/

/-- How the items of arrays and the fields of objects are set apart. -/
inductive Layout where
  | compact
  | indented
deriving DecidableEq, Repr

/-- What stands before an item `depth` levels down. -/
def Layout.gap (layout : Layout) (depth : Nat) : List Char :=
  match layout with
  | .compact => []
  | .indented => '\n' :: List.replicate (2 * depth) ' '

/-- What stands between a key and its value. -/
def Layout.colon : Layout → List Char
  | .compact => [':']
  | .indented => [':', ' ']

def hexDigit (value : Nat) : Char :=
  if value < 10 then Char.ofNat ('0'.toNat + value) else Char.ofNat ('a'.toNat + (value - 10))

/-- Quotes, backslashes and controls are escaped, all else stands for itself. -/
def escaped (c : Char) : List Char :=
  if c = '"' then ['\\', '"']
  else if c = '\\' then ['\\', '\\']
  else if c = '\n' then ['\\', 'n']
  else if c = '\r' then ['\\', 'r']
  else if c = '\t' then ['\\', 't']
  else if c = '\x08' then ['\\', 'b']
  else if c = '\x0c' then ['\\', 'f']
  else if c.toNat < 0x20 then
    ['\\', 'u', '0', '0', hexDigit (c.toNat / 16), hexDigit (c.toNat % 16)]
  else [c]

def quoted (text : String) : List Char :=
  '"' :: text.toList.flatMap escaped ++ ['"']

/-- A double without a finite value is written as null. -/
def Number.chars : Number → List Char
  | .int value => (toString value).toList
  | .double bits => (Decimal.text? bits).getD ['n', 'u', 'l', 'l']

mutual

/-- The text of a value that stands `depth` levels down. -/
def chars (layout : Layout) (depth : Nat) : Json → List Char
  | .null => ['n', 'u', 'l', 'l']
  | .bool true => ['t', 'r', 'u', 'e']
  | .bool false => ['f', 'a', 'l', 's', 'e']
  | .number value => value.chars
  | .string text => quoted text
  | .array [] => ['[', ']']
  | .array (first :: rest) =>
    '[' :: layout.gap (depth + 1) ++ chars layout (depth + 1) first
      ++ itemsChars layout (depth + 1) rest ++ layout.gap depth ++ [']']
  | .object [] => ['{', '}']
  | .object ((key, value) :: rest) =>
    '{' :: layout.gap (depth + 1) ++ quoted key ++ layout.colon ++ chars layout (depth + 1) value
      ++ fieldsChars layout (depth + 1) rest ++ layout.gap depth ++ ['}']

def itemsChars (layout : Layout) (depth : Nat) : List Json → List Char
  | [] => []
  | item :: rest =>
    ',' :: layout.gap depth ++ chars layout depth item ++ itemsChars layout depth rest

def fieldsChars (layout : Layout) (depth : Nat) : List (String × Json) → List Char
  | [] => []
  | (key, value) :: rest =>
    ',' :: layout.gap depth ++ quoted key ++ layout.colon ++ chars layout depth value
      ++ fieldsChars layout depth rest

end

def compact (value : Json) : String := String.ofList (value.chars .compact 0)
def pretty (value : Json) : String := String.ofList (value.chars .indented 0)

end DeploymentLifecycle.Json
