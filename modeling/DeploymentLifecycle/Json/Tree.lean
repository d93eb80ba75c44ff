import DeploymentLifecycle.Json.Value
import DeploymentLifecycle.Text.Basic

namespace DeploymentLifecycle.Json

/-! The shape of a JSON text before its values are looked at. A field that nobody asks for has to be
written correctly, but its strings need not be text and its numbers need not have a value; only
what is taken out of a `Tree` is held to that. -/

/-- A character of the input, `none` for a byte that is part of no character. -/
abbrev Symbol := Option Char

def Symbol.ofText (text : String) : List Symbol :=
  text.toList.map some

/-- Strings whose escapes or bytes make no text, and numbers out of range, are `none`. -/
inductive Tree where
  | null
  | bool (value : Bool)
  | number (value : Option Number)
  | string (value : Option String)
  | array (items : List Tree)
  | object (fields : List (Option String × Tree))
deriving Repr, Inhabited

/-- The nesting that a value taken out of a text may have. -/
def nestingLimit : Nat := 127

namespace Tree

mutual

/-- The value of a tree in which at most `budget` arrays and objects are nested. Keys are put in
order, and of fields under one key the last is kept. -/
def toJson? (budget : Nat) : Tree → Option Json
  | .null => some .null
  | .bool value => some (.bool value)
  | .number value => value.map .number
  | .string value => value.map .string
  | .array items =>
    match budget with
    | 0 => none
    | budget + 1 => (itemsToJson? budget items).map .array
  | .object fields =>
    match budget with
    | 0 => none
    | budget + 1 => (fieldsToJson? budget fields).map fun pairs => .object (Fields.ofList pairs)

def itemsToJson? (budget : Nat) : List Tree → Option (List Json)
  | [] => some []
  | item :: rest => do
    let value ← toJson? budget item
    return value :: (← itemsToJson? budget rest)

def fieldsToJson? (budget : Nat) : List (Option String × Tree) → Option (List (String × Json))
  | [] => some []
  | (key, tree) :: rest => do
    let key ← key
    let value ← toJson? budget tree
    return (key, value) :: (← fieldsToJson? budget rest)

end

def toText? : Tree → Option String
  | .string value => value
  | _ => none

def toBool? : Tree → Option Bool
  | .bool value => some value
  | _ => none

/-- A non-negative integer up to `limit`. -/
def toNatural? (limit : Nat) : Tree → Option Nat
  | .number (some (.int value)) =>
    if 0 ≤ value ∧ value ≤ limit then some value.toNat else none
  | _ => none

/-- The fields of an object as a map from keys to values. -/
def toFields? (budget : Nat) (tree : Tree) : Option Fields :=
  match tree, tree.toJson? budget with
  | .object _, some (.object fields) => some fields
  | _, _ => none

/-- The items of an array, for a reader of the items. -/
def toItems? (tree : Tree) : Option (List Tree) :=
  match tree with
  | .array items => some items
  | _ => none

/-- The value of one of `names`; a second one under the same name is refused, as is a key that is no
text. -/
def takeField? (found : List (Option Tree)) (names : List String) (key : String) (value : Tree) :
    Option (List (Option Tree)) :=
  match found, names with
  | slot :: slots, name :: rest =>
    if name = key then
      match slot with
      | none => some (some value :: slots)
      | some _ => none
    else (takeField? slots rest key value).map (slot :: ·)
  | slots, _ => some slots

def takeFields? (names : List String) (found : List (Option Tree)) :
    List (Option String × Tree) → Option (List (Option Tree))
  | [] => some found
  | (key, value) :: rest => do takeFields? names (← takeField? found names (← key) value) rest

/-- The fields of a record, in the order of `names`. A record is an object, in which other fields
are ignored, or an array of the fields in order, from which the last ones may be missing. -/
def record? (names : List String) : Tree → Option (List (Option Tree))
  | .object fields => takeFields? names (names.map fun _ => none) fields
  | .array items =>
    if items.length ≤ names.length then
      some (items.map some ++ List.replicate (names.length - items.length) none)
    else none
  | _ => none

end Tree

mutual

/-- The tree of a value. -/
def toTree : Json → Tree
  | .null => .null
  | .bool value => .bool value
  | .number value => .number (some value)
  | .string value => .string (some value)
  | .array items => .array (itemsToTree items)
  | .object fields => .object (fieldsToTree fields)

def itemsToTree : List Json → List Tree
  | [] => []
  | item :: rest => toTree item :: itemsToTree rest

def fieldsToTree : List (String × Json) → List (Option String × Tree)
  | [] => []
  | (key, value) :: rest => (some key, toTree value) :: fieldsToTree rest

end

end DeploymentLifecycle.Json
