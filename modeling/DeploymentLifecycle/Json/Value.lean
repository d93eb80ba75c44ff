namespace DeploymentLifecycle

/-! JSON values. An object is a list of fields; values that were read hold each key once, in the
order of the keys' code points. -/

namespace Json

/-- A number is kept as an integer when it is written as one and lies between `-2^63` and
`2^64 - 1`, and otherwise as the bits of a double-precision float. -/
inductive Number where
  | int (value : Int)
  | double (bits : UInt64)
deriving DecidableEq, Repr, Inhabited

/-- The least integer that is kept as one. -/
def Number.leastInt : Int := -9_223_372_036_854_775_808

end Json

inductive Json where
  | null
  | bool (value : Bool)
  | number (value : Json.Number)
  | string (value : String)
  | array (items : List Json)
  | object (fields : List (String × Json))
deriving Repr, Inhabited

namespace Json

/-- The fields of an object, or of a collection of cloud properties. -/
abbrev Fields := List (String × Json)

/-- Adds a field in the order of the keys; a value already there under the key is replaced. -/
def Fields.insert (fields : Fields) (key : String) (value : Json) : Fields :=
  match fields with
  | [] => [(key, value)]
  | (other, held) :: rest =>
    if key = other then (key, value) :: rest
    else if key < other then (key, value) :: (other, held) :: rest
    else (other, held) :: Fields.insert rest key value

/-- The fields in key order; of two under one key the later one stays. -/
def Fields.ofList (pairs : List (String × Json)) : Fields :=
  pairs.foldl (fun fields (key, value) => Fields.insert fields key value) []

def Fields.get? (fields : Fields) (key : String) : Option Json :=
  (fields.find? fun (held, _) => held == key).map Prod.snd

def natural (value : Nat) : Json := .number (.int value)

def asString? : Json → Option String
  | .string text => some text
  | _ => none

def asBool? : Json → Option Bool
  | .bool value => some value
  | _ => none

def asObject? : Json → Option Fields
  | .object fields => some fields
  | _ => none

/-- The text under the key, or null. -/
def ofOption (text : Option String) : Json :=
  match text with
  | some text => .string text
  | none => .null

end Json

end DeploymentLifecycle
