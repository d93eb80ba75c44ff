import DeploymentLifecycle.Json.Value
import DeploymentLifecycle.Text.Basic
import DeploymentLifecycle.Text.Utf8
import DeploymentLifecycle.Yaml.Token

namespace DeploymentLifecycle.Yaml

/-! What scalars stand for where any value may stand: null, booleans, integers and floats by their
spelling, or by their tag, and text otherwise. -/

def isNull (text : String) : Bool :=
  ["null", "Null", "NULL", "~"].contains text

def bool? (text : String) : Option Bool :=
  if ["true", "True", "TRUE"].contains text then some true
  else if ["false", "False", "FALSE"].contains text then some false
  else none

def radixDigit? (radix : Nat) (c : Char) : Option Nat :=
  let value :=
    if '0' ≤ c ∧ c ≤ '9' then c.toNat - '0'.toNat
    else if 'a' ≤ c ∧ c ≤ 'z' then c.toNat - 'a'.toNat + 10
    else if 'A' ≤ c ∧ c ≤ 'Z' then c.toNat - 'A'.toNat + 10
    else radix
  if value < radix then some value else none

/-- The number that one or more digits stand for, without any sign. -/
def radixNumber? (radix : Nat) (digits : List Char) : Option Nat :=
  if digits.isEmpty then none
  else digits.foldl (fun value c => do return (← value) * radix + (← radixDigit? radix c)) (some 0)

/-- Digits that start with a zero are text and no number, a lone zero excepted. -/
def isPaddedDigits (text : List Char) : Bool :=
  let digits := match text with
    | '-' :: rest => rest
    | '+' :: rest => rest
    | _ => text
  match digits with
  | '0' :: rest => !rest.isEmpty && rest.all Char.isDigit
  | _ => false

/-- The radix that a number's first characters name, and its digits. -/
def radixOf (text : List Char) : Nat × List Char :=
  match text with
  | '0' :: 'x' :: rest => (16, rest)
  | '0' :: 'o' :: rest => (8, rest)
  | '0' :: 'b' :: rest => (2, rest)
  | _ => (10, text)

/-- A number without a minus sign. -/
def natural? (text : List Char) : Option Nat :=
  let digits := match text with
    | '+' :: rest => rest
    | _ => text
  if isPaddedDigits text then none
  else
    let (radix, digits) := radixOf digits
    radixNumber? radix digits

/-- A number with a minus sign, as its distance from zero. -/
def negative? (text : List Char) : Option Nat :=
  match text with
  | '-' :: digits =>
    if isPaddedDigits digits then none
    else
      let (radix, digits) := radixOf digits
      radixNumber? radix digits
  | _ => none

/-- A decimal number `mantissa · 10^exponent` as the nearest double; `none` where that is infinite. -/
def nearestDouble? (mantissa : Nat) (exponent : Int) : Option Float :=
  if mantissa = 0 then some 0
  else
    let magnitude := ((Nat.repr mantissa).length : Int) + exponent
    if magnitude > 310 then none
    else if magnitude < -330 then some 0
    else
      let value := Float.ofScientific mantissa (decide (exponent < 0)) exponent.natAbs
      if value.isInf then none else some value

/-- An exponent after a number's digits. -/
def exponent? (text : List Char) : Option Int :=
  match text with
  | [] => some 0
  | c :: rest =>
    if c = 'e' ∨ c = 'E' then
      match rest with
      | '-' :: digits => (radixNumber? 10 digits).map fun value => -(value : Int)
      | '+' :: digits => (radixNumber? 10 digits).map Int.ofNat
      | digits => (radixNumber? 10 digits).map Int.ofNat
    else none

/-- A decimal number without a sign: digits on at least one side of the point, and possibly an
exponent. -/
def unsignedDouble? (text : List Char) : Option Float := do
  let whole := text.takeWhile Char.isDigit
  let rest := text.dropWhile Char.isDigit
  let (fraction, rest) := match rest with
    | '.' :: more => (more.takeWhile Char.isDigit, more.dropWhile Char.isDigit)
    | _ => ([], rest)
  let mantissa ← radixNumber? 10 (whole ++ fraction)
  nearestDouble? mantissa ((← exponent? rest) - (fraction.length : Int))

/-- The value of a scalar where any value may stand. Integers with a minus sign are kept apart, with
their distance from zero. A float is given by its bits, unless it is infinite or no number. -/
inductive ScalarValue where
  | null
  | bool (value : Bool)
  | natural (value : Nat)
  | negative (distance : Nat)
  | float (bits : Option UInt64)
  | text (content : String)
deriving DecidableEq, Repr

/-- The value in JSON, which has no other form than null for floats that are not finite. -/
def ScalarValue.toJson : ScalarValue → Json
  | .null => .null
  | .bool value => .bool value
  | .natural value => .number (.int value)
  | .negative distance => .number (.int (-(distance : Int)))
  | .float (some bits) => .number (.double bits)
  | .float none => .null
  | .text content => .string content

/-- The integers that 64 and 128 bits hold, and the greatest distances below zero. -/
def greatestWide : Nat := 340_282_366_920_938_463_463_374_607_431_768_211_455
def farthest : Nat := 9_223_372_036_854_775_808
def farthestWide : Nat := 170_141_183_460_469_231_731_687_303_715_884_105_728

/-- What an integer comes to. One that needs more than 64 but no more than 128 bits is refused, and
a longer one is not taken for an integer at all. -/
inductive IntegerReading where
  | value (number : ScalarValue)
  | refused
  | other

def integer (text : List Char) : IntegerReading :=
  match natural? text with
  | some value =>
    if value ≤ Text.maxUInt64 then .value (.natural value)
    else if value ≤ greatestWide then .refused
    else .other
  | none =>
    match negative? text with
    | some distance =>
      if distance ≤ farthest then .value (.negative distance)
      else if distance ≤ farthestWide then .refused
      else .other
    | none => .other

def float? (text : List Char) : Option ScalarValue :=
  let spelling := String.ofList text
  if [".inf", ".Inf", ".INF", "+.inf", "+.Inf", "+.INF", "-.inf", "-.Inf", "-.INF",
      ".nan", ".NaN", ".NAN"].contains spelling then some (.float none)
  else
    match text with
    | '+' :: rest => (unsignedDouble? rest).map fun value => .float (some value.toBits)
    | '-' :: rest => (unsignedDouble? rest).map fun value => .float (some (-value).toBits)
    | _ => (unsignedDouble? text).map fun value => .float (some value.toBits)

/-- The value of a plain scalar by its spelling alone. -/
def plainValue? (text : String) : Option ScalarValue :=
  let chars := text.toList
  if chars.isEmpty || isNull text then some .null
  else
    match bool? text with
    | some value => some (.bool value)
    | none =>
      match integer chars with
      | .value number => some number
      | .refused => none
      | .other =>
        if isPaddedDigits chars then some (.text text)
        else some ((float? chars).getD (.text text))

def spelledValue? (style : Style) (text : String) : Option ScalarValue :=
  if style = .plain then plainValue? text else some (.text text)

def coreTag (name : String) : Tag := Text.encode ("tag:yaml.org,2002:" ++ name)

/-- What the tag of an application starts with. -/
def localMark : UInt8 := 0x21

/-- The name of an application's own tag, as bytes. -/
def localName? (tag : Tag) : Option (List UInt8) :=
  match tag with
  | byte :: name => if byte = localMark then some name else none
  | [] => none

/-- A tag of the application's own, with a name that is text. -/
def isLocalTag (tag : Tag) : Bool :=
  ((localName? tag).bind Text.decode?).isSome

/-- The value of a scalar. A tag of a core type demands that type whatever the style, and any other
global tag makes the scalar text. A tag of the application's own is refused, or passed over where its
name is no text. -/
def scalarValue? (tag : Option Tag) (style : Style) (text : String) : Option ScalarValue :=
  match tag with
  | none => spelledValue? style text
  | some tag =>
    if isLocalTag tag then none
    else if tag = coreTag "bool" then (bool? text).map .bool
    else if tag = coreTag "int" then
      match integer text.toList with
      | .value number => some number
      | _ => none
    else if tag = coreTag "float" then float? text.toList
    else if tag = coreTag "null" then if isNull text then some .null else none
    else if (localName? tag).isSome then spelledValue? style text
    else some (.text text)

end DeploymentLifecycle.Yaml
