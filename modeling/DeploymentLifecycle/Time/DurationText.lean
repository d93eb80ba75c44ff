import DeploymentLifecycle.Text.Basic
import DeploymentLifecycle.Time.Duration

namespace DeploymentLifecycle.DurationText

/-! Durations as people write them: `1h 30m`, `250ms`, `1.5s`. A text is a lone `0`, or one or more
items, each a number and a unit. Blanks may stand anywhere, even between the digits of a number. -/

inductive TimeUnit where
  | nanosecond | microsecond | millisecond | second | minute | hour | day | week | month | year
deriving DecidableEq, Repr

/-- The accepted names of the units. Case matters: `m` is a minute and `M` a month. -/
def TimeUnit.ofName? (name : String) : Option TimeUnit :=
  if name ∈ ["nanos", "nsec", "ns"] then some .nanosecond
  else if name ∈ ["usec", "us", "µs"] then some .microsecond
  else if name ∈ ["millis", "msec", "ms"] then some .millisecond
  else if name ∈ ["seconds", "second", "secs", "sec", "s"] then some .second
  else if name ∈ ["minutes", "minute", "min", "mins", "m"] then some .minute
  else if name ∈ ["hours", "hour", "hr", "hrs", "h"] then some .hour
  else if name ∈ ["days", "day", "d"] then some .day
  else if name ∈ ["weeks", "week", "wk", "wks", "w"] then some .week
  else if name ∈ ["months", "month", "M"] then some .month
  else if name ∈ ["years", "year", "yr", "yrs", "y"] then some .year
  else none

/-- A count of whole seconds and a count of nanoseconds, each of which fits a 64-bit word. -/
structure Amount where
  seconds : Nat
  nanos : Nat

/-- What one unit is worth: a factor, and whether the product counts seconds. -/
def TimeUnit.worth : TimeUnit → Nat × Bool
  | .nanosecond => (1, false)
  | .microsecond => (1_000, false)
  | .millisecond => (1_000_000, false)
  | .second => (1, true)
  | .minute => (60, true)
  | .hour => (3_600, true)
  | .day => (86_400, true)
  | .week => (604_800, true)
  | .month => (2_630_016, true)
  | .year => (31_557_600, true)

/-- What a fraction of the unit is counted in. Fractions of a second and of a minute are counted in
nanoseconds, those of longer units in seconds; a nanosecond has none. -/
def TimeUnit.fractionWorth? : TimeUnit → Option (Nat × Bool)
  | .nanosecond => none
  | .second => some (1_000_000_000, false)
  | .minute => some (60_000_000_000, false)
  | other => some other.worth

/-- A value that a 64-bit word holds. -/
def word? (value : Nat) : Option Nat :=
  if value ≤ Text.maxUInt64 then some value else none

def Amount.add? (amount : Amount) (count : Nat) (inSeconds : Bool) : Option Amount := do
  if inSeconds then
    return { amount with seconds := ← word? (amount.seconds + count) }
  else
    let nanos ← word? (amount.nanos + count)
    let seconds ← word? (amount.seconds + nanos / 1_000_000_000)
    return ⟨seconds, nanos % 1_000_000_000⟩

/-- The digits after a decimal point, as numerator and denominator. -/
structure Fraction where
  numerator : Nat
  denominator : Nat

def Fraction.push? (fraction : Fraction) (digit : Nat) : Option Fraction := do
  return ⟨← word? (fraction.numerator * 10 + digit), ← word? (fraction.denominator * 10)⟩

/-- Adds `whole` units, and the fraction of one if there is any. The fraction has to come to a whole
number of what it is counted in. -/
def Amount.addItem? (amount : Amount) (whole : Nat) (fraction : Option Fraction) (unit : TimeUnit) :
    Option Amount := do
  let (factor, inSeconds) := unit.worth
  let amount ← amount.add? (← word? (whole * factor)) inSeconds
  match fraction with
  | none => return amount
  | some fraction =>
    let (factor, inSeconds) ← unit.fractionWorth?
    let product ← word? (fraction.numerator * factor)
    if product % fraction.denominator = 0 then
      amount.add? (product / fraction.denominator) inSeconds
    else none

def isUnitLetter (c : Char) : Bool :=
  ('a' ≤ c && c ≤ 'z') || ('A' ≤ c && c ≤ 'Z') || c == 'µ'

/-- What the reader is in the middle of. -/
inductive Position where
  | item
  | whole (value : Nat)
  | fraction (whole : Nat) (digits : Fraction)
  | unit (whole : Nat) (fraction : Option Fraction) (name : List Char)

/-- Reads the rest of a text from a position, with the amount that earlier items came to. -/
def readFrom? : Position → Amount → List Char → Option Amount
  | .item, amount, [] => some amount
  | .whole _, _, [] => none
  | .fraction .., _, [] => none
  | .unit whole fraction name, amount, [] => do
    amount.addItem? whole fraction (← TimeUnit.ofName? (String.ofList name.reverse))
  | .item, amount, c :: rest =>
    match Text.digitValue? c with
    | some digit => readFrom? (.whole digit) amount rest
    | none => if Text.isBlank c then readFrom? .item amount rest else none
  | .whole value, amount, c :: rest =>
    match Text.digitValue? c with
    | some digit => do readFrom? (.whole (← word? (value * 10 + digit))) amount rest
    | none =>
      if Text.isBlank c then readFrom? (.whole value) amount rest
      else if isUnitLetter c then readFrom? (.unit value none [c]) amount rest
      else if c == '.' then readFrom? (.fraction value ⟨0, 1⟩) amount rest
      else none
  | .fraction whole digits, amount, c :: rest =>
    match Text.digitValue? c with
    | some digit => do readFrom? (.fraction whole (← digits.push? digit)) amount rest
    | none =>
      if Text.isBlank c then readFrom? (.fraction whole digits) amount rest
      else if isUnitLetter c && digits.denominator != 1 then
        readFrom? (.unit whole (some digits) [c]) amount rest
      else none
  | .unit whole fraction name, amount, c :: rest =>
    match Text.digitValue? c with
    | some digit => do
      let unit ← TimeUnit.ofName? (String.ofList name.reverse)
      readFrom? (.whole digit) (← amount.addItem? whole fraction unit) rest
    | none =>
      if Text.isBlank c then do
        let unit ← TimeUnit.ofName? (String.ofList name.reverse)
        readFrom? .item (← amount.addItem? whole fraction unit) rest
      else if isUnitLetter c then readFrom? (.unit whole fraction (c :: name)) amount rest
      else none

/-- Reads a duration; `none` for a text that is none or whose amounts overflow 64 bits. -/
def read? (text : String) : Option Duration :=
  if text = "0" then some .zero
  else if text.toList.all Text.isBlank then none
  else (readFrom? .item ⟨0, 0⟩ text.toList).map fun amount =>
    ⟨amount.seconds * 1_000_000_000 + amount.nanos⟩

/-- One printed part; nothing when the count is zero. -/
def part (count : Nat) (name : String) (plural : Bool) : List String :=
  if count = 0 then [] else [toString count ++ name ++ if plural && count > 1 then "s" else ""]

/-- The parts that `print` joins, longest unit first. -/
def parts (d : Duration) : List String :=
  let years := d.seconds / 31_557_600
  let inYear := d.seconds % 31_557_600
  let months := inYear / 2_630_016
  let inMonth := inYear % 2_630_016
  let inDay := inMonth % 86_400
  let nanos := d.subsecondNanos
  part years "year" true ++ part months "month" true ++ part (inMonth / 86_400) "day" true
    ++ part (inDay / 3_600) "h" false ++ part (inDay % 3_600 / 60) "m" false
    ++ part (inDay % 60) "s" false ++ part (nanos / 1_000_000) "ms" false
    ++ part (nanos / 1_000 % 1_000) "us" false ++ part (nanos % 1_000) "ns" false

/-- The duration as the sum of its non-zero parts, `0s` when there are none. -/
def print (d : Duration) : String :=
  if d.isZero then "0s" else " ".intercalate (parts d)

end DeploymentLifecycle.DurationText
