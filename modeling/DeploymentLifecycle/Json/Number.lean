import DeploymentLifecycle.Json.Value
import DeploymentLifecycle.Text.Basic

namespace DeploymentLifecycle.Json

/-! The value of a number from its written parts. -/

/-- A number as written: the digits before the point, those after it, and the exponent. -/
structure Numeral where
  negative : Bool
  whole : List Nat
  fraction : Option (List Nat)
  exponent : Option (Bool × List Nat)

/-- Digits gathered into a 64-bit word. Once a digit would not fit, it and all later ones are left
out; `dropped` counts them. -/
structure Significand where
  value : Nat
  taken : Nat
  dropped : Nat

def Significand.push (s : Significand) (digit : Nat) : Significand :=
  let next := s.value * 10 + digit
  if s.dropped = 0 ∧ next ≤ Text.maxUInt64 then ⟨next, s.taken + 1, 0⟩
  else { s with dropped := s.dropped + 1 }

def Significand.gather (start : Nat) (digits : List Nat) : Significand :=
  digits.foldl Significand.push ⟨start, 0, 0⟩

/-- `significand · 10^exponent` as a double, in steps that each round once: exponents below -308 are
reached by dividing by `10^308` first. `none` when the result is too large. -/
def scale? (significand : UInt64) (exponent : Int) : Option Float :=
  let power (n : Nat) : Float := Float.ofScientific 1 false n
  let start := significand.toFloat
  if exponent > 308 then if significand = 0 then some start else none
  else if exponent ≥ 0 then
    let value := start * power exponent.toNat
    if value.isInf then none else some value
  else
    let rec shrink : Nat → Float → Nat → Float
      | 0, value, _ => value
      | rounds + 1, value, places =>
        if places ≤ 308 then value / power places
        else if value == 0 then value
        else shrink rounds (value / power 308) (places - 308)
    some (shrink 4 start (-exponent).toNat)

def signed (negative : Bool) (value : Float) : Number :=
  .double (if negative then -value else value).toBits

/-- The greatest exponent that is counted exactly; beyond it only its sign matters. -/
def exponentLimit : Nat := 2_147_483_647

def digitsNumber (digits : List Nat) : Nat :=
  digits.foldl (fun value digit => value * 10 + digit) 0

/-- Integers that fit are kept as such, except minus zero; everything else is a double. `none` for a
number that is too large for a double. -/
def Numeral.value? (n : Numeral) : Option Number :=
  let whole := Significand.gather 0 n.whole
  let parts := match n.fraction with
    | some digits =>
      if whole.dropped > 0 then
        let more := Significand.gather whole.value digits
        (more.value, (whole.dropped : Int) - (more.taken : Int))
      else
        let more := Significand.gather whole.value digits
        (more.value, -(more.taken : Int))
    | none => (whole.value, (whole.dropped : Int))
  let (significand, start) := parts
  match n.fraction, n.exponent with
  | none, none =>
    if whole.dropped = 0 ∧ n.negative = false then some (.int significand)
    else if whole.dropped = 0 ∧ significand ≠ 0 ∧ -(significand : Int) ≥ Number.leastInt then
      some (.int (-(significand : Int)))
    else (scale? significand.toUInt64 start).map (signed n.negative)
  | _, none => (scale? significand.toUInt64 start).map (signed n.negative)
  | _, some (below, digits) =>
    let written := digitsNumber digits
    if written > exponentLimit then
      if significand ≠ 0 ∧ below = false then none else some (signed n.negative 0)
    else
      let exponent := if below then start - (written : Int) else start + (written : Int)
      (scale? significand.toUInt64 exponent).map (signed n.negative)

end DeploymentLifecycle.Json
