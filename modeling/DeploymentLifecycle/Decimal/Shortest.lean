namespace DeploymentLifecycle.Decimal

/-! The shortest decimal that reads back as a given double. The double is taken apart into `m · 2^q`;
all reals nearer to it than to its neighbours form an interval, and the first decimal grid with a
point inside gives the digits. -/

/-- A finite positive number `mantissa · 2^exponent`. `lowerNear` holds where the next smaller double
is only half as far away as the next larger one. -/
structure Binary where
  mantissa : Nat
  exponent : Int
  lowerNear : Bool

/-- How many fractions, and how many exponents, the bits of a double tell apart. -/
def fractions : Nat := 4_503_599_627_370_496
def exponents : Nat := 2048

/-- The parts of a finite double; `none` for infinities and for what is not a number. -/
def Binary.ofBits? (bits : UInt64) : Option Binary :=
  let fraction : Nat := bits.toNat % fractions
  let biased : Nat := bits.toNat / fractions % exponents
  if biased + 1 = exponents then none
  else if biased = 0 then some ⟨fraction, -1074, false⟩
  else some ⟨fractions + fraction, (biased : Int) - 1075, fraction = 0 && biased > 1⟩

def isNegative (bits : UInt64) : Bool :=
  bits.toNat ≥ fractions * exponents

/-- `digits · 10^exponent`. -/
structure Digits where
  digits : Nat
  exponent : Int

/-- Four times the number and the ends of its interval, over one denominator, so that all are
integers. -/
structure Scaled where
  low : Nat
  value : Nat
  high : Nat
  denominator : Nat

def Binary.scaled (b : Binary) : Scaled :=
  let up := Nat.pow 2 b.exponent.toNat
  let down := Nat.pow 2 (-b.exponent).toNat
  let low := if b.lowerNear then 4 * b.mantissa - 1 else 4 * b.mantissa - 2
  ⟨low * up, 4 * b.mantissa * up, (4 * b.mantissa + 2) * up, 4 * down⟩

/-- The least count of digits before the point of a number: the `n` with
`10^(n-1) ≤ value / denominator < 10^n`, which is zero or negative below one. -/
def Scaled.magnitude (s : Scaled) : Int :=
  if s.value ≥ s.denominator then ((Nat.repr (s.value / s.denominator)).length : Int)
  else
    let zeros := (Nat.repr (s.denominator / s.value)).length
    if s.value * Nat.pow 10 zeros ≥ s.denominator * 10 then 2 - (zeros : Int)
    else 1 - (zeros : Int)

/-- The point of the grid of multiples of `10^exponent` that lies in the interval and is nearest to
the number; of two equally near ones the even one. The ends belong to the interval only if `closed`
holds. -/
def Scaled.onGrid? (s : Scaled) (closed : Bool) (exponent : Int) : Option Digits :=
  let up := Nat.pow 10 exponent.toNat
  let down := Nat.pow 10 (-exponent).toNat
  let unit := s.denominator * up
  let value := s.value * down
  let inside (n : Nat) : Bool :=
    let point := n * unit
    if closed then s.low * down ≤ point && point ≤ s.high * down
    else s.low * down < point && point < s.high * down
  let below := value / unit
  let above := below + 1
  let toBelow := value - below * unit
  let toAbove := above * unit - value
  let belowFirst := if toBelow = toAbove then below % 2 = 0 else toBelow < toAbove
  let first := if belowFirst then below else above
  let second := if belowFirst then above else below
  if inside first then some ⟨first, exponent⟩
  else if inside second then some ⟨second, exponent⟩
  else none

/-- The shortest digits of a positive number. Seventeen always suffice. -/
def Binary.shortest (b : Binary) : Digits :=
  let s := b.scaled
  let top := s.magnitude
  let closed := b.mantissa % 2 = 0
  ((List.range 17).findSome? fun (fewer : Nat) => s.onGrid? closed (top - 1 - (fewer : Int))).getD
    ⟨s.value / s.denominator, 0⟩

/-- A plain number between `10^-5` and `10^16` is written out, any other with one digit before the
point and an exponent, which always has a sign. -/
def Digits.text (d : Digits) : List Char :=
  let all := (Nat.repr d.digits).toList
  let kept := (all.reverse.dropWhile (· == '0')).reverse
  let exponent := d.exponent + ((all.length - kept.length : Nat) : Int)
  let point := (kept.length : Int) + exponent
  if 0 ≤ exponent ∧ point ≤ 16 then
    kept ++ List.replicate exponent.toNat '0' ++ ['.', '0']
  else if 0 < point ∧ point ≤ 16 then
    kept.take point.toNat ++ '.' :: kept.drop point.toNat
  else if -5 < point ∧ point ≤ 0 then
    '0' :: '.' :: List.replicate (-point).toNat '0' ++ kept
  else
    let sign := if point < 1 then '-' else '+'
    let written := 'e' :: sign :: (Nat.repr (point - 1).natAbs).toList
    match kept with
    | [single] => single :: written
    | first :: rest => first :: '.' :: rest ++ written
    | [] => []

/-- The text of a double; `none` where it is not finite. -/
def text? (bits : UInt64) : Option (List Char) := do
  let b ← Binary.ofBits? bits
  let sign := if isNegative bits then ['-'] else []
  return sign ++ if b.mantissa = 0 then ['0', '.', '0'] else b.shortest.text

end DeploymentLifecycle.Decimal
