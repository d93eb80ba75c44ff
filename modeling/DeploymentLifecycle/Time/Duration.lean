namespace DeploymentLifecycle

/-! Lengths of time, and the readings of a clock, counted in nanoseconds. They have no bound. A clock
has a last reading, and a program is aborted that adds a time to a reading and comes past it; this is
left out. -/

structure Duration where
  nanos : Nat
deriving DecidableEq, Repr, Inhabited

namespace Duration

def zero : Duration := ⟨0⟩
def ofMillis (count : Nat) : Duration := ⟨count * 1_000_000⟩
def ofSeconds (count : Nat) : Duration := ⟨count * 1_000_000_000⟩

/-- Whole seconds, the fraction dropped. -/
def seconds (d : Duration) : Nat := d.nanos / 1_000_000_000

/-- What the whole seconds leave over. -/
def subsecondNanos (d : Duration) : Nat := d.nanos % 1_000_000_000

/-- Whole milliseconds, the fraction dropped. -/
def millis (d : Duration) : Nat := d.nanos / 1_000_000

def isZero (d : Duration) : Bool := d.nanos == 0

instance : Add Duration := ⟨fun a b => ⟨a.nanos + b.nanos⟩⟩

/-- The difference, or zero when the second duration is the longer one. -/
instance : Sub Duration := ⟨fun a b => ⟨a.nanos - b.nanos⟩⟩

instance : LT Duration := ⟨fun a b => a.nanos < b.nanos⟩
instance : LE Duration := ⟨fun a b => a.nanos ≤ b.nanos⟩

instance (a b : Duration) : Decidable (a < b) := inferInstanceAs (Decidable (a.nanos < b.nanos))
instance (a b : Duration) : Decidable (a ≤ b) := inferInstanceAs (Decidable (a.nanos ≤ b.nanos))

/-- The digits of a fraction with `places` decimal places, without trailing zeros. -/
def fractionDigits (places fraction : Nat) : List Char :=
  let digits := (Nat.repr fraction).toList
  let padded := List.replicate (places - digits.length) '0' ++ digits
  (padded.reverse.dropWhile (· == '0')).reverse

/-- The largest of `s`, `ms`, `µs` and `ns` whose count is at least one, with the shortest exact
decimal fraction: `1.5ms`, `60s`, and `0ns` for no time at all. -/
def short (d : Duration) : String :=
  let (scale, places, unit) :=
    if d.nanos ≥ 1_000_000_000 then (1_000_000_000, 9, "s")
    else if d.nanos ≥ 1_000_000 then (1_000_000, 6, "ms")
    else if d.nanos ≥ 1_000 then (1_000, 3, "µs")
    else (1, 0, "ns")
  let fraction := d.nanos % scale
  let tail := if fraction = 0 then "" else "." ++ String.ofList (fractionDigits places fraction)
  toString (d.nanos / scale) ++ tail ++ unit

end Duration

end DeploymentLifecycle
