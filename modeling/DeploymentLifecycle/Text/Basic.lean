namespace DeploymentLifecycle.Text

/-! White space as the `White_Space` property of Unicode defines it, its removal from both ends of a
text, and unsigned decimal numbers. -/

/-- The code points with the property `White_Space`, as inclusive ranges. -/
def blankRanges : List (Nat × Nat) :=
  [(0x09, 0x0D), (0x20, 0x20), (0x85, 0x85), (0xA0, 0xA0), (0x1680, 0x1680), (0x2000, 0x200A),
    (0x2028, 0x2029), (0x202F, 0x202F), (0x205F, 0x205F), (0x3000, 0x3000)]

def isBlank (c : Char) : Bool :=
  blankRanges.any fun (first, last) => first ≤ c.toNat && c.toNat ≤ last

/-- What remains of a text between its first and its last character that is not blank. -/
def trim (text : List Char) : List Char :=
  ((text.dropWhile isBlank).reverse.dropWhile isBlank).reverse

def isBlankText (text : String) : Bool :=
  text.toList.all isBlank

def digitValue? (c : Char) : Option Nat :=
  if '0' ≤ c ∧ c ≤ '9' then some (c.toNat - '0'.toNat) else none

/-- The number a text of decimal digits stands for, whatever its length; `none` if another
character occurs. The text may be empty. -/
def digitsValue? (digits : List Char) : Option Nat :=
  digits.foldl (fun value c => do return (← value) * 10 + (← digitValue? c)) (some 0)

/-- Reads one or more decimal digits, after at most one plus sign, as a number not above `limit`.
Leading zeros are allowed. -/
def natural? (limit : Nat) (text : List Char) : Option Nat :=
  let digits := match text with
    | '+' :: rest => rest
    | _ => text
  if digits.isEmpty then none
  else (digitsValue? digits).filter (· ≤ limit)

def maxUInt16 : Nat := 65_535
def maxUInt32 : Nat := 4_294_967_295
def maxUInt64 : Nat := 18_446_744_073_709_551_615

end DeploymentLifecycle.Text
