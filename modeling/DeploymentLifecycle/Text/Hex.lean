namespace DeploymentLifecycle.Text

/-! Bytes as text: in hexadecimal digits, two for each byte; as an identifier of sixteen of them; and in
base 64, padded with equals signs. -/

def hexValue? (c : Char) : Option Nat :=
  if '0' ≤ c ∧ c ≤ '9' then some (c.toNat - '0'.toNat)
  else if 'a' ≤ c ∧ c ≤ 'f' then some (c.toNat - 'a'.toNat + 10)
  else if 'A' ≤ c ∧ c ≤ 'F' then some (c.toNat - 'A'.toNat + 10)
  else none

/-- The bytes that pairs of digits stand for, up to the first pair that is none. -/
def ofHex : List Char → List UInt8
  | high :: low :: rest =>
    match hexValue? high, hexValue? low with
    | some high, some low => (high * 16 + low).toUInt8 :: ofHex rest
    | _, _ => []
  | _ => []

/-- Two digits for each byte. -/
def toHex (bytes : List UInt8) : List Char :=
  bytes.flatMap fun byte => [Nat.digitChar (byte.toNat / 16), Nat.digitChar (byte.toNat % 16)]

/-- The bytes with the version and the variant put into the seventh and the ninth of them. -/
def versioned (bytes : List UInt8) : List UInt8 :=
  bytes.zipIdx.map fun (byte, index) =>
    if index = 6 then byte &&& 0x0f ||| 0x40
    else if index = 8 then byte &&& 0x3f ||| 0x80
    else byte

/-- The text of an identifier: groups of 4, 2, 2, 2 and 6 bytes in hexadecimal. -/
def uuid (bytes : List UInt8) : String :=
  let digits := toHex (versioned bytes)
  "-".intercalate <| [(0, 8), (8, 4), (12, 4), (16, 4), (20, 12)].map fun (start, count) =>
    String.ofList ((digits.drop start).take count)

def base64Alphabet : List Char :=
  "ABCDEFGHIJKLMNOPQRSTUVWXYZabcdefghijklmnopqrstuvwxyz0123456789+/".toList

def base64Digit (value : Nat) : Char :=
  base64Alphabet.getD value '='

def base64Chars : List UInt8 → List Char
  | [] => []
  | [a] =>
    let bits := a.toNat * 0x10
    [base64Digit (bits / 64), base64Digit (bits % 64), '=', '=']
  | [a, b] =>
    let bits := (a.toNat * 0x100 + b.toNat) * 4
    [base64Digit (bits / 4096), base64Digit (bits / 64 % 64), base64Digit (bits % 64), '=']
  | a :: b :: c :: rest =>
    let bits := a.toNat * 0x10000 + b.toNat * 0x100 + c.toNat
    base64Digit (bits / 262144) :: base64Digit (bits / 4096 % 64) :: base64Digit (bits / 64 % 64)
      :: base64Digit (bits % 64) :: base64Chars rest

def base64 (bytes : List UInt8) : String :=
  String.ofList (base64Chars bytes)

end DeploymentLifecycle.Text
