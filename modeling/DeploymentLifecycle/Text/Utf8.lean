namespace DeploymentLifecycle.Text

/-! Bytes as text in UTF-8. -/

/-- The width of the encoding that a byte starts, and the bits of the byte that belong to the code
point. -/
def leadByte? (byte : UInt8) : Option (Nat × Nat) :=
  let value := byte.toNat
  if value < 0x80 then some (1, value)
  else if 0xC2 ≤ value ∧ value ≤ 0xDF then some (2, value - 0xC0)
  else if 0xE0 ≤ value ∧ value ≤ 0xEF then some (3, value - 0xE0)
  else if 0xF0 ≤ value ∧ value ≤ 0xF4 then some (4, value - 0xF0)
  else none

/-- Whether `byte` can be the second one of an encoding that starts with `lead`. This leaves out
overlong forms, surrogates and what lies above the last code point. -/
def isSecondByte (lead byte : UInt8) : Bool :=
  let low := if lead == 0xE0 then 0xA0 else if lead == 0xF0 then 0x90 else 0x80
  let high := if lead == 0xED then 0x9F else if lead == 0xF4 then 0x8F else 0xBF
  low ≤ byte.toNat && byte.toNat ≤ high

def isContinuation (byte : UInt8) : Bool :=
  0x80 ≤ byte.toNat && byte.toNat ≤ 0xBF

/-- How many of the first bytes are those of one encoding, as far as it goes on correctly, and its
character if it is complete. -/
def firstChar (bytes : List UInt8) : Nat × Option Char :=
  match bytes with
  | [] => (0, none)
  | lead :: rest =>
    match leadByte? lead with
    | none => (1, none)
    | some (width, bits) =>
      if width = 1 then (1, some (Char.ofNat bits))
      else
        let more := match rest with
          | second :: others =>
            if isSecondByte lead second then
              second :: (others.take (width - 2)).takeWhile isContinuation
            else []
          | [] => []
        if more.length + 1 = width then
          (width, some (Char.ofNat (more.foldl (fun value b => value * 64 + (b.toNat - 0x80)) bits)))
        else (more.length + 1, none)

/-- The characters of a text in UTF-8. Each longest run of bytes that starts an encoding without
completing it, and each byte that starts none, is a `none`. -/
def symbolsFrom : Nat → List UInt8 → List (Option Char)
  | 0, _ => []
  | _, [] => []
  | fuel + 1, bytes =>
    let (count, c) := firstChar bytes
    c :: symbolsFrom fuel (bytes.drop count)

def symbols (bytes : List UInt8) : List (Option Char) :=
  symbolsFrom bytes.length bytes

/-- The text that bytes are in UTF-8. -/
def decode? (bytes : List UInt8) : Option String :=
  ((symbols bytes).mapM id).map String.ofList

/-- The text of bytes; what is no character becomes the replacement character. -/
def decodeLossy (bytes : List UInt8) : String :=
  String.ofList ((symbols bytes).map fun c => c.getD '\uFFFD')

def encode (text : String) : List UInt8 :=
  text.toUTF8.toList

end DeploymentLifecycle.Text
