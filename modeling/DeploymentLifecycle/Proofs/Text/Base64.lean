import DeploymentLifecycle.Text.Hex

namespace DeploymentLifecycle.Text

/-! What a text in base 64 stands for, and that this is what was written. -/

/-- The six bits that a character of the alphabet stands for. -/
def sextet? (c : Char) : Option Nat :=
  if c.isUpper then some (c.toNat - 'A'.toNat)
  else if c.isLower then some (c.toNat - 'a'.toNat + 26)
  else if c.isDigit then some (c.toNat - '0'.toNat + 52)
  else if c = '+' then some 62
  else if c = '/' then some 63
  else none

/-- The bytes of a text in base 64. Four characters are three bytes; the last four may be padded with
one or two equals signs, and the bits that no byte is made of are then zero. -/
def base64Bytes? : List Char → Option (List UInt8)
  | [] => some []
  | a :: b :: c :: d :: rest => do
    let bits := (← sextet? a) * 64 + (← sextet? b)
    if c = '=' ∧ d = '=' ∧ rest = [] then
      if bits % 16 = 0 then some [UInt8.ofNat (bits / 16)] else none
    else
      let bits := bits * 64 + (← sextet? c)
      if d = '=' ∧ rest = [] then
        if bits % 4 = 0 then some [UInt8.ofNat (bits / 1024), UInt8.ofNat (bits / 4)] else none
      else
        let bits := bits * 64 + (← sextet? d)
        return UInt8.ofNat (bits / 65536) :: UInt8.ofNat (bits / 256) :: UInt8.ofNat bits
          :: (← base64Bytes? rest)
  | _ => none

theorem sextet?_base64Digit : ∀ value < 64, sextet? (base64Digit value) = some value := by
  decide +kernel

theorem sextet?_low (value : Nat) : sextet? (base64Digit (value % 64)) = some (value % 64) :=
  sextet?_base64Digit _ (Nat.mod_lt value (by decide))

theorem base64Digit_low_ne_pad (value : Nat) : base64Digit (value % 64) ≠ '=' := by
  intro pad
  have read := sextet?_low value
  rw [pad] at read
  cases read

theorem ofNat_of_eq {value : Nat} {byte : UInt8} (same : value % 256 = byte.toNat) :
    UInt8.ofNat value = byte := by
  rw [← UInt8.toNat_inj, UInt8.toNat_ofNat']
  exact same

theorem base64Bytes?_base64Chars (bytes : List UInt8) :
    base64Bytes? (base64Chars bytes) = some bytes := by
  fun_induction base64Chars bytes with
  | case1 => rfl
  | case2 a bits =>
      have bound := a.toNat_lt
      have first := sextet?_base64Digit (bits / 64) (by omega)
      have joined : bits / 64 * 64 + bits % 64 = bits := by omega
      have padding : bits % 16 = 0 := by omega
      have byte : UInt8.ofNat (bits / 16) = a := ofNat_of_eq (by omega)
      simp [base64Bytes?, first, sextet?_low, joined, padding, byte]
  | case3 a b bits =>
      have bound := a.toNat_lt
      have bound' := b.toNat_lt
      have first := sextet?_base64Digit (bits / 4096) (by omega)
      have joined : (bits / 4096 * 64 + bits / 64 % 64) * 64 + bits % 64 = bits := by omega
      have padding : bits % 4 = 0 := by omega
      have byte : UInt8.ofNat (bits / 1024) = a := ofNat_of_eq (by omega)
      have byte' : UInt8.ofNat (bits / 4) = b := ofNat_of_eq (by omega)
      simp [base64Bytes?, first, sextet?_low, base64Digit_low_ne_pad, joined, padding, byte, byte']
  | case4 a b c rest bits ih =>
      have bound := a.toNat_lt
      have bound' := b.toNat_lt
      have bound'' := c.toNat_lt
      have first := sextet?_base64Digit (bits / 262144) (by omega)
      have joined : ((bits / 262144 * 64 + bits / 4096 % 64) * 64 + bits / 64 % 64) * 64 +
          bits % 64 = bits := by
        omega
      have byte : UInt8.ofNat (bits / 65536) = a := ofNat_of_eq (by omega)
      have byte' : UInt8.ofNat (bits / 256) = b := ofNat_of_eq (by omega)
      have byte'' : UInt8.ofNat bits = c := ofNat_of_eq (by omega)
      simp [base64Bytes?, first, sextet?_low, base64Digit_low_ne_pad, joined, byte, byte', byte'',
        ih, -UInt8.ofNat_add]

/-- Bytes are what their text in base 64 stands for. -/
theorem base64Bytes?_base64 (bytes : List UInt8) :
    base64Bytes? (base64 bytes).toList = some bytes := by
  rw [base64, String.toList_ofList, base64Bytes?_base64Chars]

end DeploymentLifecycle.Text
