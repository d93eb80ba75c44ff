import DeploymentLifecycle.Text.Utf8

namespace DeploymentLifecycle.Text

/-! Reading bytes as UTF-8 gives back the text that they were written for. -/

theorem toList_loop (bytes : ByteArray) (index : Nat) (read : List UInt8) :
    ByteArray.toList.loop bytes index read = read.reverse ++ bytes.data.toList.drop index := by
  fun_induction ByteArray.toList.loop bytes index read with
  | case1 index read inside ih =>
      have below : index < bytes.data.toList.length := by simpa using inside
      rw [ih, List.drop_eq_getElem_cons below]
      simp [ByteArray.get!, inside]
  | case2 index read outside =>
      have ends : bytes.data.toList.length ≤ index := by simpa using outside
      simp [List.drop_eq_nil_of_le ends]

theorem toByteArray_eq (text : String) :
    text.toByteArray = (text.toList.flatMap String.utf8EncodeChar).toByteArray :=
  String.utf8Encode_toList.symm

theorem encode_eq (text : String) : encode text = text.toList.flatMap String.utf8EncodeChar := by
  rw [encode, String.toUTF8_eq_toByteArray, toByteArray_eq, ByteArray.toList, toList_loop]
  simp

theorem utf8ByteSize_eq_length {text : String} (narrow : ∀ c ∈ text.toList, c.utf8Size = 1) :
    text.utf8ByteSize = text.length := by
  have widths : ∀ c ∈ text.toList, (String.utf8EncodeChar c).length = 1 := fun c member => by
    rw [String.length_utf8EncodeChar, narrow c member]
  rw [← String.size_toByteArray, toByteArray_eq, List.size_toByteArray, List.length_flatMap,
    List.map_congr_left widths, List.map_const', List.sum_replicate_nat, Nat.mul_one,
    String.length_toList]

section FirstChar

variable {lead second : UInt8} {others rest : List UInt8} {code value bits : Nat}

theorem toNat_ofNat (small : value < 256) : (UInt8.ofNat value).toNat = value := by
  rw [UInt8.toNat_ofNat', Nat.mod_eq_of_lt small]

theorem toNat_tail : (UInt8.ofNat (value % 64 + 128)).toNat = value % 64 + 128 :=
  toNat_ofNat (by omega)

theorem isContinuation_tail : isContinuation (UInt8.ofNat (value % 64 + 128)) = true := by
  simp only [isContinuation, toNat_tail, Bool.and_eq_true, decide_eq_true_eq]
  omega

theorem isSecondByte_iff : isSecondByte lead second = true ↔
    (if lead.toNat = 0xE0 then 0xA0 else if lead.toNat = 0xF0 then 0x90 else 0x80) ≤ second.toNat ∧
      second.toNat ≤
        if lead.toNat = 0xED then 0x9F else if lead.toNat = 0xF4 then 0x8F else 0xBF := by
  simp [isSecondByte, ← UInt8.toNat_inj]

/-- An encoding of several bytes is taken as a whole, whatever follows it. -/
theorem firstChar_of_lead (others rest : List UInt8)
    (begins : leadByte? lead = some (others.length + 2, bits))
    (follows : isSecondByte lead second = true) (continues : ∀ byte ∈ others, isContinuation byte) :
    firstChar (lead :: second :: (others ++ rest)) = (others.length + 2, some (Char.ofNat
      ((second :: others).foldl (fun value byte => value * 64 + (byte.toNat - 0x80)) bits))) := by
  have taken : others.takeWhile isContinuation = others := by
    rw [← List.append_nil others, List.takeWhile_append_of_pos continues, List.takeWhile_nil]
  simp [firstChar, begins, follows, taken]

theorem firstChar_one (rest : List UInt8) (small : code < 0x80) :
    firstChar (UInt8.ofNat code :: rest) = (1, some (Char.ofNat code)) := by
  have byte : (UInt8.ofNat code).toNat = code := toNat_ofNat (by omega)
  have begins : leadByte? (UInt8.ofNat code) = some (1, code) := by
    simp only [leadByte?, byte, small, if_true]
  simp [firstChar, begins]

theorem firstChar_two (rest : List UInt8) (large : 0x80 ≤ code) (small : code < 0x800) :
    firstChar (UInt8.ofNat (code / 64 % 32 + 192) :: UInt8.ofNat (code % 64 + 128) :: rest) =
      (2, some (Char.ofNat code)) := by
  have byte : (UInt8.ofNat (code / 64 % 32 + 192)).toNat = code / 64 % 32 + 192 :=
    toNat_ofNat (by omega)
  have begins : leadByte? (UInt8.ofNat (code / 64 % 32 + 192)) = some (2, code / 64) := by
    grind [leadByte?]
  have follows : isSecondByte (UInt8.ofNat (code / 64 % 32 + 192))
      (UInt8.ofNat (code % 64 + 128)) = true := by
    rw [isSecondByte_iff, byte, toNat_tail]
    constructor <;> (repeat' split) <;> omega
  have sum : code / 64 * 64 + (code % 64 + 128 - 0x80) = code := by omega
  have whole := firstChar_of_lead [] rest begins follows nofun
  simpa only [List.nil_append, List.length_nil, List.foldl_cons, List.foldl_nil, toNat_tail, sum]
    using whole

theorem firstChar_three (rest : List UInt8) (large : 0x800 ≤ code) (small : code < 0x10000)
    (scalar : code < 0xD800 ∨ 0xDFFF < code) :
    firstChar (UInt8.ofNat (code / 4096 % 16 + 224) :: UInt8.ofNat (code / 64 % 64 + 128) ::
      UInt8.ofNat (code % 64 + 128) :: rest) = (3, some (Char.ofNat code)) := by
  have byte : (UInt8.ofNat (code / 4096 % 16 + 224)).toNat = code / 4096 % 16 + 224 :=
    toNat_ofNat (by omega)
  have begins : leadByte? (UInt8.ofNat (code / 4096 % 16 + 224)) = some (3, code / 4096) := by
    grind [leadByte?]
  have follows : isSecondByte (UInt8.ofNat (code / 4096 % 16 + 224))
      (UInt8.ofNat (code / 64 % 64 + 128)) = true := by
    rw [isSecondByte_iff, byte, toNat_tail]
    constructor <;> (repeat' split) <;> omega
  have continues : ∀ byte ∈ [UInt8.ofNat (code % 64 + 128)], isContinuation byte = true :=
    List.forall_mem_singleton.2 isContinuation_tail
  have sum : (code / 4096 * 64 + (code / 64 % 64 + 128 - 0x80)) * 64 + (code % 64 + 128 - 0x80) =
      code := by omega
  have whole := firstChar_of_lead _ rest begins follows continues
  simpa only [List.cons_append, List.nil_append, List.length_cons, List.length_nil,
    List.foldl_cons, List.foldl_nil, toNat_tail, sum] using whole

theorem firstChar_four (rest : List UInt8) (large : 0x10000 ≤ code) (small : code < 0x110000) :
    firstChar (UInt8.ofNat (code / 262144 % 8 + 240) :: UInt8.ofNat (code / 4096 % 64 + 128) ::
      UInt8.ofNat (code / 64 % 64 + 128) :: UInt8.ofNat (code % 64 + 128) :: rest) =
      (4, some (Char.ofNat code)) := by
  have byte : (UInt8.ofNat (code / 262144 % 8 + 240)).toNat = code / 262144 % 8 + 240 :=
    toNat_ofNat (by omega)
  have begins : leadByte? (UInt8.ofNat (code / 262144 % 8 + 240)) = some (4, code / 262144) := by
    grind [leadByte?]
  have follows : isSecondByte (UInt8.ofNat (code / 262144 % 8 + 240))
      (UInt8.ofNat (code / 4096 % 64 + 128)) = true := by
    rw [isSecondByte_iff, byte, toNat_tail]
    constructor <;> (repeat' split) <;> omega
  have continues : ∀ byte ∈ [UInt8.ofNat (code / 64 % 64 + 128), UInt8.ofNat (code % 64 + 128)],
      isContinuation byte = true :=
    List.forall_mem_cons.2 ⟨isContinuation_tail, List.forall_mem_singleton.2 isContinuation_tail⟩
  have sum : ((code / 262144 * 64 + (code / 4096 % 64 + 128 - 0x80)) * 64 +
      (code / 64 % 64 + 128 - 0x80)) * 64 + (code % 64 + 128 - 0x80) = code := by omega
  have whole := firstChar_of_lead _ rest begins follows continues
  simpa only [List.cons_append, List.nil_append, List.length_cons, List.length_nil,
    List.foldl_cons, List.foldl_nil, toNat_tail, sum] using whole

theorem firstChar_encode (c : Char) (rest : List UInt8) :
    firstChar (String.utf8EncodeChar c ++ rest) =
      ((String.utf8EncodeChar c).length, some c) := by
  have valid : c.val.toNat < 0xD800 ∨ 0xDFFF < c.val.toNat ∧ c.val.toNat < 0x110000 := c.valid
  have whole : Char.ofNat c.val.toNat = c := Char.ofNat_toNat c
  simp only [String.utf8EncodeChar]
  -- The cases are the lengths of an encoding; what three bytes could stand for besides, surrogates,
  -- are no characters.
  split
  · exact (firstChar_one rest (by omega)).trans (by rw [whole]; rfl)
  · split
    · exact (firstChar_two rest (by omega) (by omega)).trans (by rw [whole]; rfl)
    · split
      · have scalar : c.val.toNat < 0xD800 ∨ 0xDFFF < c.val.toNat := by omega
        exact (firstChar_three rest (by omega) (by omega) scalar).trans (by rw [whole]; rfl)
      · exact (firstChar_four rest (by omega) (by omega)).trans (by rw [whole]; rfl)

end FirstChar

theorem symbolsFrom_encode (chars : List Char) (fuel : Nat)
    (enough : (chars.flatMap String.utf8EncodeChar).length ≤ fuel) :
    symbolsFrom fuel (chars.flatMap String.utf8EncodeChar) = chars.map some := by
  induction chars generalizing fuel with
  | nil => cases fuel <;> rfl
  | cons c rest ih =>
      have first := firstChar_encode c (rest.flatMap String.utf8EncodeChar)
      rw [List.flatMap_cons] at enough ⊢
      cases encoded : String.utf8EncodeChar c with
      | nil => exact absurd encoded String.utf8EncodeChar_ne_nil
      | cons lead others =>
          rw [encoded] at enough first
          cases fuel with
          | zero => simp at enough
          | succ fuel =>
              have left : (rest.flatMap String.utf8EncodeChar).length ≤ fuel := by
                simp only [List.cons_append, List.length_cons, List.length_append] at enough
                omega
              rw [List.cons_append] at first ⊢
              simp [symbolsFrom, first, ih fuel left]

theorem decode?_encode (text : String) : decode? (encode text) = some text := by
  have read : symbols (encode text) = text.toList.map some := by
    rw [symbols, encode_eq]
    exact symbolsFrom_encode _ _ Nat.le.refl
  have whole : ∀ chars : List Char, (chars.map some).mapM id = some chars := by
    intro chars
    induction chars with
    | nil => rfl
    | cons c rest ih => simp [ih]
  rw [decode?, read, whole, Option.map_some, String.ofList_toList]

end DeploymentLifecycle.Text
