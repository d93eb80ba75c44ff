import DeploymentLifecycle.Json.Printer
import DeploymentLifecycle.Json.Reader

namespace DeploymentLifecycle.Json

/-! Strings that are read as they were written. -/

variable {c : Char} {piece : Piece}

/-- The character is met as the piece, wherever it stands in a string. -/
structure MetAs (c : Char) (piece : Piece) : Prop where
  read : ∀ rest, readPieces? ((escaped c).map some ++ rest) =
    (readPieces? rest).map fun (pieces, rest) => (piece :: pieces, rest)
  means : ∀ pieces, piecesText? (piece :: pieces) = (piecesText? pieces).map (c :: ·)

theorem readPieces?_letter {letter : Char} (value : escapeValue? letter = some c)
    (named : letter ≠ 'u') (rest : List Symbol) :
    readPieces? (some '\\' :: some letter :: rest) =
      (readPieces? rest).map fun (pieces, rest) => (.char c :: pieces, rest) := by
  rw [readPieces?]
  · simp only [value, Option.bind_eq_bind, Option.bind_some]
    cases readPieces? rest <;> rfl
  · simp [named]

theorem metAs_letter {letter : Char} (written : escaped c = ['\\', letter])
    (value : escapeValue? letter = some c) (named : letter ≠ 'u') : MetAs c (.char c) where
  read rest := by simpa [written] using readPieces?_letter value named rest
  means _ := rfl

theorem metAs_itself (written : escaped c = [c]) (quote : c ≠ '"') (backslash : c ≠ '\\')
    (visible : 0x20 ≤ c.toNat) : MetAs c (.char c) where
  read rest := by
    rw [written, List.map_singleton, List.singleton_append, readPieces?]
    · simp only [backslash, Nat.not_lt.2 visible, or_self, if_false, Option.bind_eq_bind]
      cases readPieces? rest <;> rfl
    all_goals simp [quote, backslash]
  means _ := rfl

theorem hexValue?_hexDigit : ∀ value < 16, Text.hexValue? (hexDigit value) = some value := by
  decide

theorem metAs_number (control : c.toNat < 0x20)
    (written : escaped c =
      ['\\', 'u', '0', '0', hexDigit (c.toNat / 16), hexDigit (c.toNat % 16)]) :
    MetAs c (.unit c.toNat) where
  read rest := by
    have zero : Text.hexValue? '0' = some 0 := rfl
    have high := hexValue?_hexDigit (c.toNat / 16) (by omega)
    have low := hexValue?_hexDigit (c.toNat % 16) (by omega)
    have whole : c.toNat / 16 * 0x10 + c.toNat % 16 = c.toNat := by omega
    rw [written]
    simp only [List.map_cons, List.map_nil, List.cons_append, List.nil_append, readPieces?, zero,
      high, low, Option.bind_eq_bind, Option.bind_some, Nat.zero_mul, Nat.zero_add, whole]
    cases readPieces? rest <;> rfl
  means pieces := by
    have alone : c.toNat < 0xD800 ∨ 0xDFFF < c.toNat := by omega
    rw [piecesText?.eq_def]
    simp [alone]

theorem exists_metAs (c : Char) : ∃ piece, MetAs c piece := by
  fun_cases escaped c
  -- A control character without a letter of its own is written as a number.
  case case8 control => exact ⟨_, metAs_number control (by simp [escaped, *])⟩
  case case9 quote backslash _ _ _ _ _ visible =>
    have written : escaped c = [c] := by simp [escaped, *]
    exact ⟨_, metAs_itself written quote backslash (Nat.not_lt.1 visible)⟩
  all_goals
    subst c
    exact ⟨_, metAs_letter rfl rfl (by decide)⟩

theorem readPieces?_escaped (chars : List Char) (rest : List Symbol) :
    ∃ pieces, piecesText? pieces = some chars ∧
      readPieces? ((chars.flatMap escaped).map some ++ some '"' :: rest) = some (pieces, rest) := by
  induction chars with
  | nil => exact ⟨[], rfl, by simp [readPieces?]⟩
  | cons c chars ih =>
      obtain ⟨piece, met⟩ := exists_metAs c
      obtain ⟨pieces, text, read⟩ := ih
      refine ⟨piece :: pieces, by simp [met.means, text], ?_⟩
      rw [List.flatMap_cons, List.map_append, List.append_assoc, met.read, read]
      rfl

theorem quoted_symbols (text : String) (rest : List Symbol) : (quoted text).map some ++ rest =
    some '"' :: ((text.toList.flatMap escaped).map some ++ some '"' :: rest) := by
  simp [quoted]

theorem readString?_escaped (text : String) (rest : List Symbol) :
    readString? ((text.toList.flatMap escaped).map some ++ some '"' :: rest) =
      some (some text, rest) := by
  obtain ⟨pieces, means, read⟩ := readPieces?_escaped text.toList rest
  simp [readString?, read, means]

end DeploymentLifecycle.Json
