import DeploymentLifecycle.Json.Number
import DeploymentLifecycle.Json.Tree
import DeploymentLifecycle.Text.Hex

namespace DeploymentLifecycle.Json

/-! Reading JSON text into trees. Nothing is forgiven: no comments, no trailing commas, no leading
zeros, no control characters in strings, nothing but blanks after the value. -/

def isBlank (symbol : Symbol) : Bool :=
  symbol == some ' ' || symbol == some '\n' || symbol == some '\t' || symbol == some '\r'

def skipBlanks (input : List Symbol) : List Symbol :=
  input.dropWhile isBlank

/-- One element of a string as written: a character, a UTF-16 unit given by its number, or a byte
that is part of no character. -/
inductive Piece where
  | char (c : Char)
  | unit (code : Nat)
  | broken

/-- Pairs of surrogates are one character; a surrogate alone is none. -/
def piecesText? : List Piece → Option (List Char)
  | [] => some []
  | .char c :: rest => (piecesText? rest).map (c :: ·)
  | .unit high :: rest =>
    if high < 0xD800 ∨ 0xDFFF < high then (piecesText? rest).map (Char.ofNat high :: ·)
    else match rest with
      | .unit low :: rest =>
        if high < 0xDC00 ∧ 0xDC00 ≤ low ∧ low ≤ 0xDFFF then
          (piecesText? rest).map
            (Char.ofNat (0x10000 + (high - 0xD800) * 0x400 + (low - 0xDC00)) :: ·)
        else none
      | _ => none
  | .broken :: _ => none

/-- The character that a backslash and `c` stand for. -/
def escapeValue? (c : Char) : Option Char :=
  match c with
  | '"' => some '"'
  | '\\' => some '\\'
  | '/' => some '/'
  | 'b' => some '\x08'
  | 'f' => some '\x0c'
  | 'n' => some '\n'
  | 'r' => some '\r'
  | 't' => some '\t'
  | _ => none

/-- The rest of a string after its opening quote. -/
def readPieces? : List Symbol → Option (List Piece × List Symbol)
  | [] => none
  | some '"' :: rest => some ([], rest)
  | some '\\' :: some 'u' :: some a :: some b :: some c :: some d :: rest => do
    let code := (← Text.hexValue? a) * 0x1000 + (← Text.hexValue? b) * 0x100 + (← Text.hexValue? c) * 0x10
      + (← Text.hexValue? d)
    let (pieces, rest) ← readPieces? rest
    return (.unit code :: pieces, rest)
  | some '\\' :: some c :: rest => do
    let value ← escapeValue? c
    let (pieces, rest) ← readPieces? rest
    return (.char value :: pieces, rest)
  | some c :: rest =>
    if c = '\\' ∨ c.toNat < 0x20 then none
    else do
      let (pieces, rest) ← readPieces? rest
      return (.char c :: pieces, rest)
  | none :: rest => do
    let (pieces, rest) ← readPieces? rest
    return (.broken :: pieces, rest)

/-- A string after its opening quote, `none` inside for one that is no text. -/
def readString? (input : List Symbol) : Option (Option String × List Symbol) := do
  let (pieces, rest) ← readPieces? input
  return ((piecesText? pieces).map String.ofList, rest)

/-- The decimal digits that the input starts with. -/
def readDigits : List Symbol → List Nat × List Symbol
  | some c :: rest =>
    match Text.digitValue? c with
    | some digit =>
      let (digits, rest) := readDigits rest
      (digit :: digits, rest)
    | none => ([], some c :: rest)
  | input => ([], input)

/-- Digits of which there is at least one. -/
def readSomeDigits? (input : List Symbol) : Option (List Nat × List Symbol) :=
  match readDigits input with
  | ([], _) => none
  | found => some found

def readFraction? : List Symbol → Option (Option (List Nat) × List Symbol)
  | some '.' :: rest => do
    let (digits, rest) ← readSomeDigits? rest
    return (some digits, rest)
  | input => some (none, input)

/-- The sign of an exponent, whether it is below zero. -/
def readSign : List Symbol → Bool × List Symbol
  | some '-' :: rest => (true, rest)
  | some '+' :: rest => (false, rest)
  | input => (false, input)

def readExponent? (input : List Symbol) : Option (Option (Bool × List Nat) × List Symbol) :=
  match input with
  | some c :: rest =>
    if c = 'e' ∨ c = 'E' then do
      let (below, rest) := readSign rest
      let (digits, rest) ← readSomeDigits? rest
      return (some (below, digits), rest)
    else some (none, input)
  | _ => some (none, input)

/-- A number after its sign. -/
def readNumeral? (negative : Bool) (input : List Symbol) : Option (Numeral × List Symbol) := do
  let (whole, rest) ← readSomeDigits? input
  if whole.head? = some 0 ∧ whole.length ≠ 1 then none
  else
    let (fraction, rest) ← readFraction? rest
    let (exponent, rest) ← readExponent? rest
    return (⟨negative, whole, fraction, exponent⟩, rest)

mutual

/-- Reads one value. The fuel bounds the number of values and separators still to come. -/
def readValue? : Nat → List Symbol → Option (Tree × List Symbol)
  | 0, _ => none
  | fuel + 1, input =>
    match skipBlanks input with
    | some 'n' :: some 'u' :: some 'l' :: some 'l' :: rest => some (.null, rest)
    | some 't' :: some 'r' :: some 'u' :: some 'e' :: rest => some (.bool true, rest)
    | some 'f' :: some 'a' :: some 'l' :: some 's' :: some 'e' :: rest => some (.bool false, rest)
    | some '"' :: rest => do
      let (text, rest) ← readString? rest
      return (.string text, rest)
    | some '[' :: rest =>
      match skipBlanks rest with
      | some ']' :: rest => some (.array [], rest)
      | rest => do
        let (first, rest) ← readValue? fuel rest
        let (items, rest) ← readItems? fuel rest
        return (.array (first :: items), rest)
    | some '{' :: rest =>
      match skipBlanks rest with
      | some '}' :: rest => some (.object [], rest)
      | rest => do
        let (first, rest) ← readField? fuel rest
        let (fields, rest) ← readFields? fuel rest
        return (.object (first :: fields), rest)
    | some '-' :: rest => do
      let (numeral, rest) ← readNumeral? true rest
      return (.number numeral.value?, rest)
    | rest => do
      let (numeral, rest) ← readNumeral? false rest
      return (.number numeral.value?, rest)

/-- The items after the first one, up to the closing bracket. -/
def readItems? : Nat → List Symbol → Option (List Tree × List Symbol)
  | 0, _ => none
  | fuel + 1, input =>
    match skipBlanks input with
    | some ']' :: rest => some ([], rest)
    | some ',' :: rest => do
      let (item, rest) ← readValue? fuel rest
      let (items, rest) ← readItems? fuel rest
      return (item :: items, rest)
    | _ => none

/-- A key, a colon and a value. -/
def readField? : Nat → List Symbol → Option ((Option String × Tree) × List Symbol)
  | 0, _ => none
  | fuel + 1, input =>
    match skipBlanks input with
    | some '"' :: rest => do
      let (key, rest) ← readString? rest
      match skipBlanks rest with
      | some ':' :: rest => do
        let (value, rest) ← readValue? fuel rest
        return ((key, value), rest)
      | _ => none
    | _ => none

/-- The fields after the first one, up to the closing brace. -/
def readFields? : Nat → List Symbol → Option (List (Option String × Tree) × List Symbol)
  | 0, _ => none
  | fuel + 1, input =>
    match skipBlanks input with
    | some '}' :: rest => some ([], rest)
    | some ',' :: rest => do
      let (field, rest) ← readField? fuel rest
      let (fields, rest) ← readFields? fuel rest
      return (field :: fields, rest)
    | _ => none

end

namespace Tree

/-- Reads a whole text. Every symbol is the start of at most two nested readings. -/
def ofSymbols? (input : List Symbol) : Option Tree :=
  match readValue? (2 * input.length + 2) input with
  | some (tree, rest) => if (skipBlanks rest).isEmpty then some tree else none
  | none => none

def ofText? (text : String) : Option Tree :=
  ofSymbols? (Symbol.ofText text)

end Tree

/-- Reads a text as a value with the nesting limit that holds for every text. -/
def ofText? (text : String) : Option Json := do
  (← Tree.ofText? text).toJson? nestingLimit

end DeploymentLifecycle.Json
