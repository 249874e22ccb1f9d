import CsrCensus.Json.Reader

/-!
# JSON strings

The characters of a string up to its closing quote, escapes resolved. In values
that are skipped the escapes are checked for their form only.
-/

namespace CsrCensus.Json

def hexUnit? : List Char → Option Nat
  | [first, second, third, fourth] => do
      let first ← Numeral.digitValue? 16 first
      let second ← Numeral.digitValue? 16 second
      let third ← Numeral.digitValue? 16 third
      let fourth ← Numeral.digitValue? 16 fourth
      return ((first * 16 + second) * 16 + third) * 16 + fourth
  | _ => none

/-- Reads the four digits of an escaped code unit. A fault is reported after
four bytes, or at the end of a document that has fewer. -/
def readUnit : Reader Nat := fun cursor =>
  let available := Text.byteCount cursor.rest
  if available < 4 then .error ⟨.endInText, cursor.consumed + available⟩
  else
    match hexUnit? (cursor.rest.take 4) with
    | some unit => .ok (unit, ⟨cursor.consumed + 4, cursor.rest.drop 4⟩)
    | none => .error ⟨.invalidEscape, cursor.consumed + 4⟩

/-- The character that a letter after a backslash stands for. -/
def simpleEscape? (letter : Char) : Option Char :=
  if letter = '"' ∨ letter = '\\' ∨ letter = '/' then some letter
  else if letter = 'b' then some '\x08'
  else if letter = 'f' then some '\x0c'
  else if letter = 'n' then some '\n'
  else if letter = 'r' then some '\r'
  else if letter = 't' then some '\t'
  else none

/-- Reads one character that must follow in a surrogate pair. -/
def readPairChar (wanted : Char) : Reader Unit := do
  match ← peek with
  | none => failHere .endInText
  | some found =>
      if found = wanted then skipChar else failNext .unfinishedSurrogatePair

/-- The character of an escaped code unit, which may need a second one. -/
def readUnicode : Reader Char := do
  let unit ← readUnit
  if 0xDC00 ≤ unit ∧ unit ≤ 0xDFFF then failHere .loneSurrogate
  else if 0xD800 ≤ unit ∧ unit ≤ 0xDBFF then do
    readPairChar '\\'
    readPairChar 'u'
    let low ← readUnit
    if 0xDC00 ≤ low ∧ low ≤ 0xDFFF then
      return Char.ofNat (0x10000 + (unit - 0xD800) * 0x400 + (low - 0xDC00))
    else failHere .loneSurrogate
  else return Char.ofNat unit

/-- Reads what follows a backslash. -/
def readEscape : Reader Char := do
  match ← peek with
  | none => failHere .endInText
  | some letter =>
      if letter = 'u' then
        skipChar
        readUnicode
      else
        match simpleEscape? letter with
        | some character =>
            skipChar
            return character
        | none => failNext .invalidEscape

/-- Reads the characters of a string up to its closing quote. The first argument
bounds their number. -/
def readChars : Nat → String → Reader String
  | 0, _ => failHere .endInText
  | bound + 1, built => do
      match ← peek with
      | none => failHere .endInText
      | some character =>
          if character = '"' then
            skipChar
            return built
          else if character = '\\' then
            skipChar
            readChars bound (built.push (← readEscape))
          else if character < ' ' then failNext .controlCharacter
          else
            skipChar
            readChars bound (built.push character)

/-- Reads a string after its opening quote. -/
def readText : Reader String := do
  readChars ((← remaining) + 1) ""

/-- Skips what follows a backslash. -/
def skipEscape : Reader Unit := do
  match ← peek with
  | none => failHere .endInText
  | some letter =>
      if letter = 'u' then
        skipChar
        let _ ← readUnit
      else
        match simpleEscape? letter with
        | some _ => skipChar
        | none => failNext .invalidEscape

/-- Skips the characters of a string up to its closing quote. The first argument
bounds their number. -/
def skipChars : Nat → Reader Unit
  | 0 => failHere .endInText
  | bound + 1 => do
      match ← peek with
      | none => failHere .endInText
      | some character =>
          if character = '"' then skipChar
          else if character = '\\' then
            skipChar
            skipEscape
            skipChars bound
          else if character < ' ' then failHere .controlCharacter
          else
            skipChar
            skipChars bound

/-- Skips a string after its opening quote. -/
def skipText : Reader Unit := do
  skipChars ((← remaining) + 1)

end CsrCensus.Json
