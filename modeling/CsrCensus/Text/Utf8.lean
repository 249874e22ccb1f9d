import CsrCensus.Word.Order

/-!
# UTF-8

Texts as bytes. A sequence of bytes is a text if it is the shortest encoding of
code points that are characters.
-/

namespace CsrCensus.Text

/-- The low six bits of a byte that continues a character. -/
def continuation? (byte : UInt8) : Option Nat :=
  if 0x80 ≤ byte ∧ byte < 0xC0 then some (byte.toNat - 0x80) else none

/-- The character of a code point that needs an encoding as long as it has. -/
def character? (least point : Nat) : Option Char :=
  if least ≤ point ∧ point.isValidChar then some (Char.ofNat point) else none

/-- The character of a first byte and one more. -/
def character2? (first second : UInt8) : Option Char := do
  character? 0x80 ((first.toNat - 0xC0) * 0x40 + (← continuation? second))

/-- The character of a first byte and two more. -/
def character3? (first second third : UInt8) : Option Char := do
  character? 0x800
    (((first.toNat - 0xE0) * 0x40 + (← continuation? second)) * 0x40 +
      (← continuation? third))

/-- The character of a first byte and three more. -/
def character4? (first second third fourth : UInt8) : Option Char := do
  character? 0x10000
    ((((first.toNat - 0xF0) * 0x40 + (← continuation? second)) * 0x40 +
      (← continuation? third)) *
      0x40 + (← continuation? fourth))

/-- The character at the head of some bytes, and the bytes after it. -/
def decodeOne? : Bytes → Option (Char × Bytes)
  | [] => none
  | first :: rest =>
      if first < 0x80 then some (Char.ofNat first.toNat, rest)
      else if first < 0xC0 then none
      else if first < 0xE0 then
        match rest with
        | second :: rest => (character2? first second).map (·, rest)
        | _ => none
      else if first < 0xF0 then
        match rest with
        | second :: third :: rest =>
            (character3? first second third).map (·, rest)
        | _ => none
      else if first < 0xF8 then
        match rest with
        | second :: third :: fourth :: rest =>
            (character4? first second third fourth).map (·, rest)
        | _ => none
      else none

/-- Decodes bytes behind a text. The first argument bounds the number of
characters. -/
def decodeOnto : Nat → String → Bytes → Option String
  | _, built, [] => some built
  | 0, _, _ :: _ => none
  | bound + 1, built, first :: rest =>
      match decodeOne? (first :: rest) with
      | some (character, rest) => decodeOnto bound (built.push character) rest
      | none => none

/-- The text of some bytes, if they are one. -/
def ofUtf8? (bytes : Bytes) : Option String :=
  decodeOnto bytes.length "" bytes

def byteCount (characters : List Char) : Nat :=
  (characters.map Char.utf8Size).foldr (· + ·) 0

def toUtf8 (text : String) : Bytes :=
  text.toUTF8.data.toList

end CsrCensus.Text
