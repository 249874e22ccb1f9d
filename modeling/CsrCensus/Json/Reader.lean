import CsrCensus.Json.Fault

/-!
# Reading a document

A reader consumes characters from the front of a document, and counts the bytes
consumed. A fault is reported at the place reached, or one byte further on if it
lies in the next character.
-/

namespace CsrCensus.Json

/-- What is left of a document, and the number of bytes consumed before it. -/
structure Cursor where
  consumed : Nat
  rest : List Char
deriving DecidableEq, Repr

/-- A computation that reads a document. -/
abbrev Reader := StateT Cursor (Except Fault)

def Cursor.start (document : String) : Cursor := ⟨0, document.toList⟩

/-- The next character, which is not consumed. -/
def peek : Reader (Option Char) := fun cursor => .ok (cursor.rest.head?, cursor)

/-- Consumes one character. -/
def skipChar : Reader Unit := fun cursor =>
  match cursor.rest with
  | [] => .ok ((), cursor)
  | character :: rest => .ok ((), ⟨cursor.consumed + character.utf8Size, rest⟩)

/-- Consumes the characters of a class. -/
def skipWhile (isWanted : Char → Bool) : Reader Unit := fun cursor =>
  .ok ((),
    ⟨cursor.consumed + Text.byteCount (cursor.rest.takeWhile isWanted),
      cursor.rest.dropWhile isWanted⟩)

/-- Fails at the place reached. -/
def failHere {result : Type} (reason : Reason) : Reader result := fun cursor =>
  .error ⟨reason, cursor.consumed⟩

/-- Fails at the next character, if there is one. -/
def failNext {result : Type} (reason : Reason) : Reader result := fun cursor =>
  .error ⟨reason, cursor.consumed + min cursor.rest.length 1⟩

/-- Number of characters left. -/
def remaining : Reader Nat := fun cursor => .ok (cursor.rest.length, cursor)

/-- Whether a character may stand between tokens. -/
def isSpace (character : Char) : Bool :=
  character = ' ' || character = '\n' || character = '\t' || character = '\r'

/-- Consumes white space and gives the next character. -/
def peekToken : Reader (Option Char) := do
  skipWhile isSpace
  peek

def readLiteral : List Char → Reader Unit
  | [] => return
  | wanted :: rest => do
      match ← peek with
      | none => failHere .endInValue
      | some found =>
          if found = wanted then
            skipChar
            readLiteral rest
          else failNext .expectedLiteral

def isDigit (character : Char) : Bool := '0' ≤ character && character ≤ '9'

end CsrCensus.Json
