import CsrCensus.Text.Quoted
import CsrCensus.Text.Utf8

/-!
# Faults of a JSON document

What is wrong with a document, and where. A place is counted in bytes of UTF-8
and reported as a line and a column.
-/

namespace CsrCensus.Json

/-- A value found where another one was wanted. -/
inductive Found where
  | null
  | boolean (value : Bool)
  | natural (value : Nat)
  | negative (magnitude : Nat)
  | floating (shown : String)
  | text (value : String)
  | sequence
  | map
deriving DecidableEq, Repr

/-- The words for a value. -/
def Found.describe : Found → String
  | .null => "null"
  | .boolean value => "boolean `" ++ (if value then "true" else "false") ++ "`"
  | .natural value => "integer `" ++ Numeral.decimal.text value ++ "`"
  | .negative magnitude => "integer `-" ++ Numeral.decimal.text magnitude ++ "`"
  | .floating shown => "floating point `" ++ shown ++ "`"
  | .text value => "string " ++ Text.quoted value
  | .sequence => "sequence"
  | .map => "map"

/-- What is wrong with a document. -/
inductive Reason where
  | endInValue
  | endInObject
  | endInList
  | endInText
  | expectedValue
  | expectedLiteral
  | expectedColon
  | expectedCommaOrBrace
  | expectedCommaOrBracket
  | keyNotText
  | trailingComma
  | trailingCharacters
  | invalidNumber
  | numberOutOfRange
  | controlCharacter
  | invalidEscape
  | loneSurrogate
  | unfinishedSurrogatePair
  | duplicateField (name : String)
  | unknownVariant (found : String) (first second : String)
  | invalidType (found : Found) (wanted : String)
  | invalidValue (found : Found) (wanted : String)
deriving DecidableEq, Repr

/-- The wording of a reason. -/
def Reason.message : Reason → String
  | .endInValue => "EOF while parsing a value"
  | .endInObject => "EOF while parsing an object"
  | .endInList => "EOF while parsing a list"
  | .endInText => "EOF while parsing a string"
  | .expectedValue => "expected value"
  | .expectedLiteral => "expected ident"
  | .expectedColon => "expected `:`"
  | .expectedCommaOrBrace => "expected `,` or `\x7d`"
  | .expectedCommaOrBracket => "expected `,` or `]`"
  | .keyNotText => "key must be a string"
  | .trailingComma => "trailing comma"
  | .trailingCharacters => "trailing characters"
  | .invalidNumber => "invalid number"
  | .numberOutOfRange => "number out of range"
  | .controlCharacter =>
      "control character (\\u0000-\\u001F) found while parsing a string"
  | .invalidEscape => "invalid escape"
  | .loneSurrogate => "lone leading surrogate in hex escape"
  | .unfinishedSurrogatePair => "unexpected end of hex escape"
  | .duplicateField name => "duplicate field `" ++ name ++ "`"
  | .unknownVariant found first second =>
      "unknown variant `" ++ found ++ "`, expected `" ++ first ++ "` or `" ++
        second ++ "`"
  | .invalidType found wanted =>
      "invalid type: " ++ found.describe ++ ", expected " ++ wanted
  | .invalidValue found wanted =>
      "invalid value: " ++ found.describe ++ ", expected " ++ wanted

/-- A reason and the number of bytes before the place it is reported at. -/
structure Fault where
  reason : Reason
  place : Nat
deriving DecidableEq, Repr

/-- A line, counted from one, and a column in bytes. -/
structure Position where
  line : Nat
  column : Nat
deriving DecidableEq, Repr

/-- Moves a position over the first `count` bytes of a text. -/
def advancePosition (position : Position) (count : Nat) : List Char → Position
  | [] => ⟨position.line, position.column + count⟩
  | character :: rest =>
      if count < character.utf8Size then
        ⟨position.line, position.column + count⟩
      else if character = '\n' then
        advancePosition ⟨position.line + 1, 0⟩ (count - 1) rest
      else
        advancePosition ⟨position.line, position.column + character.utf8Size⟩
          (count - character.utf8Size) rest

def Fault.message (fault : Fault) (document : String) : String :=
  let position := advancePosition ⟨1, 0⟩ fault.place document.toList
  fault.reason.message ++ " at line " ++ Numeral.decimal.text position.line ++
    " column " ++
    Numeral.decimal.text position.column

end CsrCensus.Json
