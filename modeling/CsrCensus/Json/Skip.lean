import CsrCensus.Json.Number
import CsrCensus.Json.Text

/-!
# Skipping a value

A value that is not wanted is checked for its form and skipped. The brackets
that are open are kept in a list, so that values may be nested to any depth.
-/

namespace CsrCensus.Json

/-- A bracket that is open. -/
inductive Bracket where
  | list
  | object
deriving DecidableEq, Repr

def Bracket.closer : Bracket → Char
  | .list => ']'
  | .object => '\x7d'

/-- The end of the document inside a bracket. -/
def Bracket.endReason : Bracket → Reason
  | .list => .endInList
  | .object => .endInObject

/-- Neither a comma nor the closing character after an element. -/
def Bracket.separatorReason : Bracket → Reason
  | .list => .expectedCommaOrBracket
  | .object => .expectedCommaOrBrace

/-- Skips a value that is no list and no object. -/
def skipScalar (first : Char) : Reader Unit := do
  if first = 'n' then readLiteral "null".toList
  else if first = 't' then readLiteral "true".toList
  else if first = 'f' then readLiteral "false".toList
  else if first = '-' ∨ isDigit first then skipNumber
  else if first = '"' then
    skipChar
    skipText
  else failNext .expectedValue

def readColon : Reader Unit := do
  match ← peekToken with
  | none => failNext .endInObject
  | some found => if found = ':' then skipChar else failNext .expectedColon

/-- Skips what comes before the value of an element: in an object, its key and
the colon. -/
def skipLabel : Bracket → Reader Unit
  | .list => return
  | .object => do
      match ← peekToken with
      | none => failNext .endInObject
      | some found =>
          if found = '"' then
            skipChar
            skipText
            readColon
          else failNext .keyNotText

/-- What has to come next while values are skipped. -/
inductive Phase where
  /-- A value. -/
  | value
  /-- The first element of the innermost bracket, or its end. -/
  | opened
  /-- Whatever follows a value. -/
  | ended
deriving DecidableEq, Repr

/-- Skips the rest of a value with the given brackets open. The first argument
bounds the number of steps. -/
def skipSteps : Nat → Phase → List Bracket → Reader Unit
  | 0, _, _ => failNext .endInValue
  | bound + 1, .value, enclosing => do
      match ← peekToken with
      | none => failNext .endInValue
      | some first =>
          if first = '[' then
            skipChar
            skipSteps bound .opened (.list :: enclosing)
          else if first = '\x7b' then
            skipChar
            skipSteps bound .opened (.object :: enclosing)
          else
            skipScalar first
            skipSteps bound .ended enclosing
  | _ + 1, _, [] => return
  | bound + 1, .opened, bracket :: outer => do
      match ← peekToken with
      | none => failNext bracket.endReason
      | some next =>
          if next = bracket.closer then
            skipChar
            skipSteps bound .ended outer
          else
            skipLabel bracket
            skipSteps bound .value (bracket :: outer)
  | bound + 1, .ended, bracket :: outer => do
      match ← peekToken with
      | none => failNext bracket.endReason
      | some next =>
          if next = bracket.closer then
            skipChar
            skipSteps bound .ended outer
          else if next = ',' then
            skipChar
            skipLabel bracket
            skipSteps bound .value (bracket :: outer)
          else failNext bracket.separatorReason

def skipValue : Reader Unit := do
  skipSteps (2 * (← remaining) + 2) .value []

end CsrCensus.Json
