import CsrCensus.Json.Reader
import CsrCensus.Text.Floating

/-!
# JSON numbers

An integer that fits in 64 bits is kept as it is; every other number is a
floating-point number. Of the digits of such a number only the leading ones that
fit in 64 bits count, scaled by a power of ten.
-/

namespace CsrCensus.Json

/-- A number of a document. -/
inductive Number where
  | natural (value : Nat)
  /-- A negative integer, with its magnitude. -/
  | negative (magnitude : Nat)
  | floating (value : Float)

def Number.found : Number → Found
  | .natural value => .natural value
  | .negative magnitude => .negative magnitude
  | .floating value => .floating (Floating.text value)

/-- The largest power of ten among the floating-point numbers has this
exponent. -/
def largestPower : Nat := 308

def powerOfTen (exponent : Nat) : Float := Float.ofScientific 1 false exponent

/-- Leading digits times a power of ten; absent if that is out of range. -/
def scale? (digits : Nat) (exponent : Int) : Option Float :=
  let value := digits.toUInt64.toFloat
  let power := exponent.natAbs
  if 0 ≤ exponent then
    if power ≤ largestPower then
      let product := value * powerOfTen power
      if product.isInf then none else some product
    else if digits = 0 then some value
    else none
  else if power ≤ largestPower then some (value / powerOfTen power)
  else if power ≤ 2 * largestPower then
    some (value / powerOfTen largestPower / powerOfTen (power - largestPower))
  else some 0

/-- Reads a scaled number, or fails after what was read. -/
def scaled (negative : Bool) (digits : Nat) (exponent : Int) : Reader Number :=
  match scale? digits exponent with
  | some value => return .floating (if negative then -value else value)
  | none => failHere .numberOutOfRange

/-- Digits read so far: the value of the ones that count, and how many did not
fit. -/
structure Digits where
  value : Nat
  dropped : Nat
deriving DecidableEq, Repr

/-- Takes one more digit; once a digit does not fit, no later one counts. -/
def Digits.push (digits : Digits) (digit : Char) : Digits :=
  let value := digits.value * 10 + (digit.toNat - 48)
  if digits.dropped = 0 ∧ value < UInt64.size then ⟨value, 0⟩
  else ⟨digits.value, digits.dropped + 1⟩

/-- Reads the digits that come next. -/
def takeDigits : Reader (List Char) := fun cursor =>
  let digits := cursor.rest.takeWhile isDigit
  .ok (digits, ⟨cursor.consumed + digits.length, cursor.rest.dropWhile isDigit⟩)

/-- The end of the text where a digit must follow is a fault of its own. -/
def failDigit {result : Type} : Reader result := do
  match ← peek with
  | none => failHere .endInValue
  | some _ => failNext .invalidNumber

def largestExponent : Nat := 0x7FFFFFFF

/-- Reads the digits of an exponent onto a value, and gives the digits not read
once the value is too large to be counted. -/
def countExponent (value : Nat) : List Char → Nat × List Char
  | [] => (value, [])
  | digit :: rest =>
      let next := value * 10 + (digit.toNat - 48)
      if next ≤ largestExponent then countExponent next rest else (next, rest)

/-- Reads an exponent after its letter, and the number it belongs to. -/
def readExponent (negative : Bool) (digits : Nat) (exponent : Int) :
    Reader Number := do
  let sign ← peek
  if sign = some '+' ∨ sign = some '-' then skipChar
  let start ← get
  let read ← takeDigits
  if read.isEmpty then failDigit
  let (value, rest) := countExponent 0 read
  if value ≤ largestExponent then
    scaled negative digits
      (if sign = some '-' then exponent - value else exponent + value)
  else if digits ≠ 0 ∧ sign ≠ some '-' then
    throw ⟨.numberOutOfRange, start.consumed + (read.length - rest.length)⟩
  else return .floating (if negative then -0.0 else 0.0)

def isExponentMark (next : Option Char) : Bool :=
  next = some 'e' || next = some 'E'

/-- Reads the digits after the point, and what follows them. -/
def readFraction (negative : Bool) (whole : Digits) : Reader Number := do
  let read ← takeDigits
  if read.isEmpty then failDigit
  let digits := read.foldl Digits.push ⟨whole.value, 0⟩
  let exponent : Int := whole.dropped - (read.length - digits.dropped)
  if isExponentMark (← peek) then
    skipChar
    readExponent negative digits.value exponent
  else scaled negative digits.value exponent

/-- Reads the digits before the point; a leading zero stands alone. -/
def readWhole : Reader Digits := do
  if (← peek) = some '0' then
    skipChar
    if (← peek).any isDigit then failNext .invalidNumber
    return ⟨0, 0⟩
  let read ← takeDigits
  if read.isEmpty then failDigit
  return read.foldl Digits.push ⟨0, 0⟩

def integer (negative : Bool) (whole : Digits) : Reader Number :=
  if whole.dropped ≠ 0 then scaled negative whole.value whole.dropped
  else if !negative then return .natural whole.value
  else if 0 < whole.value ∧ whole.value ≤ 1 <<< 63 then
    return .negative whole.value
  else return .floating (-whole.value.toUInt64.toFloat)

def readUnsigned (negative : Bool) : Reader Number := do
  let whole ← readWhole
  let next ← peek
  if next = some '.' then
    skipChar
    readFraction negative whole
  else if isExponentMark next then
    skipChar
    readExponent negative whole.value whole.dropped
  else integer negative whole

def readNumber : Reader Number := do
  if (← peek) = some '-' then
    skipChar
    readUnsigned true
  else readUnsigned false

/-- Skips digits of which there must be one at least. -/
def skipDigits : Reader Unit := do
  if (← takeDigits).isEmpty then failNext .invalidNumber

/-- Skips the digits before the point; a leading zero stands alone. -/
def skipWhole : Reader Unit := do
  match ← peek with
  | some '0' => do
      skipChar
      if (← peek).any isDigit then failNext .invalidNumber
  | _ => skipDigits

def skipFraction : Reader Unit := do
  if (← peek) = some '.' then
    skipChar
    skipDigits

def skipExponent : Reader Unit := do
  if isExponentMark (← peek) then
    skipChar
    let sign ← peek
    if sign = some '+' ∨ sign = some '-' then skipChar
    skipDigits

def skipNumber : Reader Unit := do
  if (← peek) = some '-' then skipChar
  skipWhole
  skipFraction
  skipExponent

end CsrCensus.Json
