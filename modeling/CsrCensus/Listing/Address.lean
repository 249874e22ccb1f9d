import CsrCensus.Text.Character
import CsrCensus.Text.Numeral

/-!
# Addresses as text

An address is a number below `2 ^ 64`, decimal or, after `0x`, hexadecimal.
Blanks around it and underscores inside are skipped, and one plus sign may stand
before the digits.
-/

namespace CsrCensus.Address

/-- Why a text is no address. -/
inductive Fault where
  /-- There are no digits at all. -/
  | empty
  /-- A character is no digit of the radix. -/
  | invalidDigit
  /-- The value does not fit in 64 bits. -/
  | overflow
deriving DecidableEq, Repr

/-- The wording of a fault. -/
def Fault.message : Fault → String
  | .empty => "cannot parse integer from empty string"
  | .invalidDigit => "invalid digit found in string"
  | .overflow => "number too large to fit in target type"

/-- Reads digits onto a value. The first fault from the left is reported; on one
character an invalid digit comes before an overflow. -/
def readDigits (radix value : Nat) : List Char → Except Fault Nat
  | [] => .ok value
  | character :: rest =>
      match Numeral.digitValue? radix character with
      | none => .error .invalidDigit
      | some digit =>
          if value * radix + digit < UInt64.size then
            readDigits radix (value * radix + digit) rest
          else .error .overflow

/-- Reads a number in a radix, with one optional plus sign before the digits. -/
def readNumber (radix : Nat) : List Char → Except Fault Nat
  | [] => .error .empty
  | '+' :: next :: rest => readDigits radix 0 (next :: rest)
  | characters => readDigits radix 0 characters

/-- Reads a number, hexadecimal after `0x` and decimal otherwise. -/
def readRadix : List Char → Except Fault Nat
  | '0' :: 'x' :: rest => readNumber 16 rest
  | '0' :: 'X' :: rest => readNumber 16 rest
  | characters => readNumber 10 characters

/-- The significant characters of a text: no blanks around it and no
underscores. -/
def significant (text : String) : List Char :=
  (Text.trimBlanks text.toList).filter (· != '_')

/-- Reads an address. -/
def parse (text : String) : Except Fault UInt64 :=
  UInt64.ofNat <$> readRadix (significant text)

end CsrCensus.Address
