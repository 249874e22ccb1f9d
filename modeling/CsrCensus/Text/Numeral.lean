/-!
# Numerals

Positional numerals with a least number of digits, and the values of digits. A
`Numeral.Format` fixes radix, letter case and least width once for each place
where a number is written; `Format.text` is total in the value.
-/

namespace CsrCensus.Numeral

/-- Case of the digits above nine. -/
inductive LetterCase where
  | upper
  | lower
deriving DecidableEq, Repr

/-- How a number is written: radix, letter case, and the least number of
digits. -/
structure Format where
  radix : Nat
  letters : LetterCase
  width : Nat
deriving DecidableEq, Repr

def digitChar (letters : LetterCase) (value : Nat) : Char :=
  if value < 10 then Char.ofNat (48 + value)
  else match letters with
    | .upper => Char.ofNat (55 + value)
    | .lower => Char.ofNat (87 + value)

def digitValue? (radix : Nat) (character : Char) : Option Nat :=
  let value? : Option Nat :=
    if '0' ≤ character ∧ character ≤ '9' then some (character.toNat - 48)
    else if 'a' ≤ character ∧ character ≤ 'f' then some (character.toNat - 87)
    else if 'A' ≤ character ∧ character ≤ 'F' then some (character.toNat - 55)
    else none
  value?.filter (· < radix)

/-- Puts the digit values of a number in front of lower digits. The first
argument bounds the number of digits. -/
def digitsBefore (radix : Nat) : Nat → Nat → List Nat → List Nat
  | 0, _, lower => lower
  | bound + 1, value, lower =>
      if value < radix then value :: lower
      else digitsBefore radix bound (value / radix) (value % radix :: lower)

/-- Digit values of a number, most significant first; zero has the single digit
zero. -/
def digits (radix value : Nat) : List Nat :=
  digitsBefore radix (value + 1) value []

/-- The characters of a number, filled up with zeros on the left. -/
def Format.chars (format : Format) (value : Nat) : List Char :=
  ((digits format.radix value).map (digitChar format.letters)).leftpad
    format.width '0'

/-- The text of a number. -/
def Format.text (format : Format) (value : Nat) : String :=
  String.ofList (format.chars value)

/-- Plain decimal. -/
def decimal : Format := ⟨10, .lower, 1⟩

/-- Upper-case hexadecimal with at least `width` digits. -/
def upperHex (width : Nat) : Format := ⟨16, .upper, width⟩

/-- Lower-case hexadecimal with at least `width` digits. -/
def lowerHex (width : Nat) : Format := ⟨16, .lower, width⟩

/-- Binary with at least `width` digits. -/
def binary (width : Nat) : Format := ⟨2, .lower, width⟩

/-- Addresses and words: upper-case hexadecimal with at least eight digits. -/
def word : Format := upperHex 8

/-- Addresses in diagnostics: lower-case hexadecimal with at least eight
digits. -/
def lowerWord : Format := lowerHex 8

end CsrCensus.Numeral
