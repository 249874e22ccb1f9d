import CsrCensus.Text.Numeral

/-!
# Floating-point text

A finite floating-point number is written with the fewest digits that read back
as the same number, of several such the nearest one. Numbers whose decimal
exponent lies between -5 and 15 are written without an exponent and with at
least one digit after the point.
-/

namespace CsrCensus.Floating

/-- A finite positive number, `scaled * 2 ^ (exponent - 1076)`, and the interval
of the numbers that round to it. The interval reaches two quarters of the last
place upwards. -/
structure Decoded where
  /-- Four times the binary significand. -/
  scaled : Nat
  /-- Biased exponent of a quarter of the last place. -/
  exponent : Nat
  /-- How many quarters the interval reaches downwards. -/
  below : Nat
  /-- Whether the ends of the interval read back as this number. -/
  closed : Bool

/-- Takes the bits of a positive finite number apart. -/
def decode (bits : Nat) : Decoded :=
  let fraction := bits % (1 <<< 52)
  let biased := (bits >>> 52) % (1 <<< 11)
  let significand := if biased = 0 then fraction else (1 <<< 52) + fraction
  { scaled := 4 * significand
    exponent := max biased 1 - 1
    below := if fraction = 0 ∧ 1 < biased then 1 else 2
    closed := significand % 2 = 0 }

/-- The exponent of two that stands for a biased exponent of zero. -/
def leastExponent : Nat := 1076

/-- A number of quarters of the last place, times the powers of two and ten that
clear all denominators for decimals down to `10 ^ place`. -/
def clearBinary (number : Decoded) (place : Int) (quarters : Nat) : Nat :=
  (quarters <<< (number.exponent - leastExponent)) * Nat.pow 10 (-place).toNat

/-- One unit of `10 ^ place` on the same scale. -/
def clearUnit (number : Decoded) (place : Int) : Nat :=
  Nat.pow 10 place.toNat <<< (leastExponent - number.exponent)

/-- Whether `count` units of `10 ^ place` read back as the number. -/
def readsBack (number : Decoded) (place : Int) (count : Nat) : Bool :=
  let value := count * clearUnit number place
  let low := clearBinary number place (number.scaled - number.below)
  let high := clearBinary number place (number.scaled + 2)
  if number.closed then low ≤ value && value ≤ high
  else low < value && value < high

/-- The nearer one of two neighbours on the decimal grid that reads back; on a
tie the even one. -/
def neighbour? (number : Decoded) (place : Int) : Option Nat :=
  let unit := clearUnit number place
  let value := clearBinary number place number.scaled
  let lower := value / unit
  let upper := lower + 1
  let preferLower :=
    if 2 * (value % unit) = unit then lower % 2 = 0
    else 2 * (value % unit) < unit
  match readsBack number place lower, readsBack number place upper with
  | true, true => some (if preferLower then lower else upper)
  | true, false => some lower
  | false, true => some upper
  | false, false => none

/-- The decimal with the fewest digits that reads back, tried from the place `10
^ place` downwards. -/
def search (number : Decoded) : Nat → Int → Nat × Int
  | 0, place => (0, place)
  | tries + 1, place =>
      match neighbour? number place with
      | some (count + 1) => (count + 1, place)
      | _ => search number tries (place - 1)

/-- Number of places between the largest and the smallest finite number. -/
def placeCount : Nat := 660

/-- The place above every finite number. -/
def topPlace : Int := 309

/-- Removes zeros at the end of a decimal. -/
def dropZeros : Nat → Nat × Int → Nat × Int
  | 0, decimal => decimal
  | steps + 1, (count, place) =>
      if count % 10 = 0 ∧ count ≠ 0 then dropZeros steps (count / 10, place + 1)
      else (count, place)

/-- The shortest decimal of a positive finite number, as a count of units of a
power of ten. -/
def shortest (bits : Nat) : Nat × Int :=
  dropZeros 20 (search (decode bits) placeCount topPlace)

/-- Digits without an exponent, the first one counting `10 ^ exponent`. -/
def plain (digits : List Char) (exponent : Int) : List Char :=
  if exponent < 0 then
    ['0', '.'] ++ List.replicate ((-exponent).toNat - 1) '0' ++ digits
  else
    let whole := exponent.toNat + 1
    digits.take whole ++ List.replicate (whole - digits.length) '0' ++ ['.'] ++
      (if digits.length ≤ whole then ['0'] else digits.drop whole)

def scientific (digits : List Char) (exponent : Int) : List Char :=
  digits.take 1 ++ (if digits.length ≤ 1 then [] else '.' :: digits.drop 1) ++
    ['e', if exponent < 0 then '-' else '+'] ++
    Numeral.decimal.chars exponent.natAbs

/-- The text of a positive finite number. -/
def positiveChars (bits : Nat) : List Char :=
  let (count, place) := shortest bits
  let digits := Numeral.decimal.chars count
  let exponent := place + digits.length - 1
  if -5 ≤ exponent ∧ exponent ≤ 15 then plain digits exponent
  else scientific digits exponent

/-- The text of a finite number. -/
def text (value : Float) : String :=
  let bits := value.toBits.toNat
  let magnitude := bits % (1 <<< 63)
  let sign := if bits < 1 <<< 63 then [] else ['-']
  String.ofList
    (sign ++
      (if magnitude = 0 then ['0', '.', '0'] else positiveChars magnitude))

end CsrCensus.Floating
