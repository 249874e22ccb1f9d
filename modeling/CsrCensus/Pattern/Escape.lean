import CsrCensus.Pattern.Mode
import CsrCensus.Text.Numeral
import CsrCensus.Text.Utf8

/-!
# Escapes

What stands behind a backslash: a character by its code or its letter, a class
by its letter, or an edge, at which nothing is consumed.
-/

namespace CsrCensus.Pattern

/-- What one escape, or one character that is not escaped, stands for. -/
inductive Atom where
  | literal (character : Char)
  | shorthand
  | edge
deriving DecidableEq, Repr

/-- Number of digits of a character code behind a letter. -/
def codeLength? : Char → Option Nat
  | 'x' => some 2
  | 'u' => some 4
  | 'U' => some 8
  | _ => none

def readCode (mode : Mode) : Nat → Nat → List Char → Option (Nat × List Char)
  | 0, value, rest => some (value, rest)
  | _ + 1, _, [] => none
  | count + 1, value, digit :: rest => do
      let digit ← Numeral.digitValue? 16 digit
      readCode mode count (16 * value + digit) (mode.skip rest)

/-- Whether a character stands for itself behind a backslash. Letters and digits
do not, and angle brackets are edges. -/
def escapesItself (character : Char) : Bool :=
  character.toNat ≤ 0x7F && !character.isAlphanum && character != '<' &&
    character != '>'

def letterLiteral? : Char → Option Char
  | 'a' => some '\x07'
  | 'f' => some '\x0c'
  | 't' => some '\t'
  | 'n' => some '\n'
  | 'r' => some '\r'
  | 'v' => some '\x0b'
  | _ => none

/-- What a letter or a sign stands for that is no character code. Classes by
letter and the edges of words are known for bytes only, and no complement of a
class is. -/
def atomOf? (mode : Mode) (letter : Char) : Option Atom :=
  if escapesItself letter then some (.literal letter)
  else if letter ∈ ['d', 's', 'w'] then
    if mode.unicode then none else some .shorthand
  else if letter ∈ ['b', 'B', '<', '>'] then
    if mode.unicode then none else some .edge
  else if letter ∈ ['A', 'z'] then some .edge
  else (letterLiteral? letter).map .literal

/-- Reads what stands behind a backslash. Braces around a character code are
refused, for they are never closed. A byte that is no character is refused. -/
def readEscape (mode : Mode) : List Char → Option (Atom × List Char)
  | [] => none
  | letter :: rest =>
      match codeLength? letter with
      | none => (atomOf? mode letter).map fun atom => (atom, rest)
      | some count => do
          let (code, rest) ← readCode mode count 0 (mode.skip rest)
          let character ← Text.character? 0 code
          if letter = 'x' ∧ !mode.unicode ∧ 0x7F < code then none
          else return (.literal character, rest)

end CsrCensus.Pattern
