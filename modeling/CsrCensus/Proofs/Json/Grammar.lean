import CsrCensus.Json.Skip
import CsrCensus.Proofs.Text.Numeral

/-!
# The grammar of JSON

Which texts are values, and which text a string stands for. The relations follow
the grammar of JSON, not the readers: a relation does not say how a text is
read, and allows each spelling.
-/

namespace CsrCensus.Json

/-- What can be checked for each character of a list holds for each of them. -/
theorem forall_mem_of_all
    {characters : List Char} {property : Char → Prop} [DecidablePred property]
    (checked : (characters.all fun character => property character) = true) :
    ∀ character ∈ characters, property character := by
  simpa using checked

/-- White space, which may stand between tokens. -/
def Blank (text : List Char) : Prop :=
  ∀ character ∈ text, character ∈ [' ', '\n', '\t', '\r']

instance (text : List Char) : Decidable (Blank text) :=
  List.decidableBAll _ text

/-- The characters that may follow a value. -/
def boundaries : List Char := [' ', '\n', '\t', '\r', ',', ']', '\x7d']

/-- Text that does not go on with a value that ends before it. -/
def Boundary (text : List Char) : Prop :=
  ∀ next ∈ text.head?, next ∈ boundaries

/-- The letters of the short escapes, and the characters they stand for. -/
def escapes : List (Char × Char) :=
  [ ('"', '"'), ('\\', '\\'), ('/', '/'), ('b', '\x08'), ('f', '\x0c'),
    ('n', '\n'), ('r', '\r'),
    ('t', '\t') ]

/-- Four hexadecimal digits of a UTF-16 code unit. -/
structure UnitSpelled (unit : Nat) (digits : List Char) : Prop where
  length_eq : digits.length = 4
  hexadecimal : ∀ digit ∈ digits, digit ∈ "0123456789abcdefABCDEF".toList
  value_eq : Numeral.value 16 digits = unit

/-- The spellings of a character in a string. -/
inductive CharSpelled : Char → List Char → Prop where
  | raw {character : Char} :
      ' ' ≤ character → character ≠ '"' → character ≠ '\\' →
        CharSpelled character [character]
  | escaped {letter character : Char} :
      (letter, character) ∈ escapes → CharSpelled character ['\\', letter]
  | unit {character : Char} {digits : List Char} :
      UnitSpelled character.toNat digits →
        CharSpelled character ('\\' :: 'u' :: digits)
  | pair {character : Char} {high low : Nat}
      {highDigits lowDigits : List Char} :
      UnitSpelled high highDigits → 0xD800 ≤ high → high ≤ 0xDBFF →
        UnitSpelled low lowDigits → 0xDC00 ≤ low → low ≤ 0xDFFF →
          character.toNat = 0x10000 + (high - 0xD800) * 0x400 + (low - 0xDC00) →
            CharSpelled character
              ('\\' :: 'u' :: (highDigits ++ '\\' :: 'u' :: lowDigits))

/-- The spellings of the characters of a string. -/
inductive CharsSpelled : List Char → List Char → Prop where
  | nil : CharsSpelled [] []
  | cons {character : Char} {content first rest : List Char} :
      CharSpelled character first → CharsSpelled content rest →
        CharsSpelled (character :: content) (first ++ rest)

/-- Visible characters spell themselves. -/
theorem CharsSpelled.of_raw
    {content : List Char}
    (visible : ∀ character ∈ content,
      ' ' ≤ character ∧ character ≠ '"' ∧ character ≠ '\\') :
    CharsSpelled content content := by
  induction content with
  | nil => exact .nil
  | cons first rest inductionHypothesis =>
      obtain ⟨⟨atLeast, noQuote, noBackslash⟩, later⟩ :=
        List.forall_mem_cons.mp visible
      exact .cons (.raw atLeast noQuote noBackslash) (inductionHypothesis later)

/-- The spellings of a string, with its quotes. -/
inductive TextSpelled (content : String) : List Char → Prop where
  | quoted {inner : List Char} :
      CharsSpelled content.toList inner →
        TextSpelled content ('"' :: (inner ++ ['"']))

/-- What a string is made of if it need not stand for characters: a surrogate
may be alone. -/
inductive Piece : List Char → Prop where
  | raw {character : Char} :
      ' ' ≤ character → character ≠ '"' → character ≠ '\\' → Piece [character]
  | escaped {letter character : Char} :
      (letter, character) ∈ escapes → Piece ['\\', letter]
  | unit {unit : Nat} {digits : List Char} :
      UnitSpelled unit digits → Piece ('\\' :: 'u' :: digits)

inductive Pieces : List Char → Prop where
  | nil : Pieces []
  | cons {first rest : List Char} :
      Piece first → Pieces rest → Pieces (first ++ rest)

/-- A string of which only the form counts, with its quotes. -/
inductive Quoted : List Char → Prop where
  | quoted {inner : List Char} : Pieces inner → Quoted ('"' :: (inner ++ ['"']))

/-- One or more decimal digits. -/
structure IsDigits (text : List Char) : Prop where
  ne_nil : text ≠ []
  decimal : ∀ digit ∈ text, digit ∈ "0123456789".toList

/-- Decimal digits without a leading zero, but for zero itself. -/
structure IsWhole (text : List Char) : Prop extends IsDigits text where
  zero : text.head? = some '0' → text = ['0']

/-- The part of a number after the point, with the point. -/
inductive IsFraction : List Char → Prop where
  | absent : IsFraction []
  | digits {digits : List Char} : IsDigits digits → IsFraction ('.' :: digits)

/-- The exponent of a number, with its letter. -/
inductive IsExponent : List Char → Prop where
  | absent : IsExponent []
  | digits {mark : Char} {sign digits : List Char} :
      mark ∈ ['e', 'E'] → sign ∈ [[], ['+'], ['-']] → IsDigits digits →
        IsExponent (mark :: (sign ++ digits))

inductive IsNumber : List Char → Prop where
  | number {sign whole fraction exponent : List Char} :
      sign ∈ [[], ['-']] → IsWhole whole → IsFraction fraction →
        IsExponent exponent →
        IsNumber (sign ++ (whole ++ (fraction ++ exponent)))

/-- A value that is no list and no object. -/
inductive IsScalar : List Char → Prop where
  | literal {text : List Char} :
      text ∈ ["null".toList, "true".toList, "false".toList] → IsScalar text
  | number {text : List Char} : IsNumber text → IsScalar text
  | text {text : List Char} : Quoted text → IsScalar text

def Bracket.opener : Bracket → Char
  | .list => '['
  | .object => '\x7b'

/-- What comes before the value of an element: in an object, its key and the
colon. -/
inductive IsLabel : Bracket → List Char → Prop where
  | list : IsLabel .list []
  | object {key before after : List Char} :
      Quoted key → Blank before → Blank after →
        IsLabel .object (key ++ (before ++ ':' :: after))

/-- The parts that values are made of. -/
inductive Form where
  | value
  /-- One or more elements between brackets, up to the closing bracket. -/
  | elements (bracket : Bracket)

/-- The well-formed values, and the well-formed elements of lists and
objects. -/
inductive WellFormed : Form → List Char → Prop where
  | scalar {text : List Char} : IsScalar text → WellFormed .value text
  | empty {bracket : Bracket} {space : List Char} :
      Blank space →
        WellFormed .value (bracket.opener :: (space ++ [bracket.closer]))
  | filled {bracket : Bracket} {space elements : List Char} :
      Blank space → WellFormed (.elements bracket) elements →
        WellFormed .value
          (bracket.opener :: (space ++ (elements ++ [bracket.closer])))
  | last {bracket : Bracket} {label value space : List Char} :
      IsLabel bracket label → WellFormed .value value → Blank space →
        WellFormed (.elements bracket) (label ++ (value ++ space))
  | more {bracket : Bracket} {label value before after elements : List Char} :
      IsLabel bracket label → WellFormed .value value → Blank before →
        Blank after →
        WellFormed (.elements bracket) elements →
          WellFormed (.elements bracket)
            (label ++ (value ++ (before ++ ',' :: (after ++ elements))))

end CsrCensus.Json
