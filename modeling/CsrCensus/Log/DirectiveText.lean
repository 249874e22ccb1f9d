import CsrCensus.Log.Directive
import CsrCensus.Pattern.Form
import CsrCensus.Text.Character
import CsrCensus.Text.Utf8

/-!
# The text of a directive

A directive is written as a level, as the beginning of the sources' names, or as
both with an equals sign between them. Brackets behind the name restrict it to a
span, or in braces to the records with a value of some name.

The parts of a directive are found in its text without the blanks at both ends,
and are then cut out of the text with them. Blanks before a directive thus move
every part towards the front.
-/

namespace CsrCensus.Log

/-- The number that decimal digits stand for, with at most one plus sign before
them. -/
def number? (word : List Char) : Option Nat :=
  let digits := if word.head? = some '+' then word.tail else word
  if digits.isEmpty || !digits.all Char.isDigit then none
  else some (digits.foldl
    (fun value digit => 10 * value + (digit.toNat - '0'.toNat)) 0)

/-- The level that a number names, the most important one being `1`; at `0`
nothing is shown. -/
def levelNumbered? : Nat → Option (Option Level)
  | 0 => some none
  | 1 => some (some .error)
  | 2 => some (some .warn)
  | 3 => some (some .info)
  | 4 => some (some .debug)
  | 5 => some (some .trace)
  | _ => none

/-- The level that a word names; the inner option is absent for a word at which
nothing is shown. The case of the letters does not count. -/
def levelNamed? (word : String) : Option (Option Level) :=
  match (number? word.toList).bind levelNumbered? with
  | some level => some level
  | none =>
      match String.ofList (word.toList.map Char.toLower) with
      | "off" => some none
      | "error" => some (some .error)
      | "warn" => some (some .warn)
      | "info" => some (some .info)
      | "debug" => some (some .debug)
      | "trace" => some (some .trace)
      | _ => none

/-- The part of a text between two places. There is none if a place lies inside
a character. -/
def part? (text : Bytes) (start stop : Nat) : Option String :=
  Text.ofUtf8? ((text.take stop).drop start)

/-- Reads a level from a place on. Where nothing is written everything is
shown. -/
def readLevel (text : Bytes) (start : Nat) : Option (Option Level) := do
  let word ← part? text start text.length
  if word = "" then return some .trace else levelNamed? word

/-- Whether a text is a decimal number without a sign, with an optional fraction
and exponent. -/
def isUnsigned (text : List Char) : Bool :=
  let whole := text.takeWhile Char.isDigit
  let behind := text.drop whole.length
  let fraction :=
    if behind.head? = some '.' then behind.tail.takeWhile Char.isDigit else []
  let behind :=
    if behind.head? = some '.' then behind.tail.drop fraction.length else behind
  let isExponent : Bool :=
    match behind with
    | [] => true
    | mark :: exponent =>
        let digits :=
          if exponent.head? = some '+' ∨ exponent.head? = some '-' then
            exponent.tail
          else exponent
        (mark = 'e' || mark = 'E') && !digits.isEmpty && digits.all Char.isDigit
  !(whole.isEmpty && fraction.isEmpty) && isExponent

/-- Whether a text is a number with a plus sign. It is then no pattern, but a
value all the same; other numbers are patterns as well. -/
def isPositive : List Char → Bool
  | '+' :: text =>
      isUnsigned text ||
        String.ofList (text.map Char.toLower) ∈ ["inf", "infinity", "nan"]
  | _ => false

/-- What a directive with braces is about. A name alone asks records for a
value. A span, or a pattern or number for the value, is about spans; what stands
behind a second equals sign does not count. -/
def subject? (span field : String) : Option Subject :=
  match Text.split '=' field.toList with
  | _ :: value :: _ =>
      if isPositive value || Pattern.isValid (String.ofList value) then
        some .spans
      else none
  | _ =>
      if field = "" then none
      else some (if span = "" then .recordsWith field else .spans)

/-- Reads what stands behind the closing bracket: an equals sign and a level, or
nothing. -/
def readBehind
    (text : Bytes) (place : Nat) (target : String) (subject : Subject) :
    List Char → Option Directive
  | [] => some ⟨target, subject, some .trace⟩
  | '=' :: _ =>
      (readLevel text (place + 1)).map fun level => ⟨target, subject, level⟩
  | _ => none

def readBracketed
    (text : Bytes) (place : Nat) (target : String) (rest : List Char) :
    Option Directive := do
  let span :=
    rest.takeWhile fun character => character != ']' && character != '\x7b'
  let spanEnd := place + Text.byteCount span
  match rest.drop span.length with
  | ']' :: behind => readBehind text (spanEnd + 1) target .spans behind
  | '\x7b' :: inner =>
      let field := inner.takeWhile (· != '\x7d')
      let fieldEnd := spanEnd + 1 + Text.byteCount field
      match inner.drop field.length with
      | '\x7d' :: ']' :: behind =>
          let span ← part? text place spanEnd
          let field ← part? text (spanEnd + 1) fieldEnd
          readBehind text (fieldEnd + 2) target (← subject? span field) behind
      | _ => none
  | _ => none

/-- The directive that a word without signs stands for: a level of all sources,
or sources of which everything is shown. -/
def ofWord (word : String) : Directive :=
  match levelNamed? word with
  | some level => ⟨"", .records, level⟩
  | none => ⟨word, .records, some .trace⟩

def beginsDirective (character : Char) : Bool :=
  Text.isAlphanumeric character || character = '-' || character = ':' ||
    character = '_'

def readDirective (written : List Char) : Option Directive := do
  let text := Text.toUtf8 (String.ofList written)
  let trimmed := Text.trimBlanks written
  let name :=
    trimmed.takeWhile fun character => character != '=' && character != '['
  let nameEnd := Text.byteCount name
  if name.isEmpty then
    match trimmed with
    | '[' :: rest => readBracketed text 1 "" rest
    | _ => none
  else if name.head?.any beginsDirective then
    match trimmed.drop name.length with
    | [] => return ofWord (String.ofList written)
    | '=' :: _ =>
        return ⟨← part? text 0 nameEnd, .records,
          ← readLevel text (nameEnd + 1)⟩
    | _ :: rest =>
        readBracketed text (nameEnd + 1) (← part? text 0 nameEnd) rest
  else none

end CsrCensus.Log
