import CsrCensus.Text.Character

/-!
# The mode of a pattern

How a part of a pattern is read: what its classes and edges mean, and whether
blanks and comments are skipped. Tables of cases and classes beyond ASCII are
not at hand, so a pattern that needs one is refused, and so is one that could
split a character into bytes.
-/

namespace CsrCensus.Pattern

/-- The settings in force at one place of a pattern. -/
structure Mode where
  /-- Whether upper and lower case are the same. -/
  ignoresCase : Bool
  /-- Whether classes, edges and the dot are about characters; otherwise they
  are about bytes. -/
  unicode : Bool
  /-- Whether blanks and comments are skipped. -/
  skipsBlanks : Bool
deriving DecidableEq, Repr

namespace Mode

def initial : Mode := ⟨false, true, false⟩

/-- The letters of the settings. Those that are not fields of a mode change what
is matched, but not which patterns are accepted. -/
def letters : List Char := ['i', 'm', 's', 'U', 'u', 'R', 'x']

/-- Switches the setting of a letter on or off. -/
def switch (mode : Mode) (letter : Char) (on : Bool) : Mode :=
  match letter with
  | 'i' => { mode with ignoresCase := on }
  | 'u' => { mode with unicode := on }
  | 'x' => { mode with skipsBlanks := on }
  | _ => mode

/-- Whether a character may be asked for: its other cases are known, or do not
matter. -/
def admitsLiteral (mode : Mode) : Bool := !(mode.ignoresCase && mode.unicode)

def admitsMember (mode : Mode) (character : Char) : Bool :=
  mode.admitsLiteral && (mode.unicode || character.toNat ≤ 0x7F)

end Mode

/-- Skips blanks and comments. A comment goes from a number sign to the end of
its line. -/
def skipFrom (inComment : Bool) : List Char → List Char
  | [] => []
  | character :: rest =>
      if inComment then skipFrom (character != '\n') rest
      else if Text.isBlank character then skipFrom false rest
      else if character = '#' then skipFrom true rest
      else character :: rest

/-- The text from the next character on that counts. -/
def Mode.skip (mode : Mode) (text : List Char) : List Char :=
  if mode.skipsBlanks then skipFrom false text else text

/-- The character that comes next. Blanks do not count, nor does the number sign
of a comment; of blanks alone the first one is next. -/
def Mode.peek (mode : Mode) (text : List Char) : Option Char :=
  if !mode.skipsBlanks then text.head?
  else
    match text.dropWhile Text.isBlank with
    | '#' :: comment => (comment.dropWhile Text.isBlank).head?.or text.head?
    | [] => text.head?
    | next :: _ => some next

end CsrCensus.Pattern
