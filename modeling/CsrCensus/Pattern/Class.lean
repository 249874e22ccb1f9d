import CsrCensus.Pattern.Escape

/-!
# Bracketed classes

A class lists characters, ranges and other classes between brackets. Lists may
be joined by the signs for intersection, difference and symmetric difference.
Only the depth to which a class is nested is kept, for patterns may not be
nested too deeply.
-/

namespace CsrCensus.Pattern

/-- A class that is open: its list, and what stands before it. -/
structure OpenClass where
  /-- Number of members of the list. -/
  count : Nat
  /-- Depth of the deepest member. -/
  deepest : Nat
  /-- Depth of what stands before the last joining sign. -/
  before : Option Nat
deriving DecidableEq, Repr

namespace OpenClass

/-- A class without members. -/
def empty : OpenClass := ⟨0, 0, none⟩

/-- Adds a member. -/
def add (opened : OpenClass) (depth : Nat) : OpenClass :=
  { opened with count := opened.count + 1, deepest := max opened.deepest depth }

/-- Depth of the list, a list of several members being one level. -/
def listDepth (opened : OpenClass) : Nat :=
  if opened.count ≤ 1 then opened.deepest else opened.deepest + 1

/-- Depth of what has been read so far, a joining sign being one level. -/
def innerDepth (opened : OpenClass) : Nat :=
  match opened.before with
  | none => opened.listDepth
  | some depth => max depth opened.listDepth + 1

/-- Depth of the class, if it is closed now. -/
def depth (opened : OpenClass) : Nat := opened.innerDepth + 1

/-- Goes on behind a joining sign. -/
def join (opened : OpenClass) : OpenClass := ⟨0, 0, some opened.innerDepth⟩

end OpenClass

def asciiClassNames : List String :=
  [ "alnum", "alpha", "ascii", "blank", "cntrl", "digit", "graph", "lower",
    "print", "punct",
    "space", "upper", "word", "xdigit" ]

/-- Whether a class is complemented, and the text behind it, if a named class
stands behind an opening bracket. -/
def namedClass? : List Char → Option (Bool × List Char)
  | ':' :: text =>
      let complemented := text.head? = some '^'
      let text := if complemented then text.tail else text
      let name := text.takeWhile (· != ':')
      match text.drop name.length with
      | ':' :: ']' :: rest =>
          if String.ofList name ∈ asciiClassNames then some (complemented, rest)
          else none
      | _ => none
  | _ => none

/-- Reads one end of a range, or a single member. -/
def readMember (mode : Mode) : List Char → Option (Atom × List Char)
  | [] => none
  | '\\' :: rest => readEscape mode rest
  | character :: rest => some (.literal character, rest)

def Mode.admits (mode : Mode) : Atom → Bool
  | .literal character => mode.admitsMember character
  | .shorthand => true
  | .edge => false

/-- Reads a member or a range of characters, and gives the text behind it. A
hyphen before the closing bracket or before another hyphen makes no range. -/
def readRange (mode : Mode) (text : List Char) : Option (List Char) := do
  let (first, rest) ← readMember mode text
  let rest := mode.skip rest
  match rest with
  | '-' :: behind =>
      if mode.peek behind = some ']' ∨ mode.peek behind = some '-' then
        if mode.admits first then some rest else none
      else
        let (last, rest) ← readMember mode (mode.skip behind)
        match first, last with
        | .literal first, .literal last =>
            if first ≤ last ∧ mode.admitsMember first ∧
              mode.admitsMember last then some rest
            else none
        | _, _ => none
  | _ => if mode.admits first then some rest else none

/-- Takes the hyphens at the start of a class as its members. -/
def openHyphens (mode : Mode) :
    Nat → OpenClass → List Char → OpenClass × List Char
  | bound + 1, opened, '-' :: rest =>
      openHyphens mode bound (opened.add 0) (mode.skip rest)
  | _, opened, text => (opened, text)

/-- Reads the start of a class behind its bracket. A closing bracket that comes
first is a member. A complement is refused where it has bytes that are no
characters. -/
def openClass (mode : Mode) (text : List Char) :
    Option (OpenClass × List Char) :=
  let text := mode.skip text
  let complemented := text.head? = some '^'
  let text := if complemented then mode.skip text.tail else text
  let (opened, rest) := openHyphens mode text.length .empty text
  if complemented && !mode.unicode ||
    !mode.admitsLiteral && 0 < opened.count then none
  else
    match rest with
    | ']' :: behind =>
        if opened.count ≠ 0 then some (opened, rest)
        else if mode.admitsLiteral then some (opened.add 0, mode.skip behind)
        else none
    | _ => some (opened, rest)

/-- Reads up to the end of the outermost class, and gives its depth. The first
argument bounds the number of members, brackets and signs. -/
def readOpenClass (mode : Mode) :
    Nat → OpenClass → List OpenClass → List Char → Option (Nat × List Char)
  | 0, _, _, _ => none
  | bound + 1, opened, outer, text =>
      match mode.skip text with
      | '[' :: rest =>
          match namedClass? rest with
          | some (complemented, rest) =>
              if !mode.admitsLiteral || complemented && !mode.unicode then none
              else readOpenClass mode bound (opened.add 0) outer rest
          | none => do
              let (inner, rest) ← openClass mode rest
              readOpenClass mode bound inner (opened :: outer) rest
      | ']' :: rest =>
          match outer with
          | [] => some (opened.depth, rest)
          | parent :: outer =>
              readOpenClass mode bound (parent.add opened.depth) outer rest
      | '&' :: '&' :: rest => readOpenClass mode bound opened.join outer rest
      | '-' :: '-' :: rest => readOpenClass mode bound opened.join outer rest
      | '~' :: '~' :: rest => readOpenClass mode bound opened.join outer rest
      | text => do
          let rest ← readRange mode text
          readOpenClass mode bound (opened.add 0) outer rest

/-- Reads a class behind its opening bracket, and gives its depth. -/
def readClass (mode : Mode) (text : List Char) : Option (Nat × List Char) := do
  let (opened, rest) ← openClass mode text
  readOpenClass mode (rest.length + 1) opened [] rest

end CsrCensus.Pattern
