import CsrCensus.Pattern.Class
import CsrCensus.Text.Character

/-!
# The form of a pattern

A pattern is a regular expression. Here a pattern is never matched, it is only
checked: its groups and classes are closed, what it repeats is there, its names
are new, what it asks for is at hand, and it is not nested too deeply. A pattern
stands where the first closing brace ends it, so that a pair of braces never
occurs in one, and an opening brace outside of a class is refused.
-/

namespace CsrCensus.Pattern

/-- A group that is open, or the whole of a pattern. -/
structure OpenGroup where
  mode : Mode
  /-- Number of items since the last bar. -/
  count : Nat
  /-- Depth of the deepest of these items. -/
  deepest : Nat
  /-- Depth of the last item, if it can be repeated. -/
  last : Option Nat
  /-- Depth of the deepest branch before the last bar. -/
  branches : Option Nat
deriving DecidableEq, Repr

namespace OpenGroup

/-- A group without items. -/
def empty (mode : Mode) : OpenGroup := ⟨mode, 0, 0, none, none⟩

/-- Adds an item. -/
def add (opened : OpenGroup) (depth : Nat) : OpenGroup :=
  { opened with
    count := opened.count + 1
    deepest := max opened.deepest depth
    last := some depth }

/-- Adds an item that changes the mode; it cannot be repeated. -/
def change (opened : OpenGroup) (mode : Mode) : OpenGroup :=
  { opened with mode := mode, count := opened.count + 1, last := none }

/-- Repeats the last item, which is one level. -/
def repeatLast (opened : OpenGroup) : Option OpenGroup :=
  opened.last.map fun depth =>
    { opened with
      deepest := max opened.deepest (depth + 1), last := some (depth + 1) }

/-- Depth of the branch that was begun, several items being one level. -/
def branchDepth (opened : OpenGroup) : Nat :=
  if opened.count ≤ 1 then opened.deepest else opened.deepest + 1

/-- Begins another branch. -/
def nextBranch (opened : OpenGroup) : OpenGroup :=
  { OpenGroup.empty opened.mode with
    branches := some (max (opened.branches.getD 0) opened.branchDepth) }

/-- Depth of all that has been read, several branches being one level. -/
def depth (opened : OpenGroup) : Nat :=
  match opened.branches with
  | none => opened.branchDepth
  | some depth => max depth opened.branchDepth + 1

end OpenGroup

/-- What a parenthesis opens. -/
inductive Opening where
  /-- No group, but another mode for the rest of the one around it. -/
  | change (mode : Mode)
  | group (mode : Mode)
  | named (name : List Char)
deriving DecidableEq, Repr

/-- Whether a character may stand in the name of a group behind the first. -/
def isNameChar (character : Char) : Bool :=
  character ∈ ['_', '.', '[', ']'] || Text.isAlphanumeric character

def readName (text : List Char) : Option (Opening × List Char) :=
  let name := text.takeWhile (· != '>')
  match name, text.drop name.length with
  | first :: others, '>' :: rest =>
      if (first = '_' ∨ Text.isAlphabetic first) ∧ others.all isNameChar then
        some (.named name, rest)
      else none
  | _, _ => none

/-- Reads the letters of settings; those behind a hyphen are switched off. The
letters and hyphens read before are given with the last one first, for none may
occur twice, and no hyphen comes last. Letters alone change the mode, a colon
begins a group. -/
def readSettings (mode : Mode) (before : List Char) :
    List Char → Option (Opening × List Char)
  | [] => none
  | sign :: rest =>
      if sign = ':' ∨ sign = ')' then
        if before.head? = some '-' then none
        else if sign = ':' then some (.group mode, rest)
        else if before.isEmpty then none
        else some (.change mode, rest)
      else if before.contains sign then none
      else if sign = '-' then readSettings mode (sign :: before) rest
      else if Mode.letters.contains sign then
        readSettings (mode.switch sign (!before.contains '-'))
          (sign :: before) rest
      else none

/-- Reads what stands behind an opening parenthesis. Groups that look ahead or
behind are refused. -/
def readOpening (mode : Mode) : List Char → Option (Opening × List Char)
  | '?' :: 'P' :: '<' :: rest => readName rest
  | '?' :: '<' :: '=' :: _ => none
  | '?' :: '<' :: '!' :: _ => none
  | '?' :: '<' :: rest => readName rest
  | '?' :: rest => readSettings mode [] rest
  | rest => some (.group mode, rest)

/-- Whether something may be an item of a group. -/
def Mode.admitsItem (mode : Mode) : Atom → Bool
  | .literal _ => mode.admitsLiteral
  | _ => true

/-- Reads up to the end of a pattern, and gives its depth. The names are those
of the groups read before. The first argument bounds the number of items and
signs. -/
def readGroup :
    Nat → OpenGroup → List OpenGroup → List (List Char) → List Char → Option Nat
  | 0, _, _, _, _ => none
  | bound + 1, opened, outer, names, text =>
      match opened.mode.skip text with
      | [] => if outer.isEmpty then some opened.depth else none
      | '(' :: rest => do
          let (opening, rest) ← readOpening opened.mode (opened.mode.skip rest)
          match opening with
          | .change mode =>
              readGroup bound (opened.change mode) outer names rest
          | .group mode =>
              readGroup bound (.empty mode) (opened :: outer) names rest
          | .named name =>
              if names.contains name then none
              else
                readGroup bound (.empty opened.mode) (opened :: outer)
                  (name :: names) rest
      | ')' :: rest =>
          match outer with
          | [] => none
          | parent :: outer =>
              readGroup bound (parent.add (opened.depth + 1)) outer names rest
      | '|' :: rest => readGroup bound opened.nextBranch outer names rest
      | '[' :: rest => do
          let (depth, rest) ← readClass opened.mode rest
          readGroup bound (opened.add depth) outer names rest
      | '\x7b' :: _ => none
      | '\\' :: rest => do
          let (atom, rest) ← readEscape opened.mode rest
          if opened.mode.admitsItem atom then
            readGroup bound (opened.add 0) outer names rest
          else none
      | sign :: rest =>
          if sign = '?' ∨ sign = '*' ∨ sign = '+' then do
            let opened ← opened.repeatLast
            readGroup bound opened outer names
              (if rest.head? = some '?' then rest.tail else rest)
          else if sign = '.' && !opened.mode.unicode then none
          else if sign ∈ ['.', '^', '$'] || opened.mode.admitsLiteral then
            readGroup bound (opened.add 0) outer names rest
          else none

def greatestDepth : Nat := 250

def isValid (text : String) : Bool :=
  let characters := text.toList
  (readGroup (characters.length + 1) (.empty .initial) [] [] characters).any
    (· ≤ greatestDepth)

end CsrCensus.Pattern
