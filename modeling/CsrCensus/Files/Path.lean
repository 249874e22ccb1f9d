import CsrCensus.Text.Character

/-!
# Paths

A path is a list of steps, from the root or from the working directory. Empty
steps mean nothing, one dot means the directory reached, and two dots mean the
one above it.
-/

namespace CsrCensus.Files

def stayStep : String := "."

/-- The step to the directory above. -/
def upStep : String := ".."

/-- A path taken apart. -/
structure Path where
  /-- Whether the path starts at the root. -/
  isAbsolute : Bool
  /-- The steps that are not empty. -/
  steps : List String
  /-- Whether a slash follows the last step. -/
  endsInSlash : Bool
deriving DecidableEq, Repr

/-- Takes a path apart. -/
def Path.ofText (text : String) : Path :=
  { isAbsolute := text.toList.head? = some '/'
    steps := (Text.splitNonempty '/' text.toList).map String.ofList
    endsInSlash := text.toList.getLast? = some '/' }

/-- The steps without those that stay. -/
def Path.moves (path : Path) : List String :=
  path.steps.filter (· != stayStep)

/-- The name of the file that a path leads to, if its last move is one to a
name. -/
def Path.fileName? (path : Path) : Option String :=
  path.moves.getLast?.filter (· != upStep)

/-- What stands behind the last dot of a file name. A dot at the start begins no
extension. -/
def extension? (name : List Char) : Option (List Char) :=
  let reversed := name.reverse
  let stem := (reversed.dropWhile (· != '.')).drop 1
  if stem.isEmpty then none else some (reversed.takeWhile (· != '.')).reverse

/-- Whether the file that a path leads to has an extension, in either letter
case of ASCII. -/
def Path.hasExtension (path : Path) (lowerCase : String) : Bool :=
  (path.fileName?.bind fun name => extension? name.toList).any fun extension =>
    extension.map Char.toLower = lowerCase.toList

/-- The text of a path from the root on, without the steps that stay. A path
that starts with two slashes, and no more, keeps both. -/
def absoluteText (workingDirectory text : String) : String :=
  let path := Path.ofText text
  let start :=
    if !path.isAbsolute then workingDirectory ++ "/"
    else if text.startsWith "//" && !text.startsWith "///" then "//"
    else "/"
  start ++ "/".intercalate path.moves

end CsrCensus.Files
