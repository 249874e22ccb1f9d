import CsrCensus.Files.Path
import CsrCensus.Word.Order

/-!
# Disks

A disk holds files and directories, each at a location: the names that lead to
it from the root. A path is followed step by step; every step but the last must
lead to a directory.
-/

namespace CsrCensus.Files

/-- Why a file cannot be opened, read or created. -/
inductive Fault where
  | notFound
  | notDirectory
  | isDirectory
  | nameTooLong
  /-- The path contains a zero character. -/
  | zeroInPath
  /-- Another reason, in the words of the system. -/
  | other (reason : String)
deriving DecidableEq, Repr

/-- The wording of a fault. -/
def Fault.message : Fault → String
  | .notFound => "No such file or directory (os error 2)"
  | .notDirectory => "Not a directory (os error 20)"
  | .isDirectory => "Is a directory (os error 21)"
  | .nameTooLong => "File name too long (os error 36)"
  | .zeroInPath => "file name contained an unexpected NUL byte"
  | .other reason => reason

/-- The names that lead from the root to a file or directory. -/
abbrev Location := List String

/-- What is found at a location. -/
inductive Entry where
  | file (contents : Bytes)
  | directory
deriving DecidableEq, Repr

/-- The files and directories below the root. -/
structure Disk where
  entries : List (Location × Entry)
deriving DecidableEq

namespace Disk

/-- What is found at a location. -/
def entry? (disk : Disk) (location : Location) : Option Entry :=
  if location.isEmpty then some .directory else disk.entries.lookup location

def put (disk : Disk) (location : Location) (entry : Entry) : Disk :=
  ⟨(location, entry) :: disk.entries.filter fun other => other.1 != location⟩

/-- Adds a directory and all directories that lead to it. -/
def addDirectory (disk : Disk) (start : Location) : List String → Disk
  | [] => disk
  | name :: rest =>
      (disk.put (start ++ [name]) .directory).addDirectory
        (start ++ [name]) rest

/-- Longest name of a file, in bytes. -/
def longestName : Nat := 255

/-- Longest path, in bytes. -/
def longestPath : Nat := 4095

def step (disk : Disk) (start : Location) (name : String) :
    Except Fault Location :=
  match disk.entry? start with
  | none => .error .notFound
  | some (.file _) => .error .notDirectory
  | some .directory =>
      if name = stayStep then .ok start
      else if name = upStep then .ok start.dropLast
      else if longestName < name.utf8ByteSize then .error .nameTooLong
      else if (disk.entry? (start ++ [name])).isSome then .ok (start ++ [name])
      else .error .notFound

/-- Where a path begins, or why it is none. -/
def origin (workingDirectory : Location) (text : String) :
    Except Fault Location :=
  if text.toList.contains '\x00' then .error .zeroInPath
  else if text.isEmpty then .error .notFound
  else if longestPath < text.utf8ByteSize then .error .nameTooLong
  else if (Path.ofText text).isAbsolute then .ok []
  else .ok workingDirectory

/-- The contents of the file that a path leads to. -/
def read (disk : Disk) (workingDirectory : Location) (text : String) :
    Except Fault Bytes := do
  let start ← origin workingDirectory text
  let path := Path.ofText text
  let location ← path.steps.foldlM disk.step start
  match disk.entry? location with
  | some (.file contents) =>
      if path.endsInSlash then throw .notDirectory else return contents
  | some .directory => throw .isDirectory
  | none => throw .notFound

/-- The location of a file that is to be created or emptied at the end of a
path. -/
def target (disk : Disk) (workingDirectory : Location) (text : String) :
    Except Fault Location := do
  let start ← origin workingDirectory text
  let path := Path.ofText text
  let parent ← path.steps.dropLast.foldlM disk.step start
  match path.steps.getLast?, disk.entry? parent with
  | none, _ => throw .isDirectory
  | some _, none => throw .notFound
  | some _, some (.file _) => throw .notDirectory
  | some name, some .directory =>
      if name = stayStep ∨ name = upStep ∨ path.endsInSlash then
        throw .isDirectory
      else if longestName < name.utf8ByteSize then throw .nameTooLong
      else
        match disk.entry? (parent ++ [name]) with
        | some .directory => throw .isDirectory
        | _ => return parent ++ [name]

end Disk

end CsrCensus.Files
