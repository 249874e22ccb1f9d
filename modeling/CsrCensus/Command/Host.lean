import CsrCensus.Failure
import CsrCensus.Log.Record

/-!
# Hosts

What a command needs from its surroundings: reading, creating and filling files,
printing, and logging.
-/

namespace CsrCensus.Command

def standardOutputPath : String := "-"

/-- Where output goes. -/
inductive Target where
  | standardOutput
  | file (path : String)
deriving DecidableEq, Repr

def Target.ofPath (path : String) : Target :=
  if path = standardOutputPath then .standardOutput else .file path

/-- The surroundings of a command. Faults of writing are in the words of the
system. -/
class Host (m : Type → Type) where
  /-- A file that is open for writing. -/
  Handle : Type
  /-- The contents of a file. -/
  read : String → m (Except Files.Fault Bytes)
  /-- Creates a file, or empties it, and opens it for writing. -/
  create : String → m (Except Files.Fault Handle)
  /-- Adds a text to an open file. -/
  write : Handle → String → m (Except String Unit)
  /-- Adds a text to standard output. -/
  print : String → m (Except String Unit)
  /-- Logs a record. -/
  log : Log.Record → m Unit
  /-- The text of the path of the working directory. -/
  workingDirectory : m String

abbrev Task (m : Type → Type) := ExceptT Failure m

variable {m : Type → Type} [Monad m] [Host m]

/-- A target that is open for writing. -/
inductive Output (m : Type → Type) [Host m] where
  | standardOutput
  | file (handle : Host.Handle m)

def readFile (path : String) : Task m Bytes := do
  match ← (Host.read path : m _) with
  | .ok contents => return contents
  | .error fault => throw (.file path (.access fault))

/-- Opens a target: a file is created or emptied. -/
def openTarget : Target → Task m (Output m)
  | .standardOutput => return .standardOutput
  | .file path => do
      match ← (Host.create path : m _) with
      | .ok handle => return .file handle
      | .error fault => throw (.file path (.access fault))

def print (text : String) : Task m Unit := do
  match ← (Host.print text : m _) with
  | .ok () => return
  | .error reason => throw (.output reason)

/-- Writes a text to an open target. -/
def writeOutput (text : String) : Output m → Task m Unit
  | .standardOutput => print text
  | .file handle => do
      match ← (Host.write handle text : m _) with
      | .ok () => return
      | .error reason => throw (.output reason)

/-- Logs records in order. -/
def logAll (records : List Log.Record) : Task m Unit :=
  records.forM fun record => (Host.log record : m Unit)

end CsrCensus.Command
