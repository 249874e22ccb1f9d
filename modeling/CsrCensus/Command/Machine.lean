import CsrCensus.Command.Host
import CsrCensus.Files.Disk
import CsrCensus.Text.Utf8

/-!
# Machines

A machine is a host that is a value: a disk, what was printed, and what was
logged. A run on a machine shows everything that a command does.
-/

namespace CsrCensus.Command

/-- The surroundings of a command, as a value. -/
structure Machine where
  disk : Files.Disk
  /-- Where relative paths begin. -/
  directory : Files.Location
  /-- The text of the path of the working directory. -/
  directoryText : String
  printed : String
  logged : Array Log.Record

namespace Machine

/-- A machine on which nothing was printed or logged yet. -/
def start
    (disk : Files.Disk) (directory : Files.Location) (directoryText : String) :
    Machine :=
  ⟨disk, directory, directoryText, "", #[]⟩

def extendFile (machine : Machine) (location : Files.Location) (text : String) :
    Machine :=
  match machine.disk.entry? location with
  | some (.file contents) =>
      { machine with
        disk :=
          machine.disk.put location (.file (contents ++ Text.toUtf8 text)) }
  | _ => machine

end Machine

/-- A machine as the host of a command. Its open files are their locations. -/
instance : Host (StateM Machine) where
  Handle := Files.Location
  read path := do
    let machine ← get
    return machine.disk.read machine.directory path
  create path := do
    let machine ← get
    match machine.disk.target machine.directory path with
    | .error fault => return .error fault
    | .ok location => do
        set { machine with disk := machine.disk.put location (.file []) }
        return .ok location
  write location text := do
    modify fun machine => machine.extendFile location text
    return .ok ()
  print text := do
    modify fun machine => { machine with printed := machine.printed ++ text }
    return .ok ()
  log record :=
    modify fun machine => { machine with logged := machine.logged.push record }
  workingDirectory := do return (← get).directoryText

def Machine.perform
    {result : Type} (machine : Machine) (task : Task (StateM Machine) result) :
    Except Failure result × Machine :=
  task.run.run machine

end CsrCensus.Command
