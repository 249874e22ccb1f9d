import CsrCensus.Listing.Basic

/-!
# Writing a listing

A sink accepts a limited number of characters and then fails. What it accepted
before it failed is kept. A listing is written line by line, and then the sink
is flushed.
-/

namespace CsrCensus

/-- Where a listing is written to. -/
structure Sink where
  /-- What was accepted so far. -/
  accepted : String
  /-- How many more characters are accepted; unlimited if absent. -/
  room : Option Nat
  /-- Whether flushing fails. -/
  flushFails : Bool
deriving DecidableEq, Repr

namespace Sink

/-- Why writing failed. -/
inductive Fault where
  | full
  | flush
deriving DecidableEq, Repr

/-- The wording of a fault. -/
def Fault.message : Fault → String
  | .full => "disk full"
  | .flush => "flush failed"

/-- A sink that never fails. -/
def unlimited : Sink := ⟨"", none, false⟩

/-- A computation that writes to a sink; the sink survives a fault. -/
abbrev Writing := ExceptT Fault (StateM Sink)

/-- Writes a text, as far as there is room for it. -/
def write (text : String) : Writing Unit := do
  let sink ← get
  match sink.room with
  | none => set { sink with accepted := sink.accepted ++ text }
  | some room =>
      if text.length ≤ room then
        set { sink with
          accepted := sink.accepted ++ text, room := some (room - text.length) }
      else do
        set { sink with
          accepted := sink.accepted ++ String.ofList (text.toList.take room),
                        room := some 0 }
        throw .full

def flush : Writing Unit := do
  if (← get).flushFails then throw .flush

def writeLines : List Listing.Line → Writing Unit
  | [] => pure ()
  | line :: rest => do
      write line.text
      writeLines rest

/-- Writes a whole listing and gives the number of its lines. -/
def writeListing (lines : List Listing.Line) : Writing Nat := do
  writeLines lines
  flush
  return lines.length

end Sink

end CsrCensus
