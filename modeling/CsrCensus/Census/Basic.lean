import CsrCensus.Census.Tally
import CsrCensus.Csr.Class
import CsrCensus.Instruction.Basic
import CsrCensus.Word.Order

/-!
# The census

What is known after a number of words has been read: the SYSTEM instructions
sighted so far, how often each kind of instruction and each CSR occurred, and
the bytes at the end of a region that form no word.
-/

namespace CsrCensus

/-- One SYSTEM instruction, where it was found, and the class of the CSR it
accesses. -/
structure Sighting where
  offset : UInt64
  word : Word
  instruction : Instruction
  cls : Option Csr.Class
deriving DecidableEq, Repr

/-- Bytes at the end of a region that form no whole word. -/
structure Remainder where
  offset : UInt64
  length : Nat
deriving DecidableEq, Repr

/-- The state of a census. -/
structure Census where
  /-- Sightings of instructions, in reading order. -/
  known : Array Sighting
  /-- Sightings of reserved encodings, in reading order. -/
  reserved : Array Sighting
  /-- Occurrences of each kind, in order of first occurrence. -/
  kinds : Tally Instruction.Kind
  /-- Accesses to each CSR, by ascending address. -/
  registers : Tally UInt16
  /-- Incomplete words, in reading order. -/
  remainders : Array Remainder
  /-- Number of whole words read, SYSTEM or not. -/
  words : Nat
deriving DecidableEq

namespace Census

/-- The census before anything is read. -/
def empty : Census := ⟨#[], #[], [], [], #[], 0⟩

/-- Counts an access to a CSR, if there is one. -/
def countAccess (registers : Tally UInt16) : Option UInt16 → Tally UInt16
  | none => registers
  | some csr => registers.bumpBy (fun left right => left < right) csr

/-- Adds one sighting. -/
def record (census : Census) (sighting : Sighting) : Census :=
  { census with
    known :=
      if sighting.instruction.isReserved then census.known
      else census.known.push sighting
    reserved :=
      if sighting.instruction.isReserved then census.reserved.push sighting
      else census.reserved
    kinds := census.kinds.bump sighting.instruction.kind
    registers := countAccess census.registers sighting.instruction.csr? }

/-- Adds one incomplete word. -/
def recordRemainder (census : Census) (remainder : Remainder) : Census :=
  { census with remainders := census.remainders.push remainder }

def systemWords (census : Census) : Nat := census.kinds.total

/-- Number of CSR accesses. -/
def accesses (census : Census) : Nat := census.registers.total

/-- Whether no SYSTEM instruction was recorded. -/
def isEmpty (census : Census) : Bool :=
  census.known.isEmpty && census.reserved.isEmpty

end Census

end CsrCensus
