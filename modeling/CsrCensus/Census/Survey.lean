import CsrCensus.Census.Basic
import CsrCensus.Csr.Table
import CsrCensus.Image.Format
import CsrCensus.Instruction.Encoding

/-!
# Surveys

A surveyor reads bytes word by word and records every SYSTEM instruction in a
census. Addresses wrap at the top of the 64-bit address space. Bytes at the end
that form no word are recorded as a remainder; they are never filled up to a
word.
-/

namespace CsrCensus

/-- How words are read and CSRs are classified. -/
structure Surveyor where
  table : Csr.Table
  order : ByteOrder

/-- What is known after reading the whole words of some bytes. -/
structure Surveyor.Progress where
  census : Census
  /-- Address of the first byte not yet read. -/
  offset : UInt64
  /-- Bytes that form no whole word yet, fewer than four. -/
  held : Bytes

namespace Surveyor

/-- The SYSTEM instruction in a word, with the class of the CSR it accesses. -/
def sighting? (surveyor : Surveyor) (offset : UInt64) (word : Word) :
    Option Sighting :=
  (Instruction.ofWord? word).map fun instruction =>
    ⟨offset, word, instruction, instruction.csr?.map surveyor.table.classOf⟩

def readWord
    (surveyor : Surveyor) (census : Census) (offset : UInt64) (word : Word) :
    Census :=
  let counted := { census with words := census.words + 1 }
  match surveyor.sighting? offset word with
  | none => counted
  | some sighting => counted.record sighting

def readWords (surveyor : Surveyor) (census : Census) (offset : UInt64) :
    Bytes → Progress
  | first :: second :: third :: fourth :: rest =>
      surveyor.readWords
        (surveyor.readWord census offset
          (surveyor.order.word first second third fourth))
        (offset + 4) rest
  | held => ⟨census, offset, held⟩

/-- Records the bytes that are left at the end. -/
def Progress.finish (progress : Progress) : Census :=
  match progress.held with
  | [] => progress.census
  | held => progress.census.recordRemainder ⟨progress.offset, held.length⟩

/-- Continues a census over the bytes from one address on. -/
def surveyBytes
    (surveyor : Surveyor) (census : Census) (base : UInt64) (bytes : Bytes) :
    Census :=
  (surveyor.readWords census base bytes).finish

/-- Continues a census over one region. -/
def surveyRegion
    (surveyor : Surveyor) (census : Census) (region : Image.Region) : Census :=
  surveyor.surveyBytes census region.base region.bytes

/-- The census of a list of regions, each read from its own base. -/
def survey (surveyor : Surveyor) (regions : List Image.Region) : Census :=
  regions.foldl surveyor.surveyRegion Census.empty

end Surveyor

end CsrCensus
