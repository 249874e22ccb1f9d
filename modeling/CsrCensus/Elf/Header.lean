import CsrCensus.Elf.Fault
import CsrCensus.Word.Order

/-!
# The file header

The identification of an ELF file and the fields of its header that locate the
header tables. Files of both classes and both byte orders are read.
-/

namespace CsrCensus.Elf

/-- The class of a file, which fixes the width of addresses. -/
inductive FileClass where
  | narrow
  | wide
deriving DecidableEq, Repr

namespace FileClass

/-- Bytes of an address; tables start at multiples of it. -/
def addressSize : FileClass → Nat
  | .narrow => 4
  | .wide => 8

def headerSize : FileClass → Nat
  | .narrow => 52
  | .wide => 64

def programHeaderSize : FileClass → Nat
  | .narrow => 32
  | .wide => 56

def sectionHeaderSize : FileClass → Nat
  | .narrow => 40
  | .wide => 64

/-- Bytes of a symbol. -/
def symbolSize : FileClass → Nat
  | .narrow => 16
  | .wide => 24

/-- One of two values, by class. -/
def pick (fileClass : FileClass) (narrow wide : Nat) : Nat :=
  match fileClass with
  | .narrow => narrow
  | .wide => wide

end FileClass

/-- How the numbers of a file are stored. -/
structure Layout where
  fileClass : FileClass
  order : ByteOrder
deriving DecidableEq, Repr

/-- The number stored in `width` bytes at an offset. -/
def Layout.number (layout : Layout) (stored : Bytes) (offset width : Nat) :
    Nat :=
  layout.order.natural ((stored.drop offset).take width)

def Layout.address (layout : Layout) (stored : Bytes) (offset : Nat) : Nat :=
  layout.number stored offset layout.fileClass.addressSize

/-- The bytes at a place of a file, if the place lies in the file. -/
def slice? (file : Bytes) (offset size : Nat) : Option Bytes :=
  if offset + size ≤ file.length then some ((file.drop offset).take size)
  else none

def identify? (file : Bytes) : Option FileClass :=
  match file.take 16 with
  | [0x7F, 0x45, 0x4C, 0x46, 1, _, _, _, _, _, _, _, _, _, _, _] => some .narrow
  | [0x7F, 0x45, 0x4C, 0x46, 2, _, _, _, _, _, _, _, _, _, _, _] => some .wide
  | _ => none

/-- The byte order named by the data byte of the identification. -/
def orderOf? : UInt8 → Option ByteOrder
  | 1 => some .little
  | 2 => some .big
  | _ => none

/-- Reads the identification. -/
def readLayout (file : Bytes) : Except Fault Layout :=
  match identify? file with
  | none => .error (if file.length < 16 then .noMagic else .unknownMagic)
  | some fileClass =>
      if file.length < fileClass.headerSize then .error .header
      else
        match file.drop 5 with
        | data :: version :: _ =>
            match orderOf? data with
            | some order =>
                if version = 1 then .ok ⟨fileClass, order⟩
                else .error .unsupportedHeader
            | none => .error .unsupportedHeader
        | _ => .error .header

/-- Where the header tables of a file are. -/
structure Header where
  programOffset : Nat
  sectionOffset : Nat
  programEntrySize : Nat
  programCount : Nat
  sectionEntrySize : Nat
  sectionCount : Nat
  nameTable : Nat
deriving DecidableEq, Repr

/-- Reads the header of a file that is long enough to hold it. -/
def readHeader (layout : Layout) (file : Bytes) : Header :=
  let pick := layout.fileClass.pick
  let half := fun narrow wide => layout.number file (pick narrow wide) 2
  { programOffset := layout.address file (pick 28 32)
    sectionOffset := layout.address file (pick 32 40)
    programEntrySize := half 42 54
    programCount := half 44 56
    sectionEntrySize := half 46 58
    sectionCount := half 48 60
    nameTable := half 50 62 }

end CsrCensus.Elf
