import CsrCensus.Elf.Header
import CsrCensus.Text.Utf8

/-!
# Sections

The fields of a section header, the kind of contents a section has, and the
bytes and the name that its header refers to.
-/

namespace CsrCensus.Elf

/-- The types of sections that matter here. -/
inductive SectionType where
  | programBits
  | symbolTable
  | stringTable
  | relocationsWithAddends
  /-- A section without bytes in the file. -/
  | noBits
  | relocations
  | dynamicSymbols
  /-- An array of functions that run before, or after, a program. -/
  | functionArray
  | symbolIndexTable
  | other
deriving DecidableEq, Repr

def SectionType.ofNumber : Nat → SectionType
  | 1 => .programBits
  | 2 => .symbolTable
  | 3 => .stringTable
  | 4 => .relocationsWithAddends
  | 8 => .noBits
  | 9 => .relocations
  | 11 => .dynamicSymbols
  | 14 => .functionArray
  | 15 => .functionArray
  | 16 => .functionArray
  | 18 => .symbolIndexTable
  | _ => .other

/-- A section header. -/
structure SectionHeader where
  /-- Offset of the name in the table of names. -/
  name : Nat
  type : SectionType
  flags : Nat
  address : Nat
  offset : Nat
  size : Nat
  link : Nat
  info : Nat
deriving DecidableEq, Repr

def readSectionHeader (layout : Layout) (stored : Bytes) : SectionHeader :=
  let pick := layout.fileClass.pick
  let word := fun narrow wide => layout.number stored (pick narrow wide) 4
  let address := fun narrow wide => layout.address stored (pick narrow wide)
  { name := word 0 0
    type := SectionType.ofNumber (word 4 4)
    flags := address 8 8
    address := address 12 16
    offset := address 16 24
    size := address 20 32
    link := word 24 40
    info := word 28 44 }

def readSectionHeaders (layout : Layout) : Nat → Bytes → List SectionHeader
  | 0, _ => []
  | count + 1, stored =>
      readSectionHeader layout stored ::
        readSectionHeaders layout count
          (stored.drop layout.fileClass.sectionHeaderSize)

namespace SectionHeader

def isWritable (header : SectionHeader) : Bool := header.flags.testBit 0

def occupiesMemory (header : SectionHeader) : Bool := header.flags.testBit 1

def holdsInstructions (header : SectionHeader) : Bool := header.flags.testBit 2

def holdsStrings (header : SectionHeader) : Bool := header.flags.testBit 5

/-- Whether every thread has its own copy of the section. -/
def isThreadLocal (header : SectionHeader) : Bool := header.flags.testBit 10

def isRelocations (header : SectionHeader) : Bool :=
  header.type = .relocations || header.type = .relocationsWithAddends

/-- The bytes of the section, if they lie in the file. -/
def contents? (header : SectionHeader) (file : Bytes) : Option Bytes :=
  slice? file header.offset header.size

end SectionHeader

/-- What a section holds. -/
inductive SectionKind where
  | text
  | data
  | readOnlyData
  | readOnlyString
  | threadLocal
  /-- Nothing that is part of a program in memory. -/
  | other
deriving DecidableEq, Repr

/-- The kind of a section. Only program bits that occupy memory have a kind of
their own; of several flags the first in this order decides. -/
def SectionHeader.kind (header : SectionHeader) : SectionKind :=
  if header.type ≠ .programBits ∨ header.occupiesMemory = false then .other
  else if header.holdsInstructions then .text
  else if header.isThreadLocal then .threadLocal
  else if header.isWritable then .data
  else if header.holdsStrings then .readOnlyString
  else .readOnlyData

def SectionKind.isExecutable (kind : SectionKind) : Bool :=
  kind = .text

/-- Whether sections of a kind are part of the memory image of a program. -/
def SectionKind.isLoadable (kind : SectionKind) : Bool :=
  kind ≠ .other

/-- A table of names: a range of the file. -/
structure NameTable where
  first : Nat
  last : Nat
deriving DecidableEq, Repr

/-- The bytes up to the first zero byte, if there is one. -/
def untilZero? (bytes : Bytes) : Option Bytes :=
  let name := bytes.takeWhile (· != 0)
  if name.length < bytes.length then some name else none

def NameTable.name? (table : NameTable) (file : Bytes) (offset : Nat) :
    Option String :=
  let start := table.first + offset
  if start ≤ table.last ∧ table.last ≤ file.length then
    (untilZero? ((file.drop start).take (table.last - start))).bind Text.ofUtf8?
  else none

/-- A section: its header, and what the header refers to. -/
structure Section where
  header : SectionHeader
  name : String
  /-- The contents; absent if they do not lie in the file. -/
  contents : Option Bytes
deriving DecidableEq

namespace Section

/-- The name of a section that has none that can be read. -/
def unnamed : String := "<unnamed>"

def ofHeader
    (file : Bytes) (names : Option NameTable) (header : SectionHeader) :
    Section :=
  { header
    name := (names.bind fun table => table.name? file header.name).getD unnamed
    contents := header.contents? file }

/-- What the section holds. -/
def kind (entry : Section) : SectionKind := entry.header.kind

/-- The address of the first byte. -/
def address (entry : Section) : UInt64 := UInt64.ofNat entry.header.address

end Section

end CsrCensus.Elf
