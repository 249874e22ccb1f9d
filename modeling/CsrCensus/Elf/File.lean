import CsrCensus.Elf.Section

/-!
# ELF files

Opening a file checks its header, the header tables, the table of names, the
symbol tables and the relocation sections, in this order, and gives the list of
sections. The first fault found is reported.
-/

namespace CsrCensus.Elf

/-- The largest offset plus one. -/
def offsetLimit : Nat := UInt64.size

def isAligned (offset alignment : Nat) : Bool := offset % alignment = 0

/-- A condition that must hold, or else a fault. -/
def require (condition : Bool) (fault : Fault) : Except Fault Unit :=
  if condition then .ok () else .error fault

/-- The bytes of a table, if it lies in the file and starts at a multiple of the
address size. -/
def table? (layout : Layout) (file : Bytes) (offset size : Nat) :
    Option Bytes :=
  if isAligned offset layout.fileClass.addressSize then slice? file offset size
  else none

/-- The first section header, which holds counts that are too large for the file
header. It is absent if the file has no section headers. -/
def firstSection? (layout : Layout) (file : Bytes) (header : Header) :
    Except Fault (Option SectionHeader) := do
  if header.sectionOffset = 0 then return none
  require (header.sectionEntrySize = layout.fileClass.sectionHeaderSize)
    .sectionEntrySize
  match table? layout file header.sectionOffset
    layout.fileClass.sectionHeaderSize with
  | some stored => return some (readSectionHeader layout stored)
  | none => throw .firstSection

/-- The value of a 16-bit count that stands for a larger one. -/
def largeCount : Nat := 0xFFFF

def programCount (layout : Layout) (file : Bytes) (header : Header) :
    Except Fault Nat := do
  if header.programCount = largeCount then
    match ← firstSection? layout file header with
    | some first => return first.info
    | none => throw .noSectionForProgramCount
  else return header.programCount

def checkPrograms (layout : Layout) (file : Bytes) (header : Header) :
    Except Fault Unit := do
  if header.programOffset = 0 then return
  let count ← programCount layout file header
  if count = 0 then return
  require (header.programEntrySize = layout.fileClass.programHeaderSize)
    .programEntrySize
  require
    (table? layout file header.programOffset
      (count * layout.fileClass.programHeaderSize)).isSome .programTable

def sectionCount (layout : Layout) (file : Bytes) (header : Header) :
    Except Fault Nat := do
  if header.sectionCount = 0 then
    return ((← firstSection? layout file header).map SectionHeader.size).getD 0
  else return header.sectionCount

def readSections (layout : Layout) (file : Bytes) (header : Header) :
    Except Fault (List SectionHeader) := do
  if header.sectionOffset = 0 then return []
  let count ← sectionCount layout file header
  if count = 0 then return []
  require (header.sectionEntrySize = layout.fileClass.sectionHeaderSize)
    .sectionEntrySize
  match
    table? layout file header.sectionOffset
      (count * layout.fileClass.sectionHeaderSize) with
  | some stored => return readSectionHeaders layout count stored
  | none => throw .sectionTable

/-- The table of section names. Absent if there are no sections, or if it has no
bytes in the file. -/
def readNameTable (header : Header) (sections : List SectionHeader) :
    Except Fault (Option NameTable) :=
  match sections with
  | [] => .ok none
  | first :: _ =>
      let index :=
        if header.nameTable = largeCount then first.link else header.nameTable
      if index = 0 then .error .noNameTable
      else
        match sections[index]? with
        | none => .error .nameTableIndex
        | some names =>
            if names.type = .noBits then .ok none
            else if names.offset + names.size < offsetLimit then
              .ok (some ⟨names.offset, names.offset + names.size⟩)
            else .error .nameTableSize

def isTableOf
    (header : SectionHeader) (file : Bytes) (alignment entrySize : Nat) :
    Bool :=
  isAligned header.offset alignment && (header.contents? file).isSome &&
    header.size % entrySize = 0

def checkSymbolStrings
    (sections : List SectionHeader) (symbols : SectionHeader) :
    Except Fault Unit :=
  if symbols.link = 0 then .ok ()
  else
    match sections[symbols.link]? with
    | none => .error .sectionIndex
    | some strings =>
        if strings.type ≠ .stringTable then .error .stringSectionType
        else if strings.offset + strings.size < offsetLimit then .ok ()
        else .error .stringSectionRange

/-- Checks the first symbol table of one type, and gives its index, which is
zero if there is none. -/
def checkSymbols
    (layout : Layout) (file : Bytes) (sections : List SectionHeader)
    (type : SectionType) : Except Fault Nat :=
  match sections.findIdx? fun header => header.type = type with
  | none => .ok 0
  | some index =>
      match sections[index]? with
      | none => .ok 0
      | some symbols => do
          require
            (isTableOf symbols file layout.fileClass.addressSize
              layout.fileClass.symbolSize)
            .symbolTable
          checkSymbolStrings sections symbols
          require
            (sections.all fun header =>
              header.type ≠ .symbolIndexTable || header.link ≠ index ||
                isTableOf header file 4 4)
            .symbolIndexTable
          return index

/-- Checks one section that may hold relocations for the symbols at an index. -/
def checkRelocation
    (sections : List SectionHeader) (symbols : Nat) (header : SectionHeader) :
    Except Fault Unit :=
  if header.isRelocations && header.link = symbols && header.info ≠ 0 then
    match sections[header.info]? with
    | none => .error .relocationTarget
    | some target =>
        if target.isRelocations then .error .relocationOfRelocation else .ok ()
  else .ok ()

/-- Checks the sections that hold relocations, from the last one to the
first. -/
def checkRelocations (sections : List SectionHeader) (symbols : Nat) :
    Except Fault Unit :=
  sections.reverse.forM (checkRelocation sections symbols)

/-- The sections of a file, in file order and without the first one, which is no
section. -/
def sections (file : Bytes) : Except Fault (List Section) := do
  let layout ← readLayout file
  let header := readHeader layout file
  checkPrograms layout file header
  let headers ← readSections layout file header
  let names ← readNameTable header headers
  let symbols ← checkSymbols layout file headers .symbolTable
  let _ ← checkSymbols layout file headers .dynamicSymbols
  checkRelocations headers symbols
  return headers.tail.map (Section.ofHeader file names)

end CsrCensus.Elf
