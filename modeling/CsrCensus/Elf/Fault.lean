/-!
# Faults of an ELF file
-/

namespace CsrCensus.Elf

/-- Why a file cannot be read as ELF. -/
inductive Fault where
  | noMagic
  | unknownMagic
  | header
  | unsupportedHeader
  | noSectionForProgramCount
  | programEntrySize
  | programTable
  | sectionEntrySize
  | sectionTable
  | firstSection
  | noNameTable
  | nameTableIndex
  | nameTableSize
  | symbolTable
  | sectionIndex
  | stringSectionType
  | stringSectionRange
  | symbolIndexTable
  | relocationTarget
  | relocationOfRelocation
  | sectionData
deriving DecidableEq, Repr

/-- The wording of a fault. -/
def Fault.message : Fault → String
  | .noMagic => "Could not read file magic"
  | .unknownMagic => "Unknown file magic"
  | .header => "Invalid ELF header size or alignment"
  | .unsupportedHeader => "Unsupported ELF header"
  | .noSectionForProgramCount =>
      "Missing ELF section headers for e_phnum overflow"
  | .programEntrySize => "Invalid ELF program header entry size"
  | .programTable => "Invalid ELF program header size or alignment"
  | .sectionEntrySize => "Invalid ELF section header entry size"
  | .sectionTable => "Invalid ELF section header offset/size/alignment"
  | .firstSection => "Invalid ELF section header offset or size"
  | .noNameTable => "Missing ELF e_shstrndx"
  | .nameTableIndex => "Invalid ELF e_shstrndx"
  | .nameTableSize => "Invalid ELF shstrtab size"
  | .symbolTable => "Invalid ELF symbol table data"
  | .sectionIndex => "Invalid ELF section index"
  | .stringSectionType => "Invalid ELF string section type"
  | .stringSectionRange => "Invalid ELF string section offset or size"
  | .symbolIndexTable => "Invalid ELF symtab_shndx data"
  | .relocationTarget => "Invalid ELF sh_info for relocation section"
  | .relocationOfRelocation => "Unsupported ELF sh_info for relocation section"
  | .sectionData => "Invalid ELF section size or offset"

end CsrCensus.Elf
