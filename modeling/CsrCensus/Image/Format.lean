import CsrCensus.Elf.File

/-!
# Image formats and their regions

A region is a run of bytes with the address of its first byte. An image is a
flat sequence of bytes or an ELF file. A flat image is one region. From an ELF
file the regions of the wanted kinds are taken: sections with contents, in the
order of their addresses.
-/

namespace CsrCensus.Image

/-- A named run of bytes and the address of the first one. -/
structure Region where
  name : String
  base : UInt64
  bytes : Bytes
deriving DecidableEq, Repr

/-- An image without sections: one region at address zero. -/
def Region.flat (bytes : Bytes) : Region := ⟨"image", 0, bytes⟩

/-- The format of an image. -/
inductive Format where
  | raw
  | elf
deriving DecidableEq, Repr

def Format.detect (image : Bytes) : Format :=
  if (Elf.identify? image).isSome then .elf else .raw

/-- A wish for a format. -/
inductive FormatChoice where
  | auto
  | only (format : Format)
deriving DecidableEq, Repr

def FormatChoice.resolve (choice : FormatChoice) (image : Bytes) : Format :=
  match choice with
  | .auto => Format.detect image
  | .only format => format

/-- What regions are taken for. -/
inductive Purpose where
  /-- Reading instructions. -/
  | survey
  /-- Filling a memory. -/
  | listing
deriving DecidableEq, Repr

def Purpose.wants (purpose : Purpose) (kind : Elf.SectionKind) : Bool :=
  match purpose with
  | .survey => kind.isExecutable
  | .listing => kind.isLoadable

/-- Why an image has no regions. -/
inductive Fault where
  | malformed (fault : Elf.Fault)
  /-- The file has no contents that serve the purpose. -/
  | nothing (purpose : Purpose)
deriving DecidableEq, Repr

/-- The wording of a fault. -/
def Fault.message : Fault → String
  | .malformed fault => "malformed ELF image: " ++ fault.message
  | .nothing .survey => "ELF image has no executable sections to scan"
  | .nothing .listing => "ELF image has no loadable sections to list"

/-- The regions found in file order, and the fault that ended the search, if
any. -/
structure Selection where
  found : List Region
  fault : Option Elf.Fault
deriving DecidableEq

/-- Takes the sections that serve a purpose and are not empty, up to the first
one whose contents cannot be read. -/
def select (purpose : Purpose) : List Elf.Section → Selection
  | [] => ⟨[], none⟩
  | entry :: rest =>
      if purpose.wants entry.kind then
        match entry.contents with
        | none => ⟨[], some .sectionData⟩
        | some [] => select purpose rest
        | some contents =>
            let later := select purpose rest
            ⟨⟨entry.name, entry.address, contents⟩ :: later.found, later.fault⟩
      else select purpose rest

/-- Regions in the order of their addresses; equal addresses keep their
order. -/
def inAddressOrder (found : List Region) : List Region :=
  found.mergeSort fun left right => left.base ≤ right.base

def Selection.regions (selection : Selection) (purpose : Purpose) :
    Except Fault (List Region) :=
  match selection.fault with
  | some fault => .error (.malformed fault)
  | none =>
      if selection.found.isEmpty then .error (.nothing purpose)
      else .ok (inAddressOrder selection.found)

def elfRegions (purpose : Purpose) (image : Bytes) :
    Except Fault (List Region) :=
  match Elf.sections image with
  | .error fault => .error (.malformed fault)
  | .ok sections => (select purpose sections).regions purpose

def regions (purpose : Purpose) (choice : FormatChoice) (image : Bytes) :
    Except Fault (List Region) :=
  match choice.resolve image with
  | .raw => .ok [Region.flat image]
  | .elf => elfRegions purpose image

end CsrCensus.Image
