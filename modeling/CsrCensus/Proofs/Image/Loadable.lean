import CsrCensus.Proofs.Image.Selection

/-!
# The memory that a listing initialises

A listing of an ELF file holds all program bits that occupy memory. The arrays
of functions that run before or after a program occupy memory as well, but are
left out.
-/

namespace CsrCensus

namespace Elf

/-- Whether a section is memory with contents: program bits, or an array of
functions. -/
structure Section.IsInitialised (entry : Section) : Prop where
  occupiesMemory : entry.header.occupiesMemory = true
  type : entry.header.type = .programBits ∨ entry.header.type = .functionArray
  contents : ∃ contents, entry.contents = some contents ∧ contents ≠ []

theorem SectionHeader.kind_eq_other_iff {header : SectionHeader} :
    header.kind = .other ↔
      header.type ≠ .programBits ∨ header.occupiesMemory = false := by
  unfold kind
  split_ifs with outside <;> simp [outside]

end Elf

namespace Image

theorem listing_wants_iff {header : Elf.SectionHeader} :
    Purpose.listing.wants header.kind ↔
      header.type = .programBits ∧ header.occupiesMemory = true := by
  have loadable : Purpose.listing.wants header.kind ↔ header.kind ≠ .other :=
    decide_eq_true_iff
  rw [loadable, ne_eq, Elf.SectionHeader.kind_eq_other_iff, not_or, not_not,
    Bool.not_eq_false]

theorem region?_listing_eq_some_iff {entry : Elf.Section} {region : Region} :
    region? .listing entry = some region ↔
      entry.IsInitialised ∧ entry.header.type = .programBits ∧
        region = ⟨entry.name, entry.address, entry.contents.getD []⟩ := by
  rw [region?_eq_some_iff, Elf.Section.kind, listing_wants_iff]
  constructor
  · rintro ⟨⟨⟨type, occupies⟩, contents⟩, rfl⟩
    exact ⟨⟨occupies, .inl type, contents⟩, type, rfl⟩
  · rintro ⟨initialised, type, rfl⟩
    exact ⟨⟨⟨type, initialised.occupiesMemory⟩, initialised.contents⟩, rfl⟩

/-- What is listed of an ELF file are the sections with program bits among those
that are initialised memory, with their addresses and contents, and nothing
else. -/
theorem listing_holds_program_bits
    {choice : FormatChoice} {image : Bytes} {listed : List Region}
    (elf : choice.resolve image = .elf)
    (found : regions .listing choice image = .ok listed) :
    ∃ sections, Elf.sections image = .ok sections ∧
      ∀ region,
        region ∈ listed ↔
          ∃ entry ∈ sections,
            entry.IsInitialised ∧ entry.header.type = .programBits ∧
              region = ⟨entry.name, entry.address, entry.contents.getD []⟩ := by
  rw [regions, elf] at found
  obtain ⟨sections, opened, mem_iff⟩ := exists_mem_elfRegions_iff found
  refine ⟨sections, opened, fun region => ?_⟩
  simp only [mem_iff, region?_listing_eq_some_iff]

/-- A file with code and with the address of that code in an array of functions
that run before it. -/
def arrayFile : Bytes :=
  [0x7F, 0x45, 0x4C, 0x46, 1, 1, 1, 0, 0, 0, 0, 0, 0, 0, 0, 0] ++
    [2, 0, 0xF3, 0, 1, 0, 0, 0, 0, 0x10, 0, 0, 0, 0, 0, 0, 80, 0, 0, 0, 0, 0, 0,
      0] ++
    [52, 0, 32, 0, 0, 0, 40, 0, 4, 0, 1, 0] ++ [0x73, 0, 0, 0] ++
    [0x00, 0x10, 0, 0] ++
    [0, 0x2E, 0x74, 0x65, 0x78, 0x74, 0] ++
    [0x2E, 0x69, 0x6E, 0x69, 0x74, 0x5F, 0x61, 0x72, 0x72, 0x61, 0x79, 0] ++
    [0] ++
    List.replicate 40 0 ++ headerBytes 0 3 0 0 0 60 19 ++
    headerBytes 1 1 6 0 16 52 4 ++
    headerBytes 7 14 3 0 32 56 4

/-- The section table of this file. -/
def arrayTable : List Elf.Section :=
  [⟨⟨0, .stringTable, 0, 0, 60, 19, 0, 0⟩, "",
      some
        [0, 0x2E, 0x74, 0x65, 0x78, 0x74, 0, 0x2E, 0x69, 0x6E, 0x69, 0x74,
          0x5F, 0x61, 0x72, 0x72, 0x61, 0x79, 0]⟩,
    ⟨⟨1, .programBits, 6, 0x1000, 52, 4, 0, 0⟩, ".text", some [0x73, 0, 0, 0]⟩,
    ⟨⟨7, .functionArray, 3, 0x2000, 56, 4, 0, 0⟩, ".init_array",
      some [0x00, 0x10, 0, 0]⟩]

set_option maxRecDepth 2048 in
theorem sections_arrayFile : Elf.sections arrayFile = .ok arrayTable :=
  rfl

theorem regions_arrayFile :
    regions .listing .auto arrayFile =
      .ok [⟨".text", 0x1000, [0x73, 0, 0, 0]⟩] := by
  have elf : FormatChoice.auto.resolve arrayFile = .elf := by decide
  rw [regions_of_sections .listing elf sections_arrayFile]
  change Except.ok (inAddressOrder [⟨".text", 0x1000, [0x73, 0, 0, 0]⟩]) = _
  simp [inAddressOrder]

theorem listing_holds_program_bits_code :
    FormatChoice.auto.resolve arrayFile = .elf ∧
      regions .listing .auto arrayFile =
        .ok [⟨".text", 0x1000, [0x73, 0, 0, 0]⟩] ∧
      ∃ entry ∈ arrayTable,
        entry.IsInitialised ∧ entry.header.type = .programBits ∧
          (⟨".text", 0x1000, [0x73, 0, 0, 0]⟩ : Region) =
            ⟨entry.name, entry.address, entry.contents.getD []⟩ := by
  have elf : FormatChoice.auto.resolve arrayFile = .elf := by decide
  obtain ⟨sections, opened, mem_iff⟩ :=
    listing_holds_program_bits elf regions_arrayFile
  obtain rfl : sections = arrayTable :=
    Except.ok.inj (opened.symm.trans sections_arrayFile)
  exact ⟨elf, regions_arrayFile, (mem_iff _).mp (List.mem_singleton_self _)⟩

/-- An array of functions is initialised memory that no listed region holds. -/
theorem listing_leaves_out_function_array :
    FormatChoice.auto.resolve arrayFile = .elf ∧
      Elf.sections arrayFile = .ok arrayTable ∧
      ∃ listed, regions .listing .auto arrayFile = .ok listed ∧
        ∃ entry ∈ arrayTable,
          entry.name = ".init_array" ∧ entry.IsInitialised ∧
            ∀ region ∈ listed,
              ¬ (region.base = entry.address ∧
                entry.contents = some region.bytes) := by
  let array : Elf.Section :=
    ⟨⟨7, .functionArray, 3, 0x2000, 56, 4, 0, 0⟩, ".init_array",
      some [0x00, 0x10, 0, 0]⟩
  have member : array ∈ arrayTable := by simp [array, arrayTable]
  have initialised : array.IsInitialised :=
    ⟨by decide, .inr rfl, _, rfl, by decide⟩
  refine
    ⟨by decide, sections_arrayFile, _, regions_arrayFile, array, member, rfl,
      initialised, ?_⟩
  rw [List.forall_mem_singleton]
  rintro ⟨address, -⟩
  exact absurd address (by decide)

end Image

end CsrCensus
