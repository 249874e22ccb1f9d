import CsrCensus.Proofs.Image.Regions
import CsrCensus.Proofs.Sequence
import Mathlib.Data.List.Basic

/-!
# Sections and the regions taken from them

The regions of an ELF file are those of the sections that serve the purpose and
are not empty, by address, and at one address in the order of the section table.
There are none if the contents of one of these sections cannot be read, be it
the last one.
-/

namespace CsrCensus.Elf

open Sequence

/-- A section is what its header refers to in the file. -/
theorem exists_ofHeader {file : Bytes} {entries : List Section}
    (opened : sections file = .ok entries) :
    ∃ names,
      ∀ entry ∈ entries, entry = Section.ofHeader file names entry.header := by
  obtain ⟨layout, -, opened⟩ := exists_ok_of_bind opened
  obtain ⟨_, -, opened⟩ := exists_ok_of_bind opened
  obtain ⟨headers, -, opened⟩ := exists_ok_of_bind opened
  obtain ⟨names, -, opened⟩ := exists_ok_of_bind opened
  obtain ⟨symbols, -, opened⟩ := exists_ok_of_bind opened
  obtain ⟨_, -, opened⟩ := exists_ok_of_bind opened
  obtain ⟨_, -, opened⟩ := exists_ok_of_bind opened
  refine ⟨names, ?_⟩
  cases opened
  intro entry member
  obtain ⟨header, -, rfl⟩ := List.mem_map.mp member
  rfl

end CsrCensus.Elf

namespace CsrCensus.Image

/-- Whether a section, given with its place in the section table, comes before
another one: its address is lower, or it has the same address and a lower
place. -/
def Before (left right : Elf.Section × Nat) : Prop :=
  left.1.address < right.1.address ∨
    left.1.address = right.1.address ∧ left.2 < right.2

theorem Before.asymm
    {left right : Elf.Section × Nat} (before : Before left right) :
    ¬ Before right left := by
  unfold Before at *
  simp only [UInt64.lt_iff_toNat_lt, ← UInt64.toNat_inj] at *
  omega

/-- The sections of a table that serve a purpose and are not empty, each once
and in order. -/
structure Picks (purpose : Purpose) (sections : List Elf.Section)
    (picked : List (Elf.Section × Nat)) : Prop where
  mem_iff :
    ∀ entry place,
      (entry, place) ∈ picked ↔
        sections[place]? = some entry ∧ purpose.wants entry.kind ∧
          ∃ contents, entry.contents = some contents ∧ contents ≠ []
  ordered : picked.Pairwise Before

theorem nodup_of_ordered
    {picked : List (Elf.Section × Nat)} (ordered : picked.Pairwise Before) :
    picked.Nodup := by
  refine ordered.imp fun before equal => ?_
  subst equal
  exact before.asymm before

/-- There is only one way to pick the sections. -/
theorem Picks.unique
    {purpose : Purpose} {sections : List Elf.Section}
    {picked others : List (Elf.Section × Nat)}
    (picks : Picks purpose sections picked)
    (same : Picks purpose sections others) :
    picked = others := by
  have permutation : picked.Perm others := by
    rw [List.perm_ext_iff_of_nodup (nodup_of_ordered picks.ordered)
      (nodup_of_ordered same.ordered)]
    rintro ⟨entry, place⟩
    rw [picks.mem_iff, same.mem_iff]
  apply permutation.eq_of_pairwise _ picks.ordered same.ordered
  intro left right _ _ before after
  exact absurd after before.asymm

/-! ## Picking -/

/-- The region of a section. -/
def Region.ofSection (entry : Elf.Section) : Region :=
  ⟨entry.name, entry.address, entry.contents.getD []⟩

theorem region?_eq_some_iff
    {purpose : Purpose} {entry : Elf.Section} {region : Region} :
    region? purpose entry = some region ↔
      (purpose.wants entry.kind ∧
        ∃ contents, entry.contents = some contents ∧ contents ≠ []) ∧
        region = Region.ofSection entry := by
  rw [region?]
  by_cases wanted : purpose.wants entry.kind
  · cases found : entry.contents with
    | none => simp [wanted]
    | some contents =>
        cases contents with
        | nil => simp [wanted]
        | cons first rest => simp [wanted, Region.ofSection, found, eq_comm]
  · simp [wanted]

theorem isSome_region?_iff {purpose : Purpose} {entry : Elf.Section} :
    (region? purpose entry).isSome ↔
      purpose.wants entry.kind ∧
        ∃ contents, entry.contents = some contents ∧ contents ≠ [] := by
  rw [Option.isSome_iff_exists]
  simp only [region?_eq_some_iff, exists_and_left, exists_eq, and_true]

theorem filterMap_region? (purpose : Purpose) (sections : List Elf.Section) :
    sections.filterMap (region? purpose) =
      (sections.zipIdx.filter fun entry => (region? purpose entry.1).isSome).map
        fun entry => Region.ofSection entry.1 := by
  conv =>
    lhs
    rw [← List.zipIdx_map_fst 0 sections, List.filterMap_map]
  rw [← List.filterMap_eq_map, List.filterMap_filter]
  apply List.filterMap_congr
  rintro ⟨entry, place⟩ _
  cases found : region? purpose entry with
  | none => simp [found]
  | some region => simp [found, (region?_eq_some_iff.mp found).2]

/-- Sections sorted by address. -/
def byAddress (entries : List (Elf.Section × Nat)) : List (Elf.Section × Nat) :=
  entries.mergeSort fun left right => left.1.address ≤ right.1.address

theorem inAddressOrder_map (entries : List (Elf.Section × Nat)) :
    inAddressOrder (entries.map fun entry => Region.ofSection entry.1) =
      (byAddress entries).map fun entry => Region.ofSection entry.1 := by
  symm
  apply List.map_mergeSort
  intro left _ right _
  rfl

private theorem address_trans (first second third : Elf.Section × Nat) :
    decide (first.1.address ≤ second.1.address) →
      decide (second.1.address ≤ third.1.address) →
      decide (first.1.address ≤ third.1.address) := by
  simpa only [decide_eq_true_eq] using UInt64.le_trans

private theorem address_total (first second : Elf.Section × Nat) :
    decide (first.1.address ≤ second.1.address) ||
      decide (second.1.address ≤ first.1.address) := by
  simpa using UInt64.le_total first.1.address second.1.address

/-- Sections in the order of the section table are put in order by their
addresses alone. -/
theorem byAddress_ordered
    {entries : List (Elf.Section × Nat)}
    (ascending : entries.Pairwise fun left right => left.2 < right.2) :
    (byAddress entries).Pairwise Before := by
  rw [List.pairwise_iff_forall_sublist]
  intro left right inside
  have sorted :
      (byAddress entries).Pairwise fun left right =>
        decide (left.1.address ≤ right.1.address) = true :=
    List.pairwise_mergeSort address_trans address_total entries
  have le : left.1.address ≤ right.1.address := by
    simpa using List.pairwise_iff_forall_sublist.mp sorted inside
  by_cases same : left.1.address = right.1.address
  · -- The sections of one address have kept their order.
    have kept :
        ((byAddress entries).filter fun entry =>
          entry.1.address = right.1.address) =
          entries.filter fun entry => entry.1.address = right.1.address := by
      apply Sorting.filter_mergeSort_of_tied address_trans address_total
      intro first second firstAddress secondAddress
      simp_all
    have filtered :=
      inside.filter fun entry => decide (entry.1.address = right.1.address)
    rw [kept] at filtered
    simp only [List.filter_cons, same, decide_true, if_true,
      List.filter_nil] at filtered
    have inTable : [left, right].Sublist entries :=
      filtered.trans List.filter_sublist
    exact .inr ⟨same, List.pairwise_iff_forall_sublist.mp ascending inTable⟩
  · exact .inl (UInt64.lt_of_le_of_ne le same)

/-- The sections that serve a purpose and are not empty, sorted by address. -/
def pick (purpose : Purpose) (sections : List Elf.Section) :
    List (Elf.Section × Nat) :=
  byAddress
    (sections.zipIdx.filter fun entry => (region? purpose entry.1).isSome)

theorem pick_picks (purpose : Purpose) (sections : List Elf.Section) :
    Picks purpose sections (pick purpose sections) where
  mem_iff := by
    intro entry place
    rw [pick, byAddress, List.mem_mergeSort, List.mem_filter,
      List.mk_mem_zipIdx_iff_getElem?, isSome_region?_iff]
  ordered := by
    apply byAddress_ordered
    apply List.Pairwise.filter
    rw [← List.pairwise_map, List.zipIdx_map_snd]
    exact List.pairwise_lt_range' 1

theorem pick_eq_nil_iff
    {purpose : Purpose} {sections : List Elf.Section}
    (readable : ∀ entry ∈ sections,
      purpose.wants entry.kind → entry.contents ≠ none) :
    pick purpose sections = [] ↔
      ∀ entry ∈ sections,
        purpose.wants entry.kind → entry.contents = some [] := by
  have picks := pick_picks purpose sections
  rw [List.eq_nil_iff_forall_not_mem]
  constructor
  · intro absent entry member wanted
    obtain ⟨contents, found⟩ :=
      Option.ne_none_iff_exists'.mp (readable entry member wanted)
    obtain ⟨place, inside⟩ := List.mem_iff_getElem?.mp member
    by_contra nonempty
    have taken : (entry, place) ∈ pick purpose sections :=
      (picks.mem_iff entry place).mpr
        ⟨inside, wanted, contents, found, fun empty => nonempty (empty ▸ found)⟩
    exact absent (entry, place) taken
  · rintro empty ⟨entry, place⟩ member
    obtain ⟨inside, wanted, contents, found, nonempty⟩ :=
      (picks.mem_iff entry place).mp member
    rw [empty entry (List.mem_of_getElem? inside) wanted] at found
    exact nonempty (Option.some.inj found).symm

/-! ## Selection -/

theorem fault_select_eq_none_iff
    {purpose : Purpose} {sections : List Elf.Section} :
    (select purpose sections).fault = none ↔
      ∀ entry ∈ sections, purpose.wants entry.kind → entry.contents ≠ none := by
  induction sections with
  | nil => simp [select]
  | cons entry rest inductionHypothesis =>
      rw [select, List.forall_mem_cons, ← inductionHypothesis]
      by_cases wanted : purpose.wants entry.kind
      · rw [if_pos wanted]
        cases found : entry.contents with
        | none => simp [wanted]
        | some contents => cases contents <;> simp
      · simp [wanted]

/-- Unless contents cannot be read, the regions are those of the picked
sections. -/
theorem regions_select
    {purpose : Purpose} {sections : List Elf.Section}
    (readable : ∀ entry ∈ sections,
      purpose.wants entry.kind → entry.contents ≠ none) :
    (select purpose sections).regions purpose =
      if pick purpose sections = [] then .error (.nothing purpose)
      else .ok ((pick purpose sections).map fun entry =>
        Region.ofSection entry.1) := by
  have faultless := fault_select_eq_none_iff.mpr readable
  have sorted :
      inAddressOrder (select purpose sections).found =
        (pick purpose sections).map fun entry => Region.ofSection entry.1 := by
    rw [found_select faultless, filterMap_region?, inAddressOrder_map, pick]
  have empty :
      (select purpose sections).found = [] ↔ pick purpose sections = [] := by
    have lengths := congrArg List.length sorted
    rw [inAddressOrder, List.length_mergeSort, List.length_map] at lengths
    rw [← List.length_eq_zero_iff, lengths, List.length_eq_zero_iff]
  rw [Selection.regions, faultless]
  simp only [List.isEmpty_iff, empty, sorted]

/-- A section that serves the purpose and cannot be read is at fault, wherever
it stands. -/
theorem exists_malformed_iff {purpose : Purpose} {sections : List Elf.Section} :
    (∃ fault,
      (select purpose sections).regions purpose = .error (.malformed fault)) ↔
      ∃ entry ∈ sections, purpose.wants entry.kind ∧ entry.contents = none := by
  constructor
  · rintro ⟨fault, failed⟩
    by_contra readable
    have taken :
        ∀ entry ∈ sections, purpose.wants entry.kind → entry.contents ≠ none :=
      fun entry member wanted missing =>
        readable ⟨entry, member, wanted, missing⟩
    rw [regions_select taken] at failed
    split at failed <;> cases failed
  · rintro ⟨entry, member, wanted, missing⟩
    cases found : (select purpose sections).fault with
    | none =>
        exact
          absurd missing (fault_select_eq_none_iff.mp found entry member wanted)
    | some fault =>
        refine ⟨fault, ?_⟩
        rw [Selection.regions, found]

theorem regions_of_sections
    {choice : FormatChoice} {image : Bytes} {sections : List Elf.Section}
    (purpose : Purpose) (elf : choice.resolve image = .elf)
    (opened : Elf.sections image = .ok sections) :
    regions purpose choice image =
      (select purpose sections).regions purpose := by
  rw [regions, elf]
  simp only [elfRegions, opened]

theorem regions_of_fault
    {choice : FormatChoice} {image : Bytes} {fault : Elf.Fault}
    (purpose : Purpose) (elf : choice.resolve image = .elf)
    (failed : Elf.sections image = .error fault) :
    regions purpose choice image = .error (.malformed fault) := by
  rw [regions, elf]
  simp only [elfRegions, failed]

/-- The regions of an ELF file are exactly those of the sections that serve the
purpose and are not empty, in order. The file is refused if it cannot be opened,
if the contents of a section that serves the purpose cannot be read, and else if
all these sections are empty. -/
theorem regions_exact
    {choice : FormatChoice} {image : Bytes} (elf : choice.resolve image = .elf)
    (purpose : Purpose) :
    (∀ fault, Elf.sections image = .error fault →
        regions purpose choice image = .error (.malformed fault)) ∧
      ∀ sections, Elf.sections image = .ok sections →
        (∃ names : Option Elf.NameTable, ∀ entry ∈ sections,
          entry.name =
              (names.bind fun table =>
                table.name? image entry.header.name).getD "<unnamed>" ∧
            entry.contents = entry.header.contents? image) ∧
        ((∃ fault, regions purpose choice image = .error (.malformed fault)) ↔
          ∃ entry ∈ sections,
            purpose.wants entry.kind ∧ entry.contents = none) ∧
        ((∀ entry ∈ sections,
          purpose.wants entry.kind → entry.contents ≠ none) →
          (regions purpose choice image = .error (.nothing purpose) ↔
            ∀ entry ∈ sections, purpose.wants entry.kind →
              entry.contents = some []) ∧
          ((∃ entry ∈ sections,
            purpose.wants entry.kind ∧ entry.contents ≠ some []) →
            ∃ picked, Picks purpose sections picked ∧
              regions purpose choice image =
                .ok (picked.map fun entry =>
                  ⟨entry.1.name, entry.1.address,
                    entry.1.contents.getD []⟩))) := by
  refine ⟨fun fault failed =>
    regions_of_fault purpose elf failed, fun sections opened => ?_⟩
  rw [regions_of_sections purpose elf opened]
  refine ⟨?_, exists_malformed_iff, fun readable => ?_⟩
  · obtain ⟨names, referred⟩ := Elf.exists_ofHeader opened
    refine ⟨names, fun entry member => ?_⟩
    rw [referred entry member]
    exact ⟨rfl, rfl⟩
  · have empty_iff := pick_eq_nil_iff readable
    rw [regions_select readable]
    by_cases empty : pick purpose sections = []
    · rw [if_pos empty]
      refine ⟨iff_of_true rfl (empty_iff.mp empty), ?_⟩
      rintro ⟨entry, member, wanted, nonempty⟩
      exact absurd (empty_iff.mp empty entry member wanted) nonempty
    · rw [if_neg empty]
      refine ⟨iff_of_false nofun (mt empty_iff.mpr empty), fun _ => ?_⟩
      exact ⟨pick purpose sections, pick_picks purpose sections, rfl⟩

/-- A section header of a narrow file: name, type, flags, address, and place in
the file. -/
def headerBytes (name type flags low high offset size : UInt8) : Bytes :=
  [name, 0, 0, 0, type, 0, 0, 0, flags, 0, 0, 0, low, high, 0, 0,
    offset, 0, 0, 0, size] ++ List.replicate 19 0

/-- A file with a table of names, data and code at one address, code at a lower
address whose name is out of range, and code without contents. -/
def tiedFile : Bytes :=
  [0x7F, 0x45, 0x4C, 0x46, 1, 1, 1] ++ List.replicate 25 0 ++ [72] ++
    List.replicate 13 0 ++
    [40, 0, 6, 0, 1, 0] ++ [0x73, 0, 0, 0, 0xCD, 0xEF, 0xAB] ++
    [0, 0x2E, 0x74, 0x65, 0x78, 0x74, 0, 0x2E, 0x64, 0x61, 0x74, 0x61, 0] ++
    List.replicate 40 0 ++ headerBytes 0 3 0 0 0 59 13 ++
    headerBytes 7 1 3 0 16 56 2 ++
    headerBytes 1 1 6 0 16 52 4 ++ headerBytes 13 1 6 0 8 58 1 ++
    headerBytes 1 1 6 0 0 52 0

/-- The section table of this file. -/
def tiedTable : List Elf.Section :=
  [⟨⟨0, .stringTable, 0, 0, 59, 13, 0, 0⟩, "",
      some [0, 0x2E, 0x74, 0x65, 0x78, 0x74, 0, 0x2E, 0x64, 0x61, 0x74, 0x61,
        0]⟩,
    ⟨⟨7, .programBits, 3, 0x1000, 56, 2, 0, 0⟩, ".data", some [0xCD, 0xEF]⟩,
    ⟨⟨1, .programBits, 6, 0x1000, 52, 4, 0, 0⟩, ".text", some [0x73, 0, 0, 0]⟩,
    ⟨⟨13, .programBits, 6, 0x0800, 58, 1, 0, 0⟩, "<unnamed>", some [0xAB]⟩,
    ⟨⟨1, .programBits, 6, 0, 52, 0, 0, 0⟩, ".text", some []⟩]

set_option maxRecDepth 2048 in
theorem sections_tiedFile : Elf.sections tiedFile = .ok tiedTable :=
  rfl

/-- The lower address comes first, and the two sections at one address keep
their order. -/
theorem pick_tiedTable :
    pick .listing tiedTable =
      [(tiedTable[3], 3), (tiedTable[1], 1), (tiedTable[2], 2)] := by
  change
    byAddress [(tiedTable[1], 1), (tiedTable[2], 2), (tiedTable[3], 3)] = _
  simp [byAddress, List.mergeSort, tiedTable, Elf.Section.address]

set_option maxRecDepth 2048 in
theorem regions_exact_tied :
    regions .survey (.only .elf) [] = .error (.malformed .noMagic) ∧
      FormatChoice.auto.resolve tiedFile = .elf ∧
      Elf.sections tiedFile = .ok tiedTable ∧
      (∀ entry ∈ tiedTable,
        Purpose.listing.wants entry.kind → entry.contents ≠ none) ∧
      (∃ entry ∈ tiedTable,
        Purpose.listing.wants entry.kind ∧ entry.contents ≠ some []) ∧
      ∃ picked,
        Picks .listing tiedTable picked ∧ picked.map Prod.snd = [3, 1, 2] ∧
        regions .listing .auto tiedFile =
          .ok [⟨"<unnamed>", 0x0800, [0xAB]⟩, ⟨".data", 0x1000, [0xCD, 0xEF]⟩,
            ⟨".text", 0x1000, [0x73, 0, 0, 0]⟩] := by
  have elf : FormatChoice.auto.resolve tiedFile = .elf := by decide
  have readable :
      ∀ entry ∈ tiedTable,
        Purpose.listing.wants entry.kind → entry.contents ≠ none := by
    decide
  have filled :
      ∃ entry ∈ tiedTable,
        Purpose.listing.wants entry.kind ∧ entry.contents ≠ some [] := by
    decide
  have broken : Elf.sections [] = .error .noMagic := rfl
  refine ⟨(regions_exact rfl .survey).1 .noMagic broken, elf, sections_tiedFile,
    readable, filled, ?_⟩
  obtain ⟨-, -, exact⟩ :=
    (regions_exact elf .listing).2 tiedTable sections_tiedFile
  obtain ⟨picked, picks, found⟩ := (exact readable).2 filled
  obtain rfl := picks.unique (pick_picks .listing tiedTable)
  refine ⟨_, picks, by rw [pick_tiedTable]; rfl, ?_⟩
  rw [found, pick_tiedTable]
  rfl

end CsrCensus.Image
