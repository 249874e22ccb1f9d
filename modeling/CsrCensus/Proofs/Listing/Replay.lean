import CsrCensus.Listing.Image
import CsrCensus.Proofs.Image.Regions
import CsrCensus.Proofs.Listing.Memory

/-!
# Replaying the listing of an image

A listing rebuilds the memory image. The zeros behind the last bytes of a
section may fall on the sections behind it, but these are listed later, so that
their own bytes are stored over the zeros.
-/

namespace CsrCensus.Listing

open Image

/-- Regions that lie behind an address leave it alone. -/
theorem storeLines_ofRegions_below (order : ByteOrder) {address : UInt64} :
    ∀ {regions : List Region} (memory : Memory),
      (∀ region ∈ regions, region.Fits) →
      (∀ region ∈ regions,
        region.bytes ≠ [] → address.toNat < region.base.toNat) →
      memory.storeLines order (ofRegions order regions) address =
        memory address
  | [], _, _, _ => rfl
  | first :: rest, memory, fits, below => by
      obtain ⟨firstFits, restFits⟩ := List.forall_mem_cons.mp fits
      obtain ⟨firstBelow, restBelow⟩ := List.forall_mem_cons.mp below
      have later :=
        storeLines_ofRegions_below order
          (memory.storeLines order (ofBytes order first.base first.bytes))
          restFits restBelow
      rw [ofRegions, List.flatMap_cons, Memory.storeLines_append]
      refine later.trans ?_
      by_cases empty : first.bytes = []
      · rw [empty]
        rfl
      · exact Memory.storeLines_ofBytes_below order memory firstFits
          (firstBelow empty)

private theorem toNat_offset
    {region : Region} (fits : region.Fits) {index : Nat}
    (inside : index < region.bytes.length) :
    (region.base + UInt64.ofNat index).toNat = region.base.toNat + index := by
  unfold Region.Fits at fits
  have small : index < 2 ^ 64 := by omega
  rw [UInt64.toNat_add, UInt64.toNat_ofNat_of_lt' small]
  omega

/-- Regions in the order of their addresses can be read back, although the zeros
behind each of them may fall on those behind it. -/
theorem storeLines_ofRegions_inside (order : ByteOrder) :
    ∀ {regions : List Region} (memory : Memory),
      (regions.Pairwise fun left right => left.base ≤ right.base) →
      Apart regions → (∀ region ∈ regions, region.Fits) →
        ∀ region ∈ regions, ∀ index, (inside : index < region.bytes.length) →
          memory.storeLines order (ofRegions order regions)
            (region.base + UInt64.ofNat index) =
            some region.bytes[index]
  | [], _, _, _, _, _, member, _, _ => nomatch member
  | first :: rest, memory, sorted, apart, fits,
      region, member, index, inside => by
      obtain ⟨ordered, restSorted⟩ := List.pairwise_cons.mp sorted
      obtain ⟨firstApart, restApart⟩ := List.pairwise_cons.mp apart
      obtain ⟨firstFits, restFits⟩ := List.forall_mem_cons.mp fits
      rw [ofRegions, List.flatMap_cons, Memory.storeLines_append]
      rcases List.mem_cons.mp member with rfl | later
      · -- The regions behind begin above every byte of this one, so they leave
        -- it alone.
        have position := toNat_offset firstFits inside
        have behind :
            ∀ other ∈ rest, other.bytes ≠ [] →
              (region.base + UInt64.ofNat index).toNat < other.base.toNat := by
          intro other otherMember nonempty
          have above : region.base.toNat ≤ other.base.toNat :=
            UInt64.le_iff_toNat_le.mp (ordered other otherMember)
          have length := List.length_pos_iff.mpr nonempty
          have otherCovers : other.Covers other.base.toNat :=
            ⟨Nat.le_refl _, by omega⟩
          have outside : ¬ region.Covers other.base.toNat := fun covers =>
            firstApart other otherMember _ covers otherCovers
          rw [position]
          by_contra within
          exact outside ⟨above, by omega⟩
        have firstWords : 4 * ((region.bytes.length + 3) / 4) ≤ 2 ^ 64 := by
          unfold Region.Fits at firstFits
          omega
        rw [← Memory.storeLines_ofBytes_inside order memory region.base
          firstWords inside]
        exact storeLines_ofRegions_below order _ restFits behind
      · exact storeLines_ofRegions_inside order _ restSorted restApart restFits
          region later index inside

/-! ## Images -/

/-- The text of a listing is written, and whatever lines are read off it store
every byte of some regions at its address, in any memory. -/
def Rebuilds
    (plan : Plan) (choice : FormatChoice) (image : Bytes)
    (regions : List Region) : Prop :=
  ∃ written : List Line,
    write plan choice image Sink.unlimited =
        (.ok written.length, { Sink.unlimited with accepted := text written }) ∧
      ∀ lines, text lines = text written → ∀ memory : Memory,
        ∀ region ∈ regions, ∀ index, (inside : index < region.bytes.length) →
          memory.storeLines plan.order lines
            (region.base + UInt64.ofNat index) =
            some region.bytes[index]

theorem ofImage_of_raw
    {choice : FormatChoice} {image : Bytes} (plan : Plan)
    (raw : choice.resolve image = .raw) :
    ofImage plan choice image = .ok (ofBytes plan.order plan.base image) := by
  rw [ofImage, Listing.regions, raw]
  simp [Except.map, ofRegions, Region.flat]

theorem ofImage_of_elf
    {choice : FormatChoice} {image : Bytes} (plan : Plan)
    (elf : choice.resolve image = .elf) :
    ofImage plan choice image =
      (Image.regions .listing choice image).map (ofRegions plan.order) := by
  rw [ofImage, Listing.regions, Image.regions, elf]

theorem ofImage_of_error
    {choice : FormatChoice} {image : Bytes} {fault : Image.Fault} (plan : Plan)
    (failed : Image.regions .listing choice image = .error fault) :
    ofImage plan choice image = .error fault := by
  cases format : choice.resolve image with
  | raw =>
      rw [Image.regions, format] at failed
      cases failed
  | elf =>
      rw [ofImage_of_elf plan format, failed]
      rfl

theorem exists_ofImage_of_ok
    {choice : FormatChoice} {image : Bytes} {regions : List Region}
    (plan : Plan) (found : Image.regions .listing choice image = .ok regions) :
    ∃ lines, ofImage plan choice image = .ok lines := by
  cases format : choice.resolve image with
  | raw => exact ⟨_, ofImage_of_raw plan format⟩
  | elf =>
      rw [ofImage_of_elf plan format, found]
      exact ⟨_, rfl⟩

theorem write_unlimited
    {plan : Plan} {choice : FormatChoice} {image : Bytes} {lines : List Line}
    (listed : ofImage plan choice image = .ok lines) :
    write plan choice image Sink.unlimited =
      (.ok lines.length, { Sink.unlimited with accepted := text lines }) := by
  rw [write, listed]
  simp only [Sink.run_writeListing_unlimited]
  rfl

/-- A listing rebuilds the memory image: the regions of an ELF file if they
share no address, and a flat image from its base on, with addresses that
wrap. -/
theorem write_rebuilds (plan : Plan) (choice : FormatChoice) (image : Bytes) :
    (∀ regions, choice.resolve image = .elf →
      Image.regions .listing choice image = .ok regions →
        Apart regions → (∀ region ∈ regions, region.Fits) →
          Rebuilds plan choice image regions) ∧
      (choice.resolve image = .raw → image.length ≤ 2 ^ 64 - 4 →
        Rebuilds plan choice image [{ Region.flat image with
          base := plan.base }]) := by
  constructor
  · intro regions elf found apart fits
    have listed :
        ofImage plan choice image = .ok (ofRegions plan.order regions) := by
      rw [ofImage_of_elf plan elf, found]
      rfl
    rw [Image.regions, elf] at found
    refine ⟨ofRegions plan.order regions, write_unlimited listed, ?_⟩
    intro lines same memory region member index inside
    rw [eq_of_text_eq same]
    exact storeLines_ofRegions_inside plan.order memory
      (elfRegions_pairwise found) apart fits
      region member index inside
  · intro raw short
    have words : 4 * ((image.length + 3) / 4) ≤ 2 ^ 64 := by omega
    refine
      ⟨ofBytes plan.order plan.base image,
        write_unlimited (ofImage_of_raw plan raw), ?_⟩
    intro lines same memory region member index inside
    rw [eq_of_text_eq same]
    cases List.mem_singleton.mp member
    exact
      Memory.storeLines_ofBytes_inside plan.order memory plan.base words inside

/-- A file with two sections. The word of the first one in memory runs into the
second, which comes first in the file. -/
def adjoiningSections : Bytes :=
  [0x7F, 0x45, 0x4C, 0x46, 1, 1, 1] ++ List.replicate 25 0 ++ [56] ++
    List.replicate 13 0 ++
    [40, 0, 3, 0, 1, 0] ++ [0xAA, 0xBB, 0xCC, 0] ++ List.replicate 40 0 ++
    ([0, 0, 0, 0, 1, 0, 0, 0, 2, 0, 0, 0, 1, 16, 0, 0, 53, 0, 0, 0, 2] ++
      List.replicate 19 0) ++
    ([0, 0, 0, 0, 1, 0, 0, 0, 2, 0, 0, 0, 0, 16, 0, 0, 52, 0, 0, 0, 1] ++
      List.replicate 19 0)

set_option maxRecDepth 1024 in
theorem regions_adjoiningSections :
    Image.regions .listing .auto adjoiningSections =
      .ok [⟨Elf.Section.unnamed, 0x1000, [0xAA]⟩,
        ⟨Elf.Section.unnamed, 0x1001, [0xBB, 0xCC]⟩] := by
  change
    Except.ok
      (inAddressOrder
        [⟨Elf.Section.unnamed, 0x1001, [0xBB, 0xCC]⟩,
          ⟨Elf.Section.unnamed, 0x1000, [0xAA]⟩]) = _
  simp [inAddressOrder, List.mergeSort]

theorem write_rebuilds_adjoining_and_wrapping :
    Rebuilds ⟨0, .little⟩ .auto adjoiningSections
        [⟨Elf.Section.unnamed, 0x1000, [0xAA]⟩,
          ⟨Elf.Section.unnamed, 0x1001, [0xBB, 0xCC]⟩] ∧
      Rebuilds ⟨0xFFFFFFFFFFFFFFFE, .big⟩ (.only .raw) [1, 2, 3, 4, 5]
        [{ Region.flat [1, 2, 3, 4, 5] with base := 0xFFFFFFFFFFFFFFFE }] := by
  constructor
  · refine (write_rebuilds _ _ _).1 _ (by decide) regions_adjoiningSections ?_
      (by decide)
    refine List.pairwise_pair.mpr ?_
    rintro address ⟨_, below⟩ ⟨above, _⟩
    exact absurd (Nat.lt_of_lt_of_le below above) (Nat.lt_irrefl _)
  · exact (write_rebuilds _ _ _).2 rfl (by decide)

end CsrCensus.Listing
