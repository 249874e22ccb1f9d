import CsrCensus.Proofs.Census.Consistency
import CsrCensus.Proofs.Listing.Replay
import CsrCensus.Proofs.Listing.Words

/-!
# Surveys and listings agree

The regions of a survey are among those of the listing of the same image, and
both read the same words in them. So a listing has a line for every sighting of
the survey, and one for every incomplete word, which it fills up with zeros.
-/

namespace CsrCensus

/-- The bytes at the end of a region that form no whole word. -/
def Image.Region.leftover (region : Image.Region) : Bytes :=
  region.bytes.drop (4 * (region.bytes.length / 4))

namespace Listing

open Image Surveyor Text

/-- The line of a sighting. -/
def lineOf (sighting : Sighting) : Line :=
  ⟨sighting.offset, sighting.word⟩

theorem lineOf_mem_ofRegions
    {surveyor : Surveyor} {regions : List Region} {sighting : Sighting}
    (member : sighting ∈ surveyor.sightings regions) :
    lineOf sighting ∈ ofRegions surveyor.order regions := by
  have place : sighting.place ∈ systemWords surveyor.order regions := by
    rw [← map_place_sightings]
    exact List.mem_map_of_mem member
  obtain ⟨region, inside, found⟩ :=
    List.mem_flatMap.mp (List.mem_filter.mp place).1
  obtain ⟨index, below, same⟩ := List.mem_map.mp found
  obtain ⟨offset, word⟩ := Prod.mk.inj same
  have short := List.mem_range.mp below
  have line :
      lineOf sighting =
        ⟨addressAt region.base index,
          wordAt surveyor.order region.bytes index⟩ := by
    rw [lineOf, ← offset, ← word]
  rw [line]
  exact List.mem_flatMap.mpr ⟨region, inside, mem_ofBytes _ _ (by omega)⟩

/-- The incomplete word of a region, filled up with zeros. -/
theorem wordAt_leftover (order : ByteOrder) (region : Region) :
    wordAt order (padded region.leftover) 0 =
      wordAt order region.bytes (region.bytes.length / 4) := by
  rw [wordAt_padded]
  simp [wordAt, Region.leftover, List.getD_eq_getElem?_getD, List.getElem?_drop]

theorem remainder_mem_ofRegions
    (order : ByteOrder) {regions : List Region} {region : Region}
    (member : region ∈ regions) {remainder : Remainder}
    (found : remainder? region = some remainder) :
    ⟨remainder.offset, wordAt order (padded region.leftover) 0⟩ ∈
      ofRegions order regions := by
  unfold remainder? at found
  split at found
  · cases found
  · cases found
    rw [wordAt_leftover]
    exact List.mem_flatMap.mpr ⟨region, member, mem_ofBytes _ _ (by omega)⟩

theorem ofRegions_subset
    (order : ByteOrder) {some more : List Region}
    (included : ∀ region ∈ some, region ∈ more) :
    ∀ line ∈ ofRegions order some, line ∈ ofRegions order more := by
  intro line member
  obtain ⟨region, inside, found⟩ := List.mem_flatMap.mp member
  exact List.mem_flatMap.mpr ⟨region, included region inside, found⟩

/-- A listing from address zero shows the regions that a memory is filled
with. -/
theorem ofImage_of_regions
    {plan : Plan} {choice : FormatChoice} {image : Bytes}
    {regions : List Region}
    (fromZero : choice.resolve image = .raw → plan.base = 0)
    (listed : Image.regions .listing choice image = .ok regions) :
    ofImage plan choice image = .ok (ofRegions plan.order regions) := by
  unfold ofImage Listing.regions
  unfold Image.regions at listed
  cases format : choice.resolve image with
  | raw =>
      rw [format] at listed
      cases listed
      rw [fromZero format]
      rfl
  | elf =>
      rw [format] at listed
      simp only [listed]
      rfl

/-- Every sighting of a survey has its line in the listing of the image, and so
does every incomplete word, with the value of its bytes and the zeros behind
them. -/
theorem listing_shows_survey
    (surveyor : Surveyor) (base : UInt64) (choice : FormatChoice)
    (image : Bytes) {regions loadable : List Region}
    (fromZero : choice.resolve image = .raw → base = 0)
    (surveyed : Image.regions .survey choice image = .ok regions)
    (listed : Image.regions .listing choice image = .ok loadable) :
    ∃ (count : Nat) (written : String),
      write ⟨base, surveyor.order⟩ choice image Sink.unlimited =
          (.ok count, { Sink.unlimited with accepted := written }) ∧
        (∀ sighting ∈ (surveyor.survey regions).sightings,
          (⟨sighting.offset, sighting.word⟩ : Line).row ∈ linesOf written) ∧
        (surveyor.survey regions).remainders.toList =
          regions.filterMap remainder? ∧
        ∀ region ∈ regions, ∀ remainder, remainder? region = some remainder →
          (⟨remainder.offset,
            wordAt surveyor.order (padded region.leftover) 0⟩ : Line).row ∈
            linesOf written := by
  have included := mem_listing_of_mem_survey surveyed listed
  have lines : ofImage ⟨base, surveyor.order⟩ choice image = _ :=
    ofImage_of_regions fromZero listed
  have shown :
      ∀ line ∈ ofRegions surveyor.order regions,
        line.row ∈ linesOf (text (ofRegions surveyor.order loadable)) := by
    intro line member
    rw [linesOf_text]
    exact
      List.mem_map_of_mem (ofRegions_subset surveyor.order included line member)
  refine ⟨_, _, write_unlimited lines, ?_, ?_, ?_⟩
  · intro sighting member
    rw [survey_eq_ofHistory,
      (Census.sightings_ofHistory_perm _ _ _).mem_iff] at member
    exact shown _ (lineOf_mem_ofRegions member)
  · rw [survey_eq_ofHistory]
    rfl
  · intro region member remainder found
    exact shown _ (remainder_mem_ofRegions surveyor.order member found)

/-- A file with instructions behind its data. The instructions are an
environment call and one byte more. -/
def codeBehindData : Bytes :=
  [0x7F, 0x45, 0x4C, 0x46, 1, 1, 1] ++ List.replicate 25 0 ++ [60] ++
    List.replicate 13 0 ++
    [40, 0, 3, 0, 1, 0] ++ [0x73, 0, 0, 0, 0xAB, 0xCD, 0xEF, 0] ++
    List.replicate 40 0 ++
    ([0, 0, 0, 0, 1, 0, 0, 0, 3, 0, 0, 0, 0, 16, 0, 0, 57, 0, 0, 0, 2] ++
      List.replicate 19 0) ++
    ([0, 0, 0, 0, 1, 0, 0, 0, 6, 0, 0, 0, 2, 16, 0, 0, 52, 0, 0, 0, 5] ++
      List.replicate 19 0)

set_option maxRecDepth 1024 in
theorem listing_shows_survey_behind_data :
    Image.regions .survey .auto codeBehindData =
        .ok [⟨Elf.Section.unnamed, 0x1002, [0x73, 0, 0, 0, 0xAB]⟩] ∧
      Image.regions .listing .auto codeBehindData =
        .ok [⟨Elf.Section.unnamed, 0x1000, [0xCD, 0xEF]⟩,
          ⟨Elf.Section.unnamed, 0x1002, [0x73, 0, 0, 0, 0xAB]⟩] ∧
      ∃ (count : Nat) (written : String),
        write ⟨7, .little⟩ .auto codeBehindData Sink.unlimited =
            (.ok count, { Sink.unlimited with accepted := written }) ∧
          "0x00001002 0x00000073" ∈ linesOf written ∧
          "0x00001006 0x000000AB" ∈ linesOf written := by
  have listed :
      Image.regions .listing .auto codeBehindData =
        .ok [⟨Elf.Section.unnamed, 0x1000, [0xCD, 0xEF]⟩,
          ⟨Elf.Section.unnamed, 0x1002, [0x73, 0, 0, 0, 0xAB]⟩] := by
    change
      Except.ok
        (inAddressOrder
          [⟨Elf.Section.unnamed, 0x1000, [0xCD, 0xEF]⟩,
            ⟨Elf.Section.unnamed, 0x1002, [0x73, 0, 0, 0, 0xAB]⟩]) = _
    simp [inAddressOrder, List.mergeSort]
  have surveyed :
      Image.regions .survey .auto codeBehindData =
        .ok [⟨Elf.Section.unnamed, 0x1002, [0x73, 0, 0, 0, 0xAB]⟩] := by
    change
      Except.ok
        (inAddressOrder
          [⟨Elf.Section.unnamed, 0x1002, [0x73, 0, 0, 0, 0xAB]⟩]) = _
    simp [inAddressOrder]
  have format : FormatChoice.auto.resolve codeBehindData = .elf := by decide
  obtain ⟨count, written, listing, sightings, _, remainders⟩ :=
    listing_shows_survey ⟨Csr.Table.blank, .little⟩ 7 .auto codeBehindData
      (fun raw => absurd (format.symm.trans raw) (by decide)) surveyed listed
  refine ⟨surveyed, listed, count, written, listing, ?_, ?_⟩
  · exact sightings ⟨0x1002, 0x73, .trap .ecall, none⟩ (by decide)
  · exact remainders _ List.mem_cons_self ⟨0x1006, 1⟩ (by decide)

end Listing

end CsrCensus
