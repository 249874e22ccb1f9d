import CsrCensus.Image.Format
import Mathlib.Algebra.Group.Nat.Defs

/-!
# Regions of an image

Where regions lie in the address space, the order in which those of an ELF file
are given, and the sections that they are taken from.
-/

namespace CsrCensus.Image

/-- Whether an address lies in a region. -/
def Region.Covers (region : Region) (address : Nat) : Prop :=
  region.base.toNat ≤ address ∧
    address < region.base.toNat + region.bytes.length

/-- No address lies in two of the regions. -/
def Apart (regions : List Region) : Prop :=
  regions.Pairwise fun left right =>
    ∀ address, left.Covers address → ¬ right.Covers address

/-- The words of a region end at the top of the address space or below. -/
def Region.Fits (region : Region) : Prop :=
  region.base.toNat + 4 * ((region.bytes.length + 3) / 4) ≤ 2 ^ 64

instance (region : Region) : Decidable region.Fits :=
  inferInstanceAs (Decidable (_ ≤ 2 ^ 64))

theorem inAddressOrder_pairwise (found : List Region) :
    (inAddressOrder found).Pairwise fun left right =>
      left.base ≤ right.base := by
  have sorted :
      (inAddressOrder found).Pairwise fun left right =>
        decide (left.base ≤ right.base) = true :=
    List.pairwise_mergeSort
      (fun first second third => by simpa using UInt64.le_trans)
      (fun first second => by
        simpa using UInt64.le_total first.base second.base)
      found
  simpa using sorted

/-- The regions of an ELF file are in the order of their addresses. -/
theorem elfRegions_pairwise
    {purpose : Purpose} {image : Bytes} {regions : List Region}
    (found : elfRegions purpose image = .ok regions) :
    regions.Pairwise fun left right => left.base ≤ right.base := by
  unfold elfRegions at found
  split at found
  · cases found
  · unfold Selection.regions at found
    split at found
    · cases found
    · split at found
      · cases found
      · cases found
        exact inAddressOrder_pairwise _

/-- The region that a section gives, if it serves the purpose and is not
empty. -/
def region? (purpose : Purpose) (entry : Elf.Section) : Option Region :=
  if purpose.wants entry.kind then
    match entry.contents with
    | some (first :: rest) => some ⟨entry.name, entry.address, first :: rest⟩
    | _ => none
  else none

/-- Unless contents cannot be read, every section that serves the purpose is
taken. -/
theorem found_select {purpose : Purpose} :
    ∀ {sections : List Elf.Section}, (select purpose sections).fault = none →
      (select purpose sections).found = sections.filterMap (region? purpose)
  | [], _ => rfl
  | entry :: rest, readable => by
      unfold select at readable ⊢
      split at readable
      · next wanted =>
          rw [if_pos wanted]
          split at readable
          · cases readable
          · next contents =>
              rw [List.filterMap_cons_none (by simp [region?, contents])]
              exact found_select readable
          · next contents nonempty found =>
              obtain ⟨first, more, rfl⟩ := List.exists_cons_of_ne_nil nonempty
              have taken :
                  region? purpose entry =
                    some ⟨entry.name, entry.address, first :: more⟩ := by
                simp [region?, wanted, found]
              rw [List.filterMap_cons_some taken]
              exact congrArg _ (found_select readable)
      · next unwanted =>
          rw [if_neg unwanted,
            List.filterMap_cons_none (by simp [region?, unwanted])]
          exact found_select readable

/-- The regions of an ELF file are those of its sections. -/
theorem exists_mem_elfRegions_iff
    {purpose : Purpose} {image : Bytes} {regions : List Region}
    (found : elfRegions purpose image = .ok regions) :
    ∃ sections, Elf.sections image = .ok sections ∧
      ∀ region, region ∈ regions ↔
        ∃ entry ∈ sections, region? purpose entry = some region := by
  unfold elfRegions at found
  split at found
  · cases found
  · next sections parsed =>
      refine ⟨sections, parsed, fun region => ?_⟩
      unfold Selection.regions at found
      split at found
      · cases found
      · next readable =>
          split at found
          · cases found
          · cases found
            rw [inAddressOrder, List.mem_mergeSort, found_select readable,
              List.mem_filterMap]

/-- Whatever instructions are read from is part of the memory image. -/
theorem region?_listing_of_survey
    {entry : Elf.Section} {region : Region}
    (taken : region? .survey entry = some region) :
    region? .listing entry = some region := by
  unfold region? at taken ⊢
  split at taken
  · next executable =>
      have loadable : Purpose.listing.wants entry.kind = true := by
        have text : entry.kind = .text := of_decide_eq_true executable
        rw [text]
        rfl
      rw [if_pos loadable]
      exact taken
  · cases taken

/-- Every region of a survey is among the regions of the listing. -/
theorem mem_listing_of_mem_survey
    {choice : FormatChoice} {image : Bytes} {surveyed listed : List Region}
    (survey : regions .survey choice image = .ok surveyed)
    (listing : regions .listing choice image = .ok listed) :
    ∀ region ∈ surveyed, region ∈ listed := by
  intro region member
  unfold regions at survey listing
  cases format : choice.resolve image with
  | raw =>
      rw [format] at survey listing
      cases survey
      cases listing
      exact member
  | elf =>
      rw [format] at survey listing
      obtain ⟨sections, parsed, ofSurvey⟩ := exists_mem_elfRegions_iff survey
      obtain ⟨others, parsedAgain, ofListing⟩ :=
        exists_mem_elfRegions_iff listing
      obtain rfl : sections = others :=
        Except.ok.inj (parsed.symm.trans parsedAgain)
      obtain ⟨entry, inside, taken⟩ := (ofSurvey region).mp member
      exact
        (ofListing region).mpr ⟨entry, inside, region?_listing_of_survey taken⟩

end CsrCensus.Image
