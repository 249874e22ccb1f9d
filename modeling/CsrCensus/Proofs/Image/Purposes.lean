import CsrCensus.Proofs.Image.Selection

/-!
# Regions for two purposes

Instructions are part of the memory image of a program. So the regions that are
surveyed are those of the text sections among the regions that are listed, in
the same order.
-/

namespace CsrCensus.Image

theorem survey_wants_iff {kind : Elf.SectionKind} :
    Purpose.survey.wants kind ↔ Purpose.listing.wants kind ∧ kind = .text := by
  cases kind <;> decide

/-- The sections picked for a survey are the text sections among those picked
for a listing. -/
theorem Picks.survey
    {sections : List Elf.Section} {picked : List (Elf.Section × Nat)}
    (picks : Picks .listing sections picked) :
    Picks .survey sections
      (picked.filter fun entry => entry.1.kind = .text) where
  mem_iff := by
    intro entry place
    rw [List.mem_filter, picks.mem_iff, survey_wants_iff, decide_eq_true_iff]
    tauto
  ordered := picks.ordered.filter _

theorem pick_survey (sections : List Elf.Section) :
    pick .survey sections = (pick .listing sections).filter fun entry =>
      entry.1.kind = .text :=
  (pick_picks .survey sections).unique (pick_picks .listing sections).survey

/-- Unless a section that is listed cannot be read, the regions for both
purposes are those of the picked sections. -/
theorem regions_of_readable
    {sections : List Elf.Section}
    (readable : ∀ entry ∈ sections,
      Purpose.listing.wants entry.kind → entry.contents ≠ none)
    (purpose : Purpose) :
    (select purpose sections).regions purpose =
      if pick purpose sections = [] then .error (.nothing purpose)
      else .ok ((pick purpose sections).map fun entry =>
        Region.ofSection entry.1) := by
  apply regions_select
  intro entry member wanted
  apply readable entry member
  cases purpose with
  | survey => exact (survey_wants_iff.mp wanted).1
  | listing => exact wanted

/-- What is surveyed of an ELF file is the text among what is listed of it, in
the same order, and nothing is surveyed if there is no text. A flat image is one
region for both purposes. -/
theorem regions_survey_of_listing (choice : FormatChoice) (image : Bytes) :
    (choice.resolve image = .elf →
      (∀ listed, regions .listing choice image = .ok listed →
        ∃ sections picked,
          Elf.sections image = .ok sections ∧ Picks .listing sections picked ∧
            listed = picked.map (fun entry => Region.ofSection entry.1) ∧
            regions .survey choice image =
              let text := picked.filter fun entry => entry.1.kind = .text
              if text = [] then .error (.nothing .survey)
              else .ok (text.map fun entry => Region.ofSection entry.1)) ∧
        (regions .listing choice image = .error (.nothing .listing) →
          regions .survey choice image = .error (.nothing .survey)) ∧
        ∀ surveyed, regions .survey choice image = .ok surveyed →
          (∃ listed, regions .listing choice image = .ok listed) ∨
            ∃ fault,
              regions .listing choice image = .error (.malformed fault)) ∧
      (choice.resolve image = .raw →
        ∀ purpose,
          regions purpose choice image = .ok [⟨"image", 0, image⟩]) := by
  constructor
  · intro elf
    cases opened : Elf.sections image with
    | error fault =>
        have failed (purpose : Purpose) := regions_of_fault purpose elf opened
        simp [failed]
    | ok sections =>
        simp only [regions_of_sections _ elf opened]
        by_cases unreadable :
            ∃ entry ∈ sections,
              Purpose.listing.wants entry.kind ∧ entry.contents = none
        · obtain ⟨fault, failed⟩ := exists_malformed_iff.mpr unreadable
          simp [failed]
        · have readable :
              ∀ entry ∈ sections,
                Purpose.listing.wants entry.kind → entry.contents ≠ none :=
            fun entry member wanted missing =>
              unreadable ⟨entry, member, wanted, missing⟩
          simp only [regions_of_readable readable, pick_survey]
          by_cases empty : pick .listing sections = []
          · simp [empty]
          · rw [if_neg empty]
            refine ⟨?_, nofun, fun _ _ => .inl ⟨_, rfl⟩⟩
            rintro listed found
            cases found
            exact ⟨sections, _, rfl, pick_picks .listing sections, rfl, rfl⟩
  · intro raw purpose
    rw [regions, raw]
    rfl

/-- A file that is no more than a header. -/
def bareHeader : Bytes :=
  [0x7F, 0x45, 0x4C, 0x46, 1, 1, 1] ++ List.replicate 45 0

set_option maxRecDepth 2048 in
theorem regions_survey_of_listing_tied :
    FormatChoice.auto.resolve tiedFile = .elf ∧
      regions .listing .auto tiedFile =
        .ok [⟨"<unnamed>", 0x0800, [0xAB]⟩, ⟨".data", 0x1000, [0xCD, 0xEF]⟩,
          ⟨".text", 0x1000, [0x73, 0, 0, 0]⟩] ∧
      regions .survey .auto tiedFile =
        .ok [⟨"<unnamed>", 0x0800, [0xAB]⟩,
          ⟨".text", 0x1000, [0x73, 0, 0, 0]⟩] ∧
      FormatChoice.auto.resolve bareHeader = .elf ∧
      regions .listing .auto bareHeader = .error (.nothing .listing) ∧
      regions .survey .auto bareHeader = .error (.nothing .survey) ∧
      regions .survey (.only .raw) bareHeader =
        .ok [⟨"image", 0, bareHeader⟩] := by
  have elf : FormatChoice.auto.resolve tiedFile = .elf := by decide
  have listed :
      regions .listing .auto tiedFile =
        .ok [⟨"<unnamed>", 0x0800, [0xAB]⟩, ⟨".data", 0x1000, [0xCD, 0xEF]⟩,
          ⟨".text", 0x1000, [0x73, 0, 0, 0]⟩] := by
    rw [regions_of_sections .listing elf sections_tiedFile,
      regions_of_readable (by decide), pick_tiedTable]
    rfl
  have bare : FormatChoice.auto.resolve bareHeader = .elf := by decide
  have empty :
      regions .listing .auto bareHeader = .error (.nothing .listing) := by
    decide
  refine ⟨elf, listed, ?_, bare, empty, ?_, ?_⟩
  · obtain ⟨sections, picked, opened, picks, -, surveyed⟩ :=
      ((regions_survey_of_listing .auto tiedFile).1 elf).1 _ listed
    obtain rfl : sections = tiedTable :=
      Except.ok.inj (opened.symm.trans sections_tiedFile)
    obtain rfl := picks.unique (pick_picks .listing tiedTable)
    rw [surveyed, pick_tiedTable]
    rfl
  · exact ((regions_survey_of_listing .auto bareHeader).1 bare).2.1 empty
  · exact (regions_survey_of_listing (.only .raw) bareHeader).2 rfl .survey

end CsrCensus.Image
