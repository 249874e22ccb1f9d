import CsrCensus.Proofs.Census.Operations
import CsrCensus.Proofs.Tally.Merge

/-!
# Merging censuses

Two censuses are merged by putting the history of the second behind that of the
first. A survey that continues a census gives the merge of the census with a
survey of its own, so a survey takes lists of regions, one behind the other, to
the merge of their censuses.
-/

namespace CsrCensus

namespace Census

/-- The merge of two censuses: lists one behind the other, and counts added. -/
def merge (first second : Census) : Census :=
  { known := first.known ++ second.known
    reserved := first.reserved ++ second.reserved
    kinds := first.kinds.extend second.kinds
    registers := first.registers.extendAscending second.registers
    remainders := first.remainders ++ second.remainders
    words := first.words + second.words }

theorem merge_ofHistory
    (firstSightings secondSightings : List Sighting)
    (firstRemainders secondRemainders : List Remainder)
    (firstWords secondWords : Nat) :
    (ofHistory firstSightings firstRemainders firstWords).merge
        (ofHistory secondSightings secondRemainders secondWords) =
      ofHistory (firstSightings ++ secondSightings)
        (firstRemainders ++ secondRemainders)
        (firstWords + secondWords) := by
  unfold merge ofHistory
  simp only [Tally.extend_ofOccurrences,
    Tally.extendAscending_ofOccurrencesAscending, List.filter_append,
    List.map_append, List.filterMap_append, List.append_toArray]

theorem build_append (first second : List Operation) :
    build (first ++ second) = (build first).merge (build second) := by
  rw [build_eq_ofHistory first, build_eq_ofHistory second, merge_ofHistory,
    build_eq_ofHistory]
  simp only [List.flatMap_append, List.map_append, List.sum_append]

end Census

namespace Surveyor

open Census

theorem survey_eq_build (surveyor : Surveyor) (regions : List Image.Region) :
    surveyor.survey regions =
      build (regions.map (Operation.survey surveyor)) := by
  rw [build, List.foldl_map]
  rfl

theorem foldl_surveyRegion_build
    (surveyor : Surveyor) (operations : List Operation)
    (regions : List Image.Region) :
    regions.foldl surveyor.surveyRegion (build operations) =
      build (operations ++ regions.map (Operation.survey surveyor)) := by
  rw [build, build, List.foldl_append, List.foldl_map]
  rfl

/-- Built censuses are a monoid under merging, and a survey is a homomorphism
from lists of regions into it: to continue any census is to merge it with the
survey of the regions alone. -/
theorem survey_homomorphism (surveyor : Surveyor) :
    (∀ (operations : List Operation) (regions : List Image.Region),
        regions.foldl surveyor.surveyRegion (build operations) =
          (build operations).merge (surveyor.survey regions)) ∧
      (∀ first second : List Image.Region,
        surveyor.survey (first ++ second) =
          (surveyor.survey first).merge (surveyor.survey second)) ∧
      surveyor.survey [] = empty ∧
      (∀ operations : List Operation,
        (build operations).merge empty = build operations ∧
          empty.merge (build operations) = build operations) ∧
      ∀ first second third : List Operation,
        ((build first).merge (build second)).merge (build third) =
          (build first).merge ((build second).merge (build third)) := by
  refine ⟨?_, ?_, rfl, ?_, ?_⟩
  · intro operations regions
    rw [foldl_surveyRegion_build, survey_eq_build, build_append]
  · intro first second
    rw [survey_eq_build, survey_eq_build, survey_eq_build, List.map_append,
      build_append]
  · intro operations
    have neutral : empty = build [] := rfl
    rw [neutral, ← build_append, ← build_append, List.append_nil,
      List.nil_append]
    exact ⟨rfl, rfl⟩
  · intro first second third
    rw [← build_append, ← build_append, ← build_append, ← build_append,
      List.append_assoc]

end Surveyor

end CsrCensus
