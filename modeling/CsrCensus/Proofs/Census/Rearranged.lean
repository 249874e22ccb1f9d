import CsrCensus.Proofs.Census.Consistency
import CsrCensus.Proofs.Tally.Rearranged

/-!
# The order of a history

A census whose history is put in another order has the same counts. Its lists
are rearranged, and so are the kinds, which stand in the order in which they
first occurred.
-/

namespace CsrCensus

namespace Census

/-- Two censuses agree in all that does not depend on the order of what was
read. -/
structure Rearranged (left right : Census) : Prop where
  registers_eq : left.registers = right.registers
  words_eq : left.words = right.words
  systemWords_eq : left.systemWords = right.systemWords
  accesses_eq : left.accesses = right.accesses
  /-- Each label has the same count in both, or stands in neither. -/
  label_count_eq :
    ∀ label, left.labelCounts.lookup label = right.labelCounts.lookup label
  labelCounts_perm : left.labelCounts.Perm right.labelCounts
  known_perm : left.known.toList.Perm right.known.toList
  reserved_perm : left.reserved.toList.Perm right.reserved.toList
  remainders_perm : left.remainders.toList.Perm right.remainders.toList

theorem ofHistory_rearranged
    {left right : List Sighting}
    {leftRemainders rightRemainders : List Remainder}
    (sightings : left.Perm right)
    (remainders : leftRemainders.Perm rightRemainders) (words : Nat) :
    (ofHistory left leftRemainders words).Rearranged
      (ofHistory right rightRemainders words) := by
  have labels : (left.map Sighting.label).Perm (right.map Sighting.label) :=
    sightings.map _
  have registers :
      (ofHistory left leftRemainders words).registers =
        (ofHistory right rightRemainders words).registers :=
    Tally.ofOccurrencesAscending_of_perm (sightings.filterMap _)
  exact {
    registers_eq := registers
    words_eq := rfl
    systemWords_eq := by
      rw [systemWords_ofHistory, systemWords_ofHistory, sightings.length_eq]
    accesses_eq := congrArg Tally.total registers
    label_count_eq := by
      intro label
      rw [labelCounts_ofHistory, labelCounts_ofHistory,
        Tally.lookup_ofOccurrences_of_perm labels]
    labelCounts_perm := by
      rw [labelCounts_ofHistory, labelCounts_ofHistory]
      exact Tally.ofOccurrences_perm labels
    known_perm := sightings.filter _
    reserved_perm := sightings.filter _
    remainders_perm := remainders }

end Census

namespace Surveyor

theorem sightings_perm
    (surveyor : Surveyor) {left right : List Image.Region}
    (permutation : left.Perm right) :
    (surveyor.sightings left).Perm (surveyor.sightings right) := by
  rw [sightings_eq_filterMap, sightings_eq_filterMap]
  exact (permutation.flatMap_right _).filterMap _

theorem wordCount_perm
    {left right : List Image.Region} (permutation : left.Perm right) :
    wordCount left = wordCount right :=
  (permutation.map _).sum_nat

/-- Regions in another order are surveyed to a census that is rearranged. -/
theorem survey_rearranged
    (surveyor : Surveyor) {left right : List Image.Region}
    (permutation : left.Perm right) :
    (surveyor.survey left).Rearranged (surveyor.survey right) := by
  rw [survey_eq_ofHistory, survey_eq_ofHistory, wordCount_perm permutation]
  exact
    Census.ofHistory_rearranged (surveyor.sightings_perm permutation)
      (permutation.filterMap _) _

end Surveyor

end CsrCensus
