import CsrCensus.Census.Survey
import CsrCensus.Proofs.Tally.Occurrences

/-!
# The census of a history

`Census.ofHistory` says what a census holds after some sightings and incomplete
words were recorded, without saying how it is updated. Each operation on a
census extends its history, so every census that is built from the empty one is
the census of some history.
-/

namespace CsrCensus.Census

/-- The census of some sightings and incomplete words, both in reading order,
and of a number of words. -/
def ofHistory
    (sightings : List Sighting) (remainders : List Remainder) (words : Nat) :
    Census :=
  { known :=
    (sightings.filter fun sighting => !sighting.instruction.isReserved).toArray
    reserved :=
      (sightings.filter fun sighting => sighting.instruction.isReserved).toArray
    kinds :=
      Tally.ofOccurrences
        (sightings.map fun sighting => sighting.instruction.kind)
    registers :=
      Tally.ofOccurrencesAscending
        (sightings.filterMap fun sighting => sighting.instruction.csr?)
    remainders := remainders.toArray
    words }

theorem empty_eq_ofHistory : empty = ofHistory [] [] 0 := by
  simp [empty, ofHistory, Tally.ofOccurrences, Tally.ofOccurrencesAscending,
    Tally.ascendingKeys]

theorem countAccess_ofOccurrencesAscending
    (keys : List UInt16) (csr : Option UInt16) :
    countAccess (Tally.ofOccurrencesAscending keys) csr =
      Tally.ofOccurrencesAscending (keys ++ csr.toList) := by
  cases csr with
  | none => simp [countAccess]
  | some counted => exact Tally.bumpBy_ofOccurrencesAscending keys counted

theorem record_ofHistory
    (sightings : List Sighting) (remainders : List Remainder) (words : Nat)
    (sighting : Sighting) :
    (ofHistory sightings remainders words).record sighting =
      ofHistory (sightings ++ [sighting]) remainders words := by
  unfold record ofHistory
  simp only [Tally.bump_ofOccurrences, countAccess_ofOccurrencesAscending,
    List.map_append, List.map_singleton, List.filterMap_append,
    List.filter_append]
  congr 1
  · cases reserved : sighting.instruction.isReserved <;> simp [reserved]
  · cases reserved : sighting.instruction.isReserved <;> simp [reserved]

theorem recordRemainder_ofHistory
    (sightings : List Sighting) (remainders : List Remainder) (words : Nat)
    (remainder : Remainder) :
    (ofHistory sightings remainders words).recordRemainder remainder =
      ofHistory sightings (remainders ++ [remainder]) words := by
  simp [recordRemainder, ofHistory]

end CsrCensus.Census
