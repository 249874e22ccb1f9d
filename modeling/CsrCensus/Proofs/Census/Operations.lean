import CsrCensus.Proofs.Survey.Reference

/-!
# Building a census

A census is built from the empty one by recording sightings and incomplete words
and by surveying bytes, in any order. Whatever the order, it is the census of a
history that can be read off the operations.
-/

namespace CsrCensus.Census

/-- What can be done to a census. -/
inductive Operation where
  | record (sighting : Sighting)
  | recordRemainder (remainder : Remainder)
  | survey (surveyor : Surveyor) (region : Image.Region)

namespace Operation

/-- The census after an operation. -/
def apply (census : Census) : Operation → Census
  | .record sighting => census.record sighting
  | .recordRemainder remainder => census.recordRemainder remainder
  | .survey surveyor region => surveyor.surveyRegion census region

/-- The sightings that an operation records. -/
def sightings : Operation → List Sighting
  | .record sighting => [sighting]
  | .recordRemainder _ => []
  | .survey surveyor region => surveyor.sightings [region]

/-- The incomplete words that an operation records. -/
def remainders : Operation → List Remainder
  | .record _ => []
  | .recordRemainder remainder => [remainder]
  | .survey _ region => (Surveyor.remainder? region).toList

/-- The number of words that an operation reads. -/
def words : Operation → Nat
  | .record _ => 0
  | .recordRemainder _ => 0
  | .survey _ region => Surveyor.wordCount [region]

theorem apply_ofHistory
    (sightings : List Sighting) (remainders : List Remainder) (words : Nat)
    (operation : Operation) :
    apply (ofHistory sightings remainders words) operation =
      ofHistory (sightings ++ operation.sightings)
        (remainders ++ operation.remainders)
        (words + operation.words) := by
  cases operation with
  | record sighting =>
      rw [apply, record_ofHistory, Operation.sightings, Operation.remainders,
        Operation.words, List.append_nil, Nat.add_zero]
  | recordRemainder remainder =>
      rw [apply, recordRemainder_ofHistory, Operation.sightings,
        Operation.remainders, Operation.words, List.append_nil, Nat.add_zero]
  | survey surveyor region =>
      exact surveyor.surveyRegion_ofHistory sightings remainders words region

end Operation

/-- The census that some operations build, one after the other. -/
def build (operations : List Operation) : Census :=
  operations.foldl Operation.apply empty

private theorem foldl_apply_ofHistory :
    ∀ (operations : List Operation) (sightings : List Sighting)
      (remainders : List Remainder)
      (words : Nat),
      operations.foldl Operation.apply (ofHistory sightings remainders words) =
        ofHistory (sightings ++ operations.flatMap Operation.sightings)
          (remainders ++ operations.flatMap Operation.remainders)
          (words + (operations.map Operation.words).sum)
  | [], sightings, remainders, words => by
      rw [List.foldl_nil, List.flatMap_nil, List.flatMap_nil, List.append_nil,
        List.append_nil, List.map_nil, List.sum_nil, Nat.add_zero]
  | operation :: rest, sightings, remainders, words => by
      have later := foldl_apply_ofHistory rest
      rw [List.foldl_cons, Operation.apply_ofHistory, later]
      simp only [List.flatMap_cons, List.map_cons, List.sum_cons,
        List.append_assoc, Nat.add_assoc]

/-- The history of a census is the history of its operations. -/
theorem build_eq_ofHistory (operations : List Operation) :
    build operations =
      ofHistory (operations.flatMap Operation.sightings)
        (operations.flatMap Operation.remainders)
        (operations.map Operation.words).sum := by
  unfold build
  rw [empty_eq_ofHistory, foldl_apply_ofHistory, List.nil_append,
    List.nil_append, Nat.zero_add]

/-- The CSRs of a census ascend. -/
theorem build_registers_ascending (operations : List Operation) :
    (build operations).registers.Pairwise fun left right =>
      left.1 < right.1 := by
  rw [build_eq_ofHistory]
  exact List.pairwise_map.mpr (Tally.ascendingKeys_pairwise_lt _)

end CsrCensus.Census
