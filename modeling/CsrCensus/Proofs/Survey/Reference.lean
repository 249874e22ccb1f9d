import CsrCensus.Proofs.Census.History
import CsrCensus.Proofs.Instruction.Encoding
import CsrCensus.Proofs.Instruction.Text
import CsrCensus.Proofs.Survey.Words
import Mathlib.Algebra.GroupWithZero.Nat

/-!
# What a survey finds

A survey of some regions is the census of a history that can be read off the
regions: the words under the SYSTEM opcode, in order, and the bytes of each
region that form no word.
-/

namespace CsrCensus

/-- Where an instruction was sighted, and the word. -/
def Sighting.place (sighting : Sighting) : UInt64 × Word :=
  (sighting.offset, sighting.word)

namespace Surveyor

/-- The words of some regions whose low seven bits are the SYSTEM opcode. -/
def systemWords (order : ByteOrder) (regions : List Image.Region) :
    List (UInt64 × Word) :=
  (regions.flatMap fun region =>
    addressedWords order region.base region.bytes).filter
    fun place => place.2.toNat % 128 = 0x73

/-- The reading of a word at its address; a CSR access, and nothing else,
carries a class. -/
def reading? (table : Csr.Table) (place : UInt64 × Word) : Option Sighting :=
  (Instruction.ofWord? place.2).map fun instruction =>
    { offset := place.1
      word := place.2
      instruction
      cls :=
        match instruction with
        | .access operands => some (table.classOf operands.csr)
        | _ => none }

/-- The readings of the SYSTEM words of some regions. -/
def sightings (surveyor : Surveyor) (regions : List Image.Region) :
    List Sighting :=
  (systemWords surveyor.order regions).filterMap (reading? surveyor.table)

/-- The bytes at the end of a region that form no word. -/
def remainder? (region : Image.Region) : Option Remainder :=
  if region.bytes.length % 4 = 0 then none
  else some ⟨addressAt region.base (region.bytes.length / 4),
    region.bytes.length % 4⟩

/-- The number of whole words of some regions. -/
def wordCount (regions : List Image.Region) : Nat :=
  (regions.map fun region => region.bytes.length / 4).sum

/-- What a survey of some regions finds. -/
def reference (surveyor : Surveyor) (regions : List Image.Region) : Census :=
  Census.ofHistory (surveyor.sightings regions) (regions.filterMap remainder?)
    (wordCount regions)

theorem reading?_isSome (table : Csr.Table) (place : UInt64 × Word) :
    (reading? table place).isSome = decide (place.2.toNat % 128 = 0x73) := by
  unfold reading?
  rw [Option.isSome_map, Bool.eq_iff_iff, decide_eq_true_iff,
    Option.isSome_iff_ne_none, ne_eq, Instruction.ofWord?_eq_none_iff,
    not_ne_iff]
  exact Word.opcode_eq_system_iff place.2

theorem sighting?_eq_reading?
    (surveyor : Surveyor) (offset : UInt64) (word : Word) :
    surveyor.sighting? offset word =
      reading? surveyor.table (offset, word) := by
  unfold sighting? reading?
  congr 1
  funext instruction
  cases instruction <;> rfl

theorem place_of_reading?
    {table : Csr.Table} {place : UInt64 × Word} {sighting : Sighting}
    (read : reading? table place = some sighting) :
    sighting.place = place := by
  obtain ⟨instruction, _, rfl⟩ := Option.map_eq_some_iff.mp read
  rfl

/-- No SYSTEM word is left out. -/
theorem map_place_sightings
    (surveyor : Surveyor) (regions : List Image.Region) :
    (surveyor.sightings regions).map Sighting.place =
      systemWords surveyor.order regions := by
  have read :
      ∀ places : List (UInt64 × Word),
        (∀ place ∈ places, place.2.toNat % 128 = 0x73) →
          (places.filterMap (reading? surveyor.table)).map Sighting.place =
            places := by
    intro places system
    induction places with
    | nil => rfl
    | cons place rest inductionHypothesis =>
        obtain ⟨first, later⟩ := List.forall_mem_cons.mp system
        obtain ⟨sighting, found⟩ :
            ∃ sighting, reading? surveyor.table place = some sighting := by
          rw [← Option.isSome_iff_exists, reading?_isSome]
          simpa using first
        rw [List.filterMap_cons_some found, List.map_cons,
          place_of_reading? found, inductionHypothesis later]
  apply read
  intro place member
  simpa using (List.mem_filter.mp member).2

/-! ## A survey extends the history -/

theorem readWord_ofHistory
    (surveyor : Surveyor) (sightings : List Sighting)
    (remainders : List Remainder) (words : Nat) (offset : UInt64)
    (word : Word) :
    surveyor.readWord
      (Census.ofHistory sightings remainders words) offset word =
      Census.ofHistory
        (sightings ++ (reading? surveyor.table (offset, word)).toList)
        remainders (words + 1) := by
  unfold readWord
  rw [sighting?_eq_reading?]
  cases reading? surveyor.table (offset, word) with
  | none => simp [Census.ofHistory]
  | some sighting =>
      exact Census.record_ofHistory sightings remainders (words + 1) sighting

private theorem foldl_readWord_ofHistory
    (surveyor : Surveyor) (remainders : List Remainder) :
    ∀ (places : List (UInt64 × Word)) (sightings : List Sighting) (words : Nat),
      places.foldl
        (fun census place => surveyor.readWord census place.1 place.2)
        (Census.ofHistory sightings remainders words) =
        Census.ofHistory
          (sightings ++ places.filterMap (reading? surveyor.table))
          remainders (words + places.length)
  | [], sightings, words => by simp
  | place :: rest, sightings, words => by
      rw [List.foldl_cons, readWord_ofHistory,
        foldl_readWord_ofHistory surveyor remainders rest]
      cases found : reading? surveyor.table place <;>
        simp [found, Nat.add_assoc, Nat.add_comm 1]

theorem finish_ofHistory
    (sightings : List Sighting) (remainders : List Remainder) (words : Nat)
    (offset : UInt64) (held : Bytes) :
    Progress.finish
      ⟨Census.ofHistory sightings remainders words, offset, held⟩ =
      Census.ofHistory sightings
        (remainders ++ if held = [] then [] else [⟨offset, held.length⟩])
        words := by
  cases held with
  | nil => simp [Progress.finish]
  | cons first rest =>
      exact Census.recordRemainder_ofHistory sightings remainders words _

theorem sightings_eq_filterMap
    (surveyor : Surveyor) (regions : List Image.Region) :
    surveyor.sightings regions =
      (regions.flatMap fun region =>
          addressedWords surveyor.order region.base region.bytes).filterMap
        (reading? surveyor.table) := by
  unfold sightings systemWords
  rw [List.filterMap_filter]
  congr 1
  funext place
  have system := reading?_isSome surveyor.table place
  cases found : reading? surveyor.table place with
  | none => simp
  | some sighting => simpa [found] using system.symm

theorem sightings_append
    (surveyor : Surveyor) (first second : List Image.Region) :
    surveyor.sightings (first ++ second) =
      surveyor.sightings first ++ surveyor.sightings second := by
  simp only [sightings_eq_filterMap, List.flatMap_append, List.filterMap_append]

theorem wordCount_append (first second : List Image.Region) :
    wordCount (first ++ second) = wordCount first + wordCount second := by
  simp [wordCount]

private theorem remainder?_eq_held (region : Image.Region) :
    (remainder? region).toList =
      (if region.bytes.drop (4 * (region.bytes.length / 4)) = [] then []
        else
          [⟨addressAt region.base (region.bytes.length / 4),
            (region.bytes.drop (4 * (region.bytes.length / 4))).length⟩]) := by
  unfold remainder?
  simp only [held_eq_nil_iff, length_held]
  split <;> rfl

/-- One region extends the history by what can be read off it. -/
theorem surveyRegion_ofHistory
    (surveyor : Surveyor) (sightings : List Sighting)
    (remainders : List Remainder) (words : Nat) (region : Image.Region) :
    surveyor.surveyRegion (Census.ofHistory sightings remainders words) region =
      Census.ofHistory (sightings ++ surveyor.sightings [region])
        (remainders ++ (remainder? region).toList)
        (words + wordCount [region]) := by
  have count :
      (addressedWords surveyor.order region.base region.bytes).length =
        wordCount [region] := by
    simp [addressedWords, wordCount]
  unfold surveyRegion surveyBytes
  rw [readWords_eq, foldl_readWord_ofHistory, finish_ofHistory,
    ← remainder?_eq_held, count, sightings_eq_filterMap, List.flatMap_singleton]

/-- So does a list of regions. -/
theorem foldl_surveyRegion_ofHistory (surveyor : Surveyor) :
    ∀ (regions : List Image.Region) (sightings : List Sighting)
      (remainders : List Remainder)
      (words : Nat),
      regions.foldl surveyor.surveyRegion
        (Census.ofHistory sightings remainders words) =
        Census.ofHistory (sightings ++ surveyor.sightings regions)
          (remainders ++ regions.filterMap remainder?)
          (words + wordCount regions)
  | [], sightings, remainders, words => by
      simp [sightings_eq_filterMap, wordCount]
  | region :: rest, sightings, remainders, words => by
      have first :=
        surveyRegion_ofHistory surveyor sightings remainders words region
      have later := foldl_surveyRegion_ofHistory surveyor rest
      have remainder :
          (region :: rest).filterMap remainder? =
            (remainder? region).toList ++ rest.filterMap remainder? := by
        cases found : remainder? region <;> simp [found]
      rw [List.foldl_cons, first, later, remainder,
        ← List.singleton_append (l := rest), sightings_append, wordCount_append]
      simp only [List.append_assoc, Nat.add_assoc]

/-- The census of some regions is that of their history. -/
theorem survey_eq_ofHistory
    (surveyor : Surveyor) (regions : List Image.Region) :
    surveyor.survey regions =
      Census.ofHistory (surveyor.sightings regions)
        (regions.filterMap remainder?)
        (wordCount regions) := by
  unfold survey
  rw [Census.empty_eq_ofHistory, foldl_surveyRegion_ofHistory, List.nil_append,
    List.nil_append, Nat.zero_add]

/-- A survey gives the reference: every SYSTEM word has its reading among the
sightings, and the census holds the sightings, their kinds under their labels,
their CSRs, the incomplete words, and the number of words. -/
theorem survey_eq_reference
    (surveyor : Surveyor) (regions : List Image.Region) :
    surveyor.survey regions = surveyor.reference regions ∧
      (surveyor.sightings regions).map Sighting.place =
        systemWords surveyor.order regions ∧
      (surveyor.survey regions).kinds.map
        (fun entry => (entry.1.label, entry.2)) =
        Tally.ofOccurrences
          ((surveyor.sightings regions).map fun sighting =>
            sighting.instruction.kind.label) := by
  have found : surveyor.survey regions = surveyor.reference regions :=
    survey_eq_ofHistory surveyor regions
  refine ⟨found, map_place_sightings surveyor regions, ?_⟩
  rw [found]
  unfold reference Census.ofHistory
  rw [Tally.ofOccurrences_map Instruction.Kind.label_injective, List.map_map]
  rfl

end Surveyor

end CsrCensus
