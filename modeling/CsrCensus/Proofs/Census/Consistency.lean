import CsrCensus.Proofs.Census.Operations
import CsrCensus.Proofs.Tally.Frequency

/-!
# The counts of a census are consistent

A census keeps two lists of sightings and two tallies of them.
`Census.Consistent` says how all of them go together, and what is derived from
them, in terms of the sightings recorded so far. It holds after any operations:
each of them extends the history, and the census of a history is consistent.
-/

namespace CsrCensus

/-- The mnemonics of the CSR accesses. -/
def CsrOperation.mnemonics : List String :=
  ["CSRRW", "CSRRS", "CSRRC", "CSRRWI", "CSRRSI", "CSRRCI"]

namespace Instruction

/-- Whether the instruction is a CSR access. -/
def isAccess : Instruction → Bool
  | .access _ => true
  | _ => false

theorem isSome_csr? (instruction : Instruction) :
    instruction.csr?.isSome = instruction.isAccess := by
  cases instruction <;> rfl

theorem not_isReserved_of_isAccess
    {instruction : Instruction} (access : instruction.isAccess) :
    (!instruction.isReserved) = true := by
  cases instruction with
  | trap => cases access
  | access => rfl
  | reserved => cases access

/-- The CSR accesses are counted under their mnemonics, and nothing else is. -/
theorem label_mem_mnemonics_iff (instruction : Instruction) :
    instruction.kind.label ∈ CsrOperation.mnemonics ↔
      instruction.isAccess = true := by
  cases instruction with
  | trap selected => cases selected <;> decide
  | access operands =>
      simp only [kind, Kind.label, isAccess]
      cases operands.operation <;> decide
  | reserved => simp [kind, Kind.label, isAccess, CsrOperation.mnemonics]

end Instruction

/-- The label under which a sighting is counted. -/
def Sighting.label (sighting : Sighting) : String :=
  sighting.instruction.kind.label

namespace Census

/-- All sightings, the known instructions first. -/
def sightings (census : Census) : List Sighting :=
  census.known.toList ++ census.reserved.toList

/-- The count of each kind, under its label. -/
def labelCounts (census : Census) : Tally String :=
  census.kinds.map fun entry => (entry.1.label, entry.2)

/-- The counts of a census go together, and are those of the recorded
sightings. -/
structure Consistent (census : Census) (recorded : List Sighting) : Prop where
  known_eq :
    census.known.toList = recorded.filter fun sighting =>
      !sighting.instruction.isReserved
  reserved_eq :
    census.reserved.toList = recorded.filter fun sighting =>
      sighting.instruction.isReserved
  known_not_reserved :
    ∀ sighting ∈ census.known, sighting.instruction.isReserved = false
  reserved_isReserved :
    ∀ sighting ∈ census.reserved, sighting.instruction.isReserved = true
  labels_nodup : (census.labelCounts.map Prod.fst).Nodup
  /-- Labels stand in the order in which they first occurred. -/
  labels_eq :
    census.labelCounts.map Prod.fst = (recorded.map Sighting.label).eraseDups
  label_count :
    ∀ entry ∈ census.labelCounts,
      1 ≤ entry.2 ∧ entry.2 = census.sightings.countP fun sighting =>
        sighting.label = entry.1
  registers_ascending :
    census.registers.Pairwise fun left right => left.1 < right.1
  mem_registers :
    ∀ csr, csr ∈ census.registers.map Prod.fst ↔
      ∃ sighting ∈ census.known, sighting.instruction.csr? = some csr
  register_count :
    ∀ entry ∈ census.registers,
      entry.2 = census.known.toList.countP fun sighting =>
        sighting.instruction.csr? = some entry.1
  systemWords_eq : census.systemWords = census.known.size + census.reserved.size
  accesses_eq_known :
    census.accesses = census.known.toList.countP fun sighting =>
      sighting.instruction.isAccess
  accesses_eq_labels :
    census.accesses =
      ((census.labelCounts.filter fun entry =>
        entry.1 ∈ CsrOperation.mnemonics).map Prod.snd).sum
  isEmpty_iff : census.isEmpty = true ↔ census.systemWords = 0
  byFrequency_perm : census.kinds.byFrequency.Perm census.kinds
  byFrequency_descending :
    census.kinds.byFrequency.Pairwise fun left right => right.2 ≤ left.2
  /-- Kinds of one count stand in the order in which they first occurred. -/
  byFrequency_ties :
    ∀ count,
      (census.kinds.byFrequency.filter fun entry => entry.2 = count) =
        census.kinds.filter fun entry => entry.2 = count

/-! ## The census of a history -/

section History

variable (recorded : List Sighting) (remainders : List Remainder) (words : Nat)

theorem sightings_ofHistory_perm :
    (ofHistory recorded remainders words).sightings.Perm recorded := by
  unfold sightings ofHistory
  exact List.perm_append_comm.trans (List.filter_append_perm _ recorded)

theorem labelCounts_ofHistory :
    (ofHistory recorded remainders words).labelCounts =
      Tally.ofOccurrences (recorded.map Sighting.label) := by
  unfold labelCounts ofHistory
  rw [Tally.ofOccurrences_map Instruction.Kind.label_injective, List.map_map]
  rfl

/-- Only known instructions access a CSR. -/
theorem filterMap_csr?_known :
    ((recorded.filter fun sighting =>
      !sighting.instruction.isReserved).filterMap fun sighting =>
        sighting.instruction.csr?) =
      recorded.filterMap fun sighting => sighting.instruction.csr? := by
  rw [List.filterMap_filter]
  refine List.filterMap_congr fun sighting _ => ?_
  cases sighting.instruction <;> rfl

theorem registers_ofHistory :
    (ofHistory recorded remainders words).registers =
      Tally.ofOccurrencesAscending
        ((ofHistory recorded remainders words).known.toList.filterMap
          fun sighting =>
          sighting.instruction.csr?) :=
  congrArg Tally.ofOccurrencesAscending (filterMap_csr?_known recorded).symm

theorem accesses_ofHistory :
    (ofHistory recorded remainders words).accesses =
      recorded.countP fun sighting => sighting.instruction.isAccess := by
  unfold accesses ofHistory
  rw [Tally.total_ofOccurrencesAscending, List.length_filterMap_eq_countP]
  simp only [Instruction.isSome_csr?]

theorem systemWords_ofHistory :
    (ofHistory recorded remainders words).systemWords = recorded.length := by
  unfold systemWords ofHistory
  rw [Tally.total_ofOccurrences, List.length_map]

private theorem label_count_ofHistory :
    ∀ entry ∈ (ofHistory recorded remainders words).labelCounts,
      1 ≤ entry.2 ∧
        entry.2 =
          (ofHistory recorded remainders words).sightings.countP fun sighting =>
            sighting.label = entry.1 := by
  intro entry member
  rw [labelCounts_ofHistory, Tally.ofOccurrences] at member
  obtain ⟨label, present, rfl⟩ := List.mem_map.mp member
  have occurs : label ∈ recorded.map Sighting.label :=
    List.mem_eraseDups.mp present
  refine ⟨List.count_pos_iff.mpr occurs, ?_⟩
  rw [(sightings_ofHistory_perm recorded remainders words).countP_eq,
    List.count_eq_countP, List.countP_map]
  rfl

theorem ofHistory_consistent :
    (ofHistory recorded remainders words).Consistent recorded where
  known_eq := rfl
  reserved_eq := rfl
  known_not_reserved := by
    intro sighting member
    simp only [ofHistory, List.mem_toArray, List.mem_filter] at member
    simpa using member.2
  reserved_isReserved := by
    intro sighting member
    simp only [ofHistory, List.mem_toArray, List.mem_filter] at member
    exact member.2
  labels_nodup := by
    rw [labelCounts_ofHistory, Tally.map_fst_ofOccurrences]
    exact Tally.eraseDups_nodup _
  labels_eq := by
    rw [labelCounts_ofHistory, Tally.map_fst_ofOccurrences]
  label_count := label_count_ofHistory recorded remainders words
  registers_ascending :=
    List.pairwise_map.mpr (Tally.ascendingKeys_pairwise_lt _)
  mem_registers := by
    intro csr
    rw [registers_ofHistory, Tally.ofOccurrencesAscending, List.map_map]
    simp
  register_count := by
    intro entry member
    rw [registers_ofHistory, Tally.ofOccurrencesAscending] at member
    obtain ⟨csr, _, rfl⟩ := List.mem_map.mp member
    rw [List.count_filterMap]
    refine List.countP_congr fun sighting _ => ?_
    rw [beq_iff_eq, decide_eq_true_iff]
  systemWords_eq := by
    have lengths :=
      (sightings_ofHistory_perm recorded remainders words).length_eq
    rw [systemWords_ofHistory, ← lengths, sightings, List.length_append,
      Array.length_toList, Array.length_toList]
  accesses_eq_known := by
    rw [accesses_ofHistory]
    unfold ofHistory
    rw [List.countP_filter]
    refine List.countP_congr fun sighting _ => ?_
    rw [Bool.and_eq_true]
    exact ⟨fun access =>
      ⟨access, Instruction.not_isReserved_of_isAccess access⟩, And.left⟩
  accesses_eq_labels := by
    rw [accesses_ofHistory, labelCounts_ofHistory, ← Tally.total_eq_sum,
      Tally.total_filter_ofOccurrences
        (fun label => decide (label ∈ CsrOperation.mnemonics)),
      List.countP_map]
    refine List.countP_congr fun sighting _ => ?_
    exact (sighting.instruction.label_mem_mnemonics_iff.symm).trans
      decide_eq_true_iff.symm
  isEmpty_iff := by
    have lengths :=
      (sightings_ofHistory_perm recorded remainders words).length_eq
    rw [systemWords_ofHistory, ← lengths, isEmpty, sightings]
    simp
  byFrequency_perm := Tally.byFrequency_perm _
  byFrequency_descending := Tally.byFrequency_descending _
  byFrequency_ties := Tally.filter_byFrequency _

end History

/-- After any operations the counts of a census go together, and are those of
the sightings that the operations recorded. -/
theorem build_consistent (operations : List Operation) :
    (build operations).Consistent (operations.flatMap Operation.sightings) := by
  rw [build_eq_ofHistory]
  exact ofHistory_consistent _ _ _

end Census

end CsrCensus
