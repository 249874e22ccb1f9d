import CsrCensus.Proofs.Census.Consistency
import CsrCensus.Proofs.Report.Faithful
import CsrCensus.Proofs.Report.Reading

/-!
# The sums of a report close

`Reading.Balanced` says how the tables, the sums and the warnings that are read
off the text of a report go together, and with the census that is reported.
Whatever was recorded, the text of the report is balanced: the sums are those of
the rows, and the rows are those of the census.
-/

namespace CsrCensus

namespace Instruction

open Text

theorem firstWord_text_access (operands : CsrAccess) :
    firstWord (text (.access operands)) = operands.operation.mnemonic := by
  have words :
      text (.access operands) =
        operands.operation.mnemonic ++ " " ++
          ("(rd=x" ++ Numeral.decimal.text operands.rd.toNat ++
            ", csr=0x" ++ imm12Format.text operands.csr.toNat ++
            ", rs1/x=" ++ Numeral.decimal.text operands.source.toNat ++
              ")") := by
    apply String.toList_inj.mp
    simp [text]
  rw [words, firstWord_append_space operands.operation.space_not_mem_mnemonic]

theorem firstWord_text_reserved (funct3 : UInt8) (imm12 : UInt16) :
    firstWord (text (.reserved funct3 imm12)) = "Unknown" := by
  have words :
      text (.reserved funct3 imm12) =
        "Unknown" ++ " " ++
          ("SYSTEM (funct3=" ++ funct3Format.text funct3.toNat ++
            ", imm=0x" ++ imm12Format.text imm12.toNat ++ ")") := by
    apply String.toList_inj.mp
    simp [text, Kind.label]
  rw [words, firstWord_append_space (by decide)]

/-- The texts of the CSR accesses, and no others, begin with one of their
mnemonics. -/
theorem firstWord_text_mem_mnemonics_iff (instruction : Instruction) :
    firstWord instruction.text ∈ CsrOperation.mnemonics ↔
      instruction.isAccess = true := by
  cases instruction with
  | trap selected =>
      rw [text, firstWord_of_not_mem selected.space_not_mem_mnemonic]
      exact label_mem_mnemonics_iff (.trap selected)
  | access operands =>
      rw [firstWord_text_access]
      exact label_mem_mnemonics_iff (.access operands)
  | reserved funct3 imm12 =>
      rw [firstWord_text_reserved]
      simp [isAccess, CsrOperation.mnemonics]

end Instruction

namespace Report

open Text

/-! ## Balance -/

/-- The count in the row of a CSR. -/
def readCount (row : List String) : Nat :=
  numberOf (row.getD 3 "")

/-- Whether the row of a known instruction shows a CSR access: whether the
decoded instruction in it begins with the mnemonic of one. -/
def showsAccess (row : List String) : Bool :=
  firstWord (row.getD 2 "") ∈ CsrOperation.mnemonics

/-- The tables, the sums and the warnings of a report go together, and with the
census that is reported. -/
structure Reading.Balanced
    (reading : Reading) (census : Census) (recorded : List Sighting) :
    Prop where
  kinds_perm : reading.kinds.Perm census.labelCounts
  kinds_descending : reading.kinds.Pairwise fun left right => right.2 ≤ left.2
  /-- Kinds of one count stand in the order of the census, -/
  kinds_ties :
    ∀ count,
      (reading.kinds.filter fun kind => kind.2 = count) =
        census.labelCounts.filter fun kind => kind.2 = count
  /-- which is the order in which they first occurred. -/
  labels_eq :
    census.labelCounts.map Prod.fst = (recorded.map Sighting.label).eraseDups
  total_eq_kinds : reading.totals = [(reading.kinds.map Prod.snd).sum]
  total_eq_rows :
    reading.totals = [reading.known.length + (reading.reserved.getD []).length]
  reserved_eq_none_iff : reading.reserved = none ↔ census.reserved = #[]
  /-- There is one line with the sums of all groups. -/
  sums_eq_subtotals :
    reading.sums =
      [((reading.subtotals.map Prod.fst).sum,
        (reading.subtotals.map Prod.snd).sum)]
  accesses_eq_registers :
    (reading.subtotals.map Prod.fst).sum = (reading.registers.map readCount).sum
  accesses_eq_known :
    (reading.subtotals.map Prod.fst).sum = reading.known.countP showsAccess
  accesses_eq_kinds :
    (reading.subtotals.map Prod.fst).sum =
      ((reading.kinds.filter fun kind =>
        kind.1 ∈ CsrOperation.mnemonics).map Prod.snd).sum
  registers_length :
    (reading.subtotals.map Prod.snd).sum = reading.registers.length
  warnings_eq : reading.warnings = census.remainders.toList.map remainderLine

theorem subtotals_sum (report : Report) :
    (report.groups.map Group.accesses).sum =
      (report.registerRows.map RegisterRow.count).sum := by
  rw [registerRows, List.map_flatMap, List.flatMap_def, List.sum_flatten,
    List.map_map]
  exact congrArg List.sum
    (List.map_congr_left fun group _ => List.sum_eq_foldr.symm)

theorem sizes_sum (report : Report) :
    (report.groups.map fun group => group.rows.length).sum =
      report.registerRows.length := by
  rw [registerRows, List.length_flatMap]

theorem subtotals_ofReport_fst (report : Report) :
    ((Reading.ofReport report).subtotals.map Prod.fst).sum =
      (report.registerRows.map RegisterRow.count).sum := by
  rw [← subtotals_sum]
  exact congrArg List.sum List.map_map

theorem subtotals_ofReport_snd (report : Report) :
    ((Reading.ofReport report).subtotals.map Prod.snd).sum =
      report.registerRows.length := by
  rw [← sizes_sum]
  exact congrArg List.sum List.map_map

theorem reserved_length (report : Report) :
    ((Reading.ofReport report).reserved.getD []).length =
      report.reserved.length := by
  unfold Reading.ofReport
  cases report.reserved with
  | nil => rfl
  | cons first rest => simp

theorem readCount_cells
    (showNames : Bool) (cls : Csr.Class) (row : RegisterRow) :
    readCount (row.cells showNames cls) = row.count := by
  have cell :
      (row.cells showNames cls).getD 3 "" = Numeral.decimal.text row.count :=
        rfl
  rw [readCount, cell, numberOf_decimal]

theorem map_readCount (report : Report) :
    (Reading.ofReport report).registers.map readCount =
      report.registerRows.map RegisterRow.count := by
  rw [registerRows, List.map_flatMap, Reading.ofReport, List.map_flatMap]
  simp only [List.map_map, Function.comp_def, readCount_cells]

theorem registers_length (report : Report) :
    (Reading.ofReport report).registers.length =
      report.registerRows.length := by
  rw [registerRows, Reading.ofReport, List.length_flatMap, List.length_flatMap]
  simp only [List.length_map]

section Census

variable (census : Census) (table : Csr.Table) (showNames : Bool)

theorem counts_sum_ofCensus :
    ((ofCensus census table showNames).registerRows.map RegisterRow.count).sum =
      census.accesses := by
  have counts :=
    ((registerRows_content_perm census table showNames).map Prod.snd).sum_nat
  rw [List.map_map] at counts
  rw [Census.accesses, Tally.total_eq_sum, ← counts]
  rfl

theorem kinds_ofCensus_perm :
    (ofCensus census table showNames).kinds.Perm census.labelCounts :=
  (Tally.byFrequency_perm census.kinds).map _

theorem total_ofCensus :
    (ofCensus census table showNames).total = census.systemWords := by
  have counts :=
    ((kinds_ofCensus_perm census table showNames).map Prod.snd).sum_nat
  rw [Report.total, ← List.sum_eq_foldr, counts, Census.systemWords,
    Tally.total_eq_sum, Census.labelCounts, List.map_map]
  rfl

theorem plain_label (kind : Instruction.Kind) :
    kind.label ≠ "Total" ∧ kind.label.toList.headD '\t' ≠ 'W' := by
  cases kind with
  | trap selected => cases selected <;> decide
  | access operation => cases operation <;> decide
  | reserved => decide

theorem ofText_text_ofCensus :
    Reading.ofText (ofCensus census table showNames).text =
      Reading.ofReport (ofCensus census table showNames) := by
  apply Reading.ofText_text (ofCensus_hasCells census table showNames)
  intro kind member
  obtain ⟨entry, _, rfl⟩ := List.mem_map.mp member
  exact plain_label entry.1

theorem showsAccess_cells (sighting : Sighting) :
    showsAccess ((knownRow sighting).cells showNames) =
      sighting.instruction.isAccess := by
  have decoded :
      ((knownRow sighting).cells showNames).getD 2 "" =
        sighting.instruction.text := rfl
  rw [showsAccess, decoded, Bool.eq_iff_iff, decide_eq_true_iff]
  exact sighting.instruction.firstWord_text_mem_mnemonics_iff

theorem countP_showsAccess :
    (Reading.ofReport (ofCensus census table showNames)).known.countP
      showsAccess =
      census.known.toList.countP fun sighting =>
        sighting.instruction.isAccess := by
  have rows :
      (Reading.ofReport (ofCensus census table showNames)).known =
        census.known.toList.map fun sighting =>
          (knownRow sighting).cells showNames :=
    List.map_map
  rw [rows, List.countP_map]
  refine List.countP_congr fun sighting _ => ?_
  rw [Function.comp_apply, showsAccess_cells]

theorem balanced_of_consistent
    {census : Census} {recorded : List Sighting}
    (consistent : census.Consistent recorded) :
    (Reading.ofReport (ofCensus census table showNames)).Balanced census
      recorded := by
  let report := ofCensus census table showNames
  have kinds : report.kinds.Perm census.labelCounts :=
    kinds_ofCensus_perm census table showNames
  have subtotals :
      ((Reading.ofReport report).subtotals.map Prod.fst).sum =
        census.accesses := by
    rw [subtotals_ofReport_fst, counts_sum_ofCensus]
  exact {
    kinds_perm := kinds
    kinds_descending := List.pairwise_map.mpr consistent.byFrequency_descending
    kinds_ties := by
      intro count
      change
        ((census.kinds.byFrequency.map fun entry =>
          (entry.1.label, entry.2)).filter
            fun kind => kind.2 = count) =
          (census.kinds.map fun entry =>
            (entry.1.label, entry.2)).filter fun kind => kind.2 = count
      rw [List.filter_map, List.filter_map]
      exact congrArg _ (consistent.byFrequency_ties count)
    labels_eq := consistent.labels_eq
    total_eq_kinds := by
      rw [Reading.ofReport, Report.total, List.sum_eq_foldr]
    total_eq_rows := by
      have rows :
          (Reading.ofReport report).known.length = census.known.size := by
        simp [Reading.ofReport, report, ofCensus]
      have reservedRows : report.reserved.length = census.reserved.size := by
        simp [report, ofCensus]
      rw [rows, reserved_length, reservedRows, ← consistent.systemWords_eq]
      exact congrArg List.singleton (total_ofCensus census table showNames)
    reserved_eq_none_iff := by
      simp [Reading.ofReport, ofCensus]
    sums_eq_subtotals := by
      rw [subtotals_ofReport_fst, subtotals_ofReport_snd, ← subtotals_sum,
        ← sizes_sum, List.sum_eq_foldr, List.sum_eq_foldr]
      rfl
    accesses_eq_registers := by
      rw [subtotals_ofReport_fst, map_readCount]
    accesses_eq_known := by
      rw [subtotals, countP_showsAccess, consistent.accesses_eq_known]
    accesses_eq_kinds := by
      rw [subtotals, consistent.accesses_eq_labels]
      exact ((kinds.filter _).map Prod.snd).sum_nat.symm
    registers_length := by
      rw [subtotals_ofReport_snd, registers_length]
    warnings_eq := rfl }

end Census

/-- Whatever was recorded, the tables, the sums and the warnings in the text of
the report go together, and with the census. -/
theorem text_ofCensus_balanced
    (operations : List Census.Operation) (table : Csr.Table)
    (showNames : Bool) :
    (Reading.ofText
      (ofCensus (Census.build operations) table showNames).text).Balanced
      (Census.build operations)
        (operations.flatMap Census.Operation.sightings) := by
  have consistent :
      (Census.build operations).Consistent
        (operations.flatMap Census.Operation.sightings) := by
    rw [Census.build_eq_ofHistory]
    exact Census.ofHistory_consistent _ _ _
  rw [ofText_text_ofCensus]
  exact balanced_of_consistent table showNames consistent

end Report

end CsrCensus
