import CsrCensus.Proofs.Report.Groups
import CsrCensus.Proofs.Report.Totals

/-!
# The classes in a report

A CSR access is classified twice: by the surveyor, for its row among the known
instructions, and by the table of the report, for the row of its CSR in the
summary. `Reading.Classified` says which classes are read off the text of a
report, and that the counts in the summary are those of the rows.
-/

namespace CsrCensus

/-- The mnemonics of the traps and trap returns. -/
def Trap.mnemonics : List String :=
  ["ECALL", "EBREAK", "URET", "SRET", "MRET"]

theorem Trap.mnemonic_mem_mnemonics (selected : Trap) :
    selected.mnemonic ∈ mnemonics := by
  cases selected <;> decide

theorem CsrOperation.mnemonic_not_mem_traps (operation : CsrOperation) :
    operation.mnemonic ∉ Trap.mnemonics := by
  cases operation <;> decide

/-- Both labels of a class. -/
def Csr.Class.labels (cls : Csr.Class) : List String :=
  [cls.privilege.label, cls.usage.label]

namespace Report

open Text

/-- The word for a CSR in the text of an access. -/
def csrWord (csr : UInt16) : String :=
  "csr=0x" ++ Instruction.imm12Format.text csr.toNat ++ ","

/-- Whether the row of a known instruction shows an access to a CSR: whether the
third word of the decoded instruction names it. -/
def showsAccessTo (csr : UInt16) (row : List String) : Bool :=
  (wordsOf (row.getD 2 "")).getD 2 "" = csrWord csr

/-- Whether the row of a known instruction shows a trap or a trap return. -/
def showsTrap (row : List String) : Bool :=
  row.getD 2 "" ∈ Trap.mnemonics

/-- The labels in the row of a known instruction. -/
def traceLabels (row : List String) : List String :=
  [row.getD 3 "", row.getD 4 ""]

/-- Whether a row of the summary is that of a CSR. -/
def summarises (csr : UInt16) (row : List String) : Bool :=
  row.getD 0 "" = "0x" ++ Instruction.imm12Format.text csr.toNat

/-- The labels in a row of the summary. -/
def summaryLabels (row : List String) : List String :=
  [row.getD 1 "", row.getD 2 ""]

/-- The classes that are read off a report on a census, one table for the known
instructions and one for the summary. -/
structure Reading.Classified
    (reading : Reading) (census : Census)
    (surveyTable summaryTable : Csr.Table) :
    Prop where
  /-- Each known instruction has its row, in the order of the census. -/
  decoded_eq :
    reading.known.map (fun row => row.getD 2 "") =
      census.known.toList.map fun sighting => sighting.instruction.text
  /-- A row shows a trap or a CSR access. -/
  trap_or_access :
    ∀ row ∈ reading.known,
      showsTrap row = true ∨ ∃ csr, showsAccessTo csr row = true
  trapLabels_eq :
    ∀ row ∈ reading.known,
      showsTrap row = true → traceLabels row = [emptyCell, emptyCell]
  accessLabels_eq :
    ∀ csr, ∀ row ∈ reading.known, showsAccessTo csr row = true →
      traceLabels row = (surveyTable.classOf csr).labels
  /-- A CSR has one row in the summary if it has a row among the known
  instructions, and else it has none. Its count is the number of those rows. -/
  summary_eq :
    ∀ csr,
      (reading.registers.filter (summarises csr)).map
          (fun row => (summaryLabels row, readCount row)) =
        if reading.known.countP (showsAccessTo csr) = 0 then []
        else
          [((summaryTable.classOf csr).labels,
            reading.known.countP (showsAccessTo csr))]

/-- All rows of a CSR show the same labels. -/
def Reading.Uniform (reading : Reading) : Prop :=
  ∀ csr, ∀ row ∈ reading.known, showsAccessTo csr row = true →
    ∀ summary ∈ reading.registers, summarises csr summary = true →
      traceLabels row = summaryLabels summary

theorem csrWord_injective : Function.Injective csrWord := by
  intro left right equal
  unfold csrWord at equal
  rw [String.append_left_inj, String.append_right_inj] at equal
  exact UInt16.toNat_inj.mp <|
    Numeral.Format.text_injective (by decide) (by decide) equal

theorem wordsOf_text_access (operands : CsrAccess) :
    (wordsOf (Instruction.text (.access operands))).getD 2 "" =
      csrWord operands.csr := by
  have words :
      Instruction.text (.access operands) =
        operands.operation.mnemonic ++ " " ++
          ("(rd=x" ++ Numeral.decimal.text operands.rd.toNat ++ "," ++ " " ++
            (csrWord operands.csr ++ " " ++
              ("rs1/x=" ++ Numeral.decimal.text operands.source.toNat ++
                ")"))) := by
    apply String.toList_inj.mp
    simp [Instruction.text, csrWord]
  have target :
      ' ' ∉
        ("(rd=x" ++ Numeral.decimal.text operands.rd.toNat ++ ",").toList := by
    have numeral : ' ' ∉ (Numeral.decimal.text operands.rd.toNat).toList :=
      not_mem_numeral (by decide) (by decide) (by decide) _
    simp [numeral]
  have register : ' ' ∉ (csrWord operands.csr).toList := by
    have numeral :
        ' ' ∉ (Instruction.imm12Format.text operands.csr.toNat).toList :=
      not_mem_numeral (by decide) (by decide) (by decide) _
    simp [csrWord, numeral]
  rw [words, wordsOf_append_space operands.operation.space_not_mem_mnemonic,
    wordsOf_append_space target, wordsOf_append_space register]
  rfl

theorem wordsOf_text_trap (selected : Trap) (csr : UInt16) :
    (wordsOf (Instruction.text (.trap selected))).getD 2 "" ≠ csrWord csr := by
  have single :
      wordsOf (Instruction.text (.trap selected)) = [selected.mnemonic] :=
    wordsOf_of_not_mem selected.space_not_mem_mnemonic
  have nonempty : csrWord csr ≠ "" := by
    intro empty
    simpa [csrWord] using congrArg String.toList empty
  rw [single]
  exact nonempty.symm

section Sighting

variable (showNames : Bool) {sighting : Sighting}

theorem showsAccessTo_cells
    (known : sighting.instruction.isReserved = false) (csr : UInt16) :
    showsAccessTo csr ((knownRow sighting).cells showNames) =
      decide (sighting.instruction.csr? = some csr) := by
  have decoded :
      ((knownRow sighting).cells showNames).getD 2 "" =
        sighting.instruction.text := rfl
  rw [showsAccessTo, decoded, Bool.eq_iff_iff, decide_eq_true_iff,
    decide_eq_true_iff]
  cases kind : sighting.instruction with
  | trap selected =>
      simpa [Instruction.csr?] using wordsOf_text_trap selected csr
  | access operands =>
      rw [wordsOf_text_access, csrWord_injective.eq_iff, Instruction.csr?,
        Option.some_inj]
  | reserved => simp [kind, Instruction.isReserved] at known

theorem showsTrap_cells_of_trap
    {selected : Trap} (trap : sighting.instruction = .trap selected) :
    showsTrap ((knownRow sighting).cells showNames) = true := by
  have decoded :
      ((knownRow sighting).cells showNames).getD 2 "" = selected.mnemonic :=
    congrArg Instruction.text trap
  rw [showsTrap, decoded, decide_eq_true_iff]
  exact selected.mnemonic_mem_mnemonics

theorem showsTrap_cells_of_access
    {operands : CsrAccess} (access : sighting.instruction = .access operands) :
    showsTrap ((knownRow sighting).cells showNames) = false := by
  have decoded :
      ((knownRow sighting).cells showNames).getD 2 "" =
        sighting.instruction.text := rfl
  rw [showsTrap, decoded, decide_eq_false_iff_not, access]
  intro member
  -- The mnemonic is the first word of the text, and no mnemonic of a trap has a
  -- second one.
  have single :
      firstWord (Instruction.text (.access operands)) ∈ Trap.mnemonics := by
    have whole :
        ∀ mnemonic ∈ Trap.mnemonics, firstWord mnemonic ∈ Trap.mnemonics := by
          decide
    exact whole _ member
  rw [Instruction.firstWord_text_access] at single
  exact operands.operation.mnemonic_not_mem_traps single

theorem traceLabels_cells :
    traceLabels ((knownRow sighting).cells showNames) =
      (sighting.cls.map Csr.Class.labels).getD [emptyCell, emptyCell] := by
  have shown :
      traceLabels ((knownRow sighting).cells showNames) =
        [(knownRow sighting).privilege, (knownRow sighting).usage] := rfl
  rw [shown]
  unfold knownRow
  cases sighting.cls <;> rfl

end Sighting

theorem summarises_cells
    (csr : UInt16) (showNames : Bool) (cls : Csr.Class) (row : RegisterRow) :
    summarises csr (row.cells showNames cls) = decide (row.csr = csr) := by
  have shown :
      (row.cells showNames cls).getD 0 "" =
        "0x" ++ Instruction.imm12Format.text row.csr.toNat := rfl
  rw [summarises, shown, Bool.eq_iff_iff, decide_eq_true_iff,
    decide_eq_true_iff, String.append_right_inj]
  constructor
  · intro equal
    exact UInt16.toNat_inj.mp
      (Numeral.Format.text_injective (by decide) (by decide) equal)
  · rintro rfl
    rfl

/-! ## Both classifications -/

/-- A sighting carries the class that the table of the surveyor gives to its
CSR. -/
theorem cls_of_mem_sightings
    {surveyor : Surveyor} {regions : List Image.Region} {sighting : Sighting}
    (member : sighting ∈ surveyor.sightings regions) :
    sighting.cls = sighting.instruction.csr?.map surveyor.table.classOf := by
  obtain ⟨place, _, read⟩ := List.mem_filterMap.mp member
  obtain ⟨instruction, _, rfl⟩ := Option.map_eq_some_iff.mp read
  cases instruction <;> rfl

section Survey

variable (surveyor : Surveyor) (regions : List Image.Region) (table : Csr.Table)
  (showNames : Bool)

theorem known_of_survey :
    ∀ sighting ∈ (surveyor.survey regions).known.toList,
      sighting.instruction.isReserved = false ∧
        sighting.cls =
          sighting.instruction.csr?.map surveyor.table.classOf := by
  intro sighting member
  rw [Surveyor.survey_eq_ofHistory] at member
  obtain ⟨inside, known⟩ := List.mem_filter.mp member
  exact ⟨by simpa using known, cls_of_mem_sightings inside⟩

theorem registers_survey :
    (surveyor.survey regions).registers =
      Tally.ofOccurrencesAscending
        ((surveyor.survey regions).known.toList.filterMap fun sighting =>
          sighting.instruction.csr?) := by
  rw [Surveyor.survey_eq_ofHistory]
  exact Census.registers_ofHistory _ _ _

theorem known_ofCensus (census : Census) :
    (Reading.ofReport (ofCensus census table showNames)).known =
      census.known.toList.map fun sighting =>
        (knownRow sighting).cells showNames :=
  List.map_map

theorem countP_showsAccessTo (csr : UInt16) :
    (Reading.ofReport
      (ofCensus (surveyor.survey regions) table showNames)).known.countP
        (showsAccessTo csr) =
      ((surveyor.survey regions).known.toList.filterMap fun sighting =>
        sighting.instruction.csr?).count csr := by
  rw [known_ofCensus, List.countP_map, List.count_filterMap]
  refine List.countP_congr fun sighting member => ?_
  have known := (known_of_survey surveyor regions sighting member).1
  rw [Function.comp_apply, showsAccessTo_cells showNames known,
    decide_eq_true_iff, beq_iff_eq]

/-- Of the rows in the summary, at most one is that of a CSR. -/
theorem filter_summarises (keys : List UInt16) (csr : UInt16) :
    ((groupsOf table (Tally.ofOccurrencesAscending keys)).flatMap fun group =>
        group.rows.map (RegisterRow.cells showNames group.cls)).filter
          (summarises csr) =
      if csr ∈ keys then
        [(registerRow (csr, keys.count csr)).cells showNames
          (table.classOf csr)]
      else [] := by
  let shown := fun register : UInt16 × Nat =>
    (registerRow register).cells showNames (table.classOf register.1)
  have rows :
      ((Tally.ofOccurrencesAscending keys).map shown).filter (summarises csr) =
        if csr ∈ keys then [shown (csr, keys.count csr)] else [] := by
    have own :
        summarises csr ∘ shown = fun register => decide (register.1 = csr) := by
      funext register
      exact summarises_cells csr showNames _ (registerRow register)
    rw [List.filter_map, own, Tally.filter_ofOccurrencesAscending]
    split <;> rfl
  have permuted :=
    (registerCells_perm table showNames
      (Tally.ofOccurrencesAscending keys)).filter (summarises csr)
  rw [rows] at permuted
  by_cases counted : csr ∈ keys
  · rw [if_pos counted] at permuted ⊢
    exact List.perm_singleton.mp permuted
  · rw [if_neg counted] at permuted ⊢
    exact List.perm_nil.mp permuted

theorem classified_survey :
    (Reading.ofReport
      (ofCensus (surveyor.survey regions) table showNames)).Classified
      (surveyor.survey regions) surveyor.table table where
  decoded_eq := by
    rw [known_ofCensus, List.map_map]
    rfl
  trap_or_access := by
    rw [known_ofCensus, List.forall_mem_map]
    intro sighting member
    have known := (known_of_survey surveyor regions sighting member).1
    cases kind : sighting.instruction with
    | trap selected => exact .inl (showsTrap_cells_of_trap showNames kind)
    | access operands =>
        refine .inr ⟨operands.csr, ?_⟩
        rw [showsAccessTo_cells showNames known, kind]
        exact decide_eq_true rfl
    | reserved => simp [kind, Instruction.isReserved] at known
  trapLabels_eq := by
    rw [known_ofCensus, List.forall_mem_map]
    intro sighting member trap
    obtain ⟨known, cls⟩ := known_of_survey surveyor regions sighting member
    rw [traceLabels_cells, cls]
    cases kind : sighting.instruction with
    | trap selected => rfl
    | access operands =>
        rw [showsTrap_cells_of_access showNames kind] at trap
        cases trap
    | reserved => simp [kind, Instruction.isReserved] at known
  accessLabels_eq := by
    intro csr
    rw [known_ofCensus, List.forall_mem_map]
    intro sighting member access
    obtain ⟨known, cls⟩ := known_of_survey surveyor regions sighting member
    rw [showsAccessTo_cells showNames known, decide_eq_true_iff] at access
    rw [traceLabels_cells, cls, access]
    rfl
  summary_eq := by
    intro csr
    let keys :=
      (surveyor.survey regions).known.toList.filterMap fun sighting =>
        sighting.instruction.csr?
    have rows := filter_summarises table showNames keys csr
    rw [← registers_survey] at rows
    rw [countP_showsAccessTo]
    refine (congrArg (List.map _) rows).trans ?_
    by_cases counted : csr ∈ keys
    · rw [if_pos counted,
        if_neg (mt List.count_eq_zero.mp (not_not_intro counted)),
        List.map_singleton, readCount_cells]
      rfl
    · rw [if_neg counted, if_pos (List.count_eq_zero.mpr counted), List.map_nil]

end Survey

/-- With one table for both, all rows of a CSR show the same labels. -/
theorem Reading.Classified.uniform
    {reading : Reading} {census : Census} {table : Csr.Table}
    (classified : reading.Classified census table table) :
    reading.Uniform := by
  intro csr row member access summary inside summarised
  have shown :
      (summaryLabels summary, readCount summary) ∈
        (reading.registers.filter (summarises csr)).map fun row =>
          (summaryLabels row, readCount row) :=
    List.mem_map_of_mem (List.mem_filter.mpr ⟨inside, summarised⟩)
  have counted : reading.known.countP (showsAccessTo csr) ≠ 0 :=
    Nat.pos_iff_ne_zero.mp (List.countP_pos_iff.mpr ⟨row, member, access⟩)
  rw [classified.summary_eq, if_neg counted, List.mem_singleton] at shown
  rw [classified.accessLabels_eq csr row member access]
  exact (Prod.mk.inj shown).1.symm

/-- In the report on a survey the known instructions show the classes of the
surveyor, and the summary shows those of the table of the report. If both are
the same table, all rows of a CSR agree. -/
theorem text_survey_classified
    (surveyor : Surveyor) (regions : List Image.Region) (table : Csr.Table)
    (showNames : Bool) :
    (Reading.ofText
      (ofCensus (surveyor.survey regions) table showNames).text).Classified
        (surveyor.survey regions) surveyor.table table ∧
      (Reading.ofText
        (ofCensus (surveyor.survey regions) surveyor.table
          showNames).text).Uniform := by
  rw [ofText_text_ofCensus, ofText_text_ofCensus]
  exact
    ⟨classified_survey surveyor regions table showNames,
      (classified_survey surveyor regions surveyor.table showNames).uniform⟩

end Report

end CsrCensus
