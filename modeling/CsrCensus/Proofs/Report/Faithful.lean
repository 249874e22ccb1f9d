import CsrCensus.Proofs.Census.Operations
import CsrCensus.Proofs.Instruction.Text
import CsrCensus.Proofs.Report.Recovery

/-!
# The report of a census is faithful

The text of a report tells two censuses apart whenever they differ in what is
reported: the sightings, the incomplete words, the count of each CSR and the
counts of each kind by frequency. The table of the reserved encodings has no
columns for a class, so a class that one of them carries is not reported.
-/

namespace CsrCensus

/-- A sighting without its class. -/
def Sighting.unclassified (sighting : Sighting) : Sighting :=
  { sighting with cls := none }

namespace Report

open Text

private theorem label_ne_emptyCell (privilege : Csr.Privilege) :
    privilege.label ≠ emptyCell := by
  cases privilege <;> decide

theorem classLabels_injective {left right : Option Csr.Class}
    (privilege :
      (left.map fun cls => cls.privilege.label).getD emptyCell =
        (right.map fun cls => cls.privilege.label).getD emptyCell)
    (usage :
      (left.map fun cls => cls.usage.label).getD emptyCell =
        (right.map fun cls => cls.usage.label).getD emptyCell) :
    left = right := by
  cases left with
  | none =>
      cases right with
      | none => rfl
      | some cls =>
          exact absurd privilege.symm (label_ne_emptyCell cls.privilege)
  | some cls =>
      cases right with
      | none => exact absurd privilege (label_ne_emptyCell cls.privilege)
      | some other => rw [Csr.Class.eq_of_labels_eq privilege usage]

theorem traceRow_eq_iff {left right : Sighting} :
    traceRow left = traceRow right ↔
      left.unclassified = right.unclassified := by
  simp only [traceRow, Sighting.unclassified, TraceRow.mk.injEq,
    Sighting.mk.injEq, and_true, Instruction.text_injective.eq_iff]

theorem map_traceRow_eq_iff {left right : Array Sighting} :
    left.toList.map traceRow = right.toList.map traceRow ↔
      left.map Sighting.unclassified = right.map Sighting.unclassified := by
  have shown (sightings : Array Sighting) :
      sightings.toList.map traceRow =
        (sightings.map Sighting.unclassified).toList.map traceRow := by
    rw [Array.toList_map, List.map_map]
    rfl
  constructor
  · intro equal
    rw [← Array.toList_inj, Array.toList_map, Array.toList_map]
    exact map_eq_of_map_eq (fun _ _ _ _ same => traceRow_eq_iff.mp same) equal
  · intro equal
    rw [shown left, shown right, equal]

theorem content_knownRow_injective :
    Function.Injective fun sighting => (knownRow sighting).content := by
  intro left right equal
  simp only [KnownRow.content, knownRow, Prod.mk.injEq] at equal
  obtain ⟨trace, privilege, usage⟩ := equal
  have cls := classLabels_injective privilege usage
  have shown := traceRow_eq_iff.mp trace
  cases left
  cases right
  simp only [Sighting.unclassified, Sighting.mk.injEq, and_true] at shown
  obtain ⟨offset, word, instruction⟩ := shown
  rw [Sighting.mk.injEq]
  exact ⟨offset, word, instruction, cls⟩

/-- The row of one entry of a tally. -/
def registerRow (register : UInt16 × Nat) : RegisterRow :=
  ⟨register.1, register.2, nameCell (some register.1)⟩

theorem insertRow_rows_perm (cls : Csr.Class) (row : RegisterRow) :
    ∀ groups : List Group,
      ((insertRow cls row groups).flatMap Group.rows).Perm
        (row :: groups.flatMap Group.rows)
  | [] => List.Perm.refl _
  | group :: rest => by
      unfold insertRow
      split
      · exact List.Perm.refl _
      split
      · exact List.Perm.refl _
      · have inductionHypothesis := insertRow_rows_perm cls row rest
        rw [List.flatMap_cons, List.flatMap_cons]
        exact
          (inductionHypothesis.append_left group.rows).trans List.perm_middle

/-- Every entry of a tally has its row in one of the groups. -/
theorem groupsOf_rows_perm (table : Csr.Table) :
    ∀ registers : Tally UInt16,
      ((groupsOf table registers).flatMap Group.rows).Perm
        (registers.map registerRow)
  | [] => List.Perm.refl _
  | _ :: rest =>
      (insertRow_rows_perm _ _ _).trans ((groupsOf_rows_perm table rest).cons _)

theorem registerRows_content_perm
    (census : Census) (table : Csr.Table) (showNames : Bool) :
    ((ofCensus census table showNames).registerRows.map
      RegisterRow.content).Perm
      census.registers := by
  have rows :=
    (groupsOf_rows_perm table census.registers).map RegisterRow.content
  rw [List.map_map] at rows
  have contents : RegisterRow.content ∘ registerRow = id := rfl
  rwa [contents, List.map_id] at rows

private theorem emptyCell_isCell : IsCell emptyCell := by
  decide

theorem nameCell_isCell (csr : Option UInt16) : IsCell (nameCell csr) := by
  unfold nameCell
  cases named : csr.bind Csr.name? with
  | none => exact emptyCell_isCell
  | some name =>
      obtain ⟨address, _, found⟩ := Option.bind_eq_some_iff.mp named
      exact Csr.isCell_of_name?_eq_some found

theorem knownRow_hasCells (sighting : Sighting) :
    (knownRow sighting).HasCells where
  text := sighting.instruction.text_isCell
  privilege := by
    cases carried : sighting.cls with
    | none =>
        simp only [knownRow, carried]
        exact emptyCell_isCell
    | some cls =>
        simp only [knownRow, carried]
        exact cls.privilege.label_isCell
  usage := by
    cases carried : sighting.cls with
    | none =>
        simp only [knownRow, carried]
        exact emptyCell_isCell
    | some cls =>
        simp only [knownRow, carried]
        exact cls.usage.label_isCell
  name := nameCell_isCell _

theorem ofCensus_hasCells
    (census : Census) (table : Csr.Table) (showNames : Bool) :
    (ofCensus census table showNames).HasCells where
  known := by
    intro row member
    obtain ⟨sighting, _, rfl⟩ := List.mem_map.mp member
    exact knownRow_hasCells sighting
  reserved := by
    intro row member
    obtain ⟨sighting, _, rfl⟩ := List.mem_map.mp member
    exact sighting.instruction.text_isCell
  kinds := by
    intro kind member
    obtain ⟨entry, _, rfl⟩ := List.mem_map.mp member
    exact entry.1.label_isCell
  registers := by
    intro group inside row member
    have listed :=
      (groupsOf_rows_perm table census.registers).mem_iff.mp
        (List.mem_flatMap.mpr ⟨group, inside, member⟩)
    obtain ⟨register, _, rfl⟩ := List.mem_map.mp listed
    exact nameCell_isCell _

/-- A tally whose keys ascend is determined by its entries. -/
theorem eq_of_perm_of_keys_ascending
    {left right : Tally UInt16} (permutation : left.Perm right)
    (leftAscending : left.Pairwise fun first second => first.1 < second.1)
    (rightAscending : right.Pairwise fun first second => first.1 < second.1) :
    left = right := by
  refine permutation.eq_of_pairwise ?_ leftAscending rightAscending
  intro first second _ _ below above
  exact absurd below (UInt16.lt_asymm above)

theorem kindCounts_injective :
    Function.Injective fun entry : Instruction.Kind × Nat =>
      (entry.1.label, entry.2) := by
  intro left right equal
  obtain ⟨labels, counts⟩ := Prod.mk.inj equal
  exact Prod.ext (Instruction.Kind.label_injective labels) counts

/-! ## Faithfulness -/

/-- However two censuses were built, their reports have the same text exactly if
they agree in all that is reported. -/
theorem text_ofCensus_eq_iff
    (left right : List Census.Operation) (table : Csr.Table)
    (showNames : Bool) :
    (ofCensus (Census.build left) table showNames).text =
        (ofCensus (Census.build right) table showNames).text ↔
      (Census.build left).known = (Census.build right).known ∧
        (Census.build left).reserved.map Sighting.unclassified =
          (Census.build right).reserved.map Sighting.unclassified ∧
        (Census.build left).remainders = (Census.build right).remainders ∧
        (Census.build left).registers = (Census.build right).registers ∧
        (Census.build left).kinds.byFrequency =
          (Census.build right).kinds.byFrequency := by
  constructor
  · intro equal
    obtain ⟨known, reserved, remainders, kinds, registers⟩ :=
      content_eq_of_text_eq
        (ofCensus_hasCells (Census.build left) table showNames)
        (ofCensus_hasCells (Census.build right) table showNames) rfl equal
    refine ⟨?_, ?_, ?_, ?_, ?_⟩
    · simp only [ofCensus, List.map_map] at known
      exact Array.toList_inj.mp (content_knownRow_injective.list_map known)
    · exact map_traceRow_eq_iff.mp reserved
    · exact Array.toList_inj.mp remainders
    · have permutation :
          (Census.build left).registers.Perm (Census.build right).registers :=
        (registerRows_content_perm (Census.build left) table
          showNames).symm.trans <|
          registers ▸
            registerRows_content_perm (Census.build right) table showNames
      exact eq_of_perm_of_keys_ascending permutation
        (Census.build_registers_ascending left)
        (Census.build_registers_ascending right)
    · exact kindCounts_injective.list_map kinds
  · rintro ⟨known, reserved, remainders, registers, kinds⟩
    have traces := map_traceRow_eq_iff.mpr reserved
    have reports :
        ofCensus (Census.build left) table showNames =
          ofCensus (Census.build right) table showNames := by
      unfold ofCensus
      rw [known, traces, remainders, registers, kinds]
    rw [reports]

/-- Two reserved encodings that differ in the class they carry have the same
report. -/
theorem text_ofCensus_eq_of_reserved_classes :
    let left := Census.build [.record ⟨0, 0x4073, .reserved 4 0, none⟩]
    let right :=
      Census.build
        [.record ⟨0, 0x4073, .reserved 4 0, some ⟨.machine, .standardReadOnly⟩⟩]
    (ofCensus left Csr.Table.standard false).text =
        (ofCensus right Csr.Table.standard false).text ∧
      left.reserved ≠ right.reserved := by
  intro left right
  constructor
  · have reports :
        ofCensus left Csr.Table.standard false =
          ofCensus right Csr.Table.standard false := rfl
    rw [reports]
  · decide

end Report

end CsrCensus
