import CsrCensus.Proofs.Census.Rearranged
import CsrCensus.Proofs.Report.Totals
import Mathlib.Data.List.TakeWhile

/-!
# Reports on rearranged censuses

The summary of the accessed CSRs and the total of the kinds do not show the
order in which the words were read. So the reports on some regions, surveyed in
two orders, end in the same summary, and have the same row with the total.
-/

namespace CsrCensus

namespace Report

open Text

/-- A text is cut in front of the first of its lines that is a title. -/
structure CutAt (title text front later : String) : Prop where
  text_eq : text = front ++ later
  absent : title ∉ linesOf front
  begins : beginsWith (title ++ "\n") later = true

/-- The rows of the total below the title of the kinds. -/
def totalRows (text : String) : List String :=
  (rowsUnder kindTitle (linesOf text)).filter fun row =>
    (cellsOf row).headD "" = "Total"

/-- The lines of the accessed CSRs, as a text. -/
def summaryText (report : Report) : String :=
  String.join (report.registerSummary.map fun line => line ++ "\n")

theorem cut_registerTitle {report : Report} (all : report.HasCells) :
    ∃ front, CutAt registerTitle report.text front report.summaryText := by
  let above := report.lines.takeWhile fun line => decide (line ≠ registerTitle)
  have parts : report.lines = above ++ report.registerSummary := by
    rw [← report.summary_lines]
    exact List.takeWhile_append_dropWhile.symm
  have single : ∀ line ∈ above, IsLine line :=
    fun line member => lines_isLine all line (List.takeWhile_subset _ member)
  refine ⟨String.join (above.map fun line => line ++ "\n"), ?_, ?_, ?_⟩
  · rw [Report.text, parts, List.map_append, String.join_append, summaryText]
  · rw [linesOf_join single]
    intro member
    simpa using List.mem_takeWhile_imp member
  · rw [summaryText, registerSummary, List.cons_append, List.cons_append,
      List.map_cons, String.join_cons]
    exact
      beginsWith_append (beginsWith_iff.mpr ⟨"", String.append_empty.symm⟩) _

theorem cellsOf_kindLine {kind : String × Nat} (cell : IsCell kind.1) :
    cellsOf (kindLine kind) = [kind.1, Numeral.decimal.text kind.2] :=
  cellsOf_cells (by simp) (by simp [cell, decimal_isCell])

theorem totalRows_text
    {report : Report} (all : report.HasCells)
    (labels : ∀ kind ∈ report.kinds, kind.1 ≠ "Total") :
    totalRows report.text = [kindLine ("Total", report.total)] := by
  have last : IsCell "Total" := by decide
  have lines : linesOf report.text = report.lines :=
    linesOf_join (lines_isLine all)
  have others :
      (report.kinds.map kindLine).filter
        (fun row => (cellsOf row).headD "" = "Total") = [] := by
    rw [List.filter_eq_nil_iff]
    intro row member
    obtain ⟨kind, inside, rfl⟩ := List.mem_map.mp member
    rw [cellsOf_kindLine (all.kinds kind inside)]
    simpa using labels kind inside
  unfold totalRows
  rw [lines, rowsUnder_kindTitle, List.map_append, List.filter_append, others,
    List.nil_append, List.map_singleton, List.filter_singleton,
    cellsOf_kindLine last]
  rfl

theorem summaryText_ofCensus_of_registers_eq
    {left right : Census} (registers : left.registers = right.registers)
    (table : Csr.Table) (showNames : Bool) :
    (ofCensus left table showNames).summaryText =
      (ofCensus right table showNames).summaryText := by
  have groups :
      (ofCensus left table showNames).groups =
        (ofCensus right table showNames).groups :=
    congrArg (groupsOf table) registers
  unfold summaryText registerSummary sumLine accesses uniqueRegisters
  rw [groups]
  rfl

end Report

namespace Surveyor

open Report

/-- Two orders of the same regions give the same counts, and the same entries in
another order. The reports end in the same summary of the accessed CSRs, and
have the same row with the total. -/
theorem survey_perm
    (surveyor : Surveyor) {left right : List Image.Region}
    (permutation : left.Perm right) :
    (surveyor.survey left).Rearranged (surveyor.survey right) ∧
      ∀ (table : Csr.Table) (showNames : Bool),
        ∃ leftFront rightFront summary total,
          CutAt registerTitle
            (ofCensus (surveyor.survey left) table showNames).text leftFront
            summary ∧
          CutAt registerTitle
            (ofCensus (surveyor.survey right) table showNames).text rightFront
            summary ∧
          totalRows (ofCensus (surveyor.survey left) table showNames).text =
            [total] ∧
          totalRows (ofCensus (surveyor.survey right) table showNames).text =
            [total] := by
  have rearranged := surveyor.survey_rearranged permutation
  refine ⟨rearranged, fun table showNames => ?_⟩
  have labels :
      ∀ census : Census,
        ∀ kind ∈ (ofCensus census table showNames).kinds, kind.1 ≠ "Total" := by
    intro census kind member
    obtain ⟨entry, _, rfl⟩ := List.mem_map.mp member
    exact (plain_label entry.1).1
  have totals :
      (ofCensus (surveyor.survey left) table showNames).total =
        (ofCensus (surveyor.survey right) table showNames).total := by
    rw [total_ofCensus, total_ofCensus, rearranged.systemWords_eq]
  obtain ⟨leftFront, leftCut⟩ :=
    cut_registerTitle (ofCensus_hasCells (surveyor.survey left) table showNames)
  obtain ⟨rightFront, rightCut⟩ :=
    cut_registerTitle
      (ofCensus_hasCells (surveyor.survey right) table showNames)
  rw [← summaryText_ofCensus_of_registers_eq
    rearranged.registers_eq] at rightCut
  refine ⟨leftFront, rightFront, _, _, leftCut, rightCut,
    totalRows_text (ofCensus_hasCells _ table showNames) (labels _), ?_⟩
  rw [totalRows_text (ofCensus_hasCells _ table showNames) (labels _), totals]

/-- An environment call, and one byte more. -/
def callRegion :
    Image.Region := ⟨"call", 0x1000, [0x00, 0x00, 0x00, 0x73, 0xAB]⟩

/-- A CSR access in the last word of the address space, and a reserved encoding
in the first. -/
def accessRegion : Image.Region :=
  ⟨"access", 0xFFFFFFFFFFFFFFFC,
    [0x18, 0x02, 0x90, 0x73, 0x00, 0x00, 0x40, 0x73]⟩

theorem survey_perm_call_access :
    let surveyor : Surveyor := ⟨Csr.Table.blank, .big⟩
    let first := surveyor.survey [callRegion, accessRegion]
    let second := surveyor.survey [accessRegion, callRegion]
    [callRegion, accessRegion].Perm [accessRegion, callRegion] ∧
      first.kinds.map Prod.fst = [.trap .ecall, .access .readWrite, .reserved] ∧
      second.kinds.map Prod.fst =
        [.access .readWrite, .reserved, .trap .ecall] ∧
      first.Rearranged second ∧
      ∃ leftFront rightFront summary total,
        CutAt registerTitle
          (ofCensus first Csr.Table.standard true).text leftFront summary ∧
          CutAt registerTitle
            (ofCensus second Csr.Table.standard true).text rightFront summary ∧
          totalRows (ofCensus first Csr.Table.standard true).text = [total] ∧
          totalRows (ofCensus second Csr.Table.standard true).text =
            [total] := by
  intro surveyor first second
  have swapped : [callRegion, accessRegion].Perm [accessRegion, callRegion] :=
    List.Perm.swap accessRegion callRegion []
  obtain ⟨rearranged, reports⟩ := surveyor.survey_perm swapped
  exact
    ⟨swapped, by decide, by decide, rearranged, reports Csr.Table.standard true⟩

end Surveyor

end CsrCensus
