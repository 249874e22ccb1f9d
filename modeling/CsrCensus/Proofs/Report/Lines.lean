import CsrCensus.Proofs.Report.Rows

/-!
# Lines of a report

No line of a report has a line feed inside, so the lines can be read off the
text.
-/

namespace CsrCensus.Report

open Text

/-- The texts in a report are cells. -/
structure HasCells (report : Report) : Prop where
  known : ∀ row ∈ report.known, row.HasCells
  reserved : ∀ row ∈ report.reserved, IsCell row.text
  kinds : ∀ kind ∈ report.kinds, IsCell kind.1
  registers : ∀ group ∈ report.groups, ∀ row ∈ group.rows, IsCell row.name

/-- The title above the reserved encodings. -/
def reservedTitle : String := "--- Unknown SYSTEM Instructions ---"

/-- The title above the counts of each kind. -/
def kindTitle : String := "=== Instruction Type Summary ==="

/-- The lines below the title of the counts. -/
def kindTable (kinds : List (String × Nat)) (total : Nat) : List String :=
  cells ["Instruction Type", "Count"] :: cells ["----------------", "-----"] ::
    (kinds.map kindLine ++ [kindLine ("Total", total)])

theorem reservedLines_cons (row : TraceRow) (rest : List TraceRow) :
    reservedLines (row :: rest) =
      "" :: reservedTitle ::
        cells ["Offset", "Instruction", "Decoded Instruction"] ::
        cells ["----------", "----------", "------------------"] ::
          (row :: rest).map fun row => cells row.cells := rfl

theorem kindLines_eq (kinds : List (String × Nat)) (total : Nat) :
    kindLines kinds total = "" :: kindTitle :: kindTable kinds total := by
  simp [kindLines, kindTitle, kindTable, kindLine]

theorem knownLines_isLine
    {rows : List KnownRow} (all : ∀ row ∈ rows, row.HasCells)
    (showNames : Bool) :
    ∀ line ∈ knownLines showNames rows, IsLine line := by
  rw [knownLines_eq, List.forall_mem_append]
  constructor
  · simp only [knownLines, List.map_nil, List.append_nil, List.forall_mem_cons]
    refine ⟨by decide, by decide, isLine_cells ?_, isLine_cells ?_, by simp⟩ <;>
      cases showNames <;> decide
  · intro line member
    obtain ⟨row, inside, rfl⟩ := List.mem_map.mp member
    exact isLine_cells (KnownRow.cells_isCell (all row inside) showNames)

theorem reservedLines_isLine
    {rows : List TraceRow} (all : ∀ row ∈ rows, IsCell row.text) :
    ∀ line ∈ reservedLines rows, IsLine line := by
  cases rows with
  | nil => simp [reservedLines]
  | cons first rest =>
      rw [reservedLines_cons]
      simp only [List.forall_mem_cons]
      refine ⟨by decide, by decide, isLine_cells (by decide),
        isLine_cells (by decide), ?_⟩
      intro line member
      obtain ⟨row, inside, rfl⟩ := List.mem_map.mp member
      exact isLine_cells (TraceRow.cells_isCell (all row inside))

theorem remainderLine_isCell (remainder : Remainder) :
    IsCell (remainderLine remainder) := by
  have word : IsCell (Numeral.word.text remainder.offset.toNat) :=
    isCell_numeral (by decide) (by decide) _
  have plural : IsCell (if remainder.length = 1 then "" else "s") := by
    split <;> decide
  unfold remainderLine
  simp only [isCell_append, decimal_isCell, word, plural]
  decide

theorem remainderLines_isLine (remainders : List Remainder) :
    ∀ line ∈ remainderLines remainders, IsLine line := by
  intro line member
  obtain ⟨remainder, _, found⟩ := List.mem_flatMap.mp member
  rcases List.mem_cons.mp found with rfl | warning
  · decide
  · rw [List.mem_singleton.mp warning]
    exact (remainderLine_isCell remainder).isLine

theorem kindLines_isLine
    {kinds : List (String × Nat)} (all : ∀ kind ∈ kinds, IsCell kind.1)
    (total : Nat) :
    ∀ line ∈ kindLines kinds total, IsLine line := by
  have last : IsCell "Total" := by decide
  rw [kindLines_eq, kindTable]
  simp only [List.forall_mem_cons, List.forall_mem_append]
  refine ⟨by decide, by decide, isLine_cells (by decide),
    isLine_cells (by decide), ?_,
    kindLine_isLine last, by simp⟩
  intro line member
  obtain ⟨kind, inside, rfl⟩ := List.mem_map.mp member
  exact kindLine_isLine (all kind inside)

theorem groupLines_isLine
    {group : Group} (all : ∀ row ∈ group.rows, IsCell row.name)
    (showNames : Bool) :
    ∀ line ∈ groupLines showNames group, IsLine line := by
  unfold groupLines
  simp only [List.forall_mem_append, List.forall_mem_cons]
  refine ⟨?_, ?_, by decide, by simp⟩
  · intro line member
    obtain ⟨row, inside, rfl⟩ := List.mem_map.mp member
    exact isLine_cells
      (RegisterRow.cells_isCell (all row inside) showNames group.cls)
  · apply IsCell.isLine
    simp only [isCell_append, group.cls.privilege.label_isCell,
      group.cls.usage.label_isCell, decimal_isCell]
    decide

theorem registerLines_isLine {report : Report} (all : report.HasCells) :
    ∀ line ∈ report.registerLines, IsLine line := by
  unfold registerLines
  simp only [List.forall_mem_append, List.forall_mem_cons]
  refine
    ⟨⟨⟨by decide, by decide, isLine_cells ?_, isLine_cells ?_, by simp⟩, ?_⟩,
      ?_, by simp⟩
  · cases report.showNames <;> decide
  · cases report.showNames <;> decide
  · intro line member
    obtain ⟨group, inside, found⟩ := List.mem_flatMap.mp member
    exact
      groupLines_isLine (all.registers group inside) report.showNames line found
  · apply IsCell.isLine
    simp only [isCell_append, decimal_isCell]
    decide

theorem lines_isLine {report : Report} (all : report.HasCells) :
    ∀ line ∈ report.lines, IsLine line := by
  unfold lines
  simp only [List.forall_mem_append]
  exact ⟨⟨⟨⟨⟨by decide, knownLines_isLine all.known report.showNames⟩,
    reservedLines_isLine all.reserved⟩,
      remainderLines_isLine report.remainders⟩,
    kindLines_isLine all.kinds report.total⟩, registerLines_isLine all⟩

theorem lines_eq_of_text_eq
    {left right : Report} (leftCells : left.HasCells)
    (rightCells : right.HasCells) (equal : left.text = right.text) :
    left.lines = right.lines :=
  lines_injective (lines_isLine leftCells) (lines_isLine rightCells) equal

end CsrCensus.Report
