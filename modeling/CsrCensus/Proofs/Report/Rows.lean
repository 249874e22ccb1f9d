import CsrCensus.Proofs.Csr.Label

/-!
# Rows of a report

A row is identified by its cells. Each text in a report is a cell and each line
of its text is free of line feeds, so that the text comes apart into lines and
the lines into cells.
-/

namespace CsrCensus.Report

open Text

theorem word_isCell (number : Nat) :
    IsCell ("0x" ++ Numeral.word.text number) :=
  isCell_append.mpr ⟨by decide, isCell_numeral (by decide) (by decide) number⟩

theorem csr_isCell (number : Nat) :
    IsCell ("0x" ++ Instruction.imm12Format.text number) :=
  isCell_append.mpr ⟨by decide, isCell_numeral (by decide) (by decide) number⟩

theorem decimal_isCell (number : Nat) : IsCell (Numeral.decimal.text number) :=
  isCell_numeral (by decide) (by decide) number

theorem nameColumn_isCell
    {name : String} (cell : IsCell name) (showNames : Bool) :
    ∀ text ∈ nameColumn showNames name, IsCell text := by
  cases showNames <;> simp [nameColumn, cell]

@[simp]
theorem length_nameColumn (showNames : Bool) (name : String) :
    (nameColumn showNames name).length = showNames.toNat := by
  cases showNames <;> rfl

/-- A row that starts with a numeral shows it. -/
theorem head?_cells_zero (text : String) (rest : List String) :
    (cells (("0x" ++ text) :: rest)).toList.head? = some '0' := by
  cases rest <;> simp [cells]

theorem cells_zero_ne_empty (text : String) (rest : List String) :
    cells (("0x" ++ text) :: rest) ≠ "" := by
  intro empty
  have head := head?_cells_zero text rest
  rw [empty] at head
  cases head

namespace TraceRow

@[simp]
theorem length_cells (row : TraceRow) : row.cells.length = 3 := rfl

theorem cells_isCell {row : TraceRow} (text : IsCell row.text) :
    ∀ cell ∈ row.cells, IsCell cell := by
  simp only [TraceRow.cells, List.forall_mem_cons, word_isCell, text,
    List.not_mem_nil, false_implies, implies_true, and_self]

theorem eq_of_cells_eq
    {left right : TraceRow} (equal : left.cells = right.cells) :
    left = right := by
  simp only [TraceRow.cells, List.cons.injEq, and_true] at equal
  obtain ⟨offset, word, text⟩ := equal
  have read : Function.Injective Numeral.word.text :=
    Numeral.Format.text_injective (by decide) (by decide)
  cases left
  cases right
  rw [TraceRow.mk.injEq]
  exact ⟨UInt64.toNat_inj.mp (read ((String.append_right_inj "0x").mp offset)),
    UInt32.toNat_inj.mp (read ((String.append_right_inj "0x").mp word)), text⟩

theorem eq_of_line_eq
    {left right : TraceRow} (leftCell : IsCell left.text)
    (rightCell : IsCell right.text)
    (equal : Report.cells left.cells = Report.cells right.cells) :
    left = right :=
  eq_of_cells_eq <|
    cells_injective (cells_isCell leftCell) (cells_isCell rightCell)
      (by rw [length_cells, length_cells]) equal

end TraceRow

namespace KnownRow

/-- The texts of a row are cells. -/
structure HasCells (row : KnownRow) : Prop where
  text : IsCell row.trace.text
  privilege : IsCell row.privilege
  usage : IsCell row.usage
  name : IsCell row.name

/-- The cells of a known instruction. -/
def cells (showNames : Bool) (row : KnownRow) : List String :=
  row.trace.cells ++ [row.privilege, row.usage] ++ nameColumn showNames row.name

/-- What the row of a known instruction shows without the column of names. -/
def content (row : KnownRow) : TraceRow × String × String :=
  (row.trace, row.privilege, row.usage)

@[simp]
theorem length_cells (showNames : Bool) (row : KnownRow) :
    (row.cells showNames).length = 5 + showNames.toNat := by
  rw [cells, List.length_append, List.length_append, TraceRow.length_cells,
    length_nameColumn]
  rfl

theorem cells_isCell {row : KnownRow} (all : row.HasCells) (showNames : Bool) :
    ∀ cell ∈ row.cells showNames, IsCell cell := by
  simp only [cells, List.forall_mem_append, List.forall_mem_cons]
  exact ⟨⟨TraceRow.cells_isCell all.text, all.privilege, all.usage, by simp⟩,
    nameColumn_isCell all.name showNames⟩

theorem content_eq_of_cells_eq
    {left right : KnownRow} {showNames : Bool}
    (equal : left.cells showNames = right.cells showNames) :
    left.content = right.content := by
  have columns :
      left.trace.cells ++ [left.privilege, left.usage] =
        right.trace.cells ++ [right.privilege, right.usage] :=
    (List.append_inj equal (by simp)).1
  obtain ⟨traces, classes⟩ := List.append_inj columns (by simp)
  have trace := TraceRow.eq_of_cells_eq traces
  simp only [List.cons.injEq, and_true] at classes
  rw [content, content, trace, classes.1, classes.2]

theorem content_eq_of_line_eq
    {left right : KnownRow} {showNames : Bool} (leftCells : left.HasCells)
    (rightCells : right.HasCells)
    (equal : Report.cells (left.cells showNames) =
      Report.cells (right.cells showNames)) :
    left.content = right.content :=
  content_eq_of_cells_eq <|
    cells_injective (cells_isCell leftCells showNames)
      (cells_isCell rightCells showNames)
      (by rw [length_cells, length_cells]) equal

theorem line_ne_empty (showNames : Bool) (row : KnownRow) :
    Report.cells (row.cells showNames) ≠ "" :=
  cells_zero_ne_empty (Numeral.word.text row.trace.offset.toNat) _

end KnownRow

theorem knownLines_eq (showNames : Bool) (rows : List KnownRow) :
    knownLines showNames rows =
      knownLines showNames [] ++ rows.map fun row =>
        cells (row.cells showNames) := by
  simp [knownLines, KnownRow.cells]

/-- The line of one count. -/
def kindLine (kind : String × Nat) : String :=
  cells [kind.1, Numeral.decimal.text kind.2]

theorem kindLine_ne_empty (kind : String × Nat) : kindLine kind ≠ "" := by
  intro empty
  have characters := congrArg String.toList empty
  simp [kindLine, cells] at characters

theorem eq_of_kindLine_eq
    {left right : String × Nat} (leftCell : IsCell left.1)
    (rightCell : IsCell right.1) (equal : kindLine left = kindLine right) :
    left = right := by
  have columns :
      [left.1, Numeral.decimal.text left.2] =
        [right.1, Numeral.decimal.text right.2] :=
    cells_injective (by simp [leftCell, decimal_isCell])
      (by simp [rightCell, decimal_isCell])
      (by simp) equal
  simp only [List.cons.injEq, and_true] at columns
  exact Prod.ext columns.1 <|
    Numeral.Format.text_injective (by decide) (by decide) columns.2

theorem kindLine_isLine {kind : String × Nat} (cell : IsCell kind.1) :
    IsLine (kindLine kind) :=
  isLine_cells (by simp [cell, decimal_isCell])

namespace RegisterRow

/-- The cells of one CSR. -/
def cells (showNames : Bool) (cls : Csr.Class) (row : RegisterRow) :
    List String :=
  [ "0x" ++ Instruction.imm12Format.text row.csr.toNat, cls.privilege.label,
    cls.usage.label,
    Numeral.decimal.text row.count ] ++ nameColumn showNames row.name

/-- The address and the count of a row. -/
def content (row : RegisterRow) : UInt16 × Nat :=
  (row.csr, row.count)

@[simp]
theorem length_cells (showNames : Bool) (cls : Csr.Class) (row : RegisterRow) :
    (row.cells showNames cls).length = 4 + showNames.toNat := by
  rw [cells, List.length_append, length_nameColumn]
  rfl

theorem cells_isCell
    {row : RegisterRow} (name : IsCell row.name) (showNames : Bool)
    (cls : Csr.Class) :
    ∀ cell ∈ row.cells showNames cls, IsCell cell := by
  simp only [cells, List.forall_mem_append, List.forall_mem_cons]
  exact
    ⟨⟨csr_isCell _, cls.privilege.label_isCell, cls.usage.label_isCell,
      decimal_isCell _,
    by simp⟩, nameColumn_isCell name showNames⟩

theorem content_eq_of_cells_eq
    {left right : RegisterRow} {leftClass rightClass : Csr.Class}
    {showNames : Bool}
    (equal : left.cells showNames leftClass =
      right.cells showNames rightClass) :
    left.content = right.content := by
  have fixed := (List.append_inj equal (by simp)).1
  simp only [List.cons.injEq, and_true] at fixed
  obtain ⟨csr, _, _, count⟩ := fixed
  have address :=
    Numeral.Format.text_injective (by decide) (by decide)
      ((String.append_right_inj "0x").mp csr)
  exact Prod.ext (UInt16.toNat_inj.mp address) <|
    Numeral.Format.text_injective (by decide) (by decide) count

theorem content_eq_of_registerLine_eq
    {left right : RegisterRow} {leftClass rightClass : Csr.Class}
    {showNames : Bool} (leftCell : IsCell left.name)
    (rightCell : IsCell right.name)
    (equal : registerLine showNames leftClass left =
      registerLine showNames rightClass right) :
    left.content = right.content :=
  content_eq_of_cells_eq <|
    cells_injective (cells_isCell leftCell showNames leftClass)
      (cells_isCell rightCell showNames rightClass)
      (by rw [length_cells, length_cells]) equal

end RegisterRow

end CsrCensus.Report
