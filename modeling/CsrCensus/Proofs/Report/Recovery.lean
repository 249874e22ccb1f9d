import CsrCensus.Proofs.Report.Lines

/-!
# Reading a report back

The content of a report can be read off its text: the rows of each table, the
warnings and the counts. The text is first cut into lines, the lines at the
empty lines between the sections, and the rows at their tabs.
-/

namespace CsrCensus.Report

open Text

/-- The rows of all groups. -/
def registerRows (report : Report) : List RegisterRow :=
  report.groups.flatMap Group.rows

/-- Lists with the same lines have the same contents, as far as a line shows the
content. -/
theorem map_eq_of_map_eq
    {source line content : Type} {render : source → line}
    {read : source → content} :
    ∀ {left right : List source},
      (∀ first ∈ left, ∀ second ∈ right, render first = render second →
        read first = read second) →
        left.map render = right.map render → left.map read = right.map read
  | [], [], _, _ => rfl
  | first :: rest, second :: others, readable, equal => by
      obtain ⟨heads, tails⟩ := List.cons.inj equal
      have same :=
        readable first List.mem_cons_self second List.mem_cons_self heads
      have later :=
        map_eq_of_map_eq
          (fun left leftMember right rightMember =>
            readable left (List.mem_cons_of_mem _ leftMember) right
              (List.mem_cons_of_mem _ rightMember)) tails
      rw [List.map_cons, List.map_cons, same, later]

private theorem eq_of_map_eq
    {source line : Type} {render : source → line} {left right : List source}
    (readable : ∀ first ∈ left, ∀ second ∈ right, render first = render second →
      first = second) (equal : left.map render = right.map render) :
    left = right := by
  have contents : left.map id = right.map id := map_eq_of_map_eq readable equal
  rw [List.map_id, List.map_id] at contents
  exact contents

/-- The section of the known instructions ends at the next empty line. -/
theorem knownLines_cut
    {left right : List KnownRow} {showNames : Bool}
    {leftRest rightRest : List String}
    (leftCells : ∀ row ∈ left, row.HasCells)
    (rightCells : ∀ row ∈ right, row.HasCells)
    (equal : knownLines showNames left ++ "" :: leftRest =
      knownLines showNames right ++ "" :: rightRest) :
    left.map KnownRow.content = right.map KnownRow.content ∧
      leftRest = rightRest := by
  have nonempty (rows : List KnownRow) :
      "" ∉ rows.map fun row => Report.cells (row.cells showNames) := by
    intro member
    obtain ⟨row, _, empty⟩ := List.mem_map.mp member
    exact row.line_ne_empty showNames empty
  rw [knownLines_eq _ left, knownLines_eq _ right, List.append_assoc,
    List.append_assoc] at equal
  obtain ⟨rows, rests⟩ :=
    eq_of_append_cons_eq (nonempty left) (nonempty right)
      (List.append_cancel_left equal)
  refine ⟨map_eq_of_map_eq ?_ rows, rests⟩
  intro first firstMember second secondMember same
  exact KnownRow.content_eq_of_line_eq (leftCells first firstMember)
    (rightCells second secondMember) same

/-- The section of the reserved encodings ends at the next empty line; its title
tells whether it is there at all. -/
theorem reservedLines_cut
    {left right : List TraceRow} {leftRest rightRest : List String}
    (leftCells : ∀ row ∈ left, IsCell row.text)
    (rightCells : ∀ row ∈ right, IsCell row.text)
    (leftTitle : leftRest.head? ≠ some reservedTitle)
    (rightTitle : rightRest.head? ≠ some reservedTitle)
    (equal : reservedLines left ++ "" :: leftRest =
      reservedLines right ++ "" :: rightRest) :
    left = right ∧ leftRest = rightRest := by
  have nonempty (rows : List TraceRow) :
      "" ∉ rows.map fun row => cells row.cells := by
    intro member
    obtain ⟨row, _, empty⟩ := List.mem_map.mp member
    exact cells_zero_ne_empty (Numeral.word.text row.offset.toNat) _ empty
  cases left with
  | nil =>
      cases right with
      | nil => exact ⟨rfl, (List.cons.inj equal).2⟩
      | cons row rest =>
          -- The title would have to be the first line of what follows.
          rw [reservedLines_cons] at equal
          have tails : leftRest = _ := (List.cons.inj equal).2
          rw [tails] at leftTitle
          exact absurd rfl leftTitle
  | cons first more =>
      cases right with
      | nil =>
          rw [reservedLines_cons] at equal
          have tails : _ = rightRest := (List.cons.inj equal).2
          rw [← tails] at rightTitle
          exact absurd rfl rightTitle
      | cons row rest =>
          rw [reservedLines_cons, reservedLines_cons] at equal
          simp only [List.cons_append] at equal
          have tables :=
            (List.cons.inj
              (List.cons.inj (List.cons.inj (List.cons.inj equal).2).2).2).2
          obtain ⟨rows, rests⟩ :=
            eq_of_append_cons_eq (nonempty (first :: more))
              (nonempty (row :: rest)) tables
          refine ⟨eq_of_map_eq ?_ rows, rests⟩
          intro one oneMember other otherMember same
          exact TraceRow.eq_of_line_eq (leftCells one oneMember)
            (rightCells other otherMember) same

theorem reservedLines_append_eq_cons
    (rows : List TraceRow) (rest : List String) :
    ∃ tail, reservedLines rows ++ "" :: rest = "" :: tail := by
  cases rows with
  | nil => exact ⟨rest, rfl⟩
  | cons first more => exact ⟨_, by rw [reservedLines_cons, List.cons_append]⟩

private theorem toList_remainderLine (remainder : Remainder) :
    (remainderLine remainder).toList =
      "Warning: Incomplete instruction at end of input (".toList ++
        ((Numeral.decimal.text remainder.length).toList ++ ' ' ::
          ("trailing byte".toList ++
            ((if remainder.length = 1 then "" else "s").toList ++
              (" at 0x".toList ++
                ((Numeral.word.text remainder.offset.toNat).toList ++ ' ' ::
                  "ignored).".toList))))) := by
  have trailing : " trailing byte".toList = ' ' :: "trailing byte".toList := by
    decide
  have ignored : " ignored).".toList = ' ' :: "ignored).".toList := by decide
  unfold remainderLine
  simp only [String.toList_append, List.append_assoc, trailing, ignored,
    List.cons_append]

theorem remainderLine_injective : Function.Injective remainderLine := by
  intro left right equal
  have characters := congrArg String.toList equal
  rw [toList_remainderLine, toList_remainderLine] at characters
  obtain ⟨length, afterLength⟩ :=
    numeral_eq_of_append (by decide) (by decide) (by decide)
      (List.append_cancel_left characters)
  have afterPlural := List.append_cancel_left afterLength
  rw [length] at afterPlural
  obtain ⟨offset, _⟩ :=
    numeral_eq_of_append (by decide) (by decide) (by decide)
      (List.append_cancel_left (List.append_cancel_left afterPlural))
  cases left
  cases right
  rw [Remainder.mk.injEq]
  exact ⟨UInt64.toNat_inj.mp offset, length⟩

theorem head?_remainderLine (remainder : Remainder) :
    (remainderLine remainder).toList.head? = some 'W' := by
  simp [toList_remainderLine]

theorem remainderLine_ne_kindTitle (remainder : Remainder) :
    remainderLine remainder ≠ kindTitle := by
  intro equal
  have head := head?_remainderLine remainder
  rw [equal] at head
  exact absurd head (by decide)

theorem remainderLine_ne_reservedTitle (remainder : Remainder) :
    remainderLine remainder ≠ reservedTitle := by
  intro equal
  have head := head?_remainderLine remainder
  rw [equal] at head
  exact absurd head (by decide)

/-- The warnings end at the title above the counts. -/
theorem remainderLines_cut :
    ∀ {left right : List Remainder} {leftRest rightRest : List String},
      remainderLines left ++ "" :: kindTitle :: leftRest =
          remainderLines right ++ "" :: kindTitle :: rightRest →
        left = right ∧ leftRest = rightRest
  | [], [], _, _, equal => by
      exact ⟨rfl, (List.cons.inj (List.cons.inj equal).2).2⟩
  | [], warning :: rest, _, _, equal => by
      have heads := (List.cons.inj (List.cons.inj equal).2).1
      exact absurd heads.symm (remainderLine_ne_kindTitle warning)
  | warning :: rest, [], _, _, equal => by
      have heads := (List.cons.inj (List.cons.inj equal).2).1
      exact absurd heads (remainderLine_ne_kindTitle warning)
  | first :: more, second :: others, _, _, equal => by
      obtain ⟨heads, tails⟩ := List.cons.inj (List.cons.inj equal).2
      obtain ⟨same, rests⟩ := remainderLines_cut tails
      exact ⟨by rw [remainderLine_injective heads, same], rests⟩

/-- What follows the reserved encodings starts with an empty line, but not with
their title. -/
theorem remainderLines_append_eq_cons
    (remainders : List Remainder) (rest : List String) :
    ∃ tail,
      remainderLines remainders ++ "" :: kindTitle :: rest = "" :: tail ∧
        tail.head? ≠ some reservedTitle := by
  cases remainders with
  | nil => exact ⟨kindTitle :: rest, rfl, by simp [kindTitle, reservedTitle]⟩
  | cons first more =>
      refine ⟨_, rfl, ?_⟩
      simpa using remainderLine_ne_reservedTitle first

/-- The counts end at the next empty line, the last of them being the total. -/
theorem kindTable_cut
    {left right : List (String × Nat)} {leftTotal rightTotal : Nat}
    {leftRest rightRest : List String}
    (leftCells : ∀ kind ∈ left, IsCell kind.1)
    (rightCells : ∀ kind ∈ right, IsCell kind.1)
    (equal : kindTable left leftTotal ++ "" :: leftRest =
      kindTable right rightTotal ++ "" :: rightRest) :
    left = right ∧ leftRest = rightRest := by
  have nonempty (kinds : List (String × Nat)) (total : Nat) :
      "" ∉ kinds.map kindLine ++ [kindLine ("Total", total)] := by
    simp only [List.mem_append, List.mem_map, List.mem_singleton, not_or,
      not_exists, not_and]
    exact ⟨fun kind _ => kindLine_ne_empty kind, (kindLine_ne_empty _).symm⟩
  simp only [kindTable, List.cons_append] at equal
  have tables := (List.cons.inj (List.cons.inj equal).2).2
  obtain ⟨rows, rests⟩ :=
    eq_of_append_cons_eq (nonempty left leftTotal)
      (nonempty right rightTotal) tables
  have counts := (List.append_inj' rows rfl).1
  refine ⟨eq_of_map_eq ?_ counts, rests⟩
  intro one oneMember other otherMember same
  exact eq_of_kindLine_eq (leftCells one oneMember)
    (rightCells other otherMember) same

/-- Whether a line starts with a numeral, as only the rows of CSRs do in their
section. -/
def isRegisterLine (line : String) : Bool :=
  line.toList.head? = some '0'

theorem filter_groupLines (showNames : Bool) (group : Group) :
    (groupLines showNames group).filter isRegisterLine =
      group.rows.map (registerLine showNames group.cls) := by
  have rows :
      ∀ line ∈ group.rows.map (registerLine showNames group.cls),
        isRegisterLine line := by
    intro line member
    obtain ⟨row, _, rfl⟩ := List.mem_map.mp member
    exact decide_eq_true
      (head?_cells_zero (Instruction.imm12Format.text row.csr.toNat) _)
  unfold groupLines
  rw [List.filter_append, List.filter_eq_self.mpr rows]
  simp [isRegisterLine]

theorem registerLines_eq_cons (report : Report) :
    ∃ tail, report.registerLines = "" :: tail :=
  ⟨_, rfl⟩

theorem filter_registerLines (report : Report) :
    report.registerLines.filter isRegisterLine =
      report.groups.flatMap fun group =>
        group.rows.map (registerLine report.showNames group.cls) := by
  have groups :
      (report.groups.flatMap (groupLines report.showNames)).filter
        isRegisterLine =
        report.groups.flatMap fun group =>
          group.rows.map (registerLine report.showNames group.cls) := by
    rw [List.filter_flatMap]
    congr 1
    funext group
    exact filter_groupLines report.showNames group
  unfold registerLines
  rw [List.filter_append, List.filter_append, groups]
  simp [isRegisterLine, cells]

/-- The rows of all CSRs can be read off their section. -/
theorem registerRows_of_registerLines_eq
    {left right : Report} (leftCells : left.HasCells)
    (rightCells : right.HasCells) (names : left.showNames = right.showNames)
    (equal : left.registerLines = right.registerLines) :
    left.registerRows.map RegisterRow.content =
      right.registerRows.map RegisterRow.content := by
  let entries (report : Report) : List (Csr.Class × RegisterRow) :=
    report.groups.flatMap fun group => group.rows.map fun row =>
      (group.cls, row)
  have lines (report : Report) :
      report.registerLines.filter isRegisterLine =
        (entries report).map fun entry =>
          registerLine report.showNames entry.1 entry.2 := by
    simp [filter_registerLines, entries, List.map_flatMap, Function.comp_def]
  have rows (report : Report) :
      report.registerRows.map RegisterRow.content =
        (entries report).map fun entry => entry.2.content := by
    simp [registerRows, entries, List.map_flatMap, Function.comp_def]
  have cell {report : Report} (all : report.HasCells) :
      ∀ entry ∈ entries report, IsCell entry.2.name := by
    intro entry member
    obtain ⟨group, inside, found⟩ := List.mem_flatMap.mp member
    obtain ⟨row, rowInside, rfl⟩ := List.mem_map.mp found
    exact all.registers group inside row rowInside
  have shown :
      (entries left).map
        (fun entry => registerLine left.showNames entry.1 entry.2) =
        (entries right).map fun entry =>
          registerLine left.showNames entry.1 entry.2 := by
    rw [← lines left, equal, lines right, names]
  rw [rows left, rows right]
  refine map_eq_of_map_eq ?_ shown
  intro one oneMember other otherMember same
  exact RegisterRow.content_eq_of_registerLine_eq (cell leftCells one oneMember)
    (cell rightCells other otherMember) same

/-! ## All sections -/

/-- The content of a report can be read off its text. -/
theorem content_eq_of_text_eq
    {left right : Report} (leftCells : left.HasCells)
    (rightCells : right.HasCells) (names : left.showNames = right.showNames)
    (equal : left.text = right.text) :
    left.known.map KnownRow.content = right.known.map KnownRow.content ∧
      left.reserved = right.reserved ∧ left.remainders = right.remainders ∧
      left.kinds = right.kinds ∧
      left.registerRows.map RegisterRow.content =
        right.registerRows.map RegisterRow.content := by
  have lines := lines_eq_of_text_eq leftCells rightCells equal
  simp only [Report.lines, names, List.append_assoc, kindLines_eq,
    List.cons_append] at lines
  have sections := (List.cons.inj lines).2
  obtain ⟨leftLater, leftWarnings, leftTitle⟩ :=
    remainderLines_append_eq_cons left.remainders
      (kindTable left.kinds left.total ++ left.registerLines)
  obtain ⟨rightLater, rightWarnings, rightTitle⟩ :=
    remainderLines_append_eq_cons right.remainders
      (kindTable right.kinds right.total ++ right.registerLines)
  obtain ⟨leftRest, leftReserved⟩ :=
    reservedLines_append_eq_cons left.reserved leftLater
  obtain ⟨rightRest, rightReserved⟩ :=
    reservedLines_append_eq_cons right.reserved rightLater
  simp only [List.nil_append] at sections
  -- Each section is cut off at the empty line that begins the next one.
  rw [leftWarnings, rightWarnings, leftReserved, rightReserved] at sections
  obtain ⟨known, rests⟩ :=
    knownLines_cut leftCells.known rightCells.known sections
  obtain ⟨reserved, laters⟩ :=
    reservedLines_cut leftCells.reserved rightCells.reserved leftTitle
      rightTitle
      (leftReserved.trans (rests ▸ rightReserved.symm))
  obtain ⟨remainders, tables⟩ :=
    remainderLines_cut (leftWarnings.trans (laters ▸ rightWarnings.symm))
  obtain ⟨leftTable, leftRegisters⟩ := registerLines_eq_cons left
  obtain ⟨rightTable, rightRegisters⟩ := registerLines_eq_cons right
  rw [leftRegisters, rightRegisters] at tables
  obtain ⟨kinds, registers⟩ :=
    kindTable_cut leftCells.kinds rightCells.kinds tables
  exact ⟨known, reserved, remainders, kinds,
    registerRows_of_registerLines_eq leftCells rightCells names
      (by rw [leftRegisters, rightRegisters, registers])⟩

end CsrCensus.Report
