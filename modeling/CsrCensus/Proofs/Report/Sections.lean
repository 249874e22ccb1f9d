import CsrCensus.Proofs.Report.Recovery
import CsrCensus.Proofs.Text.Parts

/-!
# Sections of a report

The lines of each section: its title, the head of its table, its rows, and the
lines with the sums. Each title stands in its own section only, and each kind of
line is told by how it begins.
-/

namespace CsrCensus.Report

open Text

/-- The title above the known instructions. -/
def knownTitle : String := "--- Known CSR Instructions ---"

/-- The title above the accessed CSRs. -/
def registerTitle : String := "=== CSR Address Summary ==="

/-- The line of the sums of a group. -/
def Group.subtotalLine (group : Group) : String :=
  "Subtotal for " ++ group.cls.privilege.label ++ ", " ++
    group.cls.usage.label ++ ": " ++
    Numeral.decimal.text group.accesses ++ " accesses across " ++
    Numeral.decimal.text group.rows.length ++ " unique registers"

/-- The line of the sums of all groups. -/
def sumLine (report : Report) : String :=
  "Total CSR accesses: " ++ Numeral.decimal.text report.accesses ++
    " across " ++
    Numeral.decimal.text report.uniqueRegisters ++ " unique registers"

/-- The two lines of the head of the known instructions. -/
def knownHead (showNames : Bool) : List String :=
  [ cells
      (["Offset", "Instruction", "Decoded Instruction", "Privilege Level",
        "Use and Accessibility"] ++ nameColumn showNames "CSR Name"),
    cells
      (["----------", "----------", "------------------", "--------------",
        "-------------------"] ++ nameColumn showNames "--------") ]

/-- The two lines of the head of the accessed CSRs. -/
def registerHead (showNames : Bool) : List String :=
  [ cells
      (["CSR Address", "Privilege Level", "Use and Accessibility", "Count"] ++
        nameColumn showNames "CSR Name"),
    cells
      (["----------", "--------------", "-------------------", "-----"] ++
        nameColumn showNames "--------") ]

/-- The lines of the accessed CSRs from their title on. -/
def registerSummary (report : Report) : List String :=
  registerTitle :: registerHead report.showNames ++
    report.groups.flatMap (groupLines report.showNames) ++ [report.sumLine]

theorem knownLines_eq_cons (showNames : Bool) (rows : List KnownRow) :
    knownLines showNames rows =
      "" :: knownTitle :: knownHead showNames ++ rows.map fun row =>
        cells (row.cells showNames) :=
  knownLines_eq showNames rows

theorem registerLines_eq (report : Report) :
    report.registerLines = "" :: report.registerSummary :=
  rfl

theorem groupLines_eq (showNames : Bool) (group : Group) :
    groupLines showNames group =
      group.rows.map (registerLine showNames group.cls) ++
        [group.subtotalLine, ""] :=
  rfl

/-- The first line of a report. -/
def headline : String := "=== RISC-V System/CSR Instructions Scan Results ==="

/-- The lines in front of the counts of each kind. -/
def front (report : Report) : List String :=
  headline :: knownLines report.showNames report.known ++
    reservedLines report.reserved ++
    remainderLines report.remainders

theorem lines_eq_front (report : Report) :
    report.lines =
      report.front ++ kindLines report.kinds report.total ++
        "" :: report.registerSummary :=
  rfl

theorem head?_cells (first second : String) (rest : List String) :
    (cells (first :: second :: rest)).toList.head? =
      some (first.toList.headD '\t') := by
  cases characters : first.toList <;> simp [cells, characters]

theorem beginsWith_remainderLine (remainder : Remainder) :
    beginsWith "Warning: " (remainderLine remainder) = true := by
  -- One step for each text that follows the first.
  unfold remainderLine
  iterate 6 apply beginsWith_append
  decide

theorem Group.beginsWith_subtotalLine (group : Group) :
    beginsWith "Subtotal for " group.subtotalLine = true := by
  unfold subtotalLine
  iterate 8 apply beginsWith_append
  decide

theorem beginsWith_sumLine (report : Report) :
    beginsWith "Total CSR accesses: " report.sumLine = true := by
  unfold sumLine
  iterate 4 apply beginsWith_append
  decide

theorem head?_subtotalLine (group : Group) :
    group.subtotalLine.toList.head? = some 'S' :=
  head?_of_beginsWith group.beginsWith_subtotalLine (by decide)

theorem head?_sumLine (report : Report) :
    report.sumLine.toList.head? = some 'T' :=
  head?_of_beginsWith report.beginsWith_sumLine (by decide)

/-! ## Titles -/

/-- Whether a line is a title: it has no tab, and begins as the titles do. -/
def isTitle (line : String) : Bool :=
  '\t' ∉ line.toList ∧
    (line.toList.head? = some '-' ∨ line.toList.head? = some '=')

theorem isTitle_cells (first second : String) (rest : List String) :
    isTitle (cells (first :: second :: rest)) = false := by
  simp [isTitle, cells]

theorem isTitle_eq_false_of_head?
    {line : String} {first : Char} (head : line.toList.head? = some first)
    (other : first ≠ '-' ∧ first ≠ '=') :
    isTitle line = false := by
  simp [isTitle, head, other.1, other.2]

private theorem titles_map
    {row : Type} {render : row → String}
    (plain : ∀ shown, isTitle (render shown) = false) (rows : List row) :
    (rows.map render).filter isTitle = [] := by
  rw [List.filter_eq_nil_iff]
  intro line member
  obtain ⟨shown, _, rfl⟩ := List.mem_map.mp member
  simp [plain]

theorem titles_knownLines (showNames : Bool) (rows : List KnownRow) :
    (knownLines showNames rows).filter isTitle = [knownTitle] := by
  have table :
      (rows.map fun row => cells (row.cells showNames)).filter isTitle = [] :=
    titles_map (fun _ => isTitle_cells _ _ _) rows
  have head : (knownHead showNames).filter isTitle = [] := by
    simp [knownHead, isTitle_cells]
  rw [knownLines_eq_cons, List.cons_append, List.cons_append,
    List.filter_cons_of_neg (by decide), List.filter_cons_of_pos (by decide),
    List.filter_append, head, table]
  rfl

theorem titles_reservedLines (rows : List TraceRow) :
    (reservedLines rows).filter isTitle =
      if rows.isEmpty then [] else [reservedTitle] := by
  cases rows with
  | nil => rfl
  | cons first rest =>
      have table :
          ((first :: rest).map fun row => cells row.cells).filter isTitle =
            [] :=
        titles_map (fun _ => isTitle_cells _ _ _) (first :: rest)
      rw [reservedLines_cons, List.filter_cons_of_neg (by decide),
        List.filter_cons_of_pos (by decide),
        List.filter_cons_of_neg (by decide),
        List.filter_cons_of_neg (by decide), table]
      rfl

theorem titles_remainderLines (remainders : List Remainder) :
    (remainderLines remainders).filter isTitle = [] := by
  rw [List.filter_eq_nil_iff]
  intro line member
  obtain ⟨remainder, _, found⟩ := List.mem_flatMap.mp member
  rcases List.mem_cons.mp found with rfl | warning
  · decide
  · rw [List.mem_singleton.mp warning]
    simp [isTitle, head?_remainderLine]

theorem titles_kindLines (kinds : List (String × Nat)) (total : Nat) :
    (kindLines kinds total).filter isTitle = [kindTitle] := by
  have table : (kinds.map kindLine).filter isTitle = [] :=
    titles_map (fun _ => isTitle_cells _ _ _) kinds
  have last : isTitle (kindLine ("Total", total)) = false := isTitle_cells _ _ _
  rw [kindLines_eq, kindTable, List.filter_cons_of_neg (by decide),
    List.filter_cons_of_pos (by decide), List.filter_cons_of_neg (by decide),
    List.filter_cons_of_neg (by decide), List.filter_append, table]
  simp [last]

theorem titles_groupLines (showNames : Bool) (group : Group) :
    (groupLines showNames group).filter isTitle = [] := by
  have table :
      (group.rows.map (registerLine showNames group.cls)).filter isTitle = [] :=
    titles_map (fun _ => isTitle_cells _ _ _) group.rows
  have subtotal : isTitle group.subtotalLine = false :=
    isTitle_eq_false_of_head? (head?_subtotalLine group) (by decide)
  have gap : isTitle "" = false := by decide
  rw [groupLines_eq, List.filter_append, table]
  simp [subtotal, gap]

theorem titles_registerSummary (report : Report) :
    report.registerSummary.filter isTitle = [registerTitle] := by
  have head : (registerHead report.showNames).filter isTitle = [] := by
    simp [registerHead, isTitle_cells]
  have groups :
      (report.groups.flatMap (groupLines report.showNames)).filter isTitle =
        [] := by
    rw [List.filter_flatMap]
    simp [titles_groupLines]
  have last : isTitle report.sumLine = false :=
    isTitle_eq_false_of_head? (head?_sumLine report) (by decide)
  rw [registerSummary, List.filter_append, List.cons_append,
    List.filter_cons_of_pos (by decide), List.filter_append, head, groups]
  simp [last]

theorem titles_front (report : Report) :
    report.front.filter isTitle =
      headline :: knownTitle ::
        if report.reserved.isEmpty then [] else [reservedTitle] := by
  rw [front, List.filter_append, List.filter_append,
    List.filter_cons_of_pos (by decide), titles_knownLines,
    titles_reservedLines, titles_remainderLines, List.append_nil]
  rfl

theorem not_mem_of_titles
    {title : String} {before titles : List String}
    (shown : before.filter isTitle = titles) (marked : isTitle title = true)
    (absent : title ∉ titles) :
    title ∉ before := by
  rw [← shown, List.mem_filter] at absent
  exact fun member => absent ⟨member, marked⟩

/-! ## First characters -/

theorem head?_knownLines (showNames : Bool) (rows : List KnownRow) :
    ∀ line ∈ knownLines showNames rows,
      line.toList.head? ∈ [none, some '-', some 'O', some '0'] := by
  rw [knownLines_eq_cons]
  simp only [knownHead, List.cons_append, List.nil_append, List.forall_mem_cons]
  refine ⟨by simp, by simp [knownTitle], by simp [head?_cells],
    by simp [head?_cells], ?_⟩
  intro line member
  obtain ⟨row, _, rfl⟩ := List.mem_map.mp member
  simp [KnownRow.cells, TraceRow.cells, head?_cells_zero]

theorem head?_reservedLines (rows : List TraceRow) :
    ∀ line ∈ reservedLines rows,
      line.toList.head? ∈ [none, some '-', some 'O', some '0'] := by
  cases rows with
  | nil => simp [reservedLines]
  | cons first rest =>
      rw [reservedLines_cons, List.forall_mem_cons, List.forall_mem_cons,
        List.forall_mem_cons, List.forall_mem_cons]
      refine ⟨by simp, by simp [reservedTitle], by simp [head?_cells],
        by simp [head?_cells], ?_⟩
      intro line member
      obtain ⟨row, _, rfl⟩ := List.mem_map.mp member
      simp [TraceRow.cells, head?_cells_zero]

theorem head?_kindLines (kinds : List (String × Nat)) (total : Nat) :
    ∀ line ∈ kindLines kinds total,
      line.toList.head? ∈
        [none, some '=', some 'I', some '-', some 'T'] ++
          kinds.map fun kind => some (kind.1.toList.headD '\t') := by
  rw [kindLines_eq, kindTable]
  simp only [List.forall_mem_cons, List.forall_mem_append]
  refine ⟨by simp, by simp [kindTitle], by simp [head?_cells],
    by simp [head?_cells], ?_,
    by simp [kindLine, head?_cells], by simp⟩
  intro line member
  obtain ⟨kind, inside, rfl⟩ := List.mem_map.mp member
  rw [kindLine, head?_cells]
  exact List.mem_append_right _ (List.mem_map_of_mem inside)

theorem head?_registerHead (showNames : Bool) :
    ∀ line ∈ registerTitle :: registerHead showNames,
      line.toList.head? ∈ [some '=', some 'C', some '-'] := by
  simp [registerHead, registerTitle, head?_cells]

theorem head?_registerLine
    (showNames : Bool) (cls : Csr.Class) (row : RegisterRow) :
    (registerLine showNames cls row).toList.head? = some '0' := by
  rw [registerLine, List.cons_append, head?_cells_zero]

theorem head?_sums (report : Report) :
    ∀ line ∈ report.groups.map Group.subtotalLine ++ [report.sumLine],
      line.toList.head? ∈ [some 'S', some 'T'] := by
  rw [List.forall_mem_append, List.forall_mem_singleton, head?_sumLine]
  refine ⟨?_, by decide⟩
  intro line member
  obtain ⟨group, _, rfl⟩ := List.mem_map.mp member
  rw [head?_subtotalLine]
  decide

theorem filter_remainderLines (remainders : List Remainder) :
    (remainderLines remainders).filter (beginsWith "Warning: ") =
      remainders.map remainderLine := by
  have gap : beginsWith "Warning: " "" = false := by decide
  have pair (remainder : Remainder) :
      ["", remainderLine remainder].filter (beginsWith "Warning: ") =
        [remainderLine remainder] := by
    simp only [List.filter_cons, gap, beginsWith_remainderLine, if_true,
      List.filter_nil, Bool.false_eq_true, if_false]
  rw [remainderLines, List.filter_flatMap, List.map_eq_flatMap]
  simp only [pair]

section Beginning

variable {start : String} {first : Char}
  (head : start.toList.head? = some first)
include head

theorem filter_groupLines_beginsWith
    (foreign : first ≠ '0') (showNames : Bool) (group : Group) :
    (groupLines showNames group).filter (beginsWith start) =
      [group.subtotalLine].filter (beginsWith start) := by
  have rows :
      (group.rows.map (registerLine showNames group.cls)).filter
        (beginsWith start) = [] := by
    refine filter_beginsWith_eq_nil [some '0'] head ?_ (by simpa using foreign)
    intro line member
    obtain ⟨row, _, rfl⟩ := List.mem_map.mp member
    simp [head?_registerLine]
  have gap : [""].filter (beginsWith start) = [] :=
    filter_beginsWith_eq_nil [none] head (by simp) (by simp)
  rw [groupLines_eq, List.filter_append, rows, List.nil_append,
    ← List.singleton_append, List.filter_append, gap, List.append_nil]

/-- Only the lines with sums begin with a letter, apart from the head of the
table. -/
theorem filter_registerSummary
    (foreign : some first ∉ [some '=', some 'C', some '-', some '0'])
    (report : Report) :
    report.registerSummary.filter (beginsWith start) =
      (report.groups.map Group.subtotalLine ++ [report.sumLine]).filter
        (beginsWith start) := by
  have top :
      (registerTitle :: registerHead report.showNames).filter
        (beginsWith start) = [] :=
    filter_beginsWith_eq_nil _ head (head?_registerHead report.showNames)
      (by grind)
  have groups :
      (report.groups.flatMap (groupLines report.showNames)).filter
        (beginsWith start) =
        (report.groups.map Group.subtotalLine).filter (beginsWith start) := by
    rw [List.map_eq_flatMap, List.filter_flatMap, List.filter_flatMap]
    simp only [filter_groupLines_beginsWith head (by grind : first ≠ '0')]
  rw [registerSummary, List.filter_append, List.filter_append, top, groups,
    List.nil_append, List.filter_append]

end Beginning

theorem filter_subtotalLine (report : Report) :
    report.registerSummary.filter (beginsWith "Subtotal for ") =
      report.groups.map Group.subtotalLine := by
  have subtotals :
      ∀ line ∈ report.groups.map Group.subtotalLine,
        beginsWith "Subtotal for " line = true := by
    intro line member
    obtain ⟨group, _, rfl⟩ := List.mem_map.mp member
    exact group.beginsWith_subtotalLine
  have head : "Subtotal for ".toList.head? = some 'S' := by decide
  have last : [report.sumLine].filter (beginsWith "Subtotal for ") = [] :=
    filter_beginsWith_eq_nil [some 'T'] head (by simp [head?_sumLine])
      (by decide)
  rw [filter_registerSummary head (by decide), List.filter_append, last,
    List.append_nil, List.filter_eq_self.mpr subtotals]

theorem filter_sumLine (report : Report) :
    report.registerSummary.filter (beginsWith "Total CSR accesses: ") =
      [report.sumLine] := by
  have head : "Total CSR accesses: ".toList.head? = some 'T' := by decide
  have subtotals :
      (report.groups.map Group.subtotalLine).filter
        (beginsWith "Total CSR accesses: ") = [] := by
    refine filter_beginsWith_eq_nil [some 'S'] head ?_ (by decide)
    intro line member
    obtain ⟨group, _, rfl⟩ := List.mem_map.mp member
    simp [head?_subtotalLine]
  rw [filter_registerSummary head (by decide), List.filter_append, subtotals,
    List.nil_append, List.filter_cons_of_pos report.beginsWith_sumLine,
    List.filter_nil]

end CsrCensus.Report
