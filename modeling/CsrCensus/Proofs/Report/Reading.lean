import CsrCensus.Proofs.Report.Sections

/-!
# Reading the tables of a report

`Reading.ofText` reads the rows of the tables, the warnings and the sums off a
text, line by line, by the titles of the tables and the beginnings of the lines
alone. Read off the text of a report, they are those of the report.
-/

namespace CsrCensus.Report

open Text

/-- The rows of the table under a title: the lines up to the next empty one,
without the two lines of the head. -/
def rowsUnder (title : String) (lines : List String) : List String :=
  (((lines.dropWhile (· ≠ title)).drop 1).takeWhile (· ≠ "")).drop 2

/-- The label and the count in a row of the counts of each kind. -/
def readKind (line : String) : String × Nat :=
  ((cellsOf line).getD 0 "", numberOf ((cellsOf line).getD 1 ""))

/-- The two numbers in a line with sums: accesses and CSRs. -/
def readSums (line : String) : Nat × Nat :=
  ((numbersOf line).getD 0 0, (numbersOf line).getD 1 0)

/-- What can be read off the text of a report. -/
structure Reading where
  /-- The cells of each known instruction. -/
  known : List (List String)
  /-- The cells of each reserved encoding, if there is a table of them. -/
  reserved : Option (List (List String))
  warnings : List String
  kinds : List (String × Nat)
  /-- The counts under the label of the total. -/
  totals : List Nat
  /-- The cells of each accessed CSR. -/
  registers : List (List String)
  /-- The accesses and the number of CSRs of each group. -/
  subtotals : List (Nat × Nat)
  /-- The accesses and the number of CSRs of all groups. -/
  sums : List (Nat × Nat)
deriving DecidableEq

namespace Reading

def ofText (text : String) : Reading :=
  let lines := linesOf text
  let counts := (rowsUnder kindTitle lines).map readKind
  let summary := lines.dropWhile (· ≠ registerTitle)
  { known := (rowsUnder knownTitle lines).map cellsOf
    reserved :=
      if reservedTitle ∈ lines then
        some ((rowsUnder reservedTitle lines).map cellsOf)
      else none
    warnings := lines.filter (beginsWith "Warning: ")
    kinds := counts.filter fun kind => kind.1 ≠ "Total"
    totals := (counts.filter fun kind => kind.1 = "Total").map Prod.snd
    registers := (summary.filter isRegisterLine).map cellsOf
    subtotals := (summary.filter (beginsWith "Subtotal for ")).map readSums
    sums := (summary.filter (beginsWith "Total CSR accesses: ")).map readSums }

/-- What is to be read off the text of a report. -/
def ofReport (report : Report) : Reading :=
  { known := report.known.map fun row => row.cells report.showNames
    reserved :=
      if report.reserved.isEmpty then none
      else some (report.reserved.map TraceRow.cells)
    warnings := report.remainders.map remainderLine
    kinds := report.kinds
    totals := [report.total]
    registers :=
      report.groups.flatMap fun group =>
        group.rows.map (RegisterRow.cells report.showNames group.cls)
    subtotals :=
      report.groups.map fun group => (group.accesses, group.rows.length)
    sums := [(report.accesses, report.uniqueRegisters)] }

end Reading

section Title

variable {title : String} {before : List String} (absent : title ∉ before)
  (after : List String)
include absent

theorem decide_ne_title : ∀ line ∈ before, decide (line ≠ title) = true := by
  intro line member
  exact decide_eq_true fun same => absent (same ▸ member)

theorem dropWhile_title :
    (before ++ title :: after).dropWhile (fun line => decide (line ≠ title)) =
      title :: after := by
  rw [List.dropWhile_append_of_pos (decide_ne_title absent),
    List.dropWhile_cons_of_neg (by simp)]

theorem takeWhile_title :
    (before ++ title :: after).takeWhile (fun line => decide (line ≠ title)) =
      before := by
  rw [List.takeWhile_append_of_pos (decide_ne_title absent),
    List.takeWhile_cons_of_neg (by simp), List.append_nil]

end Title

theorem rowsUnder_append
    {row : Type} {render : row → String} {title : String}
    {before head after : List String} {rows : List row}
    (absent : title ∉ before) (two : head.length = 2) (full : "" ∉ head)
    (nonempty : ∀ shown, render shown ≠ "") :
    rowsUnder title
      (before ++ title :: (head ++ rows.map render ++ "" :: after)) =
      rows.map render := by
  -- The empty line behind the rows ends the table, so neither the head nor a
  -- row may be empty.
  have filled : "" ∉ head ++ rows.map render := by
    rw [List.mem_append, not_or]
    refine ⟨full, fun member => ?_⟩
    obtain ⟨shown, _, empty⟩ := List.mem_map.mp member
    exact nonempty shown empty
  unfold rowsUnder
  rw [dropWhile_title absent, List.drop_one, List.tail_cons,
    takeWhile_title filled, List.drop_left' two]

/-! ## Each table in a report -/

theorem rowsUnder_knownTitle (report : Report) :
    rowsUnder knownTitle report.lines =
      report.known.map fun row => cells (row.cells report.showNames) := by
  obtain ⟨later, warnings, _⟩ :=
    remainderLines_append_eq_cons report.remainders
      (kindTable report.kinds report.total ++ "" :: report.registerSummary)
  obtain ⟨after, reserved⟩ := reservedLines_append_eq_cons report.reserved later
  have sections :
      report.lines =
        [headline, ""] ++ knownTitle ::
          (knownHead report.showNames ++
            (report.known.map fun row => cells (row.cells report.showNames)) ++
              "" :: after) := by
    rw [lines_eq_front, front, knownLines_eq_cons, ← reserved, ← warnings,
      kindLines_eq]
    simp
  rw [sections]
  refine rowsUnder_append (by decide) rfl ?_ fun row =>
    row.line_ne_empty report.showNames
  cases report.showNames <;> decide

theorem rowsUnder_reservedTitle
    {report : Report} (present : report.reserved ≠ []) :
    rowsUnder reservedTitle report.lines = report.reserved.map fun row =>
      cells row.cells := by
  obtain ⟨after, warnings, _⟩ :=
    remainderLines_append_eq_cons report.remainders
      (kindTable report.kinds report.total ++ "" :: report.registerSummary)
  obtain ⟨row, rest, found⟩ := List.exists_cons_of_ne_nil present
  have sections :
      report.lines =
        (headline :: knownLines report.showNames report.known ++ [""]) ++
          reservedTitle ::
          ([cells ["Offset", "Instruction", "Decoded Instruction"],
              cells ["----------", "----------", "------------------"]] ++
            (report.reserved.map fun row => cells row.cells) ++
              "" :: after) := by
    rw [lines_eq_front, front, found, reservedLines_cons, ← warnings,
      kindLines_eq]
    simp
  have titles :
      (headline :: knownLines report.showNames report.known ++ [""]).filter
        isTitle =
        [headline, knownTitle] := by
    rw [List.filter_append, List.filter_cons_of_pos (by decide),
      titles_knownLines]
    rfl
  rw [sections]
  refine rowsUnder_append (not_mem_of_titles titles (by decide) (by decide)) rfl
    (by decide) ?_
  exact fun row => cells_zero_ne_empty (Numeral.word.text row.offset.toNat) _

theorem rowsUnder_kindTitle (report : Report) :
    rowsUnder kindTitle report.lines =
      (report.kinds ++ [("Total", report.total)]).map kindLine := by
  have sections :
      report.lines =
        (report.front ++ [""]) ++ kindTitle ::
          ([cells ["Instruction Type", "Count"],
              cells ["----------------", "-----"]] ++
            (report.kinds ++ [("Total", report.total)]).map kindLine ++
              "" :: report.registerSummary) := by
    rw [lines_eq_front, kindLines_eq, kindTable]
    simp
  have titles :
      (report.front ++ [""]).filter isTitle =
        headline :: knownTitle ::
          if report.reserved.isEmpty then [] else [reservedTitle] := by
    rw [List.filter_append, titles_front]
    exact List.append_nil _
  rw [sections]
  refine rowsUnder_append (not_mem_of_titles titles (by decide) ?_) rfl
    (by decide) kindLine_ne_empty
  split <;> decide

/-- No line in front of the summary is its title. -/
theorem registerTitle_not_mem (report : Report) :
    registerTitle ∉
      report.front ++ kindLines report.kinds report.total ++ [""] := by
  have titles :
      (report.front ++ kindLines report.kinds report.total ++ [""]).filter
        isTitle =
        (headline :: knownTitle ::
          if report.reserved.isEmpty then [] else [reservedTitle]) ++
          [kindTitle] := by
    rw [List.filter_append, List.filter_append, titles_front, titles_kindLines]
    simp [isTitle]
  refine not_mem_of_titles titles (by decide) ?_
  split <;> decide

theorem summary_lines (report : Report) :
    report.lines.dropWhile (fun line => decide (line ≠ registerTitle)) =
      report.registerSummary := by
  have sections :
      report.lines =
        (report.front ++ kindLines report.kinds report.total ++ [""]) ++
          report.registerSummary := by
    rw [lines_eq_front]
    simp
  rw [sections]
  exact dropWhile_title report.registerTitle_not_mem _

theorem reservedTitle_mem_lines_iff (report : Report) :
    reservedTitle ∈ report.lines ↔ report.reserved ≠ [] := by
  have titles :
      report.lines.filter isTitle =
        (headline :: knownTitle ::
          if report.reserved.isEmpty then [] else [reservedTitle]) ++
          [kindTitle, registerTitle] := by
    rw [lines_eq_front, List.filter_append, List.filter_append, titles_front,
      titles_kindLines, List.filter_cons_of_neg (by decide),
      titles_registerSummary, List.append_assoc]
    rfl
  have shown : reservedTitle ∈ report.lines ↔
    reservedTitle ∈ report.lines.filter isTitle := by
    rw [List.mem_filter]
    exact (and_iff_left (by decide)).symm
  rw [shown, titles]
  cases report.reserved with
  | nil => decide
  | cons first rest => simp

theorem filter_warnings
    {report : Report}
    (labels : ∀ kind ∈ report.kinds, kind.1.toList.headD '\t' ≠ 'W') :
    report.lines.filter (beginsWith "Warning: ") =
      report.remainders.map remainderLine := by
  have head : "Warning: ".toList.head? = some 'W' := by decide
  have known :
      (knownLines report.showNames report.known).filter
        (beginsWith "Warning: ") = [] :=
    filter_beginsWith_eq_nil _ head (head?_knownLines _ _) (by decide)
  have reserved :
      (reservedLines report.reserved).filter (beginsWith "Warning: ") = [] :=
    filter_beginsWith_eq_nil _ head (head?_reservedLines _) (by decide)
  -- The labels of the kinds are the only cells at the beginning of a line that
  -- are not fixed.
  have kinds :
      (kindLines report.kinds report.total).filter (beginsWith "Warning: ") =
        [] := by
    refine filter_beginsWith_eq_nil _ head (head?_kindLines _ _) ?_
    rw [List.mem_append, not_or]
    refine ⟨by decide, fun member => ?_⟩
    obtain ⟨kind, inside, same⟩ := List.mem_map.mp member
    exact labels kind inside (Option.some.inj same)
  have registers :
      report.registerSummary.filter (beginsWith "Warning: ") = [] := by
    rw [filter_registerSummary head (by decide)]
    exact filter_beginsWith_eq_nil _ head (head?_sums report) (by decide)
  have remainders := filter_remainderLines report.remainders
  rw [lines_eq_front, front, List.filter_append, List.filter_append,
    List.filter_append, List.filter_append, List.filter_cons_of_neg (by decide),
    List.filter_cons_of_neg (by decide), known, reserved, remainders, kinds,
    registers]
  simp

theorem filter_registerRows (report : Report) :
    report.registerSummary.filter isRegisterLine =
      report.groups.flatMap fun group =>
        group.rows.map (registerLine report.showNames group.cls) := by
  have below := filter_registerLines report
  rwa [registerLines_eq, List.filter_cons_of_neg (by decide)] at below

theorem readKind_kindLine {kind : String × Nat} (cell : IsCell kind.1) :
    readKind (kindLine kind) = kind := by
  have read : cellsOf (kindLine kind) = [kind.1, Numeral.decimal.text kind.2] :=
    cellsOf_cells (by simp) (by simp [cell, decimal_isCell])
  rw [readKind, read, List.getD_cons_zero, List.getD_cons_succ,
    List.getD_cons_zero, numberOf_decimal]

/-- Two numbers among words that are none. -/
theorem readSums_of_words
    {heading middle : String}
    (silent : numbersOf heading = [] ∧ numbersOf middle = [])
    (accesses registers : Nat) :
    readSums
        (heading ++ " " ++
          (Numeral.decimal.text accesses ++ " " ++
            (middle ++ " " ++
              (Numeral.decimal.text registers ++ " " ++ "unique registers")))) =
      (accesses, registers) := by
  have ending : numbersOf "unique registers" = [] := by decide
  unfold readSums
  simp only [numbersOf_append_space, numbersOf_decimal, silent.1, silent.2,
    ending]
  rfl

theorem numbersOf_heading (cls : Csr.Class) :
    numbersOf
      ("Subtotal for " ++ cls.privilege.label ++ ", " ++ cls.usage.label ++
        ":") = [] := by
  have start : numbersOf "Subtotal for" = [] := by decide
  have privilege : numbersOf (cls.privilege.label ++ ",") = [] := by
    cases cls.privilege <;> decide
  have usage : numbersOf (cls.usage.label ++ ":") = [] := by
    cases cls.usage <;> decide
  have words :
      "Subtotal for " ++ cls.privilege.label ++ ", " ++ cls.usage.label ++ ":" =
        "Subtotal for" ++ " " ++
          (cls.privilege.label ++ "," ++ " " ++ (cls.usage.label ++ ":")) := by
    generalize cls.privilege.label = privilegeLabel
    generalize cls.usage.label = usageLabel
    apply String.toList_inj.mp
    simp
  rw [words, numbersOf_append_space, numbersOf_append_space, start, privilege,
    usage]
  rfl

theorem readSums_subtotalLine (group : Group) :
    readSums group.subtotalLine = (group.accesses, group.rows.length) := by
  have words :
      group.subtotalLine =
        ("Subtotal for " ++ group.cls.privilege.label ++ ", " ++
          group.cls.usage.label ++ ":") ++
          " " ++
          (Numeral.decimal.text group.accesses ++ " " ++
            ("accesses across" ++ " " ++
              (Numeral.decimal.text group.rows.length ++ " " ++
                "unique registers"))) := by
    unfold Group.subtotalLine
    generalize Numeral.decimal.text group.accesses = accesses
    generalize Numeral.decimal.text group.rows.length = registers
    apply String.toList_inj.mp
    simp
  rw [words]
  exact readSums_of_words ⟨numbersOf_heading group.cls, by decide⟩ _ _

theorem readSums_sumLine (report : Report) :
    readSums report.sumLine = (report.accesses, report.uniqueRegisters) := by
  have words :
      report.sumLine =
        "Total CSR accesses:" ++ " " ++
          (Numeral.decimal.text report.accesses ++ " " ++
            ("across" ++ " " ++
              (Numeral.decimal.text report.uniqueRegisters ++ " " ++
                "unique registers"))) := by
    unfold sumLine
    generalize Numeral.decimal.text report.accesses = accesses
    generalize Numeral.decimal.text report.uniqueRegisters = registers
    apply String.toList_inj.mp
    simp
  rw [words]
  exact readSums_of_words ⟨by decide, by decide⟩ _ _

theorem map_cellsOf
    {source : Type} {read : source → List String} {rows : List source}
    (nonempty : ∀ row, read row ≠ [])
    (all : ∀ row ∈ rows, ∀ cell ∈ read row, IsCell cell) :
    (rows.map fun row => cells (read row)).map cellsOf = rows.map read := by
  rw [List.map_map]
  refine List.map_congr_left fun row member => ?_
  exact cellsOf_cells (nonempty row) (all row member)

theorem map_readKind
    {kinds : List (String × Nat)} (all : ∀ kind ∈ kinds, IsCell kind.1) :
    (kinds.map kindLine).map readKind = kinds := by
  rw [List.map_map]
  calc
    kinds.map (readKind ∘ kindLine) = kinds.map id :=
      List.map_congr_left fun kind member => readKind_kindLine (all kind member)
    _ = kinds := List.map_id kinds

/-! ## The whole text -/

section Text

variable {report : Report} (all : report.HasCells)
include all

theorem map_cellsOf_known :
    (rowsUnder knownTitle report.lines).map cellsOf =
      report.known.map fun row => row.cells report.showNames := by
  rw [rowsUnder_knownTitle]
  exact map_cellsOf (fun row => by simp [KnownRow.cells])
    fun row member =>
      KnownRow.cells_isCell (all.known row member) report.showNames

theorem map_cellsOf_reserved :
    (if reservedTitle ∈ report.lines then
      some ((rowsUnder reservedTitle report.lines).map cellsOf)
      else none) =
      if report.reserved.isEmpty then none
      else some (report.reserved.map TraceRow.cells) := by
  by_cases absent : report.reserved = []
  · rw [if_neg (by rw [reservedTitle_mem_lines_iff]; exact not_not.mpr absent),
      absent]
    rfl
  · have read : (rowsUnder reservedTitle report.lines).map cellsOf =
        report.reserved.map TraceRow.cells := by
      rw [rowsUnder_reservedTitle absent]
      exact map_cellsOf (fun row => by simp [TraceRow.cells])
        fun row member => TraceRow.cells_isCell (all.reserved row member)
    rw [if_pos (report.reservedTitle_mem_lines_iff.mpr absent), read,
      if_neg (by rwa [List.isEmpty_iff])]

theorem map_readKind_kinds :
    (rowsUnder kindTitle report.lines).map readKind =
      report.kinds ++ [("Total", report.total)] := by
  rw [rowsUnder_kindTitle]
  apply map_readKind
  have last : IsCell "Total" := by decide
  rw [List.forall_mem_append, List.forall_mem_singleton]
  exact ⟨all.kinds, last⟩

theorem map_cellsOf_registers :
    (report.registerSummary.filter isRegisterLine).map cellsOf =
      report.groups.flatMap fun group =>
        group.rows.map (RegisterRow.cells report.showNames group.cls) := by
  rw [filter_registerRows, List.map_flatMap, List.flatMap_def, List.flatMap_def]
  refine congrArg List.flatten (List.map_congr_left fun group inside => ?_)
  exact map_cellsOf (fun row => by simp)
    fun row member =>
      row.cells_isCell (all.registers group inside row member) _ _

/-- Reading the text of a report gives its tables, its warnings and its sums
back. -/
theorem Reading.ofText_text
    (labels : ∀ kind ∈ report.kinds,
      kind.1 ≠ "Total" ∧ kind.1.toList.headD '\t' ≠ 'W') :
    Reading.ofText report.text = Reading.ofReport report := by
  have lines : linesOf report.text = report.lines :=
    linesOf_join (lines_isLine all)
  have named : ∀ kind ∈ report.kinds, decide (kind.1 ≠ "Total") = true :=
    fun kind member => decide_eq_true (labels kind member).1
  have unnamed : (report.kinds.filter fun kind => kind.1 = "Total") = [] := by
    rw [List.filter_eq_nil_iff]
    intro kind member
    simpa using (labels kind member).1
  have kinds :
      ((report.kinds ++ [("Total", report.total)]).filter fun kind =>
        kind.1 ≠ "Total") =
        report.kinds := by
    rw [List.filter_append, List.filter_eq_self.mpr named]
    exact List.append_nil _
  have totals :
      ((report.kinds ++ [("Total", report.total)]).filter fun kind =>
        kind.1 = "Total").map
          Prod.snd =
        [report.total] := by
    rw [List.filter_append, unnamed]
    rfl
  have subtotals :
      (report.groups.map Group.subtotalLine).map readSums =
        report.groups.map fun group => (group.accesses, group.rows.length) := by
    rw [List.map_map]
    exact List.map_congr_left fun group _ => readSums_subtotalLine group
  have sums :
      [report.sumLine].map readSums =
        [(report.accesses, report.uniqueRegisters)] := by
    rw [List.map_singleton, readSums_sumLine]
  unfold ofText ofReport
  simp only [lines, summary_lines, map_cellsOf_known all,
    map_cellsOf_reserved all, map_readKind_kinds all, map_cellsOf_registers all,
    kinds, totals, filter_subtotalLine, subtotals, filter_sumLine, sums,
    filter_warnings fun kind member => (labels kind member).2]

end Text

end CsrCensus.Report
