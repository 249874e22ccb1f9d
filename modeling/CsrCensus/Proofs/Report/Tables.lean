import CsrCensus.Proofs.Report.Reading

/-!
# The tables of a report

The lines of a report come apart at the titles of its two tables with CSRs: the
known instructions and the accessed CSRs. Cut there, the lines of every report
give back the parts it was written in.
-/

namespace CsrCensus.Report

open Text

/-- The lines of a report, cut at the two tables that may have a column of
names. -/
structure Tables where
  /-- The lines up to the title above the known instructions. -/
  front : List String
  /-- The head and the rows of the known instructions. -/
  known : List String
  /-- The lines from there up to the title above the accessed CSRs. -/
  middle : List String
  /-- The two lines of the head of the accessed CSRs. -/
  head : List String
  /-- The lines below that head: the rows of the CSRs, and the lines with the
  sums. -/
  summary : List String
deriving DecidableEq

/-- Some lines, cut behind the first one that is a title. -/
def cutBehind (title : String) (lines : List String) :
    List String × List String :=
  let before := lines.takeWhile (· ≠ title)
  let later := lines.dropWhile (· ≠ title)
  (before ++ later.take 1, later.drop 1)

theorem cutBehind_append_cons
    {title : String} {before : List String} (absent : title ∉ before)
    (after : List String) :
    cutBehind title (before ++ title :: after) =
      (before ++ [title], after) := by
  rw [cutBehind, dropWhile_title absent, takeWhile_title absent]
  rfl

namespace Tables

/-- Cuts the lines of a report. The table of the known instructions ends at the
next empty line. -/
def ofLines (lines : List String) : Tables :=
  let (front, below) := cutBehind knownTitle lines
  let (middle, summary) := cutBehind registerTitle (below.dropWhile (· ≠ ""))
  { front
    known := below.takeWhile (· ≠ "")
    middle
    head := summary.take 2
    summary := summary.drop 2 }

def ofText (text : String) : Tables :=
  ofLines (linesOf text)

/-- The lines, put together again. -/
def lines (tables : Tables) : List String :=
  tables.front ++ tables.known ++ tables.middle ++ tables.head ++ tables.summary

def text (tables : Tables) : String :=
  String.join (tables.lines.map fun line => line ++ "\n")

/-- The tables of a report. -/
def ofReport (report : Report) : Tables where
  front := [headline, "", knownTitle]
  known :=
    knownHead report.showNames ++ report.known.map fun row =>
      cells (row.cells report.showNames)
  middle :=
    reservedLines report.reserved ++ remainderLines report.remainders ++
      kindLines report.kinds report.total ++ ["", registerTitle]
  head := registerHead report.showNames
  summary :=
    report.groups.flatMap (groupLines report.showNames) ++ [report.sumLine]

theorem lines_ofReport (report : Report) :
    (ofReport report).lines = report.lines := by
  rw [lines_eq_front, Report.front, knownLines_eq_cons, registerSummary]
  simp [ofReport, Tables.lines]

theorem cutBehind_front (report : Report) (rest : List String) :
    cutBehind knownTitle ((ofReport report).front ++ rest) =
      ((ofReport report).front, rest) := by
  have absent : knownTitle ∉ [headline, ""] := by decide
  exact cutBehind_append_cons absent rest

theorem cutBehind_middle (report : Report) (rest : List String) :
    cutBehind registerTitle ((ofReport report).middle ++ rest) =
      ((ofReport report).middle, rest) := by
  let between :=
    reservedLines report.reserved ++ remainderLines report.remainders ++
      kindLines report.kinds report.total ++ [""]
  have middle : (ofReport report).middle = between ++ [registerTitle] := by
    simp [ofReport, between]
  have absent : registerTitle ∉ between := by
    intro member
    apply report.registerTitle_not_mem
    simp only [between, Report.front, List.mem_append] at member ⊢
    tauto
  rw [middle, List.append_assoc]
  exact cutBehind_append_cons absent rest

/-- No line of the table of known instructions is empty. -/
theorem empty_not_mem_known (report : Report) :
    "" ∉ (ofReport report).known := by
  have head : "" ∉ knownHead report.showNames := by
    cases report.showNames <;> decide
  rw [ofReport, List.mem_append, not_or]
  refine ⟨head, fun member => ?_⟩
  obtain ⟨row, _, empty⟩ := List.mem_map.mp member
  exact row.line_ne_empty report.showNames empty

/-- Whatever follows that table begins with an empty line. -/
theorem exists_middle_append_eq_cons (report : Report) (rest : List String) :
    ∃ after, (ofReport report).middle ++ rest = "" :: after := by
  obtain ⟨later, warnings, _⟩ :=
    remainderLines_append_eq_cons report.remainders
      (kindTable report.kinds report.total ++ "" :: registerTitle :: rest)
  obtain ⟨after, reserved⟩ := reservedLines_append_eq_cons report.reserved later
  refine ⟨after, ?_⟩
  rw [← reserved, ← warnings]
  simp [ofReport, kindLines_eq]

theorem ofLines_lines (report : Report) :
    ofLines report.lines = ofReport report := by
  let below := (ofReport report).head ++ (ofReport report).summary
  obtain ⟨after, begins⟩ := exists_middle_append_eq_cons report below
  have known :
      ((ofReport report).known ++ ((ofReport report).middle ++ below)).takeWhile
          (fun line => decide (line ≠ "")) =
        (ofReport report).known := by
    rw [begins]
    exact takeWhile_title (empty_not_mem_known report) after
  have later :
      ((ofReport report).known ++ ((ofReport report).middle ++ below)).dropWhile
          (fun line => decide (line ≠ "")) =
        (ofReport report).middle ++ below := by
    rw [begins]
    exact dropWhile_title (empty_not_mem_known report) after
  have head : below.take 2 = (ofReport report).head := List.take_left' rfl
  have summary : below.drop 2 = (ofReport report).summary := List.drop_left' rfl
  rw [← lines_ofReport, Tables.lines, List.append_assoc, List.append_assoc,
    List.append_assoc, ofLines]
  simp only [cutBehind_front, known, later, cutBehind_middle, head, summary,
    below]

theorem ofText_text {report : Report} (all : report.HasCells) :
    ofText report.text = ofReport report := by
  have lines : linesOf report.text = report.lines :=
    linesOf_join (lines_isLine all)
  rw [ofText, lines, ofLines_lines]

theorem text_ofReport (report : Report) :
    (ofReport report).text = report.text := by
  rw [Tables.text, lines_ofReport, Report.text]

/-- Below the head, the rows of the CSRs are the lines that look like one. -/
theorem filter_summary_ofReport (report : Report) :
    (ofReport report).summary.filter isRegisterLine =
      report.groups.flatMap fun group =>
        group.rows.map (registerLine report.showNames group.cls) := by
  have above :
      (registerTitle :: registerHead report.showNames).filter isRegisterLine =
        [] := by
    cases report.showNames <;> decide
  rw [← filter_registerRows, registerSummary, List.append_assoc,
    List.filter_append, above, List.nil_append]
  rfl

end Tables

end CsrCensus.Report
