import CsrCensus.Proofs.Report.Faithful
import CsrCensus.Proofs.Report.Tables
import Mathlib.Data.List.DropRight

/-!
# The column of names

A report that shows names has one cell more in each line of two tables. Cut off,
these cells leave the report that does not show names.
-/

namespace CsrCensus

namespace Text

/-- A line up to its last tab. -/
def withoutLastCell (line : String) : String :=
  String.ofList (line.toList.rdropWhile (· ≠ '\t')).dropLast

/-- What stands behind the last tab of a line. -/
def lastCell (line : String) : String :=
  String.ofList (line.toList.rtakeWhile (· ≠ '\t'))

theorem toList_cells_append_singleton
    {texts : List String} (nonempty : texts ≠ []) (last : String) :
    (Report.cells (texts ++ [last])).toList =
      (Report.cells texts).toList ++ '\t' :: last.toList := by
  induction texts with
  | nil => exact absurd rfl nonempty
  | cons first rest inductionHypothesis =>
      cases rest with
      | nil => simp [Report.cells]
      | cons second others =>
          have later := inductionHypothesis (List.cons_ne_nil second others)
          simp [Report.cells] at later ⊢
          exact later

section LastCell

variable {texts : List String} {last : String} (nonempty : texts ≠ [])
  (cell : IsCell last)
include nonempty cell

private theorem reverse_cells :
    (Report.cells (texts ++ [last])).toList.reverse =
        last.toList.reverse ++ '\t' :: (Report.cells texts).toList.reverse ∧
      ∀ character ∈ last.toList.reverse, decide (character ≠ '\t') = true := by
  rw [toList_cells_append_singleton nonempty, List.reverse_append,
    List.reverse_cons, List.append_assoc, List.singleton_append]
  refine ⟨rfl, fun character member => ?_⟩
  exact decide_eq_true (cell character (List.mem_reverse.mp member)).1

theorem withoutLastCell_cells :
    withoutLastCell (Report.cells (texts ++ [last])) = Report.cells texts := by
  obtain ⟨reversed, tabless⟩ := reverse_cells nonempty cell
  rw [withoutLastCell, List.rdropWhile, reversed,
    List.dropWhile_append_of_pos tabless, List.dropWhile_cons_of_neg (by simp),
    List.reverse_cons, List.reverse_reverse, List.dropLast_concat,
    String.ofList_toList]

theorem lastCell_cells : lastCell (Report.cells (texts ++ [last])) = last := by
  obtain ⟨reversed, tabless⟩ := reverse_cells nonempty cell
  rw [lastCell, List.rtakeWhile, reversed, List.takeWhile_append_of_pos tabless,
    List.takeWhile_cons_of_neg (by simp), List.append_nil, List.reverse_reverse,
    String.ofList_toList]

end LastCell

end Text

namespace Report

open Text

/-! ## Cutting off the names -/

/-- Each line of the table of known instructions, and the lines of the head and
the rows of the accessed CSRs, up to their last tab. All other lines stay as
they are. -/
def Tables.withoutLastCells (tables : Tables) : Tables :=
  { tables with
    known := tables.known.map withoutLastCell
    head := tables.head.map withoutLastCell
    summary :=
      tables.summary.map fun line =>
        if isRegisterLine line then withoutLastCell line else line }

section NameColumn

variable {texts : List String} {name : String} (nonempty : texts ≠ [])
  (cell : IsCell name)
include nonempty cell

theorem withoutLastCell_nameColumn :
    withoutLastCell (cells (texts ++ nameColumn true name)) =
      cells (texts ++ nameColumn false name) := by
  have plain : texts ++ nameColumn false name = texts := List.append_nil texts
  rw [plain]
  exact withoutLastCell_cells nonempty cell

theorem lastCell_nameColumn :
    lastCell (cells (texts ++ nameColumn true name)) = name :=
  lastCell_cells nonempty cell

end NameColumn

/-- The head of a table: its titles, and the rules below them. -/
def tableHead (titles rules : List String) (showNames : Bool) : List String :=
  [cells (titles ++ nameColumn showNames "CSR Name"),
    cells (rules ++ nameColumn showNames "--------")]

section TableHead

variable {titles rules : List String} (titled : titles ≠ [])
  (ruled : rules ≠ [])
include titled ruled

theorem map_withoutLastCell_tableHead :
    (tableHead titles rules true).map withoutLastCell =
      tableHead titles rules false := by
  rw [tableHead, List.map_cons, List.map_singleton,
    withoutLastCell_nameColumn titled (by decide),
    withoutLastCell_nameColumn ruled (by decide), tableHead]

theorem map_lastCell_tableHead :
    (tableHead titles rules true).map lastCell = ["CSR Name", "--------"] := by
  rw [tableHead, List.map_cons, List.map_singleton,
    lastCell_nameColumn titled (by decide),
    lastCell_nameColumn ruled (by decide)]

end TableHead

theorem withoutLastCell_known {row : KnownRow} (all : row.HasCells) :
    withoutLastCell (cells (row.cells true)) = cells (row.cells false) :=
  withoutLastCell_nameColumn (by simp) all.name

theorem isRegisterLine_registerLine
    (showNames : Bool) (cls : Csr.Class) (row : RegisterRow) :
    isRegisterLine (registerLine showNames cls row) = true :=
  decide_eq_true (head?_registerLine showNames cls row)

theorem isRegisterLine_subtotalLine (group : Group) :
    isRegisterLine group.subtotalLine = false := by
  simp [isRegisterLine, head?_subtotalLine]

theorem isRegisterLine_sumLine (report : Report) :
    isRegisterLine report.sumLine = false := by
  simp [isRegisterLine, head?_sumLine]

/-- Of the lines of a group, those with sums have no cell for a name. -/
theorem map_withoutLastCell_groupLines
    {group : Group} (all : ∀ row ∈ group.rows, IsCell row.name) :
    (groupLines true group).map
        (fun line =>
          if isRegisterLine line then withoutLastCell line else line) =
      groupLines false group := by
  have gap : isRegisterLine "" = false := by decide
  have rows :
      (group.rows.map (registerLine true group.cls)).map
          (fun line =>
            if isRegisterLine line then withoutLastCell line else line) =
        group.rows.map (registerLine false group.cls) := by
    rw [List.map_map]
    refine List.map_congr_left fun row member => ?_
    rw [Function.comp_apply, isRegisterLine_registerLine, if_pos rfl]
    exact withoutLastCell_nameColumn (List.cons_ne_nil _ _) (all row member)
  rw [groupLines_eq, groupLines_eq, List.map_append, rows]
  simp [isRegisterLine_subtotalLine, gap]

theorem withoutLastCells_ofReport {report : Report} (all : report.HasCells) :
    (Tables.ofReport { report with showNames := true }).withoutLastCells =
      Tables.ofReport { report with showNames := false } := by
  have known :
      (report.known.map fun row => cells (row.cells true)).map withoutLastCell =
        report.known.map fun row => cells (row.cells false) := by
    rw [List.map_map]
    exact List.map_congr_left fun row member =>
      withoutLastCell_known (all.known row member)
  have groups :
      (report.groups.flatMap (groupLines true)).map
          (fun line =>
            if isRegisterLine line then withoutLastCell line else line) =
        report.groups.flatMap (groupLines false) := by
    rw [List.map_flatMap]
    exact List.flatMap_congr fun group inside =>
      map_withoutLastCell_groupLines (all.registers group inside)
  have knownTable : (knownHead true).map withoutLastCell = knownHead false :=
    map_withoutLastCell_tableHead (List.cons_ne_nil _ _) (List.cons_ne_nil _ _)
  have registerTable :
      (registerHead true).map withoutLastCell = registerHead false :=
    map_withoutLastCell_tableHead (List.cons_ne_nil _ _) (List.cons_ne_nil _ _)
  have last (showNames : Bool) :
      Report.sumLine { report with showNames } = report.sumLine := rfl
  simp only [Tables.withoutLastCells, Tables.ofReport, List.map_append, known,
    knownTable, registerTable, groups, last, List.map_singleton,
    isRegisterLine_sumLine]
  rfl

/-- The name that stands beside an instruction: that of the CSR it accesses. -/
def nameBeside : Instruction → String
  | .access operands => (Csr.name? operands.csr).getD "-"
  | .trap _ | .reserved _ _ => "-"

/-- Some tables differ from a text only in the last cells of their lines, and in
these cells stand the names of the CSRs in a census. -/
structure Tables.AddNames (census : Census) (plain : String) (tables : Tables) :
    Prop where
  /-- Without these cells the text is the same. -/
  text_eq : tables.withoutLastCells.text = plain
  /-- The tables of that text have the same lines, one by one. -/
  tables_eq : tables.withoutLastCells = Tables.ofText plain
  knownHead_eq : (tables.known.take 2).map lastCell = ["CSR Name", "--------"]
  /-- Beside the offset, the word and the text of a sighting stands the name of
  its CSR. -/
  knownRows_eq :
    (tables.known.drop 2).map
      (fun line => ((cellsOf line).take 3, lastCell line)) =
      census.known.toList.map fun sighting =>
        ((traceRow sighting).cells, nameBeside sighting.instruction)
  head_eq : tables.head.map lastCell = ["CSR Name", "--------"]
  /-- Every counted CSR has one row, in which its name stands beside its
  address. -/
  registerRows_perm :
    ((tables.summary.filter isRegisterLine).map fun line =>
        ((cellsOf line).headD "", lastCell line)).Perm
      (census.registers.map fun register =>
        ("0x" ++ Instruction.imm12Format.text register.1.toNat,
          (Csr.name? register.1).getD "-"))

theorem nameCell_eq_nameBeside (instruction : Instruction) :
    nameCell instruction.csr? = nameBeside instruction := by
  cases instruction <;> rfl

/-- What the row of a sighting shows in its first columns and in the last
one. -/
theorem read_knownRow (sighting : Sighting) :
    let line := cells ((knownRow sighting).cells true)
    ((cellsOf line).take 3, lastCell line) =
      ((traceRow sighting).cells, nameBeside sighting.instruction) := by
  intro line
  have all := knownRow_hasCells sighting
  have read : cellsOf line = (knownRow sighting).cells true :=
    cellsOf_cells (by simp [KnownRow.cells]) (KnownRow.cells_isCell all true)
  have name : lastCell line = nameCell sighting.instruction.csr? :=
    lastCell_nameColumn (by simp) all.name
  rw [read, name, nameCell_eq_nameBeside]
  rfl

/-- What the row of a CSR shows in its first column and in the last one. -/
theorem read_registerRow
    {row : RegisterRow} (name : IsCell row.name) (cls : Csr.Class) :
    let line := registerLine true cls row
    ((cellsOf line).headD "", lastCell line) =
      ("0x" ++ Instruction.imm12Format.text row.csr.toNat, row.name) := by
  intro line
  have read : cellsOf line = row.cells true cls :=
    cellsOf_cells (List.cons_ne_nil _ _)
      (RegisterRow.cells_isCell name true cls)
  have last : lastCell line = row.name :=
    lastCell_nameColumn (List.cons_ne_nil _ _) name
  rw [read, last]
  rfl

section Census

variable (census : Census) (table : Csr.Table)

theorem knownRows_ofCensus :
    ((Tables.ofReport (ofCensus census table true)).known.drop 2).map
        (fun line => ((cellsOf line).take 3, lastCell line)) =
      census.known.toList.map fun sighting =>
        ((traceRow sighting).cells, nameBeside sighting.instruction) := by
  have rows :
      (Tables.ofReport (ofCensus census table true)).known.drop 2 =
        (census.known.toList.map knownRow).map fun row =>
          cells (row.cells true) :=
    List.drop_left' rfl
  rw [rows, List.map_map, List.map_map]
  exact List.map_congr_left fun sighting _ => read_knownRow sighting

theorem registerRows_ofCensus_perm :
    (((Tables.ofReport (ofCensus census table true)).summary.filter
      isRegisterLine).map fun line =>
        ((cellsOf line).headD "", lastCell line)).Perm
      (census.registers.map fun register =>
        ("0x" ++ Instruction.imm12Format.text register.1.toNat,
          (Csr.name? register.1).getD "-")) := by
  let report := ofCensus census table true
  have all := ofCensus_hasCells census table true
  let shown (row : RegisterRow) :=
    ("0x" ++ Instruction.imm12Format.text row.csr.toNat, row.name)
  have groups :
      (report.groups.flatMap fun group =>
        group.rows.map (registerLine true group.cls)).map
          (fun line => ((cellsOf line).headD "", lastCell line)) =
        (report.groups.flatMap Group.rows).map shown := by
    rw [List.map_flatMap, List.map_flatMap]
    refine List.flatMap_congr fun group inside => ?_
    rw [List.map_map]
    refine List.map_congr_left fun row member => ?_
    exact read_registerRow (all.registers group inside row member) group.cls
  have rows := (groupsOf_rows_perm table census.registers).map shown
  rw [List.map_map] at rows
  rw [Tables.filter_summary_ofReport]
  exact (List.Perm.of_eq groups).trans rows

end Census

/-- The report with names, and the report without: what the option adds are the
last cells of two tables, which hold the names of the CSRs, and it changes no
other line. -/
theorem text_ofCensus_addNames (census : Census) (table : Csr.Table) :
    (Tables.ofText (ofCensus census table true).text).text =
        (ofCensus census table true).text ∧
      (Tables.ofText (ofCensus census table true).text).AddNames census
        (ofCensus census table false).text := by
  let report := ofCensus census table true
  have tables : Tables.ofText report.text = Tables.ofReport report :=
    Tables.ofText_text (ofCensus_hasCells census table true)
  have plain :
      (Tables.ofReport report).withoutLastCells =
        Tables.ofReport (ofCensus census table false) :=
    withoutLastCells_ofReport (ofCensus_hasCells census table true)
  have knownTable :
      (knownHead true).map lastCell = ["CSR Name", "--------"] :=
    map_lastCell_tableHead (List.cons_ne_nil _ _) (List.cons_ne_nil _ _)
  have registerTable :
      (registerHead true).map lastCell = ["CSR Name", "--------"] :=
    map_lastCell_tableHead (List.cons_ne_nil _ _) (List.cons_ne_nil _ _)
  rw [tables]
  refine ⟨Tables.text_ofReport report, ?_⟩
  exact {
    text_eq := by rw [plain, Tables.text_ofReport]
    tables_eq := by
      rw [plain, Tables.ofText_text (ofCensus_hasCells census table false)]
    knownHead_eq := knownTable
    knownRows_eq := knownRows_ofCensus census table
    head_eq := registerTable
    registerRows_perm := registerRows_ofCensus_perm census table }

end Report

end CsrCensus
