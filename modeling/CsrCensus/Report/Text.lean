import CsrCensus.Report.Basic

/-!
# The text of a report

A report is written line by line, the cells of a table separated by tabs. The
sections are the known instructions, the reserved encodings if there are any, a
warning for each incomplete word, the counts of each kind, and the accessed
CSRs.
-/

namespace CsrCensus.Report

/-- Joins cells by tabs. -/
def cells (texts : List String) : String :=
  "\t".intercalate texts

def nameColumn (showNames : Bool) (cell : String) : List String :=
  if showNames then [cell] else []

/-- The cells of a sighting without its class. -/
def TraceRow.cells (row : TraceRow) : List String :=
  [ "0x" ++ Numeral.word.text row.offset.toNat,
    "0x" ++ Numeral.word.text row.word.toNat,
    row.text ]

def knownLines (showNames : Bool) (rows : List KnownRow) : List String :=
  [ "",
    "--- Known CSR Instructions ---",
    cells
      (["Offset", "Instruction", "Decoded Instruction", "Privilege Level",
        "Use and Accessibility"] ++ nameColumn showNames "CSR Name"),
    cells
      (["----------", "----------", "------------------", "--------------",
        "-------------------"] ++ nameColumn showNames "--------") ] ++
  rows.map fun row =>
    cells (row.trace.cells ++ [row.privilege, row.usage] ++
      nameColumn showNames row.name)

/-- The lines of the reserved encodings; none if there are none. -/
def reservedLines (rows : List TraceRow) : List String :=
  if rows.isEmpty then []
  else
    [ "",
      "--- Unknown SYSTEM Instructions ---",
      cells ["Offset", "Instruction", "Decoded Instruction"],
      cells ["----------", "----------", "------------------"] ] ++
    rows.map fun row => cells row.cells

/-- The warning about an incomplete word. -/
def remainderLine (remainder : Remainder) : String :=
  "Warning: Incomplete instruction at end of input (" ++
    Numeral.decimal.text remainder.length ++ " trailing byte" ++
    (if remainder.length = 1 then "" else "s") ++ " at 0x" ++
    Numeral.word.text remainder.offset.toNat ++ " ignored)."

/-- The warnings, each after an empty line. -/
def remainderLines (remainders : List Remainder) : List String :=
  remainders.flatMap fun remainder => ["", remainderLine remainder]

def kindLines (kinds : List (String × Nat)) (total : Nat) : List String :=
  [ "",
    "=== Instruction Type Summary ===",
    cells ["Instruction Type", "Count"],
    cells ["----------------", "-----"] ] ++
  kinds.map (fun (label, count) => cells [label, Numeral.decimal.text count]) ++
  [cells ["Total", Numeral.decimal.text total]]

def registerLine (showNames : Bool) (cls : Csr.Class) (row : RegisterRow) :
    String :=
  cells
    (["0x" ++ Instruction.imm12Format.text row.csr.toNat, cls.privilege.label,
      cls.usage.label,
      Numeral.decimal.text row.count] ++ nameColumn showNames row.name)

/-- The lines of one group: its CSRs, a subtotal, and an empty line. -/
def groupLines (showNames : Bool) (group : Group) : List String :=
  group.rows.map (registerLine showNames group.cls) ++
  [ "Subtotal for " ++ group.cls.privilege.label ++ ", " ++
    group.cls.usage.label ++ ": " ++
      Numeral.decimal.text group.accesses ++ " accesses across " ++
      Numeral.decimal.text group.rows.length ++ " unique registers",
    "" ]

/-- The lines of the accessed CSRs. -/
def registerLines (report : Report) : List String :=
  [ "",
    "=== CSR Address Summary ===",
    cells
      (["CSR Address", "Privilege Level", "Use and Accessibility", "Count"] ++
        nameColumn report.showNames "CSR Name"),
    cells
      (["----------", "--------------", "-------------------", "-----"] ++
        nameColumn report.showNames "--------") ] ++
  report.groups.flatMap (groupLines report.showNames) ++
  [ "Total CSR accesses: " ++ Numeral.decimal.text report.accesses ++
    " across " ++
      Numeral.decimal.text report.uniqueRegisters ++ " unique registers" ]

def lines (report : Report) : List String :=
  ["=== RISC-V System/CSR Instructions Scan Results ==="] ++
  knownLines report.showNames report.known ++
  reservedLines report.reserved ++
  remainderLines report.remainders ++
  kindLines report.kinds report.total ++
  report.registerLines

/-- The text of a report; every line ends with a line feed. -/
def text (report : Report) : String :=
  String.join (report.lines.map fun line => line ++ "\n")

end CsrCensus.Report
