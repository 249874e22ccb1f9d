import CsrCensus.Census.Basic
import CsrCensus.Csr.Name
import CsrCensus.Csr.Table

/-!
# Reports

The content of a report on a census: one row for each sighting, the incomplete
words, the counts of each kind, and the accessed CSRs grouped by the class that
a table gives them.
-/

namespace CsrCensus

namespace Report

/-- The cell of a column that has no value in a row. -/
def emptyCell : String := "-"

/-- A sighting without its class. -/
structure TraceRow where
  offset : UInt64
  word : Word
  text : String
deriving DecidableEq, Repr

/-- A sighting of a known instruction. -/
structure KnownRow where
  trace : TraceRow
  privilege : String
  usage : String
  name : String
deriving DecidableEq, Repr

/-- The number of accesses to one CSR. -/
structure RegisterRow where
  csr : UInt16
  count : Nat
  name : String
deriving DecidableEq, Repr

/-- The accessed CSRs of one class. -/
structure Group where
  cls : Csr.Class
  rows : List RegisterRow
deriving DecidableEq, Repr

def Group.accesses (group : Group) : Nat :=
  (group.rows.map RegisterRow.count).foldr (· + ·) 0

def nameCell (csr : Option UInt16) : String :=
  (csr.bind Csr.name?).getD emptyCell

/-- The row of a sighting, without its class. -/
def traceRow (sighting : Sighting) : TraceRow :=
  ⟨sighting.offset, sighting.word, sighting.instruction.text⟩

/-- The row of a sighting, with the class it carries. -/
def knownRow (sighting : Sighting) : KnownRow :=
  { trace := traceRow sighting
    privilege :=
      (sighting.cls.map fun cls => cls.privilege.label).getD emptyCell
    usage := (sighting.cls.map fun cls => cls.usage.label).getD emptyCell
    name := nameCell sighting.instruction.csr? }

/-- Puts a row in front of the group of its class. Groups ascend in the label of
their class. -/
def insertRow (cls : Csr.Class) (row : RegisterRow) : List Group → List Group
  | [] => [⟨cls, [row]⟩]
  | group :: rest =>
      if group.cls = cls then { group with rows := row :: group.rows } :: rest
      else if cls.label < group.cls.label then ⟨cls, [row]⟩ :: group :: rest
      else group :: insertRow cls row rest

/-- The accessed CSRs, grouped by class; in a group they keep the order of the
tally. -/
def groupsOf (table : Csr.Table) (registers : Tally UInt16) : List Group :=
  registers.foldr
    (fun register grouped =>
      insertRow (table.classOf register.1)
        ⟨register.1, register.2, nameCell (some register.1)⟩
        grouped)
    []

end Report

open Report in
/-- The content of a report. -/
structure Report where
  /-- Whether the tables have a column of CSR names. -/
  showNames : Bool
  known : List KnownRow
  reserved : List TraceRow
  remainders : List Remainder
  /-- Count of each kind, most frequent first. -/
  kinds : List (String × Nat)
  groups : List Group
deriving DecidableEq

namespace Report

def ofCensus (census : Census) (table : Csr.Table) (showNames : Bool) :
    Report :=
  { showNames
    known := census.known.toList.map knownRow
    reserved := census.reserved.toList.map traceRow
    remainders := census.remainders.toList
    kinds :=
      census.kinds.byFrequency.map fun (kind, count) => (kind.label, count)
    groups := groupsOf table census.registers }

/-- Sum of the counts of all kinds. -/
def total (report : Report) : Nat :=
  (report.kinds.map Prod.snd).foldr (· + ·) 0

/-- Sum of the accesses of all groups. -/
def accesses (report : Report) : Nat :=
  (report.groups.map Group.accesses).foldr (· + ·) 0

/-- Number of CSRs in all groups. -/
def uniqueRegisters (report : Report) : Nat :=
  (report.groups.map fun group => group.rows.length).foldr (· + ·) 0

end Report

end CsrCensus
