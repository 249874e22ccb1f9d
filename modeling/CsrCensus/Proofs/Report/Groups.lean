import CsrCensus.Proofs.Report.Faithful

/-!
# Groups of CSRs

Each accessed CSR is put into a group of its own class. So the rows of all
groups are, in some order, the rows of the tally, each under the class that the
table gives to its CSR.
-/

namespace CsrCensus.Report

theorem insertRow_class
    {table : Csr.Table} {groups : List Group} (row : RegisterRow)
    (all : ∀ group ∈ groups, ∀ other ∈ group.rows,
      group.cls = table.classOf other.csr) :
    ∀ group ∈ insertRow (table.classOf row.csr) row groups,
      ∀ other ∈ group.rows, group.cls = table.classOf other.csr := by
  induction groups with
  | nil => simp [insertRow]
  | cons first rest inductionHypothesis =>
      obtain ⟨firstClass, restClass⟩ := List.forall_mem_cons.mp all
      unfold insertRow
      by_cases same : first.cls = table.classOf row.csr
      · rw [if_pos same, List.forall_mem_cons]
        exact ⟨List.forall_mem_cons.mpr ⟨same, firstClass⟩, restClass⟩
      rw [if_neg same]
      by_cases below : (table.classOf row.csr).label < first.cls.label
      · rw [if_pos below, List.forall_mem_cons]
        exact ⟨by simp, all⟩
      · rw [if_neg below, List.forall_mem_cons]
        exact ⟨firstClass, inductionHypothesis restClass⟩

/-- The class of a group is the class of each of its CSRs. -/
theorem groupsOf_class (table : Csr.Table) (registers : Tally UInt16) :
    ∀ group ∈ groupsOf table registers,
      ∀ row ∈ group.rows, group.cls = table.classOf row.csr := by
  induction registers with
  | nil => simp [groupsOf]
  | cons first rest inductionHypothesis =>
      exact insertRow_class (registerRow first) inductionHypothesis

/-- The rows in the text of a report, each under the class of its CSR. -/
theorem registerCells_perm
    (table : Csr.Table) (showNames : Bool) (registers : Tally UInt16) :
    ((groupsOf table registers).flatMap fun group =>
        group.rows.map (RegisterRow.cells showNames group.cls)).Perm
      (registers.map fun register =>
        (registerRow register).cells showNames (table.classOf register.1)) := by
  let shown :=
    fun row : RegisterRow => row.cells showNames (table.classOf row.csr)
  have own :
      ((groupsOf table registers).flatMap fun group =>
          group.rows.map (RegisterRow.cells showNames group.cls)) =
        ((groupsOf table registers).flatMap Group.rows).map shown := by
    rw [List.map_flatMap]
    refine List.flatMap_congr fun group inside =>
      List.map_congr_left fun row member => ?_
    rw [groupsOf_class table registers group inside row member]
  rw [own]
  have permuted := (groupsOf_rows_perm table registers).map shown
  rwa [List.map_map] at permuted

end CsrCensus.Report
