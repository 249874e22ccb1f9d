import CsrCensus.Proofs.Report.Totals

/-!
# The summary of the accessed CSRs

Whatever was recorded, the summary lists the tally of the accessed CSRs in
groups. `Divides` says which classes have a group and in which order, and which
entries of the tally are listed in it; `classLines` are the lines of one group.
-/

namespace CsrCensus.Report

open Text

/-- The rows in all groups of a class. -/
def rowsIn (cls : Csr.Class) (groups : List Group) : List RegisterRow :=
  (groups.filter fun group => group.cls = cls).flatMap Group.rows

theorem rowsIn_cons (cls : Csr.Class) (group : Group) (rest : List Group) :
    rowsIn cls (group :: rest) =
      (if group.cls = cls then group.rows else []) ++ rowsIn cls rest := by
  by_cases same : group.cls = cls <;> simp [rowsIn, same]

theorem rowsIn_insertRow
    (cls other : Csr.Class) (row : RegisterRow) (groups : List Group) :
    rowsIn other (insertRow cls row groups) =
      (if cls = other then [row] else []) ++ rowsIn other groups := by
  fun_induction insertRow cls row groups with
  | case1 => exact rowsIn_cons other ⟨cls, [row]⟩ []
  | case2 first rest same =>
      rw [rowsIn_cons, rowsIn_cons, same]
      by_cases chosen : cls = other <;> simp [chosen]
  | case3 first rest different below =>
      exact rowsIn_cons other ⟨cls, [row]⟩ (first :: rest)
  | case4 first rest different notBelow inductionHypothesis =>
      rw [rowsIn_cons, rowsIn_cons, inductionHypothesis]
      by_cases chosen : cls = other
      · rw [if_neg (chosen ▸ different), List.nil_append, List.nil_append]
      · rw [if_neg chosen, List.nil_append, List.nil_append]

/-- The rows of a class are the entries of its CSRs, in the order of the
tally. -/
theorem rowsIn_groupsOf
    (table : Csr.Table) (registers : Tally UInt16) (cls : Csr.Class) :
    rowsIn cls (groupsOf table registers) =
      (registers.filter fun register =>
        table.classOf register.1 = cls).map registerRow := by
  induction registers with
  | nil => rfl
  | cons first rest inductionHypothesis =>
      have step :
          rowsIn cls (groupsOf table (first :: rest)) =
            (if table.classOf first.1 = cls then [registerRow first] else []) ++
              rowsIn cls (groupsOf table rest) :=
        rowsIn_insertRow _ cls (registerRow first) (groupsOf table rest)
      rw [step, inductionHypothesis]
      by_cases chosen : table.classOf first.1 = cls <;> simp [chosen]

/-- The labels of groups ascend. -/
def LabelsAscend (groups : List Group) : Prop :=
  groups.Pairwise fun left right => left.cls.label < right.cls.label

theorem cls_of_mem_insertRow
    {cls : Csr.Class} {row : RegisterRow} {groups : List Group} {group : Group}
    (member : group ∈ insertRow cls row groups) :
    group.cls = cls ∨ ∃ old ∈ groups, old.cls = group.cls := by
  fun_induction insertRow cls row groups with
  | case1 => exact .inl (List.mem_singleton.mp member ▸ rfl)
  | case2 first rest same =>
      rcases List.mem_cons.mp member with rfl | later
      · exact .inl same
      · exact .inr ⟨group, List.mem_cons_of_mem _ later, rfl⟩
  | case3 first rest different below =>
      rcases List.mem_cons.mp member with rfl | later
      · exact .inl rfl
      · exact .inr ⟨group, later, rfl⟩
  | case4 first rest different notBelow inductionHypothesis =>
      rcases List.mem_cons.mp member with rfl | later
      · exact .inr ⟨group, List.mem_cons_self, rfl⟩
      rcases inductionHypothesis later with new | ⟨old, inside, equal⟩
      · exact .inl new
      · exact .inr ⟨old, List.mem_cons_of_mem _ inside, equal⟩

theorem labelsAscend_insertRow
    (cls : Csr.Class) (row : RegisterRow) {groups : List Group}
    (ascend : LabelsAscend groups) :
    LabelsAscend (insertRow cls row groups) := by
  fun_induction insertRow cls row groups with
  | case1 => exact List.pairwise_singleton _ _
  | case2 first rest same =>
      exact List.pairwise_cons.mpr (List.pairwise_cons.mp ascend)
  | case3 first rest different below =>
      obtain ⟨above, -⟩ := List.pairwise_cons.mp ascend
      refine List.pairwise_cons.mpr ⟨?_, ascend⟩
      exact List.forall_mem_cons.mpr
        ⟨below, fun group member => String.lt_trans below (above group member)⟩
  | case4 first rest different notBelow inductionHypothesis =>
      obtain ⟨above, restAscend⟩ := List.pairwise_cons.mp ascend
      refine List.pairwise_cons.mpr ⟨?_, inductionHypothesis restAscend⟩
      -- A class has one label only, so the new group does not stand level with
      -- the first.
      have before : first.cls.label < cls.label :=
        lt_of_le_of_ne (not_lt.mp notBelow)
          (Csr.Class.label_injective.ne different)
      intro group member
      rcases cls_of_mem_insertRow member with new | ⟨old, inside, equal⟩
      · rwa [new]
      · rw [← equal]
        exact above old inside

theorem labelsAscend_groupsOf (table : Csr.Table) (registers : Tally UInt16) :
    LabelsAscend (groupsOf table registers) := by
  induction registers with
  | nil => exact List.Pairwise.nil
  | cons first rest inductionHypothesis =>
      exact labelsAscend_insertRow _ _ inductionHypothesis

theorem rows_ne_nil_insertRow
    (cls : Csr.Class) (row : RegisterRow) {groups : List Group}
    (full : ∀ group ∈ groups, group.rows ≠ []) :
    ∀ group ∈ insertRow cls row groups, group.rows ≠ [] := by
  fun_induction insertRow cls row groups with
  | case1 => exact List.forall_mem_singleton.mpr (List.cons_ne_nil _ _)
  | case2 first rest same =>
      exact List.forall_mem_cons.mpr
        ⟨List.cons_ne_nil _ _, (List.forall_mem_cons.mp full).2⟩
  | case3 first rest different below =>
      exact List.forall_mem_cons.mpr ⟨List.cons_ne_nil _ _, full⟩
  | case4 first rest different notBelow inductionHypothesis =>
      obtain ⟨firstFull, restFull⟩ := List.forall_mem_cons.mp full
      exact List.forall_mem_cons.mpr ⟨firstFull, inductionHypothesis restFull⟩

theorem rows_ne_nil_groupsOf (table : Csr.Table) (registers : Tally UInt16) :
    ∀ group ∈ groupsOf table registers, group.rows ≠ [] := by
  induction registers with
  | nil => exact nofun
  | cons first rest inductionHypothesis =>
      exact rows_ne_nil_insertRow _ _ inductionHypothesis

theorem rowsIn_eq_nil
    {cls : Csr.Class} {groups : List Group}
    (absent : ∀ group ∈ groups, group.cls ≠ cls) :
    rowsIn cls groups = [] := by
  have none : (groups.filter fun group => group.cls = cls) = [] :=
    List.filter_eq_nil_iff.mpr fun group member => by
      simpa using absent group member
  rw [rowsIn, none, List.flatMap_nil]

/-- Among groups with ascending labels, the rows of a class are those of its
only group. -/
theorem rowsIn_of_mem
    {groups : List Group} (ascend : LabelsAscend groups) {group : Group}
    (member : group ∈ groups) :
    rowsIn group.cls groups = group.rows := by
  induction groups with
  | nil => exact absurd member List.not_mem_nil
  | cons first rest inductionHypothesis =>
      obtain ⟨above, restAscend⟩ := List.pairwise_cons.mp ascend
      rw [rowsIn_cons]
      rcases List.mem_cons.mp member with rfl | later
      · have others : ∀ other ∈ rest, other.cls ≠ group.cls :=
          fun other inside same => (above other inside).ne (same ▸ rfl)
        rw [if_pos rfl, rowsIn_eq_nil others, List.append_nil]
      · have other : first.cls ≠ group.cls :=
          fun same => (above group later).ne (same ▸ rfl)
        rw [if_neg other, List.nil_append]
        exact inductionHypothesis restAscend later

/-! ## Division into classes -/

/-- The entries of a tally whose CSRs have a label. -/
def labelled (table : Csr.Table) (registers : Tally UInt16) (label : String) :
    Tally UInt16 :=
  registers.filter fun register => (table.classOf register.1).label = label

/-- The classes that divide a tally: one for each label that occurs, in the
order of the bytes of the labels. Each entry is in one class, and in a class the
CSRs ascend. -/
structure Divides
    (table : Csr.Table) (registers : Tally UInt16) (classes : List Csr.Class) :
    Prop where
  ascending :
    classes.Pairwise fun left right => toUtf8 left.label < toUtf8 right.label
  nodup : (classes.map Csr.Class.label).Nodup
  mem_iff :
    ∀ label,
      label ∈ classes.map Csr.Class.label ↔
        ∃ register ∈ registers, (table.classOf register.1).label = label
  nonempty : ∀ cls ∈ classes, labelled table registers cls.label ≠ []
  csrs_ascending :
    ∀ cls ∈ classes,
      (labelled table registers cls.label).Pairwise fun left right =>
        left.1 < right.1
  perm :
    (classes.flatMap fun cls =>
      labelled table registers cls.label).Perm registers
  csrs_once :
    ∀ register ∈ registers,
      ((classes.flatMap fun cls =>
        labelled table registers cls.label).map Prod.fst).count
        register.1 = 1

theorem labelled_label
    (table : Csr.Table) (registers : Tally UInt16) (cls : Csr.Class) :
    labelled table registers cls.label =
      registers.filter fun register => table.classOf register.1 = cls := by
  simp only [labelled, Csr.Class.label_injective.eq_iff]

section Division

variable (table : Csr.Table) {registers : Tally UInt16}

theorem map_content_registerRow (entries : Tally UInt16) :
    (entries.map registerRow).map RegisterRow.content = entries := by
  rw [List.map_map]
  exact List.map_id entries

theorem labelled_of_mem
    {group : Group} (member : group ∈ groupsOf table registers) :
    (labelled table registers group.cls.label).map registerRow =
      group.rows := by
  rw [labelled_label, ← rowsIn_groupsOf,
    rowsIn_of_mem (labelsAscend_groupsOf table registers) member]

theorem labelled_ne_nil
    {group : Group} (member : group ∈ groupsOf table registers) :
    labelled table registers group.cls.label ≠ [] := by
  intro empty
  apply rows_ne_nil_groupsOf table registers group member
  rw [← labelled_of_mem table member, empty, List.map_nil]

theorem flatMap_labelled_perm (registers : Tally UInt16) :
    (((groupsOf table registers).map Group.cls).flatMap fun cls =>
      labelled table registers cls.label).Perm registers := by
  have entries :
      (((groupsOf table registers).map Group.cls).flatMap fun cls =>
          labelled table registers cls.label) =
        ((groupsOf table registers).flatMap Group.rows).map
          RegisterRow.content := by
    rw [List.map_flatMap, List.flatMap_map]
    refine List.flatMap_congr fun group member => ?_
    rw [← labelled_of_mem table member, map_content_registerRow]
  have rows := (groupsOf_rows_perm table registers).map RegisterRow.content
  rwa [map_content_registerRow, ← entries] at rows

theorem divides_groupsOf
    (ascending : registers.Pairwise fun left right => left.1 < right.1) :
    Divides table registers ((groupsOf table registers).map Group.cls) := by
  have labels := labelsAscend_groupsOf table registers
  have permuted := flatMap_labelled_perm table registers
  have nonempty :
      ∀ cls ∈ (groupsOf table registers).map Group.cls,
        labelled table registers cls.label ≠ [] :=
    List.forall_mem_map.mpr fun group member => labelled_ne_nil table member
  have csrs : (registers.map Prod.fst).Nodup :=
    List.pairwise_map.mpr (ascending.imp UInt16.ne_of_lt)
  exact {
    ascending := List.pairwise_map.mpr (labels.imp Csr.Class.toUtf8_label_lt)
    nodup := by
      rw [List.map_map]
      exact List.pairwise_map.mpr (labels.imp ne_of_lt)
    mem_iff := by
      intro label
      constructor
      · intro member
        obtain ⟨cls, inside, rfl⟩ := List.mem_map.mp member
        obtain ⟨register, found⟩ :=
          List.exists_mem_of_ne_nil _ (nonempty cls inside)
        obtain ⟨counted, shown⟩ := List.mem_filter.mp found
        exact ⟨register, counted, of_decide_eq_true shown⟩
      · rintro ⟨register, counted, shown⟩
        obtain ⟨cls, inside, found⟩ :=
          List.mem_flatMap.mp (permuted.mem_iff.mpr counted)
        have same := of_decide_eq_true (List.mem_filter.mp found).2
        exact List.mem_map.mpr ⟨cls, inside, same.symm.trans shown⟩
    nonempty
    csrs_ascending := fun cls _ => ascending.filter _
    perm := permuted
    csrs_once := by
      intro register counted
      rw [(permuted.map Prod.fst).count_eq]
      exact List.count_eq_one_of_mem csrs (List.mem_map_of_mem counted) }

end Division

/-- The lines of the summary for the entries of a class: a row for each, their
sums, and an empty line. -/
def classLines (showNames : Bool) (cls : Csr.Class) (registers : Tally UInt16) :
    List String :=
  (registers.map fun register =>
    cells
      (["0x" ++ Instruction.imm12Format.text register.1.toNat,
        cls.privilege.label,
        cls.usage.label, Numeral.decimal.text register.2] ++
        nameColumn showNames (nameCell (some register.1)))) ++
  [ "Subtotal for " ++ cls.privilege.label ++ ", " ++ cls.usage.label ++ ": " ++
      Numeral.decimal.text (registers.map Prod.snd).sum ++
      " accesses across " ++
      Numeral.decimal.text registers.length ++ " unique registers",
    "" ]

theorem accesses_registerRow (cls : Csr.Class) (registers : Tally UInt16) :
    Group.accesses ⟨cls, registers.map registerRow⟩ =
      (registers.map Prod.snd).sum := by
  have counts :
      (registers.map registerRow).map RegisterRow.count =
        registers.map Prod.snd := by
    rw [List.map_map]
    exact List.map_congr_left fun register _ => rfl
  rw [Group.accesses, counts, List.sum_eq_foldr]

theorem groupLines_registerRow
    (showNames : Bool) (cls : Csr.Class) (registers : Tally UInt16) :
    groupLines showNames ⟨cls, registers.map registerRow⟩ =
      classLines showNames cls registers := by
  have rows :
      (registers.map registerRow).map (registerLine showNames cls) =
        registers.map fun register =>
          registerLine showNames cls (registerRow register) := by
    rw [List.map_map, Function.comp_def]
  simp only [groupLines, classLines, rows, accesses_registerRow,
    List.length_map, registerLine, registerRow]

section Census

variable (census : Census) (table : Csr.Table) (showNames : Bool)

theorem sumLine_ofCensus :
    (ofCensus census table showNames).sumLine =
      "Total CSR accesses: " ++ Numeral.decimal.text census.accesses ++
        " across " ++
        Numeral.decimal.text census.registers.length ++
        " unique registers" := by
  have accesses :
      (ofCensus census table showNames).accesses = census.accesses :=
    calc
      (ofCensus census table showNames).accesses =
          ((ofCensus census table showNames).groups.map Group.accesses).sum :=
        List.sum_eq_foldr.symm
      _ = census.accesses :=
        (subtotals_sum _).trans (counts_sum_ofCensus census table showNames)
  have registers :
      (ofCensus census table showNames).uniqueRegisters =
        census.registers.length :=
    calc
      (ofCensus census table showNames).uniqueRegisters =
          ((ofCensus census table showNames).groups.map fun group =>
            group.rows.length).sum :=
        List.sum_eq_foldr.symm
      _ =
        ((ofCensus census table showNames).registerRows.map
          RegisterRow.content).length :=
        (sizes_sum _).trans (List.length_map _).symm
      _ = census.registers.length :=
        (registerRows_content_perm census table showNames).length_eq
  unfold sumLine
  rw [accesses, registers]

theorem groupLines_ofCensus :
    (ofCensus census table showNames).groups.flatMap (groupLines showNames) =
      ((groupsOf table census.registers).map Group.cls).flatMap fun cls =>
        classLines showNames cls
          (labelled table census.registers cls.label) := by
  rw [List.flatMap_map]
  refine List.flatMap_congr fun group member => ?_
  rw [← groupLines_registerRow, labelled_of_mem table member]

end Census

/-- Whatever was recorded, the summary below the two lines of its head consists
of the lines of each class that a counted CSR has, in the order of their labels,
and a line with the sums of all. -/
theorem text_ofCensus_summary
    (operations : List Census.Operation) (table : Csr.Table)
    (showNames : Bool) :
    let census := Census.build operations
    ∃ classes,
      Divides table census.registers classes ∧
        (linesOf (ofCensus census table showNames).text).dropWhile
          (· ≠ registerTitle) =
          registerTitle :: registerHead showNames ++
            classes.flatMap (fun cls =>
              classLines showNames cls
                (labelled table census.registers cls.label)) ++
            [ "Total CSR accesses: " ++ Numeral.decimal.text census.accesses ++
              " across " ++
                Numeral.decimal.text census.registers.length ++
                  " unique registers" ] := by
  intro census
  refine ⟨_,
    divides_groupsOf table (Census.build_registers_ascending operations), ?_⟩
  have lines :
      linesOf (ofCensus census table showNames).text =
        (ofCensus census table showNames).lines :=
    linesOf_join (lines_isLine (ofCensus_hasCells census table showNames))
  have head : (ofCensus census table showNames).showNames = showNames := rfl
  rw [lines, summary_lines, registerSummary, sumLine_ofCensus, head,
    groupLines_ofCensus]

end CsrCensus.Report
