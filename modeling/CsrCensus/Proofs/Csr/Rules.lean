import CsrCensus.Csr.Table
import Mathlib.Data.List.Induction

/-!
# Tables filled by rules

The class of an address is that of the last rule that covers it. A table may as
well be filled entry by entry, each rule from its first address to its last one
or to the end of the address space; then every write finds its entry.
-/

namespace CsrCensus.Csr

theorem Rule.covers_toNat (rule : Rule) (csr : UInt16) :
    rule.covers csr.toNat = decide (rule.first ≤ csr ∧ csr ≤ rule.last) := by
  simp only [covers, UInt16.le_iff_toNat_le, Bool.decide_and]

namespace Table

theorem classOf_blank (csr : UInt16) : blank.classOf csr = Class.unknown := by
  unfold classOf blank
  by_cases inside : csr.toNat < addressCount
  · rw [Vector.getElem?_eq_getElem inside, Vector.getElem_replicate,
      Option.getD_some]
  · rw [Vector.getElem?_eq_none (Nat.not_lt.mp inside), Option.getD_none]

theorem classOf_apply (table : Table) (rule : Rule) (csr : UInt16) :
    (table.apply rule).classOf csr =
      if csr.toNat < addressCount ∧ rule.covers csr.toNat then rule.cls
      else table.classOf csr := by
  unfold classOf apply
  by_cases inside : csr.toNat < addressCount
  · simp only [Vector.getElem?_eq_getElem inside, Option.getD_some,
      Vector.getElem_mapIdx, inside, true_and]
  · simp only [Vector.getElem?_eq_none (Nat.not_lt.mp inside), inside,
      false_and, if_false]

theorem ofRules_concat (rules : List Rule) (rule : Rule) :
    ofRules (rules ++ [rule]) = (ofRules rules).apply rule :=
  List.foldl_append

theorem classOf_ofRules_inside
    (rules : List Rule) {csr : UInt16} (inside : csr.toNat < addressCount) :
    (ofRules rules).classOf csr =
      ((rules.reverse.find? fun rule =>
        rule.covers csr.toNat).map Rule.cls).getD
        Class.unknown := by
  -- The rules are searched from the end, so the induction takes the last one
  -- off.
  induction rules using List.reverseRecOn with
  | nil => exact classOf_blank csr
  | append_singleton rules rule inductionHypothesis =>
      rw [ofRules_concat, classOf_apply, List.reverse_concat, List.find?_cons]
      cases covered : rule.covers csr.toNat with
      | true => rw [if_pos ⟨inside, rfl⟩]; rfl
      | false => rw [if_neg (by simp), inductionHypothesis]

theorem classOf_outside
    (table : Table) {csr : UInt16} (outside : ¬ csr.toNat < addressCount) :
    table.classOf csr = Class.unknown := by
  rw [classOf, Vector.getElem?_eq_none (Nat.not_lt.mp outside),
    Option.getD_none]

theorem eq_of_entries_eq
    {left right : Table}
    (equal : ∀ address (inside : address < addressCount),
      left.classes[address] = right.classes[address]) :
    left = right := by
  rw [mk.injEq]
  exact Vector.ext equal

/-- Writes a class to the entry of an address, if there is one. -/
def write? (cls : Class) (table : Table) (address : Nat) : Option Table :=
  if inside : address < addressCount then
    some ⟨table.classes.set address cls inside⟩
  else none

/-- Writes a class to the entries of all addresses from `first` to `last`. -/
def fill? (cls : Class) (first last : Nat) (table : Table) : Option Table :=
  (List.range' first (last + 1 - first)).foldlM (write? cls) table

/-- The highest address. -/
def highest : Nat := 0xFFF

/-- Writes a rule, of whose range what lies above the highest address is
ignored. -/
def fillRule? (table : Table) (rule : Rule) : Option Table :=
  let last := min rule.last.toNat highest
  if last < rule.first.toNat then some table
  else table.fill? rule.cls rule.first.toNat last

/-- Writes rules into the blank table, in order; there is none if a write misses
the table. -/
def fillRules? (rules : List Rule) : Option Table :=
  rules.foldlM fillRule? blank

theorem foldlM_write? (cls : Class) (table : Table) {addresses : List Nat}
    (inside : ∀ address ∈ addresses, address < addressCount) :
    addresses.foldlM (write? cls) table =
      some ⟨table.classes.mapIdx fun address present =>
        if address ∈ addresses then cls else present⟩ := by
  induction addresses generalizing table with
  | nil =>
      refine congrArg some (eq_of_entries_eq fun address _ => ?_)
      rw [Vector.getElem_mapIdx, if_neg List.not_mem_nil]
  | cons first rest inductionHypothesis =>
      obtain ⟨firstInside, restInside⟩ := List.forall_mem_cons.mp inside
      have written :
          write? cls table first =
            some ⟨table.classes.set first cls firstInside⟩ :=
        dif_pos firstInside
      rw [List.foldlM_cons, written, Option.bind_eq_bind, Option.bind_some,
        inductionHypothesis _ restInside]
      refine congrArg some (eq_of_entries_eq fun address _ => ?_)
      rw [Vector.getElem_mapIdx, Vector.getElem_mapIdx, Vector.getElem_set]
      by_cases same : first = address
      · simp [same]
      · simp [same, Ne.symm same]

/-- All writes of a rule find their entries, and there are no others to be
made. -/
theorem fillRule?_eq_some (table : Table) (rule : Rule) :
    table.fillRule? rule = some (table.apply rule) := by
  have covers_iff (address : Nat) (bound : address < addressCount) :
      rule.covers address ↔
        rule.first.toNat ≤ address ∧ address ≤ min rule.last.toNat highest := by
    have : addressCount = highest + 1 := rfl
    rw [Rule.covers, Bool.and_eq_true, decide_eq_true_iff, decide_eq_true_iff]
    omega
  unfold fillRule? fill?
  by_cases inverted : min rule.last.toNat highest < rule.first.toNat
  · rw [if_pos inverted]
    refine congrArg some (eq_of_entries_eq fun address bound => ?_)
    have missed : ¬ rule.covers address := by
      rw [covers_iff address bound]
      omega
    rw [apply, Vector.getElem_mapIdx, if_neg missed]
  · have inside :
        ∀ address ∈ List.range' rule.first.toNat
            (min rule.last.toNat highest + 1 - rule.first.toNat),
          address < addressCount := by
      intro address member
      have : addressCount = highest + 1 := rfl
      rw [List.mem_range'_1] at member
      omega
    rw [if_neg inverted, foldlM_write? rule.cls table inside]
    refine congrArg some (eq_of_entries_eq fun address bound => ?_)
    have written_iff :
        address ∈ List.range' rule.first.toNat
            (min rule.last.toNat highest + 1 - rule.first.toNat) ↔
          rule.covers address := by
      rw [covers_iff address bound, List.mem_range'_1]
      omega
    simp only [apply, Vector.getElem_mapIdx, written_iff]

theorem fillRules?_eq_some (rules : List Rule) :
    fillRules? rules = some (ofRules rules) := by
  unfold fillRules?
  induction rules using List.reverseRecOn with
  | nil => rfl
  | append_singleton rules rule inductionHypothesis =>
      rw [List.foldlM_append, inductionHypothesis, ofRules_concat,
        Option.bind_eq_bind, Option.bind_some, List.foldlM_cons,
        fillRule?_eq_some]
      rfl

/-- The rules are written without missing the table. The class of an address is
then that of the last rule whose range it lies in, and the unknown class if
there is none or the address is too high. -/
theorem ofRules_last_match_wins (rules : List Rule) :
    fillRules? rules = some (ofRules rules) ∧
      ∀ csr : UInt16,
        (ofRules rules).classOf csr =
          if csr ≤ 0xFFF then
            ((rules.reverse.find? fun rule =>
              rule.first ≤ csr ∧ csr ≤ rule.last).map
              Rule.cls).getD Class.unknown
          else Class.unknown := by
  refine ⟨fillRules?_eq_some rules, fun csr => ?_⟩
  have inside_iff : csr ≤ 0xFFF ↔ csr.toNat < addressCount := by
    rw [UInt16.le_iff_toNat_le]
    exact Nat.lt_succ_iff.symm
  by_cases inside : csr.toNat < addressCount
  · rw [if_pos (inside_iff.mpr inside), classOf_ofRules_inside rules inside]
    simp only [Rule.covers_toNat]
  · rw [if_neg (mt inside_iff.mp inside), classOf_outside _ inside]

end Table

end CsrCensus.Csr
