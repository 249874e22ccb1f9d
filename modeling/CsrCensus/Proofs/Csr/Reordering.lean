import CsrCensus.Proofs.Csr.Rules
import Mathlib.Data.Fin.VecNotation
import Mathlib.Data.Finset.Max
import Mathlib.Data.Fintype.Basic

/-!
# Rules in another order

A table depends on the order of its rules only where two of them give different
classes to one address. A reordering that leaves such rules in their order fills
the same table: at each address, the last rule to write there may be another one
than before, but it writes the same class.
-/

namespace CsrCensus.Csr

namespace Rule

/-- Two rules meet if both write to an address of the table. -/
def Meets (left right : Rule) : Prop :=
  ∃ address ≤ Table.highest, left.covers address ∧ right.covers address

/-- Two rules conflict if they meet and write different classes. -/
def Conflicts (left right : Rule) : Prop :=
  left.cls ≠ right.cls ∧ left.Meets right

theorem meets_iff {left right : Rule} :
    left.Meets right ↔
      max left.first.toNat right.first.toNat ≤
        min (min left.last.toNat right.last.toNat) Table.highest := by
  simp only [Meets, covers, Bool.and_eq_true, decide_eq_true_iff]
  constructor
  · rintro ⟨address, inside, ⟨fromLeft, toLeft⟩, fromRight, toRight⟩
    omega
  · intro overlap
    exact ⟨max left.first.toNat right.first.toNat, by omega, by omega, by omega⟩

instance (left right : Rule) : Decidable (left.Meets right) :=
  decidable_of_iff _ meets_iff.symm

instance (left right : Rule) : Decidable (left.Conflicts right) :=
  inferInstanceAs (Decidable (_ ∧ _))

end Rule

namespace Table

section Last

variable {count : Nat} (rule : Fin count → Rule)

theorem exists_last_covering
    {address : Nat} (covered : ∃ index, (rule index).covers address) :
    ∃ index,
      (rule index).covers address ∧ ∀ other,
      (rule other).covers address → other ≤ index := by
  let covering :=
    Finset.univ.filter fun index => (rule index).covers address = true
  obtain ⟨some, covers⟩ := covered
  have nonempty : covering.Nonempty :=
    ⟨some, Finset.mem_filter.mpr ⟨Finset.mem_univ _, covers⟩⟩
  obtain ⟨last, inside, highest⟩ := Finset.exists_max_image covering id nonempty
  refine ⟨last, (Finset.mem_filter.mp inside).2, fun other otherCovers => ?_⟩
  exact highest other (Finset.mem_filter.mpr ⟨Finset.mem_univ _, otherCovers⟩)

theorem classOf_ofFn_of_last
    {csr : UInt16} (inside : csr.toNat < addressCount) {index : Fin count}
    (covered : (rule index).covers csr.toNat)
    (last : ∀ other, (rule other).covers csr.toNat → other ≤ index) :
    (ofRules (List.ofFn rule)).classOf csr = (rule index).cls := by
  have found :
      ((List.ofFn rule).reverse.find? fun rule => rule.covers csr.toNat) =
        some (rule index) := by
    rw [List.find?_eq_some_iff_getElem]
    -- From the end, the rule stands behind all those that come after it.
    refine ⟨covered, count - 1 - index, by simp; omega, ?_, ?_⟩
    · have place : count - 1 - (count - 1 - index.val) = index.val := by omega
      simp [List.getElem_reverse, place]
    · intro position before
      have later : index.val < count - 1 - position := by omega
      rw [List.getElem_reverse, List.getElem_ofFn, Bool.not_eq_true']
      by_contra covers
      have latest := last _ (eq_true_of_ne_false covers)
      rw [Fin.le_def] at latest
      simp only [List.length_ofFn] at latest
      omega
  rw [classOf_ofRules_inside _ inside, found]
  rfl

theorem classOf_ofFn_of_uncovered
    {csr : UInt16} (inside : csr.toNat < addressCount)
    (uncovered : ¬ ∃ index, (rule index).covers csr.toNat) :
    (ofRules (List.ofFn rule)).classOf csr = Class.unknown := by
  have missed :
      ((List.ofFn rule).reverse.find? fun rule => rule.covers csr.toNat) =
        none := by
    rw [List.find?_eq_none]
    intro other member covers
    obtain ⟨index, rfl⟩ := (List.mem_ofFn' _ _).mp (List.mem_reverse.mp member)
    exact uncovered ⟨index, covers⟩
  rw [classOf_ofRules_inside _ inside, missed]
  rfl

end Last

/-! ## Reorderings -/

theorem eq_of_classOf_eq
    {left right : Table}
    (equal : ∀ csr : UInt16,
      csr.toNat < addressCount → left.classOf csr = right.classOf csr) :
    left = right := by
  apply eq_of_entries_eq
  intro address inside
  have small : address < UInt16.size := Nat.lt_trans inside (by decide)
  have entry := equal (UInt16.ofNat address)
  rw [UInt16.toNat_ofNat_of_lt' small] at entry
  simpa [classOf, UInt16.toNat_ofNat_of_lt' small,
    Vector.getElem?_eq_getElem inside] using
    entry inside

/-- Rules moved to other places, each to its own. -/
def reordered (rules : List Rule) (place : Equiv.Perm (Fin rules.length)) :
    List Rule :=
  List.ofFn fun position => rules.get (place.symm position)

section Reordered

variable {rules : List Rule} {place : Equiv.Perm (Fin rules.length)}

theorem classOf_reordered
    (kept : ∀ first second,
      first < second → (rules.get first).Conflicts (rules.get second) →
        place first < place second) {csr : UInt16}
    (inside : csr.toNat < addressCount) :
    (ofRules (reordered rules place)).classOf csr =
      (ofRules rules).classOf csr := by
  have listed : ofRules rules = ofRules (List.ofFn rules.get) := by
    rw [List.ofFn_get]
  rw [listed, reordered]
  by_cases covered : ∃ index, (rules.get index).covers csr.toNat
  · obtain ⟨last, lastCovers, isLast⟩ := exists_last_covering rules.get covered
    have moved :
        ∃ position, (rules.get (place.symm position)).covers csr.toNat :=
      ⟨place last, by rwa [Equiv.symm_apply_apply]⟩
    obtain ⟨position, covers, isLastMoved⟩ :=
      exists_last_covering
        (fun position => rules.get (place.symm position)) moved
    rw [classOf_ofFn_of_last rules.get inside lastCovers isLast,
      classOf_ofFn_of_last (fun position => rules.get (place.symm position))
        inside covers isLastMoved]
    by_contra different
    have before : place.symm position < last := by
      refine lt_of_le_of_ne (isLast _ covers) fun same => different ?_
      rw [same]
    have conflict :
        (rules.get (place.symm position)).Conflicts (rules.get last) :=
      ⟨different, csr.toNat, Nat.le_of_lt_succ inside, covers, lastCovers⟩
    have stillBefore := kept _ _ before conflict
    have notAfter : place last ≤ position :=
      isLastMoved _ (by rwa [Equiv.symm_apply_apply])
    rw [Equiv.apply_symm_apply] at stillBefore
    exact absurd stillBefore (not_lt_of_ge notAfter)
  · have movedUncovered :
        ¬ ∃ position, (rules.get (place.symm position)).covers csr.toNat :=
      fun ⟨position, covers⟩ => covered ⟨_, covers⟩
    rw [classOf_ofFn_of_uncovered rules.get inside covered,
      classOf_ofFn_of_uncovered _ inside movedUncovered]

end Reordered

/-- A reordering in which conflicting rules keep their order fills the same
table. Rules of which no two meet may be reordered at will: every address keeps
its class. -/
theorem ofRules_reordered
    (rules : List Rule) (place : Equiv.Perm (Fin rules.length)) :
    ((∀ first second,
      first < second → (rules.get first).Conflicts (rules.get second) →
        place first < place second) →
      ofRules (reordered rules place) = ofRules rules) ∧
      ((rules.Pairwise fun left right => ¬ left.Meets right) →
        ∀ csr,
          (ofRules (reordered rules place)).classOf csr =
            (ofRules rules).classOf csr) := by
  have same
      (kept :
        ∀ first second,
          first < second → (rules.get first).Conflicts (rules.get second) →
          place first < place second) :
      ofRules (reordered rules place) = ofRules rules :=
    eq_of_classOf_eq fun _ inside => classOf_reordered kept inside
  refine ⟨same, fun disjoint csr => ?_⟩
  rw [same]
  intro first second before conflict
  exact
    absurd conflict.2 (List.pairwise_iff_get.mp disjoint first second before)

/-- The second and the fourth rule give one class to addresses that both write,
the third is inverted, and the last lies above the table. -/
theorem ofRules_reordered_overlapping :
    let debug : Class := ⟨.machine, .debugModeOnly⟩
    let rules : List Rule :=
      [⟨0x000, 0xFFFF, .user, .customReadOnly⟩, ⟨0x7B0, 0x7BF, debug⟩,
        ⟨0x300, 0x200, .supervisor, .standardReadWrite⟩, ⟨0x7B8, 0x7C7, debug⟩,
        ⟨0x1000, 0x2000, .hypervisor, .standardReadOnly⟩]
    ofRules
          [⟨0x1000, 0x2000, .hypervisor, .standardReadOnly⟩,
            ⟨0x300, 0x200, .supervisor, .standardReadWrite⟩,
            ⟨0x000, 0xFFFF, .user, .customReadOnly⟩,
            ⟨0x7B8, 0x7C7, debug⟩, ⟨0x7B0, 0x7BF, debug⟩] =
        ofRules rules ∧
      ∀ csr,
        (ofRules
            [⟨0x200, 0x2FF, .hypervisor, .standardReadWrite⟩,
              ⟨0x100, 0x1FF, .supervisor, .standardReadWrite⟩]).classOf csr =
          (ofRules
            [⟨0x100, 0x1FF, .supervisor, .standardReadWrite⟩,
              ⟨0x200, 0x2FF, .hypervisor, .standardReadWrite⟩]).classOf
                csr := by
  intro debug rules
  let place : Equiv.Perm (Fin 5) :=
    ⟨![2, 4, 1, 3, 0], ![4, 2, 0, 3, 1], by decide, by decide⟩
  constructor
  · exact (ofRules_reordered rules place).1 (by decide)
  · exact
      (ofRules_reordered
        [⟨0x100, 0x1FF, .supervisor, .standardReadWrite⟩,
          ⟨0x200, 0x2FF, .hypervisor, .standardReadWrite⟩]
        (Equiv.swap 0 1)).2 (by decide)

end Table

end CsrCensus.Csr
