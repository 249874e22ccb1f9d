import CsrCensus.Proofs.Csr.Rules
import CsrCensus.Proofs.Report.Classes

/-!
# Surveys under the standard table

Bits 9 and 8 of a CSR address are the lowest privilege level that may access it,
and bits 11 and 10 are both set where the CSR is read-only. The standard table
keeps to the first rule at every address. It keeps to the second one except in
the upper halves of the highest blocks of two levels, which it gives to be
written.
-/

namespace CsrCensus.Csr

/-- The privilege level with a number. -/
def Privilege.ofBits : Nat → Privilege
  | 0 => .user
  | 1 => .supervisor
  | 2 => .hypervisor
  | _ => .machine

/-- Bits 9 and 8 of an address. -/
def levelBits (csr : UInt16) : Nat := csr.toNat / 2 ^ 8 % 2 ^ 2

/-- Bits 11 and 10 of an address. -/
def accessBits (csr : UInt16) : Nat := csr.toNat / 2 ^ 10 % 2 ^ 2

namespace Table

theorem exists_rule_of_covered
    {rules : List Rule} {csr : UInt16} (inside : csr.toNat < addressCount)
    (covered : ∃ rule ∈ rules, rule.covers csr.toNat) :
    ∃ rule ∈ rules,
      rule.covers csr.toNat ∧ (ofRules rules).classOf csr = rule.cls := by
  rw [classOf_ofRules_inside rules inside]
  cases found : rules.reverse.find? fun rule => rule.covers csr.toNat with
  | none =>
      obtain ⟨rule, member, covers⟩ := covered
      exact absurd covers
        (List.find?_eq_none.mp found rule (List.mem_reverse.mpr member))
  | some rule =>
      have covers : rule.covers csr.toNat :=
        (List.find?_eq_some_iff_append.mp found).1
      exact ⟨rule, List.mem_reverse.mp (List.mem_of_find?_eq_some found),
        covers, rfl⟩

/-- Every sixteen addresses in a row lie in the range of one rule. -/
theorem standardRules_cover :
    ∀ row < 256, ∃ rule ∈ standardRules,
      rule.first.toNat ≤ 16 * row ∧ 16 * row + 15 ≤ rule.last.toNat := by
  decide +kernel

theorem exists_standardRule {csr : UInt16} (inside : csr.toNat < addressCount) :
    ∃ rule ∈ standardRules, rule.covers csr.toNat := by
  have rows : csr.toNat / 16 < 256 := by
    have : addressCount = 4096 := rfl
    omega
  obtain ⟨rule, member, first, last⟩ :=
    standardRules_cover (csr.toNat / 16) rows
  refine ⟨rule, member, ?_⟩
  rw [Rule.covers, Bool.and_eq_true, decide_eq_true_iff, decide_eq_true_iff]
  omega

/-- No rule reaches across a change of the level, nor of the access where it
grants one. -/
theorem standardRules_follow :
    ∀ rule ∈ standardRules,
      rule.first.toNat / 2 ^ 8 = rule.last.toNat / 2 ^ 8 ∧
        rule.cls.privilege = .ofBits (rule.first.toNat / 2 ^ 8 % 2 ^ 2) ∧
        (rule.first.toNat / 2 ^ 9 = 7 →
          rule.first.toNat / 2 ^ 7 = rule.last.toNat / 2 ^ 7) ∧
        (rule.cls.usage.isReadOnly ↔
          rule.first.toNat / 2 ^ 10 = 3 ∧
            (rule.first.toNat / 2 ^ 9 = 6 ∨
              rule.first.toNat / 2 ^ 7 % 2 = 0)) := by
  decide

/-- The level of a class is that of the address. The class is read-only where
both access bits are set, unless bits 9 and 7 are set as well. -/
theorem classOf_standard {csr : UInt16} (inside : csr.toNat < addressCount) :
    (standard.classOf csr).privilege = .ofBits (levelBits csr) ∧
      ((standard.classOf csr).usage.isReadOnly ↔
        accessBits csr = 3 ∧
          (levelBits csr < 2 ∨ csr.toNat / 2 ^ 7 % 2 = 0)) := by
  obtain ⟨rule, member, covers, cls⟩ :=
    exists_rule_of_covered inside (exists_standardRule inside)
  obtain ⟨block, level, half, readOnly⟩ := standardRules_follow rule member
  rw [Rule.covers, Bool.and_eq_true, decide_eq_true_iff,
    decide_eq_true_iff] at covers
  have bound : addressCount = 4096 := rfl
  have same : csr.toNat / 2 ^ 8 = rule.first.toNat / 2 ^ 8 := by omega
  rw [standard, cls, level, readOnly, levelBits, accessBits, same]
  refine ⟨rfl, ?_⟩
  omega

end Table

end CsrCensus.Csr

namespace CsrCensus.Surveyor

open Csr

theorem csr_lt_of_mem_sightings
    {surveyor : Surveyor} {regions : List Image.Region} {sighting : Sighting}
    (member : sighting ∈ surveyor.sightings regions) {operands : CsrAccess}
    (access : sighting.instruction = .access operands) :
    operands.csr.toNat < addressCount := by
  obtain ⟨place, _, read⟩ := List.mem_filterMap.mp member
  obtain ⟨instruction, decoded, rfl⟩ := Option.map_eq_some_iff.mp read
  cases access
  exact (Instruction.ofWord?_eq_access_iff_toWord.mp decoded).1.csr

/-- A survey under the standard table records every access with a class. Its
level is the one in bits 9 and 8 of the address. It is read-only where bits 11
and 10 are set and one of bits 9 and 7 is not, and nowhere else. -/
theorem survey_standard_classes
    (order : ByteOrder) (regions : List Image.Region) :
    ∀ sighting ∈
      ((⟨Table.standard, order⟩ : Surveyor).survey regions).known.toList,
      ∀ operands, sighting.instruction = .access operands →
        ∃ cls,
          sighting.cls = some cls ∧
          cls.privilege = .ofBits (levelBits operands.csr) ∧
          (cls.usage.isReadOnly ↔
            accessBits operands.csr = 3 ∧
              (levelBits operands.csr < 2 ∨
                operands.csr.toNat / 2 ^ 7 % 2 = 0)) := by
  intro sighting member operands access
  obtain ⟨-, cls⟩ := Report.known_of_survey _ _ sighting member
  rw [survey_eq_ofHistory] at member
  have inside := csr_lt_of_mem_sightings (List.mem_filter.mp member).1 access
  obtain ⟨level, readOnly⟩ := Table.classOf_standard inside
  refine ⟨Table.standard.classOf operands.csr, ?_, level, readOnly⟩
  rw [cls, access]
  rfl

/-- The word of a read of the hypervisor CSR at the bottom of an upper half. -/
def upperHalfRead : Bytes := [0xE8, 0x00, 0x25, 0x73]

/-- What is sighted of it. -/
def upperHalfSighting : Sighting :=
  ⟨0, 0xE8002573, .access ⟨.readSet, 0xE80, 10, 0⟩,
    some (Table.standard.classOf 0xE80)⟩

theorem classOf_standard_upperHalf :
    Table.standard.classOf 0xE80 = ⟨.hypervisor, .standardReadWrite⟩ := by
  rw [Table.standard, Table.classOf_ofRules_inside _ (by decide)]
  decide

theorem known_upperHalfRead :
    ((⟨Table.standard, .big⟩ : Surveyor).survey
      [.flat upperHalfRead]).known.toList =
      [upperHalfSighting] := by
  rfl

theorem survey_standard_classes_upperHalf :
    upperHalfSighting ∈
        ((⟨Table.standard, .big⟩ : Surveyor).survey
          [.flat upperHalfRead]).known.toList ∧
      upperHalfSighting.instruction = .access ⟨.readSet, 0xE80, 10, 0⟩ ∧
      ∃ cls, upperHalfSighting.cls = some cls ∧ cls.privilege = .hypervisor ∧
        (cls.usage.isReadOnly ↔ False) := by
  have member :
      upperHalfSighting ∈
        ((⟨Table.standard, .big⟩ : Surveyor).survey
          [.flat upperHalfRead]).known.toList := by
    rw [known_upperHalfRead]
    exact List.mem_singleton_self _
  obtain ⟨cls, recorded, level, readOnly⟩ :=
    survey_standard_classes .big _ _ member ⟨.readSet, 0xE80, 10, 0⟩ rfl
  refine ⟨member, rfl, cls, recorded, level, readOnly.trans ?_⟩
  decide

/-- An access to a CSR with both access bits set may be recorded as one that can
be written. -/
theorem survey_standard_marks_writable :
    ∃ sighting ∈
      ((⟨Table.standard, .big⟩ : Surveyor).survey
        [.flat upperHalfRead]).known.toList,
      ∃ operands cls,
        sighting.instruction = .access operands ∧ sighting.cls = some cls ∧
        accessBits operands.csr = 3 ∧ ¬ cls.usage.isReadOnly := by
  rw [known_upperHalfRead]
  refine ⟨upperHalfSighting, List.mem_singleton_self _,
    ⟨.readSet, 0xE80, 10, 0⟩, _, rfl, rfl,
    by decide, ?_⟩
  rw [classOf_standard_upperHalf]
  decide

end CsrCensus.Surveyor
