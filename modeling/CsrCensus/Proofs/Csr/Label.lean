import CsrCensus.Csr.Name
import CsrCensus.Proofs.Text.Ascii
import CsrCensus.Proofs.Text.Separated

/-!
# Labels of classes and names of CSRs

A class is identified by its two labels, and by both in one. Labels and names
are cells.
-/

namespace CsrCensus.Csr

open Text

theorem Privilege.label_injective : Function.Injective Privilege.label := by
  intro left right equal
  cases left <;> cases right <;> first | rfl | exact absurd equal (by decide)

theorem Usage.label_injective : Function.Injective Usage.label := by
  intro left right equal
  cases left <;> cases right <;> first | rfl | exact absurd equal (by decide)

theorem Privilege.label_isCell (privilege : Privilege) :
    IsCell privilege.label := by
  cases privilege <;> decide

theorem Usage.label_isCell (usage : Usage) : IsCell usage.label := by
  cases usage <;> decide

theorem Class.eq_of_labels_eq
    {left right : Class}
    (privilege : left.privilege.label = right.privilege.label)
    (usage : left.usage.label = right.usage.label) :
    left = right := by
  cases left
  cases right
  rw [Class.mk.injEq]
  exact ⟨Privilege.label_injective privilege, Usage.label_injective usage⟩

theorem Class.label_injective : Function.Injective Class.label := by
  intro left right equal
  have characters :
      left.privilege.label.toList ++ '\t' :: left.usage.label.toList =
        right.privilege.label.toList ++ '\t' :: right.usage.label.toList := by
    simpa [Class.label] using congrArg String.toList equal
  obtain ⟨privilege, usage⟩ :=
    eq_of_append_cons_eq (fun tab => (left.privilege.label_isCell _ tab).1 rfl)
      (fun tab => (right.privilege.label_isCell _ tab).1 rfl) characters
  exact Class.eq_of_labels_eq (String.toList_inj.mp privilege)
    (String.toList_inj.mp usage)

theorem Class.label_isAscii (cls : Class) : IsAscii cls.label := by
  have privilege : IsAscii cls.privilege.label := by
    cases cls.privilege <;> decide
  have usage : IsAscii cls.usage.label := by
    cases cls.usage <;> decide
  exact isAscii_append.mpr ⟨isAscii_append.mpr ⟨privilege, by decide⟩, usage⟩

/-- Labels are ordered as their bytes. -/
theorem Class.toUtf8_label_lt
    {left right : Class} (less : left.label < right.label) :
    toUtf8 left.label < toUtf8 right.label :=
  toUtf8_lt_toUtf8 left.label_isAscii right.label_isAscii less

theorem namedRegisters_isCell :
    ∀ register ∈ namedRegisters, IsCell register.2 := by
  decide

theorem isCell_of_name?_eq_some
    {csr : UInt16} {name : String} (named : name? csr = some name) :
    IsCell name := by
  have decimal (number : Nat) : IsCell (Numeral.decimal.text number) :=
    isCell_numeral (by decide) (by decide) number
  unfold name? at named
  split at named
  · cases named
    exact isCell_append.mpr ⟨by decide, decimal _⟩
  · split at named
    · cases named
      exact isCell_append.mpr ⟨by decide, decimal _⟩
    · obtain ⟨before, after, found, _⟩ := List.lookup_eq_some_iff.mp named
      exact namedRegisters_isCell (csr, name) (by simp [found])

end CsrCensus.Csr
