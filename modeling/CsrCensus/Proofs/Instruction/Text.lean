import CsrCensus.Proofs.Instruction.Encoding
import CsrCensus.Proofs.Text.Separated

/-!
# Texts of instructions

No two kinds of instructions share a label and no two instructions share a text.
Labels and texts are cells. The text of a CSR access identifies its word too;
that of a trap or of a reserved encoding leaves the registers out.
-/

namespace CsrCensus

open Text

theorem Trap.mnemonic_injective : Function.Injective Trap.mnemonic := by
  intro left right equal
  cases left <;> cases right <;> first | rfl | exact absurd equal (by decide)

theorem CsrOperation.mnemonic_injective :
    Function.Injective CsrOperation.mnemonic := by
  intro left right equal
  cases left <;> cases right <;> first | rfl | exact absurd equal (by decide)

theorem Trap.space_not_mem_mnemonic (selected : Trap) :
    ' ' ∉ selected.mnemonic.toList := by
  cases selected <;> decide

theorem CsrOperation.space_not_mem_mnemonic (operation : CsrOperation) :
    ' ' ∉ operation.mnemonic.toList := by
  cases operation <;> decide

theorem Trap.mnemonic_ne_operation
    (selected : Trap) (operation : CsrOperation) :
    selected.mnemonic ≠ operation.mnemonic := by
  cases selected <;> cases operation <;> decide

namespace Instruction

theorem Kind.label_injective : Function.Injective Kind.label := by
  intro left right equal
  cases left with
  | trap selected =>
      cases right with
      | trap other => rw [Trap.mnemonic_injective equal]
      | access operation =>
          exact absurd equal (selected.mnemonic_ne_operation operation)
      | reserved => cases selected <;> exact absurd equal (by decide)
  | access operation =>
      cases right with
      | trap selected =>
          exact absurd equal.symm (selected.mnemonic_ne_operation operation)
      | access other => rw [CsrOperation.mnemonic_injective equal]
      | reserved => cases operation <;> exact absurd equal (by decide)
  | reserved =>
      cases right with
      | trap selected => cases selected <;> exact absurd equal (by decide)
      | access operation => cases operation <;> exact absurd equal (by decide)
      | reserved => rfl

theorem Kind.label_isCell (kind : Kind) : IsCell kind.label := by
  cases kind with
  | trap selected => cases selected <;> decide
  | access operation => cases operation <;> decide
  | reserved => decide

theorem text_isCell (instruction : Instruction) : IsCell instruction.text := by
  cases instruction with
  | trap selected => exact Kind.label_isCell (.trap selected)
  | access operands =>
      have mnemonic : IsCell operands.operation.mnemonic :=
        Kind.label_isCell (.access operands.operation)
      have decimal (number : Nat) : IsCell (Numeral.decimal.text number) :=
        isCell_numeral (by decide) (by decide) number
      have imm12 (number : Nat) : IsCell (imm12Format.text number) :=
        isCell_numeral (by decide) (by decide) number
      simp only [text, isCell_append, mnemonic, decimal, imm12]
      decide
  | reserved funct3 imm12 =>
      have label : IsCell Kind.reserved.label := Kind.label_isCell .reserved
      have binary (number : Nat) : IsCell (funct3Format.text number) :=
        isCell_numeral (by decide) (by decide) number
      have hexadecimal (number : Nat) : IsCell (imm12Format.text number) :=
        isCell_numeral (by decide) (by decide) number
      simp only [text, isCell_append, label, binary, hexadecimal]
      decide

/-- The text of an access is its mnemonic, and behind a space its operands. -/
private theorem toList_text_access (operands : CsrAccess) :
    (text (.access operands)).toList =
      operands.operation.mnemonic.toList ++ ' ' ::
        ("(rd=x".toList ++
          ((Numeral.decimal.text operands.rd.toNat).toList ++ ',' ::
          (" csr=0x".toList ++
            ((imm12Format.text operands.csr.toNat).toList ++ ',' ::
            (" rs1/x=".toList ++
              ((Numeral.decimal.text operands.source.toNat).toList ++
              ')' :: [])))))) := by
  simp [text]

private theorem toList_text_reserved (funct3 : UInt8) (imm12 : UInt16) :
    (text (.reserved funct3 imm12)).toList =
      "Unknown".toList ++ ' ' ::
        ("SYSTEM (funct3=".toList ++
          ((funct3Format.text funct3.toNat).toList ++ ',' ::
          (" imm=0x".toList ++
            ((imm12Format.text imm12.toNat).toList ++ ')' :: [])))) := by
  simp [text, Kind.label]

private theorem access_eq_of_text_eq
    {left right : CsrAccess}
    (equal : text (.access left) = text (.access right)) :
    left = right := by
  have characters := congrArg String.toList equal
  rw [toList_text_access, toList_text_access] at characters
  obtain ⟨mnemonics, operands⟩ :=
    eq_of_append_cons_eq (CsrOperation.space_not_mem_mnemonic _)
      (CsrOperation.space_not_mem_mnemonic _) characters
  -- A numeral ends at the separator behind it, whatever its width.
  obtain ⟨rd, afterRd⟩ :=
    numeral_eq_of_append (by decide) (by decide) (by decide)
      (List.append_cancel_left operands)
  obtain ⟨csr, afterCsr⟩ :=
    numeral_eq_of_append (by decide) (by decide) (by decide)
      (List.append_cancel_left afterRd)
  obtain ⟨source, _⟩ :=
    numeral_eq_of_append (by decide) (by decide) (by decide)
      (List.append_cancel_left afterCsr)
  have operation :=
    CsrOperation.mnemonic_injective (String.toList_inj.mp mnemonics)
  cases left
  cases right
  simp only [CsrAccess.mk.injEq]
  exact ⟨operation, UInt16.toNat_inj.mp csr, UInt8.toNat_inj.mp rd,
    UInt8.toNat_inj.mp source⟩

private theorem reserved_eq_of_text_eq
    {leftFunct3 rightFunct3 : UInt8} {leftImm12 rightImm12 : UInt16}
    (equal : text (.reserved leftFunct3 leftImm12) =
      text (.reserved rightFunct3 rightImm12)) :
    leftFunct3 = rightFunct3 ∧ leftImm12 = rightImm12 := by
  have characters := congrArg String.toList equal
  rw [toList_text_reserved, toList_text_reserved] at characters
  obtain ⟨_, operands⟩ :=
    eq_of_append_cons_eq (by decide) (by decide) characters
  obtain ⟨funct3, afterFunct3⟩ :=
    numeral_eq_of_append (by decide) (by decide) (by decide)
      (List.append_cancel_left operands)
  obtain ⟨imm12, _⟩ :=
    numeral_eq_of_append (by decide) (by decide) (by decide)
      (List.append_cancel_left afterFunct3)
  exact ⟨UInt8.toNat_inj.mp funct3, UInt16.toNat_inj.mp imm12⟩

private theorem space_mem_text_access (operands : CsrAccess) :
    ' ' ∈ (text (.access operands)).toList := by
  rw [toList_text_access]
  exact List.mem_append_right _ List.mem_cons_self

private theorem space_mem_text_reserved (funct3 : UInt8) (imm12 : UInt16) :
    ' ' ∈ (text (.reserved funct3 imm12)).toList := by
  rw [toList_text_reserved]
  exact List.mem_append_right _ List.mem_cons_self

/-- The text of a trap is a single word. -/
private theorem text_trap_ne
    (selected : Trap) {other : Instruction} (space : ' ' ∈ other.text.toList) :
    text (.trap selected) ≠ other.text := by
  intro equal
  apply selected.space_not_mem_mnemonic
  rw [← equal] at space
  exact space

private theorem text_access_ne_reserved
    (operands : CsrAccess) (funct3 : UInt8) (imm12 : UInt16) :
    text (.access operands) ≠ text (.reserved funct3 imm12) := by
  intro equal
  have characters := congrArg String.toList equal
  rw [toList_text_access, toList_text_reserved] at characters
  obtain ⟨mnemonics, _⟩ :=
    eq_of_append_cons_eq (CsrOperation.space_not_mem_mnemonic _)
      (by decide) characters
  revert mnemonics
  cases operands.operation <;> decide

/-- The text of an instruction identifies it. -/
theorem text_injective : Function.Injective text := by
  intro left right equal
  cases left with
  | trap selected =>
      cases right with
      | trap other => rw [Trap.mnemonic_injective equal]
      | access operands =>
          exact absurd equal
            (text_trap_ne selected (space_mem_text_access operands))
      | reserved funct3 imm12 =>
          exact absurd equal
            (text_trap_ne selected (space_mem_text_reserved funct3 imm12))
  | access operands =>
      cases right with
      | trap selected =>
          exact absurd equal.symm
            (text_trap_ne selected (space_mem_text_access operands))
      | access other => rw [access_eq_of_text_eq equal]
      | reserved funct3 imm12 =>
          exact absurd equal (text_access_ne_reserved operands funct3 imm12)
  | reserved funct3 imm12 =>
      cases right with
      | trap selected =>
          exact absurd equal.symm
            (text_trap_ne selected (space_mem_text_reserved funct3 imm12))
      | access operands =>
          exact
            absurd equal.symm (text_access_ne_reserved operands funct3 imm12)
      | reserved otherFunct3 otherImm12 =>
          obtain ⟨rfl, rfl⟩ := reserved_eq_of_text_eq equal
          rfl

/-- Whatever numbers the fields of an instruction hold, its text identifies it,
and has no tab and no line feed. Hence the texts of two words that are CSR
accesses are equal exactly when the words are. -/
theorem text_identifies :
    (∀ left right : Instruction, left.text = right.text ↔ left = right) ∧
      (∀ instruction : Instruction,
        '\t' ∉ instruction.text.toList ∧ '\n' ∉ instruction.text.toList) ∧
      ∀ (leftWord rightWord : Word) (left right : CsrAccess),
        ofWord? leftWord = some (.access left) →
          ofWord? rightWord = some (.access right) →
          (text (.access left) = text (.access right) ↔
            leftWord = rightWord) := by
  refine ⟨fun left right => text_injective.eq_iff, fun instruction =>
    ⟨?tab, ?feed⟩, ?words⟩
  case tab => exact fun member => (instruction.text_isCell _ member).1 rfl
  case feed => exact fun member => (instruction.text_isCell _ member).2 rfl
  case words =>
    intro leftWord rightWord left right first second
    calc
      text (.access left) = text (.access right) ↔
          Instruction.access left = Instruction.access right :=
            text_injective.eq_iff
      _ ↔ left = right := by rw [access.injEq]
      _ ↔ leftWord = rightWord := access_eq_iff_word_eq first second

/-- The mnemonic of one access continues that of the other, and all else in
their texts is the same. -/
theorem text_identifies_immediate :
    let register : CsrAccess := ⟨.readClear, 0xFFF, 31, 31⟩
    let immediate : CsrAccess := ⟨.readClearImmediate, 0xFFF, 31, 31⟩
    ofWord? 0xFFFFBFF3 = some (.access register) ∧
      ofWord? 0xFFFFFFF3 = some (.access immediate) ∧
        text (.access register) ≠ text (.access immediate) := by
  intro register immediate
  have first : ofWord? 0xFFFFBFF3 = some (.access register) := by decide
  have second : ofWord? 0xFFFFFFF3 = some (.access immediate) := by decide
  refine ⟨first, second, fun equal => ?_⟩
  have same : (0xFFFFBFF3 : Word) = 0xFFFFFFF3 :=
    (text_identifies.2.2 _ _ register immediate first second).mp equal
  exact absurd same (by decide)

end Instruction

end CsrCensus
