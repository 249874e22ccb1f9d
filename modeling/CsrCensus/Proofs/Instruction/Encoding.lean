import CsrCensus.Instruction.Encoding
import Mathlib.Algebra.Group.Nat.Defs
import Mathlib.Tactic.SplitIfs

/-!
# Reading and writing instruction words

Each field of a word is a range of its binary digits. Every word under the
SYSTEM opcode has one reading: its fields make it a trap, a CSR access or a
reserved encoding. A CSR access whose operands fit their fields is read back
from its word, and from no other.
-/

namespace CsrCensus

namespace Word

private theorem toNat_shift_mask
    (word shift mask : UInt32) {start width : Nat}
    (shifted : shift.toNat % 32 = start) (masked : mask.toNat = 2 ^ width - 1) :
    ((word >>> shift) &&& mask).toNat = word.toNat / 2 ^ start % 2 ^ width := by
  rw [UInt32.toNat_and, UInt32.toNat_shiftRight, shifted, masked,
    Nat.shiftRight_eq_div_pow, Nat.and_two_pow_sub_one_eq_mod]

theorem toNat_opcode (word : Word) :
    word.opcode.toNat = word.toNat % 2 ^ 7 := by
  rw [opcode, UInt32.toNat_and]
  exact Nat.and_two_pow_sub_one_eq_mod word.toNat 7

theorem toNat_rd (word : Word) :
    word.rd.toNat = word.toNat / 2 ^ 7 % 2 ^ 5 := by
  have field : ((word >>> 7) &&& 0x1F).toNat = word.toNat / 2 ^ 7 % 2 ^ 5 :=
    toNat_shift_mask word 7 0x1F rfl rfl
  rw [rd, UInt32.toNat_toUInt8, field]
  omega

theorem toNat_funct3 (word : Word) :
    word.funct3.toNat = word.toNat / 2 ^ 12 % 2 ^ 3 := by
  have field : ((word >>> 12) &&& 0x7).toNat = word.toNat / 2 ^ 12 % 2 ^ 3 :=
    toNat_shift_mask word 12 0x7 rfl rfl
  rw [funct3, UInt32.toNat_toUInt8, field]
  omega

theorem toNat_rs1 (word : Word) :
    word.rs1.toNat = word.toNat / 2 ^ 15 % 2 ^ 5 := by
  have field : ((word >>> 15) &&& 0x1F).toNat = word.toNat / 2 ^ 15 % 2 ^ 5 :=
    toNat_shift_mask word 15 0x1F rfl rfl
  rw [rs1, UInt32.toNat_toUInt8, field]
  omega

theorem toNat_imm12 (word : Word) : word.imm12.toNat = word.toNat / 2 ^ 20 := by
  have field : ((word >>> 20) &&& 0xFFF).toNat = word.toNat / 2 ^ 20 % 2 ^ 12 :=
    toNat_shift_mask word 20 0xFFF rfl rfl
  have bound := word.toNat_lt
  rw [imm12, UInt32.toNat_toUInt16, field]
  omega

theorem opcode_eq_system_iff (word : Word) :
    word.opcode = systemOpcode ↔ word.toNat % 2 ^ 7 = 0x73 := by
  rw [← UInt32.toNat_inj, toNat_opcode]
  rfl

end Word

namespace Trap

theorem ofCode?_eq_some_iff {code : UInt16} {selected : Trap} :
    ofCode? code = some selected ↔ code = selected.code := by
  constructor
  · intro found
    unfold ofCode? at found
    split_ifs at found <;> cases found <;> assumption
  · rintro rfl
    cases selected <;> rfl

theorem ofCode?_eq_none_iff {code : UInt16} :
    ofCode? code = none ↔ code ∉ [0x000, 0x001, 0x002, 0x102, 0x302] := by
  unfold ofCode?
  grind

end Trap

namespace CsrOperation

theorem ofFunct3?_eq_some_iff {funct3 : UInt8} {operation : CsrOperation} :
    ofFunct3? funct3 = some operation ↔ funct3 = operation.funct3 := by
  constructor
  · intro found
    unfold ofFunct3? at found
    split_ifs at found <;> cases found <;> assumption
  · rintro rfl
    cases operation <;> rfl

theorem ofFunct3?_eq_none_iff {funct3 : UInt8} (small : funct3 < 8) :
    ofFunct3? funct3 = none ↔ funct3 = 0 ∨ funct3 = 4 := by
  unfold ofFunct3?
  grind

theorem funct3_lt (operation : CsrOperation) :
    operation.funct3.toNat < 2 ^ 3 := by
  cases operation <;> decide

end CsrOperation

theorem Word.funct3_lt (word : Word) : word.funct3 < 8 := by
  rw [UInt8.lt_iff_toNat_lt, toNat_funct3]
  exact Nat.mod_lt _ (by decide)

namespace Instruction

theorem ofWord?_eq_none_iff {word : Word} :
    ofWord? word = none ↔ word.opcode ≠ Word.systemOpcode := by
  unfold ofWord?
  split_ifs with system <;> simp [system]

/-- The fields that select a trap. -/
theorem ofWord?_eq_trap_iff {word : Word} {selected : Trap} :
    ofWord? word = some (.trap selected) ↔
      word.opcode = Word.systemOpcode ∧ word.funct3 = 0 ∧
        word.imm12 = selected.code := by
  rw [← Trap.ofCode?_eq_some_iff]
  unfold ofWord?
  by_cases system : word.opcode = Word.systemOpcode
  · by_cases zero : word.funct3 = 0
    · cases found : Trap.ofCode? word.imm12 <;> simp [system, zero]
    · cases found : CsrOperation.ofFunct3? word.funct3 <;> simp [system, zero]
  · simp [system]

/-- The fields that select a CSR access. -/
theorem ofWord?_eq_access_iff {word : Word} {operands : CsrAccess} :
    ofWord? word = some (.access operands) ↔
      word.opcode = Word.systemOpcode ∧
        word.funct3 = operands.operation.funct3 ∧
        word.imm12 = operands.csr ∧ word.rd = operands.rd ∧
        word.rs1 = operands.source := by
  obtain ⟨operation, csr, rd, source⟩ := operands
  have unselected : CsrOperation.ofFunct3? 0 = none := rfl
  rw [← CsrOperation.ofFunct3?_eq_some_iff]
  unfold ofWord?
  by_cases system : word.opcode = Word.systemOpcode
  · by_cases zero : word.funct3 = 0
    · cases found : Trap.ofCode? word.imm12 <;> simp [system, zero, unselected]
    · cases found : CsrOperation.ofFunct3? word.funct3 <;> simp [system, zero]
  · simp [system]

/-- The fields that select nothing. -/
theorem ofWord?_eq_reserved_iff
    {word : Word} {funct3 : UInt8} {imm12 : UInt16} :
    ofWord? word = some (.reserved funct3 imm12) ↔
      word.opcode = Word.systemOpcode ∧ word.funct3 = funct3 ∧
        word.imm12 = imm12 ∧
        (funct3 = 4 ∨
          funct3 = 0 ∧ imm12 ∉ [0x000, 0x001, 0x002, 0x102, 0x302]) := by
  have unselected := CsrOperation.ofFunct3?_eq_none_iff word.funct3_lt
  rw [← Trap.ofCode?_eq_none_iff]
  unfold ofWord?
  by_cases system : word.opcode = Word.systemOpcode
  · by_cases zero : word.funct3 = 0
    · cases found : Trap.ofCode? word.imm12 <;> simp [system, zero] <;> grind
    · cases found : CsrOperation.ofFunct3? word.funct3 <;>
        simp [system, zero] <;> grind
  · simp [system]

end Instruction

/-! ## The word of an access -/

private theorem toNat_shiftLeft_of_lt
    {part shift : UInt32} {places width : Nat}
    (shifted : shift.toNat % 32 = places) (small : part.toNat < 2 ^ width)
    (inside : width + places ≤ 32) :
    (part <<< shift).toNat = part.toNat * 2 ^ places := by
  rw [UInt32.toNat_shiftLeft, shifted, Nat.shiftLeft_eq, Nat.mod_eq_of_lt]
  calc
    part.toNat * 2 ^ places < 2 ^ width * 2 ^ places :=
      Nat.mul_lt_mul_of_pos_right small (Nat.two_pow_pos places)
    _ = 2 ^ (width + places) := (Nat.pow_add 2 width places).symm
    _ ≤ 2 ^ 32 := Nat.pow_le_pow_right (by decide) inside

private theorem or_eq_add
    {low width : Nat} (small : low < 2 ^ width) (high : Nat) :
    high * 2 ^ width ||| low = high * 2 ^ width + low := by
  rw [Nat.mul_comm, Nat.two_pow_add_eq_or_of_lt small]

namespace CsrAccess

/-- The operands of an access fit their fields. -/
structure Fits (access : CsrAccess) : Prop where
  csr : access.csr < 4096
  rd : access.rd < 32
  source : access.source < 32

/-- The fields of a word do not overlap. -/
theorem toNat_toWord {access : CsrAccess} (fits : access.Fits) :
    access.toWord.toNat =
      access.csr.toNat * 2 ^ 20 + (access.source.toNat * 2 ^ 15 +
        (access.operation.funct3.toNat * 2 ^ 12 +
          (access.rd.toNat * 2 ^ 7 + 0x73))) := by
  have csr : access.csr.toNat < 2 ^ 12 := fits.csr
  have source : access.source.toNat < 2 ^ 5 := fits.source
  have funct3 := access.operation.funct3_lt
  have rd : access.rd.toNat < 2 ^ 5 := fits.rd
  have csrField :
      (access.csr.toUInt32 <<< 20).toNat = access.csr.toNat * 2 ^ 20 :=
    toNat_shiftLeft_of_lt rfl csr (by decide)
  have sourceField :
      (access.source.toUInt32 <<< 15).toNat = access.source.toNat * 2 ^ 15 :=
    toNat_shiftLeft_of_lt rfl source (by decide)
  have funct3Field :
      (access.operation.funct3.toUInt32 <<< 12).toNat =
        access.operation.funct3.toNat * 2 ^ 12 :=
    toNat_shiftLeft_of_lt rfl funct3 (by decide)
  have rdField : (access.rd.toUInt32 <<< 7).toNat = access.rd.toNat * 2 ^ 7 :=
    toNat_shiftLeft_of_lt rfl rd (by decide)
  have opcode : Word.systemOpcode.toNat = 0x73 := rfl
  rw [toWord, UInt32.toNat_or, UInt32.toNat_or, UInt32.toNat_or,
    UInt32.toNat_or, csrField, sourceField, funct3Field, rdField, opcode,
    Nat.or_assoc, Nat.or_assoc, Nat.or_assoc]
  -- From the least significant end, each field lies above all that was added
  -- before.
  rw [or_eq_add (show 0x73 < 2 ^ 7 by decide),
    or_eq_add (show access.rd.toNat * 2 ^ 7 + 0x73 < 2 ^ 12 by omega),
    or_eq_add
      (show access.operation.funct3.toNat * 2 ^ 12 + _ < 2 ^ 15 by omega),
    or_eq_add (show access.source.toNat * 2 ^ 15 + _ < 2 ^ 20 by omega)]

/-- The word of an access is the one with its operands in their fields. -/
theorem eq_toWord_iff {word : Word} {access : CsrAccess} :
    access.Fits ∧ word = access.toWord ↔
      word.opcode = Word.systemOpcode ∧ word.funct3 = access.operation.funct3 ∧
        word.imm12 = access.csr ∧ word.rd = access.rd ∧
        word.rs1 = access.source := by
  have bound := word.toNat_lt
  have funct3 := access.operation.funct3_lt
  rw [Word.opcode_eq_system_iff, ← UInt8.toNat_inj, ← UInt16.toNat_inj,
    ← UInt8.toNat_inj, ← UInt8.toNat_inj, Word.toNat_funct3, Word.toNat_imm12,
    Word.toNat_rd, Word.toNat_rs1]
  constructor
  · rintro ⟨fits, rfl⟩
    have csr : access.csr.toNat < 2 ^ 12 := fits.csr
    have source : access.source.toNat < 2 ^ 5 := fits.source
    have rd : access.rd.toNat < 2 ^ 5 := fits.rd
    rw [toNat_toWord fits]
    omega
  · rintro ⟨opcode, minor, imm12, rd, rs1⟩
    have fits : access.Fits :=
      { csr := show access.csr.toNat < 4096 by omega
        rd := show access.rd.toNat < 32 by omega
        source := show access.source.toNat < 32 by omega }
    refine ⟨fits, UInt32.toNat_inj.mp ?_⟩
    rw [toNat_toWord fits]
    omega

end CsrAccess

namespace Instruction

theorem ofWord?_eq_access_iff_toWord {word : Word} {operands : CsrAccess} :
    ofWord? word = some (.access operands) ↔
      operands.Fits ∧ word = operands.toWord :=
  ofWord?_eq_access_iff.trans CsrAccess.eq_toWord_iff.symm

/-- Two words that are CSR accesses are the same word exactly when they are the
same access. -/
theorem access_eq_iff_word_eq
    {leftWord rightWord : Word} {left right : CsrAccess}
    (first : ofWord? leftWord = some (.access left))
    (second : ofWord? rightWord = some (.access right)) :
    left = right ↔ leftWord = rightWord := by
  constructor
  · rintro rfl
    rw [(ofWord?_eq_access_iff_toWord.mp first).2,
      (ofWord?_eq_access_iff_toWord.mp second).2]
  · rintro rfl
    rw [first] at second
    exact access.inj (Option.some.inj second)

/-- The numbers in the fields of a word decide its reading: there is none apart
from the SYSTEM opcode, and under it the word is the word of a CSR access, or
its fields select a trap, or they select nothing. An access is read back from
its word exactly when its operands fit their fields, and no two words are read
as the same access. -/
theorem reading_exact :
    (∀ word : Word,
      (ofWord? word = none ↔ word.toNat % 2 ^ 7 ≠ 0x73) ∧
        (∀ operands : CsrAccess,
          ofWord? word = some (.access operands) ↔
            operands.csr < 4096 ∧ operands.rd < 32 ∧ operands.source < 32 ∧
              word =
                operands.csr.toUInt32 <<< 20 |||
                  operands.source.toUInt32 <<< 15 |||
                  operands.operation.funct3.toUInt32 <<< 12 |||
                  operands.rd.toUInt32 <<< 7 |||
                  0x73) ∧
        (∀ selected : Trap,
          ofWord? word = some (.trap selected) ↔
            word.toNat % 2 ^ 7 = 0x73 ∧ word.toNat / 2 ^ 12 % 2 ^ 3 = 0 ∧
              word.toNat / 2 ^ 20 = selected.code.toNat) ∧
        ∀ (funct3 : UInt8) (imm12 : UInt16),
          ofWord? word = some (.reserved funct3 imm12) ↔
            word.toNat % 2 ^ 7 = 0x73 ∧
              word.toNat / 2 ^ 12 % 2 ^ 3 = funct3.toNat ∧
              word.toNat / 2 ^ 20 = imm12.toNat ∧
              (funct3 = 4 ∨
                funct3 = 0 ∧ imm12 ∉ [0x000, 0x001, 0x002, 0x102, 0x302])) ∧
      (∀ operands : CsrAccess,
        ofWord? operands.toWord = some (.access operands) ↔
          operands.csr < 4096 ∧ operands.rd < 32 ∧ operands.source < 32) ∧
      ∀ (left right : Word) (operands : CsrAccess),
        ofWord? left = some (.access operands) →
          ofWord? right = some (.access operands) →
          left = right := by
  have fits_iff (operands : CsrAccess) :
      operands.Fits ↔
        operands.csr < 4096 ∧ operands.rd < 32 ∧ operands.source < 32 :=
    ⟨fun fits => ⟨fits.csr, fits.rd, fits.source⟩, fun ⟨csr, rd, source⟩ =>
      ⟨csr, rd, source⟩⟩
  refine ⟨fun word => ⟨?_, ?_, ?_, ?_⟩, ?_, ?_⟩
  · rw [ofWord?_eq_none_iff, ne_eq, Word.opcode_eq_system_iff]
  · intro operands
    rw [ofWord?_eq_access_iff_toWord, fits_iff, and_assoc, and_assoc]
    rfl
  · intro selected
    rw [ofWord?_eq_trap_iff, Word.opcode_eq_system_iff, ← UInt8.toNat_inj,
      ← UInt16.toNat_inj, Word.toNat_funct3, Word.toNat_imm12]
    rfl
  · intro funct3 imm12
    rw [ofWord?_eq_reserved_iff, Word.opcode_eq_system_iff, ← UInt8.toNat_inj,
      ← UInt16.toNat_inj, Word.toNat_funct3, Word.toNat_imm12]
  · intro operands
    rw [ofWord?_eq_access_iff_toWord, fits_iff]
    exact and_iff_left rfl
  · intro left right operands first second
    rw [(ofWord?_eq_access_iff_toWord.mp first).2,
      (ofWord?_eq_access_iff_toWord.mp second).2]

/-- The access with all bits of its operands set is not that of the word with
one bit less. -/
theorem reading_exact_full_operands :
    let operands : CsrAccess := ⟨.readClearImmediate, 0xFFF, 31, 31⟩
    operands.toWord = 0xFFFFFFF3 ∧
      ofWord? 0xFFFFFFF3 = some (.access operands) ∧
      ofWord? 0xFFFFFF73 ≠ some (.access operands) := by
  intro operands
  have written : operands.toWord = 0xFFFFFFF3 := by decide
  have read : ofWord? operands.toWord = some (.access operands) :=
    (reading_exact.2.1 operands).mpr (by decide)
  rw [written] at read
  refine ⟨written, read, fun found => ?_⟩
  have same : (0xFFFFFF73 : Word) = 0xFFFFFFF3 :=
    reading_exact.2.2 _ _ operands found read
  exact absurd same (by decide)

end Instruction

end CsrCensus
