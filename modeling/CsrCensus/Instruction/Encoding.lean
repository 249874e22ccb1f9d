import CsrCensus.Instruction.Basic
import CsrCensus.Word.Order

/-!
# Encoding of SYSTEM instructions

The five fields of an I-type instruction word, from the most significant end:
`imm12 | rs1 | funct3 | rd | opcode`. Each accessor depends on the bits of its
field only. `Instruction.ofWord?` reads an instruction word and
`CsrAccess.toWord` writes the word of a CSR access. A word has a reading exactly
when its major opcode is SYSTEM.
-/

namespace CsrCensus

namespace Word

/-- Major opcode, bits 6 to 0. -/
def opcode (word : Word) : UInt32 := word &&& 0x7F

/-- Destination register, bits 11 to 7. -/
def rd (word : Word) : UInt8 := ((word >>> 7) &&& 0x1F).toUInt8

/-- Minor opcode, bits 14 to 12. -/
def funct3 (word : Word) : UInt8 := ((word >>> 12) &&& 0x7).toUInt8

/-- First source register or five-bit immediate, bits 19 to 15. -/
def rs1 (word : Word) : UInt8 := ((word >>> 15) &&& 0x1F).toUInt8

/-- Twelve-bit immediate, bits 31 to 20; the CSR address of a CSR access. -/
def imm12 (word : Word) : UInt16 := ((word >>> 20) &&& 0xFFF).toUInt16

def systemOpcode : UInt32 := 0x73

end Word

/-- The instruction that a word encodes, if its major opcode is SYSTEM. -/
def Instruction.ofWord? (word : Word) : Option Instruction :=
  if word.opcode = Word.systemOpcode then
    some <|
      if word.funct3 = 0 then
        match Trap.ofCode? word.imm12 with
        | some selected => .trap selected
        | none => .reserved word.funct3 word.imm12
      else
        match CsrOperation.ofFunct3? word.funct3 with
        | some operation => .access ⟨operation, word.imm12, word.rd, word.rs1⟩
        | none => .reserved word.funct3 word.imm12
  else none

/-- The word of a CSR access whose operands fit their fields. -/
def CsrAccess.toWord (access : CsrAccess) : Word :=
  access.csr.toUInt32 <<< 20 ||| access.source.toUInt32 <<< 15 |||
    access.operation.funct3.toUInt32 <<< 12 ||| access.rd.toUInt32 <<< 7 |||
    Word.systemOpcode

end CsrCensus
