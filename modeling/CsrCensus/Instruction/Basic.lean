import CsrCensus.Text.Numeral

/-!
# SYSTEM instructions

The instructions under the SYSTEM opcode: traps and trap returns, the six CSR
accesses, and the encodings that are reserved. An instruction is counted under
its `Kind`, and written by `Instruction.text`.
-/

namespace CsrCensus

/-- Environment calls and the returns from a trap handler. -/
inductive Trap where
  | ecall
  | ebreak
  | uret
  | sret
  | mret
deriving DecidableEq, Repr

/-- What a CSR access does with the register. -/
inductive CsrOperation where
  | readWrite
  | readSet
  | readClear
  | readWriteImmediate
  | readSetImmediate
  | readClearImmediate
deriving DecidableEq, Repr

/-- A CSR access. `source` is the raw rs1 field: a register, or the immediate of
the last three operations. -/
structure CsrAccess where
  operation : CsrOperation
  csr : UInt16
  rd : UInt8
  source : UInt8
deriving DecidableEq, Repr

/-- A SYSTEM instruction. -/
inductive Instruction where
  | trap (selected : Trap)
  | access (operands : CsrAccess)
  /-- A SYSTEM encoding that selects no instruction. -/
  | reserved (funct3 : UInt8) (imm12 : UInt16)
deriving DecidableEq, Repr

namespace Trap

/-- The trap selected by a twelve-bit immediate. -/
def ofCode? (code : UInt16) : Option Trap :=
  if code = 0x000 then some .ecall
  else if code = 0x001 then some .ebreak
  else if code = 0x002 then some .uret
  else if code = 0x102 then some .sret
  else if code = 0x302 then some .mret
  else none

/-- The twelve-bit immediate that selects a trap. -/
def code : Trap → UInt16
  | .ecall => 0x000
  | .ebreak => 0x001
  | .uret => 0x002
  | .sret => 0x102
  | .mret => 0x302

/-- Assembler mnemonic. -/
def mnemonic : Trap → String
  | .ecall => "ECALL"
  | .ebreak => "EBREAK"
  | .uret => "URET"
  | .sret => "SRET"
  | .mret => "MRET"

end Trap

namespace CsrOperation

/-- The operation selected by a minor opcode. -/
def ofFunct3? (funct3 : UInt8) : Option CsrOperation :=
  if funct3 = 1 then some .readWrite
  else if funct3 = 2 then some .readSet
  else if funct3 = 3 then some .readClear
  else if funct3 = 5 then some .readWriteImmediate
  else if funct3 = 6 then some .readSetImmediate
  else if funct3 = 7 then some .readClearImmediate
  else none

/-- The minor opcode that selects an operation. -/
def funct3 : CsrOperation → UInt8
  | .readWrite => 1
  | .readSet => 2
  | .readClear => 3
  | .readWriteImmediate => 5
  | .readSetImmediate => 6
  | .readClearImmediate => 7

/-- Assembler mnemonic. -/
def mnemonic : CsrOperation → String
  | .readWrite => "CSRRW"
  | .readSet => "CSRRS"
  | .readClear => "CSRRC"
  | .readWriteImmediate => "CSRRWI"
  | .readSetImmediate => "CSRRSI"
  | .readClearImmediate => "CSRRCI"

end CsrOperation

namespace Instruction

/-- What instructions are counted by. -/
inductive Kind where
  | trap (selected : Trap)
  | access (operation : CsrOperation)
  | reserved
deriving DecidableEq, Repr

/-- The label under which a kind is counted. -/
def Kind.label : Kind → String
  | .trap selected => selected.mnemonic
  | .access operation => operation.mnemonic
  | .reserved => "Unknown SYSTEM"

def kind : Instruction → Kind
  | .trap selected => .trap selected
  | .access operands => .access operands.operation
  | .reserved _ _ => .reserved

/-- Whether the encoding selects no instruction. -/
def isReserved : Instruction → Bool
  | .reserved _ _ => true
  | _ => false

def csr? : Instruction → Option UInt16
  | .access operands => some operands.csr
  | _ => none

/-- Twelve-bit numbers are written with at least three digits. -/
def imm12Format : Numeral.Format := Numeral.upperHex 3

/-- Minor opcodes are written in binary with at least three digits. -/
def funct3Format : Numeral.Format := Numeral.binary 3

/-- The text of an instruction: its mnemonic, and its operands in
parentheses. -/
def text : Instruction → String
  | .trap selected => selected.mnemonic
  | .access operands =>
      operands.operation.mnemonic ++
        " (rd=x" ++ Numeral.decimal.text operands.rd.toNat ++
        ", csr=0x" ++ imm12Format.text operands.csr.toNat ++
        ", rs1/x=" ++ Numeral.decimal.text operands.source.toNat ++ ")"
  | .reserved funct3 imm12 =>
      Kind.reserved.label ++
        " (funct3=" ++ funct3Format.text funct3.toNat ++
        ", imm=0x" ++ imm12Format.text imm12.toNat ++ ")"

end Instruction

end CsrCensus
