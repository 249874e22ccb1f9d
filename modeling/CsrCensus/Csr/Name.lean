import CsrCensus.Text.Numeral

/-!
# Names of CSRs

The architectural names of the well-known CSRs. A name never depends on a table.
-/

namespace CsrCensus.Csr

def namedRegisters : List (UInt16 × String) :=
  [ (0x001, "fflags"),
    (0x002, "frm"),
    (0x003, "fcsr"),
    (0x100, "sstatus"),
    (0x104, "sie"),
    (0x105, "stvec"),
    (0x106, "scounteren"),
    (0x140, "sscratch"),
    (0x141, "sepc"),
    (0x142, "scause"),
    (0x143, "stval"),
    (0x144, "sip"),
    (0x14D, "stimecmp"),
    (0x180, "satp"),
    (0x300, "mstatus"),
    (0x301, "misa"),
    (0x302, "medeleg"),
    (0x303, "mideleg"),
    (0x304, "mie"),
    (0x305, "mtvec"),
    (0x306, "mcounteren"),
    (0x340, "mscratch"),
    (0x341, "mepc"),
    (0x342, "mcause"),
    (0x343, "mtval"),
    (0x344, "mip"),
    (0x7A0, "tselect"),
    (0x7A1, "tdata1"),
    (0x7A2, "tdata2"),
    (0x7A3, "tdata3"),
    (0x7B0, "dcsr"),
    (0x7B1, "dpc"),
    (0x7B2, "dscratch0"),
    (0x7B3, "dscratch1"),
    (0xB00, "mcycle"),
    (0xB02, "minstret"),
    (0xC00, "cycle"),
    (0xC01, "time"),
    (0xC02, "instret"),
    (0xF11, "mvendorid"),
    (0xF12, "marchid"),
    (0xF13, "mimpid"),
    (0xF14, "mhartid") ]

/-- The names of a numbered bank of registers that starts at `start`. -/
def bankName (stem : String) (start csr : UInt16) : String :=
  stem ++ Numeral.decimal.text (csr.toNat - start.toNat)

/-- The architectural name of a CSR, if it is well known. -/
def name? (csr : UInt16) : Option String :=
  if 0x3A0 ≤ csr ∧ csr ≤ 0x3AF then some (bankName "pmpcfg" 0x3A0 csr)
  else if 0x3B0 ≤ csr ∧ csr ≤ 0x3EF then some (bankName "pmpaddr" 0x3B0 csr)
  else namedRegisters.lookup csr

end CsrCensus.Csr
