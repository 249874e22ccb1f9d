import CsrCensus.Csr.Class

/-!
# The CSR address table

A table gives a class to each of the 4096 CSR addresses. It is filled by a list
of rules, later rules overwriting earlier ones; addresses that no rule covers
have the unknown class.
-/

namespace CsrCensus.Csr

/-- An inclusive range of addresses and the class it receives. -/
structure Rule where
  first : UInt16
  last : UInt16
  cls : Class
deriving DecidableEq, Repr

/-- Whether an address lies in the range of a rule. An inverted range covers
nothing. -/
def Rule.covers (rule : Rule) (address : Nat) : Bool :=
  rule.first.toNat ≤ address && address ≤ rule.last.toNat

def addressCount : Nat := 4096

/-- The class of every CSR address. -/
structure Table where
  classes : Vector Class addressCount
deriving DecidableEq

namespace Table

/-- The table without rules. -/
def blank : Table := ⟨Vector.replicate addressCount Class.unknown⟩

/-- Writes the class of a rule over its range, as far as that lies in the
address space. -/
def apply (table : Table) (rule : Rule) : Table :=
  ⟨table.classes.mapIdx fun address cls =>
    if rule.covers address then rule.cls else cls⟩

/-- The table filled by a list of rules, in order. -/
def ofRules (rules : List Rule) : Table :=
  rules.foldl apply blank

/-- The class of an address; beyond the address space it is the unknown
class. -/
def classOf (table : Table) (csr : UInt16) : Class :=
  table.classes[csr.toNat]?.getD Class.unknown

end Table

/-- The rules of the privileged architecture, quadrant by quadrant. They are
disjoint and cover the whole address space. -/
def standardRules : List Rule :=
  [ ⟨0x000, 0x0FF, .user, .standardReadWrite⟩,
    ⟨0x400, 0x4FF, .user, .standardReadWrite⟩,
    ⟨0x800, 0x8FF, .user, .customReadWrite⟩,
    ⟨0xC00, 0xC7F, .user, .standardReadOnly⟩,
    ⟨0xC80, 0xCBF, .user, .standardReadOnly⟩,
    ⟨0xCC0, 0xCFF, .user, .customReadOnly⟩,
    ⟨0x100, 0x1FF, .supervisor, .standardReadWrite⟩,
    ⟨0x500, 0x57F, .supervisor, .standardReadWrite⟩,
    ⟨0x580, 0x5BF, .supervisor, .standardReadWrite⟩,
    ⟨0x5C0, 0x5FF, .supervisor, .customReadWrite⟩,
    ⟨0x900, 0x97F, .supervisor, .standardReadWrite⟩,
    ⟨0x980, 0x9BF, .supervisor, .standardReadWrite⟩,
    ⟨0x9C0, 0x9FF, .supervisor, .customReadWrite⟩,
    ⟨0xD00, 0xD7F, .supervisor, .standardReadOnly⟩,
    ⟨0xD80, 0xDBF, .supervisor, .standardReadOnly⟩,
    ⟨0xDC0, 0xDFF, .supervisor, .customReadOnly⟩,
    ⟨0x200, 0x2FF, .hypervisor, .standardReadWrite⟩,
    ⟨0x600, 0x67F, .hypervisor, .standardReadWrite⟩,
    ⟨0x680, 0x6BF, .hypervisor, .standardReadWrite⟩,
    ⟨0x6C0, 0x6FF, .hypervisor, .customReadWrite⟩,
    ⟨0xA00, 0xA7F, .hypervisor, .standardReadWrite⟩,
    ⟨0xA80, 0xABF, .hypervisor, .standardReadWrite⟩,
    ⟨0xAC0, 0xAFF, .hypervisor, .customReadWrite⟩,
    ⟨0xE00, 0xE7F, .hypervisor, .standardReadOnly⟩,
    ⟨0xE80, 0xEBF, .hypervisor, .standardReadWrite⟩,
    ⟨0xEC0, 0xEFF, .hypervisor, .customReadWrite⟩,
    ⟨0x300, 0x3FF, .machine, .standardReadWrite⟩,
    ⟨0x700, 0x77F, .machine, .standardReadWrite⟩,
    ⟨0x780, 0x79F, .machine, .standardReadWrite⟩,
    ⟨0x7A0, 0x7AF, .machine, .debugReadWrite⟩,
    ⟨0x7B0, 0x7BF, .machine, .debugModeOnly⟩,
    ⟨0x7C0, 0x7FF, .machine, .customReadWrite⟩,
    ⟨0xB00, 0xB7F, .machine, .standardReadWrite⟩,
    ⟨0xB80, 0xBBF, .machine, .standardReadWrite⟩,
    ⟨0xBC0, 0xBFF, .machine, .customReadWrite⟩,
    ⟨0xF00, 0xF7F, .machine, .standardReadOnly⟩,
    ⟨0xF80, 0xFBF, .machine, .standardReadWrite⟩,
    ⟨0xFC0, 0xFFF, .machine, .customReadWrite⟩ ]

def Table.standard : Table := ofRules standardRules

end CsrCensus.Csr
