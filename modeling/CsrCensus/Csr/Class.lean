/-!
# Classes of CSR addresses

The lowest privilege level that may access a CSR, and how the CSR may be used.
-/

namespace CsrCensus.Csr

/-- Lowest privilege level that may access a CSR. -/
inductive Privilege where
  | user
  | supervisor
  | hypervisor
  | machine
  /-- No rule covers the address. -/
  | unknown
deriving DecidableEq, Repr

/-- Use and accessibility of a CSR. -/
inductive Usage where
  | standardReadWrite
  | standardReadOnly
  | customReadWrite
  | customReadOnly
  | debugReadWrite
  | debugModeOnly
  /-- No rule covers the address. -/
  | unknown
deriving DecidableEq, Repr

def Privilege.label : Privilege → String
  | .user => "Unprivileged and User-Level"
  | .supervisor => "Supervisor-Level"
  | .hypervisor => "Hypervisor and VS"
  | .machine => "Machine-Level"
  | .unknown => "Unknown"

/-- The label of a use. -/
def Usage.label : Usage → String
  | .standardReadWrite => "Standard read/write"
  | .standardReadOnly => "Standard read-only"
  | .customReadWrite => "Custom read/write"
  | .customReadOnly => "Custom read-only"
  | .debugReadWrite => "Standard read/write/debug CSRs"
  | .debugModeOnly => "Debug-mode-only CSRs"
  | .unknown => "Unknown"

/-- Whether a use allows no writes. -/
def Usage.isReadOnly : Usage → Bool
  | .standardReadOnly => true
  | .customReadOnly => true
  | _ => false

/-- The class of a CSR address. -/
structure Class where
  privilege : Privilege
  usage : Usage
deriving DecidableEq, Repr

/-- The class of an address that no rule covers. -/
def Class.unknown : Class := ⟨.unknown, .unknown⟩

/-- Both labels in one, separated by a tab; summary groups are ordered by it. -/
def Class.label (cls : Class) : String :=
  cls.privilege.label ++ "\t" ++ cls.usage.label

end CsrCensus.Csr
