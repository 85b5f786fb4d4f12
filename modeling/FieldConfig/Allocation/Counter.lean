import FieldConfig.Register

set_option autoImplicit false

namespace FieldConfig

structure OverrideTable where
  entries : List Override := []
deriving DecidableEq, Repr, Inhabited

namespace OverrideTable

def governs (entry : Override) (register : Register) (kind : RegisterKind) : Bool :=
  entry.device = register.device && entry.deviceType = register.deviceType &&
    entry.pointClass = register.pointClass && entry.field = register.field && entry.kind = kind

-- The number of the last entry that governs the register.
def lookup (table : OverrideTable) (register : Register) (kind : RegisterKind) : Option UInt32 :=
  (table.entries.reverse.find? (governs · register kind)).map (·.number)

end OverrideTable

namespace Allocation

def counterLimit : Nat := 0xffffffff

-- The counter after a register and the address it takes: the number given by hand, else the next
-- one. A counter that cannot go on stays and gives nothing.
def advance (counter : Nat) (manual : Option UInt32) : Nat × Option Nat :=
  let address := (manual.map UInt32.toNat).getD counter
  if address < counterLimit then (address + 1, some address) else (address, none)

end Allocation
end FieldConfig
