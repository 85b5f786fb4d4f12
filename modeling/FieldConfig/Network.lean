import FieldConfig.Encoding
import FieldConfig.Text.Blank

set_option autoImplicit false

/-!
The network of an experiment: servers, gateways and clients, with the names of those that each
polls. Names are distinct.
-/
namespace FieldConfig

inductive Downstream where
  | serving (protocol : Protocol)
  | unsupported (name : String)
deriving DecidableEq, Repr

-- No name, or a blank one, means DNP3; blanks around a name do not count.
def Downstream.ofSetting (setting : Option String) : Downstream :=
  let name := Text.trim (setting.getD "")
  if name = "" then .serving .dnp3
  else
    match Protocol.ofName? name with
    | some protocol => .serving protocol
    | none => .unsupported name

inductive Device where
  | server (declaration : Declaration)
  | gateway (polled : List String) (downstream : Downstream)
  | client (polled : List String)
deriving DecidableEq, Repr

namespace Device

def role : Device → Role
  | .server _ => .server
  | .gateway _ _ => .gateway
  | .client _ => .client

def polled : Device → List String
  | .server _ => []
  | .gateway polled _ => polled
  | .client polled => polled

def collect (catalog : Catalog) (exposed : List RegisterSet) :
    Device → Except CompileError RegisterSet
  | .server declaration => declaration.registers catalog
  | .gateway _ _ => .ok (exposed.foldl RegisterSet.append {})
  | .client _ => .ok {}

def exposed (registers : RegisterSet) : Device → RegisterSet
  | .server _ => registers
  | .gateway _ (.serving protocol) => RegisterSet.extend {} protocol registers.flatten
  | .gateway _ (.unsupported _) => {}
  | .client _ => {}

def moduleOrder : Device → List Protocol
  | .server _ | .gateway _ _ => [.dnp3, .modbus]
  | .client _ => [.modbus, .dnp3]

end Device

structure Station where
  node : Node
  device : Device
  overrides : OverrideTable
deriving DecidableEq, Repr

namespace Station

def hostname (station : Station) : String := station.node.hostname

def role (station : Station) : Role := station.device.role

def ofNode (defaultInfrastructure : String) (node : Node) : Role → Except CompileError Station
  | .server => do
    let declaration ← Declaration.ofNode node defaultInfrastructure
    return ⟨node, .server declaration, ⟨declaration.overrides⟩⟩
  | .gateway =>
    .ok ⟨node, .gateway node.metadata.polledNames (.ofSetting node.metadata.downstream), {}⟩
  | .client => .ok ⟨node, .client node.metadata.polledNames, {}⟩

end Station

structure Network where
  stations : List Station := []
  distinct : (stations.map Station.hostname).Nodup := by simp
deriving DecidableEq, Repr

instance : Inhabited Network := ⟨{}⟩

namespace Network

structure Roster (taken : List String) where
  stations : List Station := []
  distinct : (stations.map Station.hostname).Nodup := by simp
  fresh : ∀ station ∈ stations, station.hostname ∉ taken := by simp

def Roster.add {taken : List String} (station : Station) (free : station.hostname ∉ taken)
    (others : Roster (station.hostname :: taken)) : Roster taken where
  stations := station :: others.stations
  distinct := by
    have apart : ∀ other ∈ others.stations, other.hostname ≠ station.hostname :=
      fun other member same => others.fresh other member (same ▸ List.mem_cons_self)
    simpa using ⟨apart, others.distinct⟩
  fresh := by
    intro other member
    rcases List.mem_cons.mp member with same | later
    · exact same ▸ free
    · exact fun known => others.fresh other later (List.mem_cons_of_mem _ known)

def rosterOf (defaultInfrastructure : String) :
    (taken : List String) → List Node → Except CompileError (Roster taken)
  | _, [] => .ok {}
  | taken, node :: rest =>
    match node.role? with
    | none => rosterOf defaultInfrastructure taken rest
    | some role =>
      match Station.ofNode defaultInfrastructure node role with
      | .error fault => .error fault
      | .ok station =>
        if free : station.hostname ∉ taken then
          (rosterOf defaultInfrastructure (station.hostname :: taken) rest).map (.add station free)
        else .error (.duplicateDevice node.hostname)

def ofTopology (topology : Topology) (defaultInfrastructure : String) :
    Except CompileError Network :=
  (rosterOf defaultInfrastructure [] topology.nodes).map fun roster =>
    ⟨roster.stations, roster.distinct⟩

def station? (network : Network) (hostname : String) : Option Station :=
  network.stations.find? (·.hostname == hostname)

def ofRole (network : Network) (role : Role) : List Station :=
  network.stations.filter (·.role = role)

def byRole (network : Network) : List Station := Role.all.flatMap network.ofRole

end Network
end FieldConfig
