import FieldConfig.Logic
import FieldConfig.Settings

set_option autoImplicit false

namespace FieldConfig

structure Interface where
  name : String
  address : Option String := none
  vlan : Option String := none
  kind : Option String := none
deriving DecidableEq, Repr

structure ManualNumber where
  field : String
  number : UInt32
  kind : RegisterKind
deriving DecidableEq, Repr

structure DeviceEntry where
  name : Option String := none
  deviceType : Option String := none
  endpoint : Option EndpointSetting := none
  analogRead : List ManualNumber := []
  analogReadWrite : List ManualNumber := []
  binaryRead : List ManualNumber := []
  binaryReadWrite : List ManualNumber := []
deriving DecidableEq, Repr

def DeviceEntry.manual (entry : DeviceEntry) : PointClass → List ManualNumber
  | .analogRead => entry.analogRead
  | .analogReadWrite => entry.analogReadWrite
  | .binaryRead => entry.binaryRead
  | .binaryReadWrite => entry.binaryReadWrite

structure ProtocolSettings where
  devices : List DeviceEntry := []
  interface : Option String := none
deriving DecidableEq, Repr

structure Metadata where
  infrastructure : Option String := none
  dnp3 : Option ProtocolSettings := none
  modbus : Option ProtocolSettings := none
  polled : Option (List String) := none
  connectedRtus : Option (List String) := none
  downstream : Option String := none
  logic : Option LogicSettings := none
  helics : Option HelicsSettings := none
  messageBus : Option BusSettings := none
  cpu : Option CpuSettings := none
  logs : Option LogsSettings := none
  groundTruth : Switch GroundTruthSettings := .unset
deriving DecidableEq, Repr

namespace Metadata

def protocol (metadata : Metadata) : Protocol → Option ProtocolSettings
  | .dnp3 => metadata.dnp3
  | .modbus => metadata.modbus

-- The names of the devices that the node polls; the older key counts only without the newer.
def polledNames (metadata : Metadata) : List String :=
  (metadata.polled.or metadata.connectedRtus).getD []

end Metadata

inductive Role where
  | server
  | gateway
  | client
deriving DecidableEq, Repr, Inhabited

namespace Role

def all : List Role := [.server, .gateway, .client]

def name : Role → String
  | .server => "fd-server"
  | .gateway => "fep"
  | .client => "fd-client"

def ofName? (text : String) : Option Role := all.find? (·.name == text)

end Role

structure Node where
  hostname : String
  nodeType : String
  metadata : Metadata := {}
  interfaces : List Interface := []
deriving DecidableEq, Repr

namespace Node

def role? (node : Node) : Option Role := Role.ofName? node.nodeType

def interfaceAddress? (node : Node) (name : String) : Option String :=
  (node.interfaces.find? (·.name == name)).bind (·.address)

def firstAddress? (node : Node) : Option String := node.interfaces.head?.bind (·.address)

end Node

structure Topology where
  nodes : List Node := []
deriving DecidableEq, Repr

def Topology.node? (topology : Topology) (hostname : String) : Option Node :=
  topology.nodes.find? (·.hostname == hostname)

end FieldConfig
