import FieldConfig.Text.Split
import FieldConfig.Topology

set_option autoImplicit false

/-!
Brokers of the co-simulation. A broker on a node of the topology that the experiment provisions is
tracked, with the number of federates that will connect to it.
-/
namespace FieldConfig

structure BrokerHost where
  hostname : String
  endpoint : String
  federates : UInt32
  dynamic : Bool
  logLevel : String
  logFile : String
deriving DecidableEq, Repr

namespace BrokerSettings

def place (spec : String) : String × Option String :=
  match Text.cut? '|' spec.toList with
  | some (host, interface) => (String.ofList host, some (String.ofList interface))
  | none => (spec, none)

def address? (broker : BrokerSettings) (topology : Topology) (requester : String) :
    Except CompileError String :=
  match broker.hostname, broker.address with
  | none, some address => .ok address
  | none, none => .error (.unplacedBroker requester)
  | some spec, _ =>
    let (hostname, interface) := place spec
    match topology.node? hostname with
    | none => .error (.unresolvedReference requester hostname)
    | some node =>
      match interface with
      | some interface =>
        match node.interfaceAddress? interface with
        | some address => .ok address
        | none => .error (.unresolvedInterface hostname interface)
      | none =>
        match node.firstAddress? with
        | some address => .ok address
        | none => .error (.missingAddress hostname)

def trackedHost? (broker : BrokerSettings) : Option String :=
  if broker.baseFederates.isSome || broker.dynamic.isSome then
    broker.hostname.map fun spec => (place spec).1
  else none

def firstEntry (broker : BrokerSettings) (hostname address : String) : BrokerHost :=
  { hostname
    endpoint := address
    federates := broker.baseFederates.getD 0
    dynamic := broker.dynamic.getD false
    logLevel := broker.logLevel.getD "SUMMARY"
    logFile := broker.logFile.getD "/var/log/helics-broker.log" }

end BrokerSettings

structure BrokerRegistry where
  hosts : List BrokerHost := []
deriving DecidableEq, Repr, Inhabited

namespace BrokerRegistry

-- The count has 32 bits and starts again at 0; a build that checks for overflow stops there.
def count (hostname : String) (fresh : BrokerHost) :
    List BrokerHost → List BrokerHost
  | [] => [{ fresh with federates := fresh.federates + 1 }]
  | known :: rest =>
    if known.hostname = hostname then { known with federates := known.federates + 1 } :: rest
    else known :: count hostname fresh rest

def resolve (registry : BrokerRegistry) (topology : Topology) (broker : BrokerSettings)
    (requester : String) : BrokerRegistry × Except CompileError String :=
  match broker.address? topology requester with
  | .error fault => (registry, .error fault)
  | .ok address =>
    match broker.trackedHost? with
    | none => (registry, .ok address)
    | some hostname =>
      (⟨count hostname (broker.firstEntry hostname address) registry.hosts⟩, .ok address)

end BrokerRegistry
end FieldConfig
