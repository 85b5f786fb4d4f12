import FieldConfig.Protocol
import FieldConfig.Decode.Fault

set_option autoImplicit false

/-!
What can be wrong with a configuration or a topology. Every error ends the work: nothing is mended
and nothing is left out.
-/
namespace FieldConfig

inductive NonEmpty where
  | infrastructure
  | infrastructureName
  | busEndpoint (key : String)
  | flatApiEndpoint
  | api (key : String)
  | logEndpoints
  | federate
deriving DecidableEq, Repr

inductive CompileError where
  | ungrammatical (file : Option String)
  | unreadable (file : Option String) (fault : Decode.Fault)
  | unopened (file : String) (reason : String)
  | empty (setting : NonEmpty)
  | unknownDevice (hostname : String)
  | duplicateDevice (hostname : String)
  | malformedInterface (node : String) (protocol : Protocol) (spec : String)
  | invalidSocket (node : String) (protocol : Protocol) (text : String)
  | noBroker (node : String)
  | unplacedBroker (node : String)
  | unknownDeviceType (node infrastructure deviceType : String)
  | unresolvedReference (node reference : String)
  | missingField (node : String) (protocol : Protocol) (index : Nat) (field : String)
  | unresolvedInterface (node interface : String)
  | missingAddress (node : String)
  | cycle (path : List String)
  | conflict (node device : String)
  | exhausted (node : String) (protocol : Protocol) (area : String) (address : Nat)
deriving DecidableEq, Repr

def NonEmpty.message : NonEmpty → String
  | .infrastructure => "infrastructure cannot be empty"
  | .infrastructureName => "infrastructures: infrastructure name cannot be empty"
  | .busEndpoint key => "message-bus." ++ key ++ " cannot be empty"
  | .flatApiEndpoint => "cpu-module.api-endpoint cannot be empty (use null to disable)"
  | .api key => "cpu-module.api." ++ key ++ " cannot be empty"
  | .logEndpoints => "logs: endpoints cannot be empty"
  | .federate => "helics.federate cannot be empty"

namespace CompileError

def atNode (node : String) (problem : String) : String := "Node '" ++ node ++ "': " ++ problem

def parsing (file : Option String) (problem : String) : String :=
  match file with
  | none => "Configuration error: Failed to parse config: " ++ problem
  | some path => "Configuration error: Failed to parse config file '" ++ path ++ "': " ++ problem

def message : CompileError → String
  | .ungrammatical file => parsing file "syntax"
  | .unreadable file fault => parsing file fault.message
  | .unopened file reason =>
    "Configuration error: Failed to read config file '" ++ file ++ "': " ++ reason
  | .empty setting => "Configuration error: " ++ setting.message
  | .unknownDevice hostname => "Configuration error: Unknown device '" ++ hostname ++ "'"
  | .duplicateDevice hostname =>
    "Configuration error: Duplicate device hostname '" ++ hostname ++ "'"
  | .malformedInterface node protocol spec =>
    "Configuration error: " ++
      atNode node ("malformed " ++ protocol.name ++ " interface '" ++ spec ++ "'")
  | .invalidSocket node protocol text =>
    "Configuration error: " ++
      atNode node ("invalid " ++ protocol.name ++ " port '" ++ text ++ "'")
  | .noBroker node => "Configuration error: " ++ atNode node "no HELICS broker configured"
  | .unplacedBroker node =>
    "Configuration error: " ++ atNode node "HELICS broker needs a hostname or an address"
  | .unknownDeviceType node infrastructure deviceType =>
    atNode node ("unknown device type '" ++ deviceType ++ "' for infrastructure '" ++
      infrastructure ++ "'")
  | .unresolvedReference node reference =>
    atNode node ("unresolved upstream reference '" ++ reference ++ "'")
  | .missingField node protocol index field =>
    atNode node (protocol.name ++ " device #" ++ toString index ++
      " is missing required field '" ++ field ++ "'")
  | .unresolvedInterface node interface =>
    atNode node ("no interface named '" ++ interface ++ "' with an address")
  | .missingAddress node => atNode node "missing required IP address"
  | .cycle path => "Upstream cycle detected: " ++ " -> ".intercalate path
  | .conflict node device =>
    atNode node ("device '" ++ device ++ "' declared with conflicting entries")
  | .exhausted node protocol area address =>
    atNode node (protocol.name ++ " " ++ area ++ " address space exhausted at " ++
      toString address)

end CompileError
end FieldConfig
