import FieldConfig.Format
import FieldConfig.Network.Sections

set_option autoImplicit false

namespace FieldConfig

structure CompiledDevice where
  hostname : String
  role : Role
  document : Document
  certificates : List Certificate
deriving DecidableEq, Repr

structure Inject where
  hostname : String
  source : String
  destination : String
deriving DecidableEq, Repr

structure Compilation where
  devices : List CompiledDevice := []
  brokers : List BrokerHost := []
deriving DecidableEq, Repr, Inhabited

def joinPath (directory file : String) : String :=
  if file.toList.head? = some '/' || directory = "" then file
  else if directory.toList.getLast? = some '/' then directory ++ file
  else directory ++ "/" ++ file

namespace CompiledDevice

def fileName (device : CompiledDevice) (format : Format) : String :=
  device.hostname ++ "." ++ format.extension

def documentPath : String := "/etc/ot-sim/config.xml"

def injects (device : CompiledDevice) (directory : String) (format : Format) : List Inject :=
  ⟨device.hostname, joinPath directory (device.fileName format), documentPath⟩ ::
    device.certificates.map fun file => ⟨device.hostname, file.source, file.destination⟩

end CompiledDevice

namespace Compilation

def device? (compilation : Compilation) (hostname : String) : Option CompiledDevice :=
  compilation.devices.find? (·.hostname == hostname)

def injects (compilation : Compilation) (directory : String) (format : Format) : List Inject :=
  compilation.devices.flatMap (·.injects directory format)

end Compilation

structure Plan where
  settings : Settings
  topology : Topology
  catalog : Catalog
  network : Network
  resolution : Resolution

namespace Plan

def blankDocument (plan : Plan) (node : Node) : Document :=
  let settings := plan.settings
  let blank : Document :=
    { hostname := node.hostname
      messageBus := settings.busFor node.metadata.messageBus
      api := (settings.apiFor node.metadata.cpu).map (·.listener) }
  let logged :=
    match settings.logsFor node.metadata.logs with
    | some logs => blank.withLogs logs
    | none => blank
  match settings.groundTruthFor node.metadata.groundTruth with
  | some groundTruth => logged.withGroundTruth groundTruth
  | none => logged

def ioSection (plan : Plan) (registry : BrokerRegistry) (station : Station) :
    BrokerRegistry × Except CompileError (Option IoSection) :=
  match station.device with
  | .server declaration =>
    IoSection.ofServer plan.settings plan.catalog plan.topology registry station.node declaration
  | .gateway _ _ | .client _ => (registry, .ok none)

def finish (document : Document) (io : Option IoSection) (node : Node) : Document :=
  let document := (io.map document.withIo).getD document
  match node.metadata.logic.bind LogicSettings.section? with
  | some logic => document.withLogic logic
  | none => document

def compileStation (plan : Plan) (registry : BrokerRegistry) (station : Station) :
    BrokerRegistry × Except CompileError CompiledDevice :=
  let node := station.node
  match plan.network.configure plan.resolution station (plan.blankDocument node) with
  | (_, .error fault) => (registry, .error fault)
  | (document, .ok ()) =>
    match plan.ioSection registry station with
    | (registry, .error fault) => (registry, .error fault)
    | (registry, .ok io) =>
      (registry, .ok
        { hostname := node.hostname
          role := station.role
          document := finish document io node
          certificates := ((plan.settings.apiFor node.metadata.cpu).map (·.certificates)).getD [] })

def compileStations (plan : Plan) :
    BrokerRegistry → List Station → Except CompileError Compilation
  | registry, [] => .ok ⟨[], registry.hosts⟩
  | registry, station :: rest =>
    match plan.compileStation registry station with
    | (_, .error fault) => .error fault
    | (registry, .ok device) =>
      (plan.compileStations registry rest).map fun compilation =>
        { compilation with devices := device :: compilation.devices }

end Plan

def Settings.plan (settings : Settings) (topology : Topology) : Except CompileError Plan := do
  let network ← Network.ofTopology topology settings.infrastructure
  match network.resolveAll settings.catalog {} with
  | (_, .error fault) => throw fault
  | (resolution, .ok ()) => return ⟨settings, topology, settings.catalog, network, resolution⟩

def compile (settings : Settings) (topology : Topology) : Except CompileError Compilation := do
  let plan ← settings.plan topology
  plan.compileStations {} plan.network.byRole

end FieldConfig
