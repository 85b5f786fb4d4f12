import FieldConfig.IoSection
import FieldConfig.Network.Resolution
import FieldConfig.Proofs.Network.Building

set_option autoImplicit false

-- Topologies, networks and stations without the manual numbers of one server. A number is part of
-- no decision about the network: taking it away before the network is built or after is the same.
namespace FieldConfig

def DeviceEntry.unnumbered (entry : DeviceEntry) : DeviceEntry :=
  { entry with analogRead := [], analogReadWrite := [], binaryRead := [], binaryReadWrite := [] }

def ProtocolSettings.unnumbered (settings : ProtocolSettings) : ProtocolSettings :=
  { settings with devices := settings.devices.map DeviceEntry.unnumbered }

def Metadata.unnumbered (metadata : Metadata) : Metadata :=
  { metadata with
    dnp3 := metadata.dnp3.map ProtocolSettings.unnumbered
    modbus := metadata.modbus.map ProtocolSettings.unnumbered }

def Node.unnumbered (node : Node) : Node := { node with metadata := node.metadata.unnumbered }

def Node.withoutNumbers (server : String) (node : Node) : Node :=
  if node.hostname = server then node.unnumbered else node

def Topology.withoutNumbers (topology : Topology) (server : String) : Topology where
  nodes := topology.nodes.map (Node.withoutNumbers server)

def DeviceReference.unnumbered (reference : DeviceReference) : DeviceReference :=
  { reference with overrides := [] }

def Declaration.unnumbered (declaration : Declaration) : Declaration :=
  { declaration with
    protocols := declaration.protocols.map fun group =>
      (group.1, group.2.map DeviceReference.unnumbered) }

def Device.unnumbered : Device → Device
  | .server declaration => .server declaration.unnumbered
  | .gateway polled downstream => .gateway polled downstream
  | .client polled => .client polled

def Station.unnumbered (station : Station) : Station where
  node := station.node.unnumbered
  device := station.device.unnumbered
  overrides :=
    match station.device with
    | .server _ => {}
    | .gateway _ _ | .client _ => station.overrides

def Station.withoutNumbers (server : String) (station : Station) : Station :=
  if station.hostname = server then station.unnumbered else station

theorem Node.read_without {α : Type} (read : Node → α)
    (blind : ∀ node : Node, read node.unnumbered = read node) (server : String) (node : Node) :
    read (node.withoutNumbers server) = read node := by
  rw [withoutNumbers]
  split
  · exact blind node
  · rfl

theorem Station.read_without {α : Type} (read : Station → α)
    (blind : ∀ station : Station, read station.unnumbered = read station) (server : String)
    (station : Station) : read (station.withoutNumbers server) = read station := by
  rw [withoutNumbers]
  split
  · exact blind station
  · rfl

@[simp] theorem Node.hostname_without (server : String) (node : Node) :
    (node.withoutNumbers server).hostname = node.hostname :=
  read_without hostname (fun _ => rfl) server node

theorem Node.first_address_without (server : String) (node : Node) :
    (node.withoutNumbers server).firstAddress? = node.firstAddress? :=
  read_without firstAddress? (fun _ => rfl) server node

theorem Node.interface_address_without (server interface : String) (node : Node) :
    (node.withoutNumbers server).interfaceAddress? interface = node.interfaceAddress? interface :=
  read_without (·.interfaceAddress? interface) (fun _ => rfl) server node

theorem Topology.node_without (topology : Topology) (server hostname : String) :
    (topology.withoutNumbers server).node? hostname =
      (topology.node? hostname).map (Node.withoutNumbers server) := by
  rw [node?, withoutNumbers, List.find?_map, node?]
  simp only [Function.comp_def, Node.hostname_without]

theorem Metadata.unnumbered_protocol (metadata : Metadata) (protocol : Protocol) :
    metadata.unnumbered.protocol protocol =
      (metadata.protocol protocol).map ProtocolSettings.unnumbered := by
  cases protocol <;> rfl

theorem Endpoint.of_unnumbered (protocol : Protocol) (node : Node) :
    ofNode node.unnumbered protocol = ofNode node protocol := by
  have interface : (node.unnumbered.metadata.protocol protocol).bind (·.interface) =
      (node.metadata.protocol protocol).bind (·.interface) := by
    rw [Node.unnumbered, Metadata.unnumbered_protocol, Option.bind_map]
    rfl
  rw [ofNode, interface]
  rfl

namespace Declaration

theorem reference_unnumbered (node : String) (protocol : Protocol) (index : Nat)
    (entry : DeviceEntry) :
    reference node protocol index entry.unnumbered =
      (reference node protocol index entry).map DeviceReference.unnumbered := by
  obtain ⟨name, deviceType, endpoint, _⟩ := entry
  cases name <;> cases deviceType <;> rfl

theorem references_unnumbered (node : String) (protocol : Protocol) (index : Nat)
    (entries : List DeviceEntry) :
    references node protocol index (entries.map DeviceEntry.unnumbered) =
      (references node protocol index entries).map (List.map DeviceReference.unnumbered) := by
  induction entries generalizing index with
  | nil => rfl
  | cons entry rest ih =>
      rw [List.map_cons, references, references, reference_unnumbered, ih (index + 1)]
      cases reference node protocol index entry with
      | error fault => rfl
      | ok first => cases references node protocol (index + 1) rest <;> rfl

theorem protocols_unnumbered (node : Node) (protocols : List Protocol) :
    ofProtocols node.unnumbered protocols =
      (ofProtocols node protocols).map (List.map fun group =>
        (group.1, group.2.map DeviceReference.unnumbered)) := by
  induction protocols with
  | nil => rfl
  | cons protocol rest ih =>
      rw [ofProtocols, ofProtocols, ih, Node.unnumbered, Metadata.unnumbered_protocol]
      cases node.metadata.protocol protocol with
      | none => rfl
      | some settings =>
          simp only [Option.map_some, ProtocolSettings.unnumbered, references_unnumbered]
          cases references node.hostname protocol 0 settings.devices with
          | error fault => rfl
          | ok listed => cases ofProtocols node rest <;> rfl

theorem of_unnumbered (node : Node) (defaultInfrastructure : String) :
    ofNode node.unnumbered defaultInfrastructure =
      (ofNode node defaultInfrastructure).map Declaration.unnumbered := by
  rw [ofNode, ofNode, protocols_unnumbered]
  cases ofProtocols node Protocol.all <;> rfl

theorem group_unnumbered (declaration : Declaration) (catalog : Catalog) (protocol : Protocol)
    (references : List DeviceReference) :
    declaration.unnumbered.groupRegisters catalog protocol
        (references.map DeviceReference.unnumbered) =
      declaration.groupRegisters catalog protocol references := by
  induction references with
  | nil => rfl
  | cons reference rest ih =>
      rw [List.map_cons, groupRegisters, groupRegisters, ih]
      rfl

theorem extend_unnumbered (declaration : Declaration) (catalog : Catalog) (set : RegisterSet)
    (groups : List (Protocol × List DeviceReference)) :
    declaration.unnumbered.extendRegisters catalog set
        (groups.map fun group => (group.1, group.2.map DeviceReference.unnumbered)) =
      declaration.extendRegisters catalog set groups := by
  induction groups generalizing set with
  | nil => rfl
  | cons group rest ih =>
      simp only [List.map_cons, extendRegisters, group_unnumbered, ih]

theorem registers_unnumbered (declaration : Declaration) (catalog : Catalog) :
    declaration.unnumbered.registers catalog = declaration.registers catalog :=
  declaration.extend_unnumbered catalog {} declaration.protocols

theorem overrides_unnumbered (declaration : Declaration) : declaration.unnumbered.overrides = [] := by
  simp [overrides, unnumbered, DeviceReference.unnumbered, List.flatMap_map]

theorem federates_unnumbered (declaration : Declaration) (settings : Settings) :
    declaration.unnumbered.federateDevices settings = declaration.federateDevices settings := by
  have same : declaration.unnumbered.allReferences.map (FederateDevice.ofReference settings) =
      declaration.allReferences.map (FederateDevice.ofReference settings) := by
    simp only [allReferences, unnumbered, List.flatMap_map, List.map_flatMap, List.map_map]
    rfl
  rw [federateDevices, same]
  rfl

end Declaration

theorem IoSection.points_unnumbered (declaration : Declaration) (catalog : Catalog)
    (devices : List FederateDevice) :
    points declaration.unnumbered catalog devices = points declaration catalog devices := by
  induction devices with
  | nil => rfl
  | cons device rest ih =>
      rw [points, points, ih]
      rfl

namespace Device

theorem role_unnumbered (device : Device) : device.unnumbered.role = device.role := by
  cases device <;> rfl

theorem polled_unnumbered (device : Device) : device.unnumbered.polled = device.polled := by
  cases device <;> rfl

theorem order_unnumbered (device : Device) : device.unnumbered.moduleOrder = device.moduleOrder := by
  cases device <;> rfl

theorem exposed_unnumbered (device : Device) (registers : RegisterSet) :
    device.unnumbered.exposed registers = device.exposed registers := by
  cases device with
  | server declaration => rfl
  | gateway polled downstream => rfl
  | client polled => rfl

theorem collect_unnumbered (device : Device) (catalog : Catalog) (exposed : List RegisterSet) :
    device.unnumbered.collect catalog exposed = device.collect catalog exposed := by
  cases device with
  | server declaration => exact declaration.registers_unnumbered catalog
  | gateway polled downstream => rfl
  | client polled => rfl

end Device

namespace Station

variable (server : String) (station : Station)

@[simp] theorem hostname_without : (station.withoutNumbers server).hostname = station.hostname :=
  read_without hostname (fun _ => rfl) server station

@[simp] theorem role_without : (station.withoutNumbers server).role = station.role :=
  read_without role (fun station => station.device.role_unnumbered) server station

@[simp] theorem polled_without :
    (station.withoutNumbers server).device.polled = station.device.polled :=
  read_without (·.device.polled) (fun station => station.device.polled_unnumbered) server station

@[simp] theorem exposed_without (resolution : Resolution) :
    resolution.exposed (station.withoutNumbers server) = resolution.exposed station :=
  read_without resolution.exposed (fun station => station.device.exposed_unnumbered _) server station

@[simp] theorem collect_without (catalog : Catalog) (exposed : List RegisterSet) :
    (station.withoutNumbers server).device.collect catalog exposed =
      station.device.collect catalog exposed :=
  read_without (·.device.collect catalog exposed)
    (fun station => station.device.collect_unnumbered catalog exposed) server station

theorem of_unnumbered (defaultInfrastructure : String) (node : Node) (role : Role) :
    ofNode defaultInfrastructure node.unnumbered role =
      (ofNode defaultInfrastructure node role).map unnumbered := by
  cases role with
  | server =>
      rw [ofNode, ofNode, Declaration.of_unnumbered]
      cases Declaration.ofNode node defaultInfrastructure with
      | error fault => rfl
      | ok declaration =>
          simp only [Except.map, bind, Except.bind, pure, Except.pure, unnumbered,
            Device.unnumbered, declaration.overrides_unnumbered]
  | gateway => rfl
  | client => rfl

end Station

namespace Network

variable (network : Network) (server : String)

theorem standing_unnumbered (defaultInfrastructure : String) (node : Node) :
    standing? defaultInfrastructure node.unnumbered =
      (standing? defaultInfrastructure node).map Station.unnumbered := by
  have role : node.unnumbered.role? = node.role? := rfl
  simp only [standing?, Station.of_unnumbered, map_toOption, Option.map_bind, role]
  rfl

theorem standing_without (defaultInfrastructure : String) (node : Node) :
    standing? defaultInfrastructure (node.withoutNumbers server) =
      (standing? defaultInfrastructure node).map (Station.withoutNumbers server) := by
  -- The station has the name of its node, so both ask the same question.
  have asked : (standing? defaultInfrastructure node).map (Station.withoutNumbers server) =
      (standing? defaultInfrastructure node).map
        (if node.hostname = server then Station.unnumbered else id) := by
    refine Option.map_congr fun station found => ?_
    obtain ⟨role, _, made⟩ := (standing_iff defaultInfrastructure node station).mp found
    have named : station.hostname = node.hostname :=
      congrArg Node.hostname (of_node_facts _ node role station made).1
    rw [Station.withoutNumbers, named]
    split <;> rfl
  rw [asked, Node.withoutNumbers]
  split
  · exact standing_unnumbered defaultInfrastructure node
  · rw [Option.map_id, id]

def withoutNumbers : Network where
  stations := network.stations.map (Station.withoutNumbers server)
  distinct := by
    rw [List.map_map]
    simpa [Function.comp_def] using network.distinct

theorem built_without (defaultInfrastructure : String) (topology : Topology)
    (built : ofTopology topology defaultInfrastructure = .ok network) :
    (network.withoutNumbers server).stations =
      standing defaultInfrastructure (topology.withoutNumbers server).nodes := by
  have stations := (built_standing defaultInfrastructure topology network built).1
  simp only [withoutNumbers, stations, standing, Topology.withoutNumbers, List.filterMap_map,
    List.map_filterMap]
  exact List.filterMap_congr fun node _ =>
    (standing_without server defaultInfrastructure node).symm

theorem built_alike (defaultInfrastructure : String) (first second : Topology)
    (alike : first.withoutNumbers server = second.withoutNumbers server) (a b : Network)
    (builtA : ofTopology first defaultInfrastructure = .ok a)
    (builtB : ofTopology second defaultInfrastructure = .ok b) :
    a.withoutNumbers server = b.withoutNumbers server := by
  have stations : (a.withoutNumbers server).stations = (b.withoutNumbers server).stations := by
    rw [a.built_without server _ first builtA, b.built_without server _ second builtB, alike]
  generalize a.withoutNumbers server = own at stations
  generalize b.withoutNumbers server = other at stations
  obtain ⟨ownStations, _⟩ := own
  obtain ⟨otherStations, _⟩ := other
  cases stations
  rfl

@[simp] theorem station_without (name : String) :
    (network.withoutNumbers server).station? name =
      (network.station? name).map (Station.withoutNumbers server) := by
  rw [station?, station?, withoutNumbers, List.find?_map]
  simp only [Function.comp_def, Station.hostname_without]

@[simp] theorem by_role_without :
    (network.withoutNumbers server).byRole =
      network.byRole.map (Station.withoutNumbers server) := by
  rw [byRole, byRole, List.map_flatMap]
  refine List.flatMap_congr fun role _ => ?_
  simp only [ofRole, withoutNumbers, List.filter_map, Function.comp_def, Station.role_without]

theorem gather_without (asker : String)
    (visit without : Station → Resolution → Resolution × Except CompileError Unit)
    (blind : ∀ station resolution,
      without (station.withoutNumbers server) resolution = visit station resolution)
    (names : List String) (resolution : Resolution) :
    (network.withoutNumbers server).gather asker without names resolution =
      network.gather asker visit names resolution := by
  induction names generalizing resolution with
  | nil => rfl
  | cons name rest ih =>
      rw [gather, gather, station_without]
      cases network.station? name with
      | none => rfl
      | some target => simp only [Option.map_some, blind, Station.exposed_without, ih]

theorem conclude_without (catalog : Catalog) (station : Station)
    (gathered : Resolution × Except CompileError (List RegisterSet)) :
    conclude catalog (station.withoutNumbers server) gathered =
      conclude catalog station gathered := by
  obtain ⟨resolution, fault | exposed⟩ := gathered
  · rfl
  · simp only [conclude, Station.collect_without, Station.hostname_without]

theorem visit_without (catalog : Catalog) (depth : Nat) (path : List String) (station : Station)
    (resolution : Resolution) :
    (network.withoutNumbers server).visit catalog depth path (station.withoutNumbers server)
        resolution =
      network.visit catalog depth path station resolution := by
  induction depth generalizing path station resolution with
  | zero => simp only [visit, Station.hostname_without]
  | succ depth ih =>
      simp only [visit, Station.hostname_without, Station.polled_without, conclude_without,
        network.gather_without server _ _ _ (ih (path ++ [station.hostname]))]

theorem resolve_each_without (catalog : Catalog) (stations : List Station)
    (resolution : Resolution) :
    (network.withoutNumbers server).resolveEach catalog
        (stations.map (Station.withoutNumbers server)) resolution =
      network.resolveEach catalog stations resolution := by
  have count : (network.withoutNumbers server).stations.length = network.stations.length :=
    List.length_map _
  induction stations generalizing resolution with
  | nil => rfl
  | cons station rest ih =>
      simp only [List.map_cons, resolveEach, resolveStation, count, visit_without, ih]

theorem resolve_all_without (catalog : Catalog) (resolution : Resolution) :
    (network.withoutNumbers server).resolveAll catalog resolution =
      network.resolveAll catalog resolution := by
  rw [resolveAll, by_role_without, resolve_each_without, resolveAll]

end Network
end FieldConfig
