import FieldConfig.Proofs.Compilation.Documents
import FieldConfig.Proofs.Federation.Registry

set_option autoImplicit false

-- What the document of a device depends on: its node, the registers and nodes of the devices that it
-- polls, and the node where its broker runs. The brokers met before make no difference.
namespace FieldConfig

theorem BrokerSettings.address_agrees (broker : BrokerSettings) (a b : Topology)
    (requester : String)
    (same : ∀ spec, broker.hostname = some spec → a.node? (place spec).1 = b.node? (place spec).1) :
    broker.address? a requester = broker.address? b requester := by
  rw [address?, address?]
  cases hostname : broker.hostname with
  | none => cases broker.address <;> rfl
  | some spec => simp only [same spec hostname]

namespace IoSection

def brokerHost? (settings : Settings) (node : Node) : Option String :=
  (broker? settings node).bind fun broker =>
    broker.hostname.map fun spec => (BrokerSettings.place spec).1

theorem of_server_bound (settings : Settings) (catalog : Catalog) (topology : Topology)
    (registry : BrokerRegistry) (node : Node) (declaration : Declaration) (first : FederateDevice)
    (rest : List FederateDevice) (broker : BrokerSettings)
    (federates : declaration.federateDevices settings = .ok (first :: rest))
    (found : broker? settings node = some broker) :
    (ofServer settings catalog topology registry node declaration).2 =
      (broker.address? topology node.hostname).bind fun address =>
        (points declaration catalog (first :: rest)).map fun points =>
          some (ofPoints node address points) := by
  rw [← registry.resolve_address topology broker node.hostname]
  simp only [ofServer, federates, found]
  rcases registry.resolve topology broker node.hostname with ⟨after, fault | address⟩ <;> rfl

theorem of_server_agrees (settings : Settings) (catalog : Catalog) (a b : Topology)
    (before later : BrokerRegistry) (node : Node) (declaration : Declaration)
    (same : declaration.allReferences ≠ [] →
      ∀ host, brokerHost? settings node = some host → a.node? host = b.node? host) :
    (ofServer settings catalog a before node declaration).2 =
      (ofServer settings catalog b later node declaration).2 := by
  cases federates : declaration.federateDevices settings with
  | error fault => simp only [ofServer, federates]
  | ok devices =>
      cases devices with
      | nil => simp only [ofServer, federates]
      | cons first rest =>
          cases found : broker? settings node with
          | none => simp only [ofServer, federates, found]
          | some broker =>
              have declares : declaration.allReferences ≠ [] := by
                intro none
                simp [Declaration.federateDevices, none, FederateDevice.addUnique] at federates
              have address := broker.address_agrees a b node.hostname fun spec hostname =>
                same declares _ (by simp [brokerHost?, found, hostname])
              rw [of_server_bound settings catalog a before node declaration first rest broker
                  federates found,
                of_server_bound settings catalog b later node declaration first rest broker
                  federates found, address]

end IoSection

namespace Plan

def device (plan : Plan) (station : Station) : Except CompileError CompiledDevice :=
  (plan.compileStation {} station).2

theorem compile_station_device (plan : Plan) (registry : BrokerRegistry) (station : Station) :
    (plan.compileStation registry station).2 =
      match plan.network.configure plan.resolution station (plan.blankDocument station.node) with
      | (_, .error fault) => .error fault
      | (document, .ok ()) =>
        (plan.ioSection registry station).2.map fun io =>
          { hostname := station.hostname
            role := station.role
            document := finish document io station.node
            certificates :=
              ((plan.settings.apiFor station.node.metadata.cpu).map (·.certificates)).getD [] } := by
  simp only [compileStation]
  rcases plan.network.configure plan.resolution station (plan.blankDocument station.node) with
    ⟨document, fault | done⟩
  · rfl
  · rcases plan.ioSection registry station with ⟨after, fault | io⟩ <;> rfl

-- Two plans that say the same of a station and of all that it asks for.
structure Agree (a b : Plan) (station : Station) : Prop where
  settings : a.settings = b.settings
  catalog : a.catalog = b.catalog
  registers : a.resolution.registers station.hostname = b.resolution.registers station.hostname
  targets : ∀ name ∈ station.device.polled, a.network.station? name = b.network.station? name ∧
    a.resolution.registers name = b.resolution.registers name
  brokers : ∀ declaration, station.device = .server declaration → declaration.allReferences ≠ [] →
    ∀ host, IoSection.brokerHost? a.settings station.node = some host →
      a.topology.node? host = b.topology.node? host

theorem agree_refl (plan : Plan) (station : Station) : plan.Agree plan station :=
  ⟨rfl, rfl, rfl, fun _ _ => ⟨rfl, rfl⟩, fun _ _ _ _ _ => rfl⟩

theorem sections_agree (a b : Plan) (station : Station) (agree : a.Agree b station) :
    a.network.sections a.resolution station = b.network.sections b.resolution station := by
  have polling : a.network.pollingSections a.resolution station =
      b.network.pollingSections b.resolution station := by
    refine List.flatMap_congr fun name polled => ?_
    obtain ⟨found, registers⟩ := agree.targets name polled
    simp only [Network.sectionsFor, found]
    cases target : b.network.station? name with
    | none => rfl
    | some target =>
        have named := (b.network.station_found name _ target).2
        simp only [Resolution.exposed, named, registers]
  have serving : Network.servingSections a.resolution station =
      Network.servingSections b.resolution station := by
    simp only [Network.servingSections, agree.registers]
  rw [Network.sections, Network.sections, polling, serving]

theorem io_agrees (a b : Plan) (station : Station) (agree : a.Agree b station)
    (before later : BrokerRegistry) :
    (a.ioSection before station).2 = (b.ioSection later station).2 := by
  cases kind : station.device with
  | server declaration =>
      simp only [ioSection, kind, ← agree.settings, ← agree.catalog]
      exact IoSection.of_server_agrees a.settings a.catalog a.topology b.topology before later
        station.node declaration (agree.brokers declaration kind)
  | gateway polled downstream => simp only [ioSection, kind]
  | client polled => simp only [ioSection, kind]

theorem devices_agree (a b : Plan) (station : Station) (agree : a.Agree b station)
    (before later : BrokerRegistry) :
    (a.compileStation before station).2 = (b.compileStation later station).2 := by
  have configured : a.network.configure a.resolution station (a.blankDocument station.node) =
      b.network.configure b.resolution station (b.blankDocument station.node) := by
    simp only [Network.configure, sections_agree a b station agree, blankDocument, agree.settings]
  rw [compile_station_device, compile_station_device, configured,
    io_agrees a b station agree before later, agree.settings]

theorem device_alone (plan : Plan) (registry : BrokerRegistry) (station : Station) :
    (plan.compileStation registry station).2 = plan.device station :=
  devices_agree plan plan station (plan.agree_refl station) registry {}

theorem device_compiled_facts (plan : Plan) (station : Station) (device : CompiledDevice)
    (compiled : plan.device station = .ok device) : plan.Compiled station device :=
  plan.station_compiled {} (plan.compileStation {} station).1 station device
    (Prod.ext rfl compiled)

theorem device_document (plan : Plan) (station : Station) (device : CompiledDevice)
    (compiled : plan.device station = .ok device) :
    ∃ io, (plan.ioSection {} station).2 = .ok io ∧
      device.document = finish
        ({ plan.blankDocument station.node with
          sections := device.document.sections }.startProtocols station.device.moduleOrder)
        io station.node := by
  have sections := (plan.device_compiled_facts station device compiled).sections
  obtain ⟨_, io, bound, built⟩ := plan.station_built {} (plan.compileStation {} station).1 station
    device (Prod.ext rfl compiled)
  refine ⟨io, congrArg Prod.snd bound, ?_⟩
  rw [sections]
  exact congrArg CompiledDevice.document built

theorem compiled_devices (plan : Plan) (registry : BrokerRegistry) (stations : List Station)
    (compilation : Compilation)
    (compiled : plan.compileStations registry stations = .ok compilation) :
    (∀ station ∈ stations, ∃ device, plan.device station = .ok device) ∧
      compilation.devices = stations.filterMap fun station => (plan.device station).toOption := by
  induction stations generalizing registry compilation with
  | nil =>
      cases compiled
      simp
  | cons station rest ih =>
      have alone := plan.device_alone registry station
      rw [compileStations] at compiled
      rcases first : plan.compileStation registry station with ⟨next, fault | device⟩
      · simp [first] at compiled
      · simp only [first] at compiled alone
        obtain ⟨others, later, rfl⟩ := map_ok _ _ compilation compiled
        obtain ⟨each, devices⟩ := ih next others later
        constructor
        · exact List.forall_mem_cons.mpr ⟨⟨device, alone.symm⟩, each⟩
        · rw [List.filterMap_cons_some (by rw [← alone]; rfl), ← devices]

theorem device_station (plan : Plan) (compilation : Compilation)
    (compiled : plan.compileStations {} plan.network.byRole = .ok compilation)
    (device : CompiledDevice) (member : device ∈ compilation.devices) :
    ∃ station ∈ plan.network.stations, plan.device station = .ok device := by
  rw [(plan.compiled_devices {} _ compilation compiled).2, List.mem_filterMap] at member
  obtain ⟨station, among, result⟩ := member
  exact ⟨station, (plan.network.member_by_role station).mp among, (toOption_some _ _).mp result⟩

theorem stations_compile (plan : Plan) (registry : BrokerRegistry) (stations : List Station)
    (each : ∀ station ∈ stations, ∃ device, plan.device station = .ok device) :
    ∃ compilation, plan.compileStations registry stations = .ok compilation := by
  induction stations generalizing registry with
  | nil => exact ⟨_, rfl⟩
  | cons station rest ih =>
      obtain ⟨⟨device, alone⟩, others⟩ := List.forall_mem_cons.mp each
      rw [← plan.device_alone registry station] at alone
      rcases first : plan.compileStation registry station with ⟨next, result⟩
      rw [first] at alone
      cases alone
      obtain ⟨compilation, later⟩ := ih next others
      exact ⟨_, by simp only [compileStations, first, later]; rfl⟩

theorem find_device (plan : Plan) (stations : List Station) (name : String)
    (each : ∀ station ∈ stations, ∃ device, plan.device station = .ok device) :
    (stations.filterMap fun station => (plan.device station).toOption).find?
        (·.hostname == name) =
      (stations.find? (·.hostname == name)).bind fun station => (plan.device station).toOption := by
  induction stations with
  | nil => rfl
  | cons station rest ih =>
      obtain ⟨⟨device, compiled⟩, others⟩ := List.forall_mem_cons.mp each
      have named := (plan.device_compiled_facts station device compiled).hostname
      have listed : (plan.device station).toOption = some device := by rw [compiled]; rfl
      simp only [List.filterMap_cons, listed]
      by_cases same : station.hostname = name
      · simp [same, named, listed]
      · rw [List.find?_cons_of_neg (by simpa [named] using same),
          List.find?_cons_of_neg (by simpa using same)]
        exact ih others

theorem device_found (plan : Plan) (compilation : Compilation)
    (compiled : plan.compileStations {} plan.network.byRole = .ok compilation) (name : String) :
    compilation.device? name =
      (plan.network.station? name).bind fun station => (plan.device station).toOption := by
  obtain ⟨each, devices⟩ := plan.compiled_devices {} _ compilation compiled
  rw [Compilation.device?, devices, plan.find_device _ name each, plan.network.by_role_station]

end Plan

theorem compiled_node (settings : Settings) (topology : Topology) (plan : Plan)
    (planned : settings.plan topology = .ok plan) (compilation : Compilation)
    (compiled : plan.compileStations {} plan.network.byRole = .ok compilation) (node : Node)
    (role : Role) (member : node ∈ topology.nodes) (known : node.role? = some role) :
    ∃ station ∈ plan.network.stations, ∃ device,
      Station.ofNode settings.infrastructure node role = .ok station ∧
        plan.device station = .ok device ∧ compilation.device? node.hostname = some device := by
  obtain ⟨built, _⟩ := plan_ok settings topology plan planned
  obtain ⟨station, among, made⟩ := Network.station_of_node topology settings.infrastructure
    plan.network built node role member known
  have named : station.hostname = node.hostname :=
    congrArg Node.hostname (Network.of_node_facts _ node role station made).1
  obtain ⟨device, result⟩ := (plan.compiled_devices {} _ compilation compiled).1 station
    ((plan.network.member_by_role station).mpr among)
  refine ⟨station, among, device, made, result, ?_⟩
  rw [← named, plan.device_found compilation compiled, plan.network.station_member station among,
    Option.bind_some, result]
  rfl

end FieldConfig
