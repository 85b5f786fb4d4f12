import FieldConfig.Proofs.Allocation.Dnp3
import FieldConfig.Proofs.Allocation.Modbus
import FieldConfig.Proofs.Compilation.Documents
import FieldConfig.Proofs.Federation.Conflicts
import FieldConfig.Proofs.Federation.Registry
import FieldConfig.Proofs.Resolution.Gathering

set_option autoImplicit false

-- What can still be wrong once all devices are resolved. Names of polled devices and types of declared
-- ones are looked up again, in the same network and the same catalog, and are found.
namespace FieldConfig

-- Faults of the devices themselves: what they declare, what they poll, and the names they go by.
def CompileError.ofNetwork : CompileError → Bool
  | .duplicateDevice _ | .unknownDevice _ | .missingField _ _ _ _ | .unknownDeviceType _ _ _
  | .unresolvedReference _ _ | .cycle _ => true
  | _ => false

abbrev Unrelated {α : Type} (result : Except CompileError α) : Prop :=
  FailsOnly (fun fault => fault.ofNetwork = false) result

namespace Endpoint

theorem host_unrelated (node : Node) (name : List Char) : Unrelated (hostAddress node name) := by
  rw [hostAddress]
  cases Net.Address.parse? name with
  | some address => exact fails_ok _ _
  | none =>
      cases node.interfaceAddress? (String.ofList name) with
      | some address => exact fails_ok _ _
      | none => exact fails_error _ _ rfl

theorem resolve_unrelated (node : Node) (protocol : Protocol) (spec : Option String) :
    Unrelated (resolve node protocol spec) := by
  cases spec with
  | none =>
      rw [resolve]
      cases node.firstAddress? with
      | some address => exact fails_ok _ _
      | none => exact fails_error _ _ rfl
  | some spec =>
      rw [resolve]
      rcases split? spec.toList with _ | ⟨name, _ | text⟩
      · exact fails_error _ _ rfl
      · exact fails_map _ _ _ (host_unrelated node name)
      · simp only
        cases socket? text with
        | none => exact fails_error _ _ rfl
        | some socket => exact fails_map _ _ _ (host_unrelated node name)

end Endpoint

namespace Allocation

theorem modbus_unrelated (node : String) (mode : Mode) (overrides : OverrideTable)
    (registers : List Register) :
    Unrelated (modbusEntries node mode overrides .start registers) := by
  rw [modbus_entries_steps, modbus_steps_numbered]
  refine in_turn_fails _ _ (Numbering.steps_fail _ overrides _ (fun register address => ?_) _ registers)
  simp only [modbusNumbering]
  split
  · exact fails_ok _ _
  · exact fails_error _ _ rfl

theorem dnp3_unrelated (node : String) (overrides : OverrideTable) (registers : List Register) :
    Unrelated (dnp3Entries node overrides .start registers) := by
  rw [dnp3_entries_steps, dnp3_steps_numbered]
  refine fails_map _ _ _ (in_turn_fails _ _
    (Numbering.steps_fail _ overrides _ (fun register address => ?_) _ registers))
  simp only [dnp3Numbering]
  split
  · exact fails_ok _ _
  · exact fails_error _ _ rfl

end Allocation

theorem Encoding.encode_unrelated (encoding : Encoding) (protocol : Protocol)
    (registers : List Register) : Unrelated (encoding.encode protocol registers) := by
  refine fails_map _ _ _ ?_
  cases protocol with
  | modbus => exact fails_map _ _ _ (Allocation.modbus_unrelated _ _ _ registers)
  | dnp3 => exact fails_map _ _ _ (Allocation.dnp3_unrelated _ _ registers)

theorem Document.add_sections_unrelated (document : Document)
    (results : List (Except CompileError Section)) (each : ∀ result ∈ results, Unrelated result) :
    Unrelated (document.addSections results).2 := by
  induction results generalizing document with
  | nil => exact fails_ok _ _
  | cons result rest ih =>
      obtain ⟨here, later⟩ := List.forall_mem_cons.mp each
      cases result with
      | error fault => exact fails_error _ _ (here fault rfl)
      | ok s => exact ih (document.addSection s) later

namespace Network

theorem serving_unrelated (resolution : Resolution) (station : Station) :
    ∀ result ∈ servingSections resolution station, Unrelated result := by
  have one (group : Protocol × List Register) : Unrelated (servingSection station group) :=
    fails_bind _ _ _ (Endpoint.resolve_unrelated station.node group.1 _) fun endpoint =>
      Encoding.encode_unrelated _ group.1 group.2
  intro result member
  rw [servingSections] at member
  cases kind : station.device with
  | server declaration =>
      simp only [kind, List.mem_map] at member
      obtain ⟨group, _, rfl⟩ := member
      exact one group
  | gateway polled downstream =>
      cases downstream with
      | serving protocol =>
          simp only [kind, List.mem_singleton] at member
          exact member ▸ one _
      | unsupported name => simp [kind] at member
  | client polled => simp [kind] at member

theorem polling_unrelated (network : Network) (resolution : Resolution) (station : Station)
    (known : ∀ name ∈ station.device.polled, (network.station? name).isSome) :
    ∀ result ∈ network.pollingSections resolution station, Unrelated result := by
  intro result member
  obtain ⟨name, polled, among⟩ := List.mem_flatMap.mp member
  obtain ⟨target, found⟩ := Option.isSome_iff_exists.mp (known name polled)
  rw [sectionsFor, found] at among
  obtain ⟨group, _, rfl⟩ := List.mem_map.mp among
  exact fails_bind _ _ _ (Endpoint.resolve_unrelated target.node group.1 _) fun endpoint =>
    Encoding.encode_unrelated _ group.1 group.2

theorem configure_unrelated (network : Network) (resolution : Resolution) (station : Station)
    (known : ∀ name ∈ station.device.polled, (network.station? name).isSome) (document : Document) :
    Unrelated (network.configure resolution station document).2 := by
  have each : ∀ result ∈ network.sections resolution station, Unrelated result := by
    intro result member
    rcases List.mem_append.mp member with polling | serving
    · exact network.polling_unrelated resolution station known result polling
    · exact serving_unrelated resolution station result serving
  have added := document.add_sections_unrelated _ each
  rw [configure]
  rcases filled : document.addSections (network.sections resolution station) with ⟨full, fault | done⟩
  · rw [filled] at added
    exact fails_error _ _ (added fault rfl)
  · exact fails_ok _ _

theorem configure_named (network : Network) (resolution : Resolution) (station : Station)
    (member : station ∈ network.stations) (document : Document) :
    network.configureDevice resolution station.hostname document =
      network.configure resolution station document := by
  rw [configureDevice, network.station_member station member]

theorem resolved_polled (network : Network) (catalog : Catalog) (resolution : Resolution)
    (finished : network.resolveAll catalog {} = (resolution, .ok ())) (station : Station)
    (member : station ∈ network.stations) :
    ∀ name ∈ station.device.polled, (network.station? name).isSome := by
  obtain ⟨consistent, resolved⟩ := network.all_resolved catalog resolution finished
  intro name polled
  obtain ⟨settled, _⟩ := consistent.earlier station member (resolved station member) name polled
  exact consistent.known name (by simp [settled])

theorem means_typed (network : Network) (catalog : Catalog) (hostname : String)
    (registers : RegisterSet) (means : network.Means catalog hostname registers) (station : Station)
    (found : network.station? hostname = some station) (declaration : Declaration)
    (kind : station.device = .server declaration) : declaration.Typed catalog := by
  cases means with
  | server _ other own foundOther kindOther typed =>
      cases foundOther.symm.trans found
      cases kindOther.symm.trans kind
      exact typed
  | gateway _ other polled downstream inputs foundOther kindOther known means =>
      cases foundOther.symm.trans found
      cases kindOther.symm.trans kind
  | client _ other polled foundOther kindOther =>
      cases foundOther.symm.trans found
      cases kindOther.symm.trans kind

theorem resolved_typed (network : Network) (catalog : Catalog) (resolution : Resolution)
    (finished : network.resolveAll catalog {} = (resolution, .ok ())) (station : Station)
    (member : station ∈ network.stations) (declaration : Declaration)
    (kind : station.device = .server declaration) : declaration.Typed catalog := by
  obtain ⟨consistent, resolved⟩ := network.all_resolved catalog resolution finished
  exact network.means_typed catalog _ _ (consistent.meaning station member (resolved station member))
    station (network.station_member station member) declaration kind

end Network

theorem Declaration.typed_points (declaration : Declaration) (catalog : Catalog)
    (typed : declaration.Typed catalog) (settings : Settings) (devices : List FederateDevice)
    (federates : declaration.federateDevices settings = .ok devices) :
    IoSection.points declaration catalog devices =
      .ok (devices.flatMap (declaration.pointsOf catalog)) := by
  refine (declaration.points_ok_iff catalog devices _).mpr ⟨fun device member => ?_, rfl⟩
  obtain ⟨reference, listed, rfl⟩ := (declaration.federates_mem settings devices federates device).mp
    member
  obtain ⟨group, among, within⟩ := List.mem_flatMap.mp listed
  exact typed group among reference within

theorem Declaration.federates_unrelated (declaration : Declaration) (settings : Settings) :
    Unrelated (declaration.federateDevices settings) := by
  intro fault refused
  have settles := FederateDevice.add_unique_settles declaration.node []
    (declaration.qualified settings) List.nodup_nil
  change FederateDevice.Settles _ _ _ (declaration.federateDevices settings) at settles
  rw [refused] at settles
  obtain ⟨_, _, _, _, _, _, rfl⟩ := settles
  rfl

theorem BrokerSettings.address_fails (broker : BrokerSettings) (topology : Topology)
    (requester : String) :
    FailsOnly
      (fun fault => fault.ofNetwork = false ∨ ∃ spec, broker.hostname = some spec ∧
        topology.node? (place spec).1 = none ∧
        fault = .unresolvedReference requester (place spec).1)
      (broker.address? topology requester) := by
  rw [address?]
  cases named : broker.hostname with
  | none =>
      cases broker.address with
      | some address => exact fails_ok _ _
      | none => exact fails_error _ _ (.inl rfl)
  | some spec =>
      simp only
      cases found : topology.node? (place spec).1 with
      | none => exact fails_error _ _ (.inr ⟨spec, rfl, found, rfl⟩)
      | some node =>
          cases (place spec).2 with
          | none =>
              simp only
              cases node.firstAddress? with
              | some address => exact fails_ok _ _
              | none => exact fails_error _ _ (.inl rfl)
          | some interface =>
              simp only
              cases node.interfaceAddress? interface with
              | some address => exact fails_ok _ _
              | none => exact fails_error _ _ (.inl rfl)

namespace Plan

structure Ready (plan : Plan) : Prop where
  polled : ∀ station ∈ plan.network.stations, ∀ name ∈ station.device.polled,
    (plan.network.station? name).isSome
  typed : ∀ station ∈ plan.network.stations, ∀ declaration,
    station.device = .server declaration → declaration.Typed plan.catalog

def MissesBroker (plan : Plan) (station : Station) (fault : CompileError) : Prop :=
  station.role = .server ∧ ∃ broker spec,
    IoSection.broker? plan.settings station.node = some broker ∧ broker.hostname = some spec ∧
      plan.topology.node? (BrokerSettings.place spec).1 = none ∧
      fault = .unresolvedReference station.hostname (BrokerSettings.place spec).1

def Late (plan : Plan) (station : Station) (fault : CompileError) : Prop :=
  fault.ofNetwork = false ∨ plan.MissesBroker station fault

theorem io_late (plan : Plan) (ready : plan.Ready) (registry : BrokerRegistry) (station : Station)
    (member : station ∈ plan.network.stations) :
    FailsOnly (plan.Late station) (plan.ioSection registry station).2 := by
  intro fault refused
  cases kind : station.device with
  | gateway polled downstream | client polled => simp [ioSection, kind] at refused
  | server declaration =>
      rw [ioSection, kind] at refused
      obtain conflict | ⟨_, rfl⟩ | ⟨broker, found, unanswered⟩ | ⟨devices, federates, unlisted⟩ :=
        IoSection.of_server_refused _ _ _ registry station.node declaration _ fault
          (Prod.ext rfl refused)
      · exact .inl (declaration.federates_unrelated plan.settings fault conflict)
      · exact .inl rfl
      · have address := congrArg Prod.snd unanswered
        rw [registry.resolve_address] at address
        refine (broker.address_fails plan.topology _ fault address).imp_right ?_
        rintro ⟨spec, named, absent, rfl⟩
        exact ⟨congrArg Device.role kind, broker, spec, found, named, absent, rfl⟩
      · have typed := ready.typed station member declaration kind
        rw [declaration.typed_points plan.catalog typed plan.settings devices federates] at unlisted
        cases unlisted

theorem station_late (plan : Plan) (ready : plan.Ready) (registry : BrokerRegistry)
    (station : Station) (member : station ∈ plan.network.stations) :
    FailsOnly (plan.Late station) (plan.compileStation registry station).2 := by
  have configures := plan.network.configure_unrelated plan.resolution station
    (ready.polled station member) (plan.blankDocument station.node)
  have binds := plan.io_late ready registry station member
  simp only [compileStation]
  rcases configured : plan.network.configure plan.resolution station
    (plan.blankDocument station.node) with ⟨document, fault | done⟩
  · rw [configured] at configures
    exact fails_error _ _ (.inl (configures fault rfl))
  · rcases bound : plan.ioSection registry station with ⟨after, fault | io⟩
    · rw [bound] at binds
      exact fails_error _ _ (binds fault rfl)
    · exact fails_ok _ _

theorem stations_late (plan : Plan) (ready : plan.Ready) (registry : BrokerRegistry)
    (stations : List Station) (among : ∀ station ∈ stations, station ∈ plan.network.stations) :
    FailsOnly (fun fault => ∃ station ∈ plan.network.stations, plan.Late station fault)
      (plan.compileStations registry stations) := by
  induction stations generalizing registry with
  | nil => exact fails_ok _ _
  | cons station rest ih =>
      obtain ⟨member, others⟩ := List.forall_mem_cons.mp among
      have step := plan.station_late ready registry station member
      rw [compileStations]
      rcases first : plan.compileStation registry station with ⟨next, fault | device⟩
      · rw [first] at step
        exact fails_error _ _ ⟨station, member, step fault rfl⟩
      · exact fails_map _ _ _ (ih next others)

end Plan

theorem plan_ready (settings : Settings) (topology : Topology) (plan : Plan)
    (planned : settings.plan topology = .ok plan) : plan.Ready := by
  obtain ⟨network, resolution, _, finished, rfl⟩ := (plan_iff settings topology plan).mp planned
  exact ⟨network.resolved_polled settings.catalog resolution finished,
    network.resolved_typed settings.catalog resolution finished⟩

/-- Once all devices are resolved, no later step fails for what they declare, poll or are called, but a
server whose broker is to run on a node that the topology does not have. To configure a device never
does, and the points of a server are found in the catalog whatever its broker has come to. -/
theorem network_settled (settings : Settings) (topology : Topology) (plan : Plan)
    (planned : settings.plan topology = .ok plan) :
    (∀ fault, compile settings topology = .error fault →
      ∃ station ∈ plan.network.stations, plan.Late station fault) ∧
      ∀ station ∈ plan.network.stations,
        (∀ registry, FailsOnly (plan.Late station) (plan.compileStation registry station).2) ∧
        (∀ document, Unrelated
          (plan.network.configureDevice plan.resolution station.hostname document).2) ∧
        ∀ declaration, station.device = .server declaration →
          ∀ devices, declaration.federateDevices settings = .ok devices →
            ∃ points, IoSection.points declaration plan.catalog devices = .ok points := by
  have ready := plan_ready settings topology plan planned
  refine ⟨fun fault refused => ?_, fun station member => ⟨fun registry => ?_, fun document => ?_,
    fun declaration kind devices federates => ?_⟩⟩
  · rw [compile, planned] at refused
    exact plan.stations_late ready {} plan.network.byRole
      (fun station => (plan.network.member_by_role station).mp) fault refused
  · exact plan.station_late ready registry station member
  · rw [plan.network.configure_named plan.resolution station member]
    exact plan.network.configure_unrelated plan.resolution station (ready.polled station member)
      document
  · exact ⟨_, declaration.typed_points plan.catalog (ready.typed station member declaration kind)
      settings devices federates⟩

def stray : Settings where
  helics := { broker := some { hostname := "hub" } }

def lone : Topology where
  nodes :=
    [{ hostname := "rtu1"
       nodeType := "fd-server"
       metadata := { dnp3 := some { devices := [{ name := "BUS7", deviceType := "bus" }] } }
       interfaces := [{ name := "eth0", address := "10.0.0.1" }] }]

theorem stray_settled :
    ∃ plan, stray.plan lone = .ok plan ∧
      compile stray lone = .error (.unresolvedReference "rtu1" "hub") ∧
      ∃ station ∈ plan.network.stations,
        plan.MissesBroker station (.unresolvedReference "rtu1" "hub") := by
  obtain ⟨plan, planned⟩ : ∃ plan, stray.plan lone = .ok plan := ⟨_, rfl⟩
  have refused : compile stray lone = .error (.unresolvedReference "rtu1" "hub") := rfl
  obtain ⟨station, member, unrelated | misses⟩ :=
    (network_settled stray lone plan planned).1 _ refused
  · cases unrelated
  · exact ⟨plan, planned, refused, station, member, misses⟩

end FieldConfig
