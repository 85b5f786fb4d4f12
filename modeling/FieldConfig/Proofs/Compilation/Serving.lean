import FieldConfig.Proofs.Compilation.Polling
import FieldConfig.Proofs.Encoding.Signals
import FieldConfig.Proofs.Register.Order
import FieldConfig.Proofs.Resolution.Gathering

set_option autoImplicit false

-- A gateway serves what it polls. It polls group by group under the protocols of the polled devices
-- and serves all of it as one group under its own, which loses nothing and adds nothing.
namespace FieldConfig

namespace Network

theorem written_content (encode : Protocol × List Register → Except CompileError Section)
    (groups : List (Protocol × List Register))
    (faithful : ∀ group s, encode group = .ok s →
      s.content = (group.1, group.2.map Register.signal))
    (encoded : ∀ result ∈ groups.map encode, ∃ s, result = .ok s) :
    (Document.written (groups.map encode)).map Section.content =
      groups.map fun group => (group.1, group.2.map Register.signal) := by
  induction groups with
  | nil => rfl
  | cons group rest ih =>
      obtain ⟨s, first⟩ := encoded (encode group) (by simp)
      have later := ih fun result member => encoded result (List.mem_cons_of_mem _ member)
      simp only [Document.written, List.map_cons, List.filterMap_cons, first, Except.toOption,
        faithful group s first]
      exact congrArg _ later

theorem polling_content (station target : Station) (name : String)
    (group : Protocol × List Register) (s : Section)
    (encoded : pollingSection station target name group = .ok s) :
    s.content = (group.1, group.2.map Register.signal) := by
  obtain ⟨endpoint, _, written⟩ := bind_ok _ _ s encoded
  exact Encoding.encode_content _ group.1 group.2 s written

theorem serving_content (station : Station) (group : Protocol × List Register) (s : Section)
    (encoded : servingSection station group = .ok s) :
    s.content = (group.1, group.2.map Register.signal) := by
  obtain ⟨endpoint, _, written⟩ := bind_ok _ _ s encoded
  exact Encoding.encode_content _ group.1 group.2 s written

theorem polled_content (network : Network) (resolution : Resolution) (station : Station)
    (names : List String) (targets : List Station)
    (known : names.map network.station? = targets.map some)
    (encoded : ∀ result ∈ names.flatMap (network.sectionsFor resolution station),
      ∃ s, result = .ok s) :
    (Document.written (names.flatMap (network.sectionsFor resolution station))).map
        Section.content =
      (targets.flatMap fun target => (resolution.exposed target).groups).map fun group =>
        (group.1, group.2.map Register.signal) := by
  induction names generalizing targets with
  | nil =>
      cases targets with
      | nil => rfl
      | cons => simp at known
  | cons name rest ih =>
      cases targets with
      | nil => simp at known
      | cons target others =>
          simp only [List.map_cons, List.cons.injEq] at known
          rw [List.flatMap_cons] at encoded ⊢
          have later := ih others known.2 fun result member =>
            encoded result (List.mem_append_right _ member)
          have asked : network.sectionsFor resolution station name =
              (resolution.exposed target).groups.map (pollingSection station target name) := by
            simp only [sectionsFor, known.1]
          have first := written_content (pollingSection station target name)
            (resolution.exposed target).groups (polling_content station target name)
            fun result member => encoded result (List.mem_append_left _ (asked ▸ member))
          rw [Document.written, List.filterMap_append, List.map_append, List.flatMap_cons,
            List.map_append, asked]
          exact congrArg₂ (· ++ ·) first later

end Network

namespace Plan

theorem polls_served (plan : Plan) (compilation : Compilation)
    (compiled : List.Forall₂ plan.Compiled plan.network.byRole compilation.devices)
    (station : Station) (device : CompiledDevice) (same : plan.Compiled station device) :
    (device.document.sectionsOf .client).map Section.content =
      (station.device.polled.flatMap compilation.served).map Section.content := by
  have targets := plan.network.encoded_known plan.resolution station same.encoded
  rw [(plan.compiled_sections station device same).1, Network.pollingSections, Document.written,
    List.filterMap_flatMap, List.map_flatMap, List.map_flatMap]
  refine List.flatMap_congr fun name polled => ?_
  have mirrored := plan.served_mirrors compilation compiled station name (targets name polled)
  rw [Document.written] at mirrored
  rw [mirrored, List.map_map]
  exact List.map_congr_left fun s _ => s.mirror_content name

theorem gateway_content (plan : Plan) (catalog : Catalog)
    (finished : plan.network.resolveAll catalog {} = (plan.resolution, .ok ()))
    (station : Station) (member : station ∈ plan.network.stations) (polled : List String)
    (protocol : Protocol) (kind : station.device = .gateway polled (.serving protocol))
    (device : CompiledDevice) (same : plan.Compiled station device) :
    ∃ served, device.document.sectionsOf .server = [served] ∧ served.protocol = protocol ∧
      served.signals = byProtocol ((device.document.sectionsOf .client).map Section.content) := by
  obtain ⟨consistent, resolved⟩ := plan.network.all_resolved catalog plan.resolution finished
  obtain ⟨targets, known, gathered⟩ := plan.network.gateway_gathers catalog plan.resolution
    consistent station member (resolved station member) polled (.serving protocol) kind
  obtain ⟨clients, servers⟩ := plan.compiled_sections station device same
  have serving : Network.servingSections plan.resolution station =
      [Network.servingSection station
        (protocol, (plan.resolution.registers station.hostname).flatten)] := by
    simp only [Network.servingSections, kind]
  obtain ⟨served, encoded⟩ : ∃ served, Network.servingSection station
      (protocol, (plan.resolution.registers station.hostname).flatten) = .ok served :=
    same.encoded _ (List.mem_append_right _ (by rw [serving]; exact List.mem_singleton_self _))
  have content := Network.serving_content station _ served encoded
  have polling := plan.network.polled_content plan.resolution station polled targets known
    fun result asked => same.encoded result
      (List.mem_append_left _ (by rwa [Network.pollingSections, kind]))
  refine ⟨served, ?_, congrArg Prod.fst content, ?_⟩
  · rw [servers, serving, encoded]
    rfl
  · rw [clients, Network.pollingSections, kind, Device.polled, polling, by_protocol_map,
      ← RegisterSet.flatten_regroup, ← gathered]
    exact congrArg Prod.snd content

end Plan

/-- The one section that a gateway serves has the points of all sections under which it polls: those
of the protocol that comes first among the polled devices, in their order, then the others. -/
theorem gateway_serves_polled (settings : Settings) (topology : Topology)
    (compilation : Compilation) (compiled : compile settings topology = .ok compilation)
    (node : Node) (member : node ∈ topology.nodes) (gateway : node.role? = some .gateway)
    (protocol : Protocol)
    (supported : Downstream.ofSetting node.metadata.downstream = .serving protocol) :
    ∃ device served, compilation.device? node.hostname = some device ∧
      device.document.sectionsOf .server = [served] ∧ served.protocol = protocol ∧
      served.signals.Perm ((device.document.sectionsOf .client).flatMap Section.signals) ∧
      served.signals = byProtocol
        ((node.metadata.polledNames.flatMap compilation.served).map Section.content) := by
  obtain ⟨plan, planned, devices⟩ := compile_ok settings topology compilation compiled
  obtain ⟨built, finished⟩ := plan_ok settings topology plan planned
  obtain ⟨station, among, made⟩ := Network.station_of_node topology settings.infrastructure
    plan.network built node .gateway member gateway
  cases made
  have found := plan.network.station_member _ among
  obtain ⟨device, listed, same⟩ := plan.station_device compilation devices _ _ found
  obtain ⟨served, only, under, order⟩ := plan.gateway_content settings.catalog finished _ among
    node.metadata.polledNames protocol (by rw [supported]) device same
  have polls := plan.polls_served compilation devices _ device same
  refine ⟨device, served, listed, only, under, ?_, ?_⟩
  · rw [order]
    have perm := by_protocol_perm ((device.document.sectionsOf .client).map Section.content)
    rwa [List.flatMap_map] at perm
  · rw [order, polls]
    rfl

def feeder : Topology where
  nodes :=
    [{ hostname := "rtu1"
       nodeType := "fd-server"
       metadata := { modbus := some { devices := [{ name := "BUS7", deviceType := "bus" }] } }
       interfaces := [{ name := "eth0", address := "10.0.0.1" }] },
     { hostname := "rtu2"
       nodeType := "fd-server"
       metadata :=
         { dnp3 := some { devices := [{ name := "CAP3", deviceType := "capacitor" }] }
           modbus := some { devices := [{ name := "BUS8", deviceType := "bus" }] } }
       interfaces := [{ name := "eth0", address := "10.0.0.2" }] },
     { hostname := "fep1"
       nodeType := "fep"
       metadata := { polled := some ["rtu1", "rtu2"] }
       interfaces := [{ name := "eth0", address := "10.0.0.3" }] }]

theorem feeder_served :
    ∃ compilation device served, compile simulated feeder = .ok compilation ∧
      compilation.device? "fep1" = some device ∧
      device.document.sectionsOf .server = [served] ∧ served.protocol = .dnp3 ∧
      served.signals.map (fun signal => (signal.tag, signal.writable)) =
        [("BUS7.voltage", false), ("BUS8.voltage", false), ("CAP3.voltage", false),
         ("CAP3.current", false), ("CAP3.freq", false), ("CAP3.power", false),
         ("CAP3.setpt", true)] ∧
      served.signals.Perm ((device.document.sectionsOf .client).flatMap Section.signals) := by
  obtain ⟨compilation, compiled, tags⟩ : ∃ compilation,
      compile simulated feeder = .ok compilation ∧
        (compilation.served "fep1").map
            (fun s => s.signals.map fun signal => (signal.tag, signal.writable)) =
          [[("BUS7.voltage", false), ("BUS8.voltage", false), ("CAP3.voltage", false),
            ("CAP3.current", false), ("CAP3.freq", false), ("CAP3.power", false),
            ("CAP3.setpt", true)]] := ⟨_, rfl, rfl⟩
  obtain ⟨device, served, listed, only, under, perm, _⟩ := gateway_serves_polled simulated feeder
    compilation compiled feeder.nodes[2] (List.getElem_mem _) rfl .dnp3 (by decide)
  have named : compilation.device? "fep1" = some device := listed
  refine ⟨compilation, device, served, compiled, named, only, under, ?_, perm⟩
  simpa [Compilation.served, named, only] using tags

end FieldConfig
