import FieldConfig.Proofs.Network.Building
import FieldConfig.Proofs.Network.Routes
import FieldConfig.Proofs.Register.Order
import FieldConfig.Proofs.Resolution.Gathering
import Mathlib.Algebra.BigOperators.Ring.List

set_option autoImplicit false

namespace FieldConfig.Network

def Signed (network : Network) : Prop :=
  ∀ station ∈ network.stations, ∀ declaration, station.device = .server declaration →
    declaration.node = station.hostname

theorem built_signed (topology : Topology) (defaultInfrastructure : String) (network : Network)
    (built : ofTopology topology defaultInfrastructure = .ok network) : network.Signed := by
  intro station member declaration kind
  obtain ⟨node, _, stands⟩ := station_stands defaultInfrastructure topology network built _ member
  exact declared_node defaultInfrastructure node station stands declaration kind

theorem expansion_source (declaration : Declaration) (catalog : Catalog) (register : Register)
    (member : register ∈ (RegisterSet.regroup (declaration.expansion catalog)).flatten) :
    register.source = declaration.node := by
  rw [(RegisterSet.flatten_perm _).mem_iff, List.mem_flatMap] at member
  obtain ⟨group, listed, among⟩ := member
  obtain ⟨⟨protocol, references⟩, _, rfl⟩ := List.mem_map.mp listed
  obtain ⟨reference, _, expanded⟩ := List.mem_flatMap.mp among
  rw [Declaration.expand] at expanded
  split at expanded
  · obtain ⟨field, _, rfl⟩ := List.mem_map.mp expanded
    rfl
  · cases expanded

theorem server_source (network : Network) (catalog : Catalog) (signed : network.Signed)
    (server : Station) (member : server ∈ network.stations) (role : server.role = .server)
    (served : RegisterSet) (serves : network.Means catalog server.hostname served)
    (register : Register) (held : register ∈ served.flatten) :
    register.source = server.hostname := by
  have means := network.means_device catalog _ _ serves server (network.station_member server member)
  cases kind : server.device with
  | server declaration =>
      rw [kind] at means
      have signer := expansion_source declaration catalog register (means ▸ held)
      exact signer.trans (signed server member declaration kind)
  | gateway polled downstream => simp [Station.role, kind, Device.role] at role
  | client polled => simp [Station.role, kind, Device.role] at role

theorem input_found (network : Network) (polled : List String)
    (inputs : List (Station × RegisterSet))
    (known : polled.map network.station? = (inputs.map Prod.fst).map some)
    (input : Station × RegisterSet) (listed : input ∈ inputs) :
    network.station? input.1.hostname = some input.1 :=
  network.station_member input.1
    (network.target_member polled _ known input.1 (List.mem_map_of_mem listed))

def Offers (network : Network) (goal : String) (register : Register) (once : Nat)
    (input : Station × RegisterSet) : Prop :=
  ∃ ways, Enumerates ways (network.Onto goal input.1.hostname) ∧
    ((input.1.device.offered input.2).flatMap Prod.snd).count register = once * ways.length

theorem count_regroup (groups : List (Protocol × List Register)) (register : Register) :
    (RegisterSet.regroup groups).flatten.count register =
      (groups.flatMap Prod.snd).count register :=
  (RegisterSet.flatten_perm groups).count_eq register

theorem gathered_count (network : Network) (goal : String) (register : Register) (once : Nat)
    (station : Station) (inputs : List (Station × RegisterSet))
    (member : station ∈ network.stations)
    (known : station.device.polled.map network.station? = (inputs.map Prod.fst).map some)
    (offers : ∀ input ∈ inputs, network.Offers goal register once input) :
    ∃ ways, Enumerates ways (network.Route goal station.hostname) ∧
      (RegisterSet.regroup (inputs.flatMap fun input => input.1.device.offered input.2)).flatten.count
        register = once * ways.length := by
  choose! onward enumerated counted using offers
  refine ⟨branches 0 (inputs.map onward),
    network.branches_enumerate goal station inputs onward member known enumerated, ?_⟩
  rw [count_regroup, List.flatMap_assoc, List.count_flatMap, branches_length, List.map_map,
    ← List.sum_map_mul_left]
  exact congrArg List.sum (List.map_congr_left fun input among => counted input among)

theorem server_offers (network : Network) (catalog : Catalog) (signed : network.Signed)
    (server station : Station) (member : station ∈ network.stations) (declaration : Declaration)
    (kind : station.device = .server declaration) (served : RegisterSet)
    (serves : network.Means catalog server.hostname served) (register : Register)
    (source : register.source = server.hostname)
    (means : network.Means catalog station.hostname
      (RegisterSet.regroup (declaration.expansion catalog))) :
    network.Offers server.hostname register (served.flatten.count register)
      (station, RegisterSet.regroup (declaration.expansion catalog)) := by
  have silent := network.not_relays station.hostname station (network.station_member station member)
    fun polled protocol => by simp [kind]
  by_cases same : station.hostname = server.hostname
  · rw [same] at means silent
    have own := network.means_unique catalog _ _ _ means serves
    refine ⟨[[]], same ▸ network.onto_goal server.hostname silent, ?_⟩
    simp only [kind, Device.offered, own, List.length_singleton, Nat.mul_one]
    rfl
  · refine ⟨[], network.onto_none _ _ same silent, List.count_eq_zero.mpr fun among => ?_⟩
    simp only [kind, Device.offered] at among
    have signer := expansion_source declaration catalog register among
    exact same ((signed station member declaration kind).symm.trans (signer.symm.trans source))

theorem silent_offers (network : Network) (goal : String) (register : Register) (once : Nat)
    (station : Station) (registers : RegisterSet) (member : station ∈ network.stations)
    (other : station.hostname ≠ goal)
    (silent : ∀ polled protocol, station.device ≠ .gateway polled (.serving protocol))
    (nothing : station.device.offered registers = []) :
    network.Offers goal register once (station, registers) := by
  have unpolled := network.not_relays _ station (network.station_member station member) silent
  exact ⟨[], network.onto_none goal station.hostname other unpolled, by simp [nothing]⟩

theorem means_offers (network : Network) (catalog : Catalog) (signed : network.Signed)
    (server : Station) (among : server ∈ network.stations) (role : server.role = .server)
    (served : RegisterSet) (serves : network.Means catalog server.hostname served)
    (register : Register) (source : register.source = server.hostname) (hostname : String)
    (registers : RegisterSet) (means : network.Means catalog hostname registers)
    (station : Station) (found : network.station? hostname = some station) :
    network.Offers server.hostname register (served.flatten.count register)
      (station, registers) := by
  have apart : ∀ other ∈ network.stations, other.role ≠ .server →
      other.hostname ≠ server.hostname := by
    intro other member different same
    exact different (network.stations_agree other server member among same ▸ role)
  induction means generalizing station with
  | server name other declaration here kind typed =>
      obtain ⟨member, named⟩ := network.station_found name station found
      cases here.symm.trans found
      refine network.server_offers catalog signed server other member declaration kind served serves
        register source ?_
      exact .server other.hostname other declaration (named ▸ here) kind typed
  | gateway name other polled downstream inputs here kind known means ih =>
      obtain ⟨member, named⟩ := network.station_found name station found
      cases here.symm.trans found
      have different := apart other member (by simp [Station.role, kind, Device.role])
      cases downstream with
      | unsupported setting =>
          refine network.silent_offers _ register _ other _ member different ?_ ?_
          · simp [kind]
          · simp [kind, Device.offered]
      | serving protocol =>
          obtain ⟨ways, enumerated, counted⟩ := network.gathered_count server.hostname register
            (served.flatten.count register) other inputs member (by rwa [kind])
            fun input listed => ih input listed input.1
              (network.input_found polled inputs known input listed)
          have relays : network.Relays other.hostname :=
            ⟨other, polled, protocol, named ▸ here, kind⟩
          refine ⟨ways, network.onto_relay _ _ different relays ways enumerated, ?_⟩
          simp only [kind, Device.offered, List.flatMap_singleton]
          exact counted
  | client name other polled here kind =>
      obtain ⟨member, _⟩ := network.station_found name station found
      cases here.symm.trans found
      refine network.silent_offers _ register _ other _ member ?_ ?_ ?_
      · exact apart other member (by simp [Station.role, kind, Device.role])
      · simp [kind]
      · simp [kind, Device.offered]

def Originates (network : Network) (catalog : Catalog) (register : Register)
    (leads : String → List Nat → Prop) : Prop :=
  ∃ server ∈ network.stations, server.role = .server ∧ register.source = server.hostname ∧
    (∃ served, network.Means catalog server.hostname served ∧ register ∈ served.flatten) ∧
    ∃ way, leads server.hostname way

theorem gathered_originates (network : Network) (catalog : Catalog) (register : Register)
    (station : Station) (inputs : List (Station × RegisterSet))
    (member : station ∈ network.stations)
    (known : station.device.polled.map network.station? = (inputs.map Prod.fst).map some)
    (origins : ∀ input ∈ inputs, register ∈ (input.1.device.offered input.2).flatMap Prod.snd →
      network.Originates catalog register fun goal => network.Onto goal input.1.hostname)
    (held : register ∈
      (RegisterSet.regroup (inputs.flatMap fun input => input.1.device.offered input.2)).flatten) :
    network.Originates catalog register fun goal => network.Route goal station.hostname := by
  rw [(RegisterSet.flatten_perm _).mem_iff, List.flatMap_assoc, List.mem_flatMap] at held
  obtain ⟨input, listed, offered⟩ := held
  obtain ⟨server, among, role, source, served, way, onto⟩ := origins input listed offered
  obtain ⟨place, here⟩ := List.mem_iff_getElem?.mp listed
  have names := network.names_of_targets station.device.polled (inputs.map Prod.fst) known
  have refers : network.Refers station.hostname place input.1.hostname :=
    ⟨station, network.station_member station member, by simp [names, here]⟩
  exact ⟨server, among, role, source, served, place :: way,
    (network.route_iff _ _ _).mpr ⟨place, input.1.hostname, way, refers, onto, rfl⟩⟩

theorem means_originates (network : Network) (catalog : Catalog) (signed : network.Signed)
    (hostname : String) (registers : RegisterSet)
    (means : network.Means catalog hostname registers) (station : Station)
    (found : network.station? hostname = some station) (register : Register)
    (offered : register ∈ (station.device.offered registers).flatMap Prod.snd) :
    network.Originates catalog register fun goal => network.Onto goal station.hostname := by
  induction means generalizing station with
  | server name other declaration here kind typed =>
      obtain ⟨member, named⟩ := network.station_found name station found
      cases here.symm.trans found
      simp only [kind, Device.offered] at offered
      have signer := expansion_source declaration catalog register offered
      have means := Means.server other.hostname other declaration (named ▸ here) kind typed
      exact ⟨other, member, by simp [Station.role, kind, Device.role],
        signer.trans (signed other member declaration kind), ⟨_, means, offered⟩, [], .inl ⟨rfl, rfl⟩⟩
  | gateway name other polled downstream inputs here kind known means ih =>
      obtain ⟨member, named⟩ := network.station_found name station found
      cases here.symm.trans found
      cases downstream with
      | unsupported setting => simp [kind, Device.offered] at offered
      | serving protocol =>
          simp only [kind, Device.offered, List.flatMap_singleton] at offered
          obtain ⟨server, among, role, source, served, way, route⟩ :=
            network.gathered_originates catalog register other inputs member (by rwa [kind])
              (fun input listed => ih input listed input.1
                (network.input_found polled inputs known input listed))
              offered
          have relays : network.Relays other.hostname :=
            ⟨other, polled, protocol, named ▸ here, kind⟩
          exact ⟨server, among, role, source, served, way, .inr ⟨relays, route⟩⟩
  | client name other polled here kind =>
      cases here.symm.trans found
      simp [kind, Device.offered] at offered

/-- A gateway holds a register of a server as often as the server does, for each way to the server,
and it holds no other register. -/
theorem register_multiplicity (topology : Topology) (defaultInfrastructure : String)
    (catalog : Catalog) (network : Network) (resolution : Resolution)
    (built : ofTopology topology defaultInfrastructure = .ok network)
    (finished : network.resolveAll catalog {} = (resolution, .ok ())) (gateway : Station)
    (member : gateway ∈ network.stations) (role : gateway.role = .gateway) :
    (∀ server ∈ network.stations, server.role = .server →
      ∀ register ∈ (resolution.registers server.hostname).flatten,
        {way | network.Route server.hostname gateway.hostname way}.Finite ∧
        (resolution.registers gateway.hostname).flatten.count register =
          (resolution.registers server.hostname).flatten.count register *
            {way | network.Route server.hostname gateway.hostname way}.ncard) ∧
    ∀ register ∈ (resolution.registers gateway.hostname).flatten,
      ∃ server ∈ network.stations, server.role = .server ∧ register.source = server.hostname ∧
        register ∈ (resolution.registers server.hostname).flatten ∧
        ∃ way, network.Route server.hostname gateway.hostname way := by
  have signed := built_signed topology defaultInfrastructure network built
  obtain ⟨consistent, resolved⟩ := network.all_resolved catalog resolution finished
  have meaning := fun station among => consistent.meaning station among (resolved station among)
  have means := network.means_device catalog _ _ (meaning gateway member) gateway
    (network.station_member gateway member)
  cases kind : gateway.device with
  | server declaration => simp [Station.role, kind, Device.role] at role
  | client polled => simp [Station.role, kind, Device.role] at role
  | gateway polled downstream =>
      rw [kind] at means
      obtain ⟨inputs, known, meansInputs, gathered⟩ := means
      have asked : gateway.device.polled.map network.station? = (inputs.map Prod.fst).map some := by
        rwa [kind]
      have found := network.input_found polled inputs known
      constructor
      · intro server among serving register served
        have source := network.server_source catalog signed server among serving _
          (meaning server among) register served
        obtain ⟨ways, enumerated, counted⟩ := network.gathered_count server.hostname register
          ((resolution.registers server.hostname).flatten.count register) gateway inputs member asked
          fun input listed => network.means_offers catalog signed server among serving _
            (meaning server among) register source input.1.hostname input.2
            (meansInputs input listed) input.1 (found input listed)
        obtain ⟨finite, card⟩ := enumerated_card ways _ enumerated
        exact ⟨finite, by rw [card, gathered, counted]⟩
      · intro register held
        rw [gathered] at held
        obtain ⟨server, among, serving, source, ⟨served, serves, holds⟩, way, route⟩ :=
          network.gathered_originates catalog register gateway inputs member asked
            (fun input listed => network.means_originates catalog signed input.1.hostname input.2
              (meansInputs input listed) input.1 (found input listed) register) held
        have own := network.means_unique catalog _ _ _ serves (meaning server among)
        exact ⟨server, among, serving, source, own ▸ holds, way, route⟩

-- Three ways lead to the server, two of them through one gateway, and none through the gateway with
-- the unsupported protocol.
def relays : Topology where
  nodes :=
    [{ hostname := "rtu1"
       nodeType := "fd-server"
       metadata := { modbus := some { devices := [{ name := "BUS7", deviceType := "bus" }] } } },
     { hostname := "fep1"
       nodeType := "fep"
       metadata := { polled := some ["rtu1", "rtu1"] } },
     { hostname := "fep2"
       nodeType := "fep"
       metadata := { polled := some ["rtu1"], downstream := some "iec104" } },
     { hostname := "fep3"
       nodeType := "fep"
       metadata := { polled := some ["fep1", "fep2", "rtu1"] } }]

theorem relays_counted :
    ∃ network resolution register, ofTopology relays "power-distribution" = .ok network ∧
      network.resolveAll Catalog.builtin {} = (resolution, .ok ()) ∧
      (resolution.registers "rtu1").flatten = [register] ∧
      (resolution.registers "fep3").flatten = [register, register, register] ∧
      {way | network.Route "rtu1" "fep3" way}.ncard = 3 := by
  obtain ⟨network, resolution, server, gateway, register, built, finished, foundServer,
      foundGateway, serving, role, held, copies⟩ :
      ∃ network resolution server gateway register,
        ofTopology relays "power-distribution" = .ok network ∧
        network.resolveAll Catalog.builtin {} = (resolution, .ok ()) ∧
        network.station? "rtu1" = some server ∧ network.station? "fep3" = some gateway ∧
        server.role = .server ∧ gateway.role = .gateway ∧
        (resolution.registers "rtu1").flatten = [register] ∧
        (resolution.registers "fep3").flatten = [register, register, register] :=
    ⟨_, _, _, _, _, rfl, rfl, rfl, rfl, rfl, rfl, rfl, rfl⟩
  obtain ⟨among, named⟩ := network.station_found "rtu1" server foundServer
  obtain ⟨member, gatewayNamed⟩ := network.station_found "fep3" gateway foundGateway
  have counted := ((register_multiplicity relays "power-distribution" Catalog.builtin network
    resolution built finished gateway member role).1 server among serving register
    (by simp [named, held])).2
  rw [named, gatewayNamed, held, copies] at counted
  refine ⟨network, resolution, register, built, finished, held, copies, ?_⟩
  simpa using counted.symm

end FieldConfig.Network
