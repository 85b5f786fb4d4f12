import FieldConfig.Proofs.Compilation.Independence
import FieldConfig.Proofs.Network.Building
import FieldConfig.Proofs.Resolution.Part

set_option autoImplicit false

-- A part of a topology that holds all that its nodes ask for compiles if the whole does, and its
-- devices are those of the whole.
namespace FieldConfig

namespace Node

def polled (node : Node) : List String :=
  match node.role? with
  | some .gateway | some .client => node.metadata.polledNames
  | some .server | none => []

def entries (node : Node) : List DeviceEntry :=
  Protocol.all.flatMap fun protocol => ((node.metadata.protocol protocol).map (·.devices)).getD []

def consulted? (settings : Settings) (node : Node) : Option String :=
  if node.role? = some .server ∧ node.entries ≠ [] then IoSection.brokerHost? settings node else none

end Node

namespace Declaration

theorem reference_name (node : String) (protocol : Protocol) (index : Nat) (entry : DeviceEntry)
    (reference : DeviceReference)
    (declared : Declaration.reference node protocol index entry = .ok reference) :
    entry.name = some reference.fullName := by
  rw [Declaration.reference] at declared
  split at declared <;> cases declared
  assumption

theorem references_names (node : String) (protocol : Protocol) (index : Nat)
    (entries : List DeviceEntry) (references : List DeviceReference)
    (declared : Declaration.references node protocol index entries = .ok references) :
    entries.map (·.name) = references.map (some ·.fullName) := by
  induction entries generalizing index references with
  | nil =>
      cases declared
      rfl
  | cons entry rest ih =>
      obtain ⟨first, made, later⟩ := bind_ok _ _ references declared
      obtain ⟨others, listed, same⟩ := bind_ok _ _ references later
      cases same
      rw [List.map_cons, List.map_cons, ih (index + 1) others listed,
        reference_name _ _ _ entry first made]

theorem protocols_names (node : Node) (protocols : List Protocol)
    (declared : List (Protocol × List DeviceReference))
    (listed : ofProtocols node protocols = .ok declared) :
    (protocols.flatMap fun protocol =>
        ((node.metadata.protocol protocol).map (·.devices)).getD []).map (·.name) =
      (declared.flatMap Prod.snd).map (some ·.fullName) := by
  induction protocols generalizing declared with
  | nil =>
      cases listed
      rfl
  | cons protocol rest ih =>
      rw [ofProtocols] at listed
      cases found : node.metadata.protocol protocol with
      | none =>
          rw [found] at listed
          simpa [found] using ih declared listed
      | some own =>
          rw [found] at listed
          obtain ⟨references, made, later⟩ := bind_ok _ _ declared listed
          obtain ⟨others, following, same⟩ := bind_ok _ _ declared later
          cases same
          simp only [List.flatMap_cons, List.map_append, found, Option.map_some, Option.getD_some,
            ih others following, references_names _ _ _ _ references made]

theorem entries_names (node : Node) (defaultInfrastructure : String) (declaration : Declaration)
    (declared : ofNode node defaultInfrastructure = .ok declaration) :
    node.entries.map (·.name) = declaration.allReferences.map (some ·.fullName) := by
  obtain ⟨protocols, listed, same⟩ := bind_ok _ _ declaration declared
  cases same
  exact protocols_names node Protocol.all protocols listed

end Declaration

namespace Network

theorem stands_polled (defaultInfrastructure : String) (node : Node) (station : Station)
    (stands : Stands defaultInfrastructure node station) :
    station.device.polled = node.polled := by
  obtain ⟨role, known, made⟩ := stands
  cases role with
  | server =>
      obtain ⟨declaration, _, same⟩ := bind_ok _ _ station made
      cases same
      simp [Device.polled, Node.polled, known]
  | gateway | client =>
      cases made
      simp [Device.polled, Node.polled, known]

theorem stands_consults (settings : Settings) (node : Node) (station : Station)
    (stands : Stands settings.infrastructure node station) (declaration : Declaration)
    (kind : station.device = .server declaration) (declares : declaration.allReferences ≠ []) :
    node.consulted? settings = IoSection.brokerHost? settings node := by
  obtain ⟨role, known, made⟩ := stands
  cases role with
  | server =>
      obtain ⟨own, declared, same⟩ := bind_ok _ _ station made
      cases same
      cases kind
      have names := Declaration.entries_names node settings.infrastructure declaration declared
      have listed : node.entries ≠ [] := fun none => declares (by simpa [none] using names.symm)
      rw [Node.consulted?, if_pos ⟨known, listed⟩]
  | gateway | client =>
      cases made
      cases kind

end Network

-- What the nodes of a part ask for is in the part, and found there as it is in the whole.
structure Topology.PartOf (settings : Settings) (part whole : Topology) : Prop where
  nodes : ∀ node ∈ part.nodes, node ∈ whole.nodes
  distinct : ((Network.standing settings.infrastructure part.nodes).map Station.hostname).Nodup
  polled : ∀ node ∈ part.nodes, ∀ target ∈ whole.nodes, target.role?.isSome →
    target.hostname ∈ node.polled → target ∈ part.nodes
  brokers : ∀ node ∈ part.nodes, ∀ host, node.consulted? settings = some host →
    part.node? host = whole.node? host

section

variable (settings : Settings) (part whole : Topology) (among : part.PartOf settings whole)

include among

theorem part_network (network : Network)
    (built : Network.ofTopology whole settings.infrastructure = .ok network) :
    ∃ own, Network.ofTopology part settings.infrastructure = .ok own ∧ own.PartOf network := by
  obtain ⟨stations, declared⟩ := Network.built_standing settings.infrastructure whole network built
  obtain ⟨own, builds⟩ := Network.network_builds settings.infrastructure part
    (fun node member => declared node (among.nodes node member)) among.distinct
  obtain ⟨ownStations, _⟩ := Network.built_standing settings.infrastructure part own builds
  refine ⟨own, builds, ⟨fun station member => ?_, fun station member target listed polls => ?_⟩⟩
  · rw [ownStations, Network.member_standing] at member
    obtain ⟨node, inside, stands⟩ := member
    rw [stations, Network.member_standing]
    exact ⟨node, among.nodes node inside, stands⟩
  · rw [ownStations, Network.member_standing] at member
    rw [stations, Network.member_standing] at listed
    obtain ⟨node, inside, stands⟩ := member
    obtain ⟨other, present, reached⟩ := listed
    obtain ⟨role, known, made⟩ := id reached
    rw [Station.hostname, (Network.of_node_facts _ other role target made).1,
      Network.stands_polled _ node station stands] at polls
    rw [ownStations, Network.member_standing]
    exact ⟨other, among.polled node inside other present (by simp [known]) polls, reached⟩

theorem part_plans (plan : Plan) (planned : settings.plan whole = .ok plan) :
    ∃ own, settings.plan part = .ok own ∧ own.network.PartOf plan.network ∧
      ∀ station ∈ own.network.stations, own.device station = plan.device station := by
  obtain ⟨network, resolution, built, finished, rfl⟩ := (plan_iff settings whole plan).mp planned
  obtain ⟨own, builds, within⟩ := part_network settings part whole among network built
  obtain ⟨ownResolution, resolves, registers⟩ :=
    Network.part_resolves own network within settings.catalog resolution finished
  refine ⟨_, (plan_iff settings part _).mpr ⟨own, ownResolution, builds, resolves, rfl⟩, within,
    fun station member => ?_⟩
  obtain ⟨stations, _⟩ := Network.built_standing settings.infrastructure part own builds
  have sound := (own.all_resolve_iff settings.catalog).mp (by rw [resolves]) station member
  refine Plan.devices_agree _ _ station ?_ {} {}
  constructor
  · rfl
  · rfl
  · exact registers station member
  · -- Every polled name is known, so its registers are those of a device of the part.
    intro name polled
    refine ⟨Network.part_polled own network within station member name polled, ?_⟩
    have asks : own.Polls station.hostname name := ⟨station, own.station_member station member, polled⟩
    obtain ⟨target, found⟩ := Option.isSome_iff_exists.mp (sound.known name (.single asks))
    obtain ⟨listed, named⟩ := own.station_found name target found
    exact named ▸ registers target listed
  · intro declaration kind declares host names
    obtain ⟨node, inside, stands⟩ :=
      (Network.member_standing settings.infrastructure part.nodes station).mp (stations ▸ member)
    obtain ⟨role, _, made⟩ := id stands
    rw [(Network.of_node_facts _ node role station made).1,
      ← Network.stands_consults settings node station stands declaration kind declares] at names
    exact among.brokers node inside host names

theorem part_compiles (plan : Plan) (planned : settings.plan whole = .ok plan)
    (compilation : Compilation)
    (compiled : plan.compileStations {} plan.network.byRole = .ok compilation) :
    ∃ ownPlan own, settings.plan part = .ok ownPlan ∧ ownPlan.network.PartOf plan.network ∧
      ownPlan.compileStations {} ownPlan.network.byRole = .ok own ∧
      own.devices = (ownPlan.network.byRole.filterMap fun station =>
        (plan.device station).toOption) ∧
      ∀ name station, ownPlan.network.station? name = some station →
        own.device? name = compilation.device? name := by
  obtain ⟨ownPlan, planned, within, same⟩ := part_plans settings part whole among plan planned
  obtain ⟨each, _⟩ := plan.compiled_devices {} _ compilation compiled
  have devices : ∀ station ∈ ownPlan.network.byRole, ownPlan.device station = plan.device station :=
    fun station member => same station ((ownPlan.network.member_by_role station).mp member)
  obtain ⟨own, compiles⟩ := ownPlan.stations_compile {} ownPlan.network.byRole fun station member => by
    rw [devices station member]
    exact each station ((plan.network.member_by_role station).mpr
      (within.stations station ((ownPlan.network.member_by_role station).mp member)))
  refine ⟨ownPlan, own, planned, within, compiles, ?_, fun name station found => ?_⟩
  · rw [(ownPlan.compiled_devices {} _ own compiles).2]
    exact List.filterMap_congr fun station member => by rw [devices station member]
  · obtain ⟨member, _⟩ := ownPlan.network.station_found name station found
    rw [ownPlan.device_found own compiles, plan.device_found compilation compiled, found,
      Network.part_found _ _ within name station found, Option.bind_some, Option.bind_some,
      same station member]

end
end FieldConfig
