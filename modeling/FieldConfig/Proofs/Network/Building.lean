import FieldConfig.Proofs.Network.Stations

set_option autoImplicit false

-- Which stations a network is built from: those of the nodes that have a role, in their order. It is
-- built if and only if each of these declares its devices in full and no two have one name.
namespace FieldConfig.Network

variable (defaultInfrastructure : String)

def Declared (node : Node) : Prop :=
  ∀ role, node.role? = some role →
    ∃ station, Station.ofNode defaultInfrastructure node role = .ok station

def standing? (node : Node) : Option Station :=
  node.role?.bind fun role => (Station.ofNode defaultInfrastructure node role).toOption

def standing (nodes : List Node) : List Station :=
  nodes.filterMap (standing? defaultInfrastructure)

theorem standing_iff (node : Node) (station : Station) :
    standing? defaultInfrastructure node = some station ↔
      Stands defaultInfrastructure node station := by
  simp only [standing?, Option.bind_eq_some_iff, toOption_some, Stands]

theorem member_standing (nodes : List Node) (station : Station) :
    station ∈ standing defaultInfrastructure nodes ↔
      ∃ node ∈ nodes, Stands defaultInfrastructure node station := by
  simp only [standing, List.mem_filterMap, standing_iff]

theorem standing_idle (node : Node) (rest : List Node) (idle : node.role? = none) :
    standing defaultInfrastructure (node :: rest) = standing defaultInfrastructure rest :=
  List.filterMap_cons_none (by simp [standing?, idle])

theorem standing_cons (node : Node) (station : Station) (rest : List Node)
    (stands : Stands defaultInfrastructure node station) :
    standing defaultInfrastructure (node :: rest) =
      station :: standing defaultInfrastructure rest :=
  List.filterMap_cons_some ((standing_iff defaultInfrastructure node station).mpr stands)

theorem stood_standing (nodes : List Node) (stations : List Station)
    (stood : List.Forall₂ (Stands defaultInfrastructure) (nodes.filter (·.role?.isSome)) stations) :
    stations = standing defaultInfrastructure nodes ∧
      ∀ node ∈ nodes, Declared defaultInfrastructure node := by
  induction nodes generalizing stations with
  | nil =>
      cases stood
      simp [standing]
  | cons node rest ih =>
      cases role : node.role? with
      | none =>
          rw [List.filter_cons_of_neg (by simp [role])] at stood
          obtain ⟨same, declared⟩ := ih stations stood
          rw [standing_idle defaultInfrastructure node rest role]
          refine ⟨same, List.forall_mem_cons.mpr ⟨fun other known => ?_, declared⟩⟩
          simp [role] at known
      | some known =>
          rw [List.filter_cons_of_pos (by simp [role])] at stood
          cases stood with
          | @cons _ station _ others stands later =>
              obtain ⟨same, declared⟩ := ih others later
              rw [standing_cons defaultInfrastructure node station rest stands, same]
              refine ⟨rfl, List.forall_mem_cons.mpr ⟨fun other known => ?_, declared⟩⟩
              obtain ⟨own, knownOwn, made⟩ := stands
              rw [knownOwn, Option.some.injEq] at known
              exact ⟨station, known ▸ made⟩

theorem built_standing (topology : Topology) (network : Network)
    (built : ofTopology topology defaultInfrastructure = .ok network) :
    network.stations = standing defaultInfrastructure topology.nodes ∧
      ∀ node ∈ topology.nodes, Declared defaultInfrastructure node :=
  stood_standing defaultInfrastructure topology.nodes network.stations
    (topology_stands topology defaultInfrastructure network built)

theorem station_stands (topology : Topology) (network : Network)
    (built : ofTopology topology defaultInfrastructure = .ok network) (station : Station)
    (member : station ∈ network.stations) :
    ∃ node ∈ topology.nodes, Stands defaultInfrastructure node station := by
  rw [(built_standing defaultInfrastructure topology network built).1] at member
  exact (member_standing defaultInfrastructure topology.nodes station).mp member

theorem roster_builds (taken : List String) (nodes : List Node)
    (declared : ∀ node ∈ nodes, Declared defaultInfrastructure node)
    (distinct : ((standing defaultInfrastructure nodes).map Station.hostname).Nodup)
    (fresh : ∀ station ∈ standing defaultInfrastructure nodes, station.hostname ∉ taken) :
    ∃ roster, rosterOf defaultInfrastructure taken nodes = .ok roster := by
  induction nodes generalizing taken with
  | nil => exact ⟨{}, rfl⟩
  | cons node rest ih =>
      obtain ⟨here, later⟩ := List.forall_mem_cons.mp declared
      cases role : node.role? with
      | none =>
          rw [standing_idle defaultInfrastructure node rest role] at distinct fresh
          simpa [rosterOf, role] using ih taken later distinct fresh
      | some known =>
          obtain ⟨station, made⟩ := here known role
          rw [standing_cons defaultInfrastructure node station rest ⟨known, role, made⟩]
            at distinct fresh
          obtain ⟨apart, distinctRest⟩ := List.nodup_cons.mp distinct
          obtain ⟨free, freshRest⟩ := List.forall_mem_cons.mp fresh
          have others : ∀ other ∈ standing defaultInfrastructure rest,
              other.hostname ∉ station.hostname :: taken := by
            intro other among known
            rcases List.mem_cons.mp known with same | before
            · exact apart (same ▸ List.mem_map_of_mem among)
            · exact freshRest other among before
          obtain ⟨roster, listed⟩ := ih (station.hostname :: taken) later distinctRest others
          refine ⟨roster.add station free, ?_⟩
          simp only [rosterOf, role, made, dif_pos free, listed, Except.map]

theorem network_builds (topology : Topology)
    (declared : ∀ node ∈ topology.nodes, Declared defaultInfrastructure node)
    (distinct : ((standing defaultInfrastructure topology.nodes).map Station.hostname).Nodup) :
    ∃ network, ofTopology topology defaultInfrastructure = .ok network := by
  obtain ⟨roster, listed⟩ := roster_builds defaultInfrastructure [] topology.nodes declared distinct
    (by simp)
  exact ⟨⟨roster.stations, roster.distinct⟩, by rw [ofTopology, listed, Except.map]⟩

theorem declared_node (node : Node) (station : Station)
    (stands : Stands defaultInfrastructure node station) (declaration : Declaration)
    (kind : station.device = .server declaration) : declaration.node = station.hostname := by
  obtain ⟨role, _, made⟩ := stands
  cases role with
  | server =>
      obtain ⟨own, declares, same⟩ := bind_ok _ _ station made
      obtain ⟨references, _, named⟩ := bind_ok _ _ own declares
      cases same
      cases kind
      cases named
      rfl
  | gateway | client =>
      cases made
      cases kind

end FieldConfig.Network
